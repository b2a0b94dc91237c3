/-
# Mappings

The mapping of an entity type says which fields its documents have.  A field has attributes and may
have fields of its own, so the fields of a mapping form a forest.  `Fields` is that forest as one
inductive type, first field first: a name, its attributes, the fields below it and the fields after
it.  Reasoning about a mapping is plain induction on it.
-/
import SearchIndex.Mapping.FieldType
import SearchIndex.Json

namespace SearchIndex

/-- What a mapping says about one field, the fields below it left out. -/
structure Attributes where
  /-- The type of the field. -/
  type : FieldType
  /-- Whether the field can be searched. -/
  index : Option Bool
  /-- Whether its raw value is stored. -/
  store : Option Bool
  /-- Whether it can be sorted by. -/
  docValues : Option Bool
  /-- The analyzer of a text. -/
  analyzer : Option String
  /-- The format of a date. -/
  format : Option String
  /-- The value indexed in place of null; null when there is none. -/
  nullValue : Json

instance : Inhabited Attributes := ⟨⟨default, none, none, none, none, none, .null⟩⟩

/-- The attributes of a field of which only the type is said. -/
def Attributes.ofType (type : FieldType) : Attributes := { (default : Attributes) with type }

/-- The fields of a mapping, in order. -/
inductive Fields where
  /-- No field. -/
  | empty
  /-- A field, the fields below it and the fields after it. -/
  | field (name : String) (attributes : Attributes) (children : Fields) (rest : Fields)

/-- One field with the fields below it. -/
structure Property where
  /-- What the mapping says about the field. -/
  attributes : Attributes
  /-- The fields below it. -/
  children : Fields

namespace Fields

instance : Inhabited Fields := ⟨empty⟩

/-- There is no field. -/
def isEmpty : Fields → Bool
  | empty => true
  | field .. => false

/-- The fields as name and property, in order. -/
def toList : Fields → List (String × Property)
  | empty => []
  | field name attributes children rest => (name, ⟨attributes, children⟩) :: rest.toList

/-- The fields of a list, in order. -/
def ofList : List (String × Property) → Fields
  | [] => empty
  | (name, p) :: rest => field name p.attributes p.children (ofList rest)

/-- The names of the fields, in order. -/
def names : Fields → List String
  | empty => []
  | field name _ _ rest => name :: rest.names

/-- The field of a name. -/
def get? : Fields → String → Option Property
  | empty, _ => none
  | field name attributes children rest, wanted =>
    if name = wanted then some ⟨attributes, children⟩ else rest.get? wanted

/-- The fields with one more at the end. -/
def append : Fields → String → Property → Fields
  | empty, name, p => field name p.attributes p.children empty
  | field n a c rest, name, p => field n a c (rest.append name p)

/-- Inserts a field before the first one with a greater name. -/
def insertSorted (name : String) (attributes : Attributes) (children : Fields) : Fields → Fields
  | empty => field name attributes children empty
  | field n a c rest =>
    if n < name then field n a c (insertSorted name attributes children rest)
    else field name attributes children (field n a c rest)

/-- The fields in the order of their names, those below them left as they are. -/
def sorted : Fields → Fields
  | empty => empty
  | field name attributes children rest => insertSorted name attributes children rest.sorted

/-- The fields in the order of their names at every depth. -/
def sortedDeep : Fields → Fields
  | empty => empty
  | field name attributes children rest =>
    insertSorted name attributes children.sortedDeep rest.sortedDeep

/-- The number of fields at the top. -/
def length : Fields → Nat
  | empty => 0
  | field _ _ _ rest => rest.length + 1

@[simp] theorem get?_empty (name : String) : empty.get? name = none := rfl

@[simp] theorem ofList_toList (fs : Fields) : ofList fs.toList = fs := by
  induction fs with
  | empty => rfl
  | field name a c rest _ ih => simp [toList, ofList, ih]

theorem toList_ofList (ps : List (String × Property)) : (ofList ps).toList = ps := by
  induction ps with
  | nil => rfl
  | cons p rest ih => simp [toList, ofList, ih]

theorem names_eq (fs : Fields) : fs.names = fs.toList.map (·.1) := by
  induction fs with
  | empty => rfl
  | field name a c rest _ ih => simp [names, toList, ih]

/-- A field is found under a name exactly when the name is among those of the fields. -/
theorem get?_isSome_iff (fs : Fields) (name : String) :
    (fs.get? name).isSome ↔ name ∈ fs.names := by
  induction fs with
  | empty => simp [get?, names]
  | field n a c rest _ ih =>
    by_cases h : n = name
    · simp [get?, names, h]
    · have h' : ¬ name = n := fun hh => h hh.symm
      simp [get?, names, h, h', ih]

end Fields

/-- The mapping of one entity type. -/
structure TypeMapping where
  /-- What the service does with fields that the mapping does not name. -/
  dynamic : String
  /-- The fields. -/
  fields : Fields
deriving Inhabited

/-- The target schema of one index: its name on the service and a mapping per entity type. -/
structure IndexSchema where
  /-- The name of the index. -/
  name : String
  /-- The mapping of each entity type. -/
  mappings : Table TypeMapping
deriving Inhabited

end SearchIndex
