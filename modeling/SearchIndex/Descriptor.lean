/-
# Descriptors

A descriptor says in logical terms which fields an entity type has.  Like the fields of a mapping,
declared fields form a forest.
-/
import SearchIndex.Mapping.Fields
import SearchIndex.Validation.Scalar

namespace SearchIndex

/-- What a descriptor says about one field, the fields embedded in it left out. -/
structure Declaration where
  /-- The name of the field. -/
  name : String
  /-- Its logical type. -/
  type : String
  /-- Whether a string is split into words. -/
  analyzed : Bool
  /-- Whether the field can be searched. -/
  indexed : Bool
  /-- Whether its raw value is stored. -/
  stored : Bool
  /-- Whether it can be sorted by. -/
  sortable : Bool
  /-- The analyzer of a text. -/
  analyzer : Option String
  /-- The format of a date. -/
  dateFormat : Option String
  /-- The value indexed for null, a scalar; null when there is none. -/
  nullMarker : Json

instance : Inhabited Declaration :=
  ⟨⟨"", "", true, true, false, false, none, none, .null⟩⟩

/-- Declared fields, in order. -/
inductive Declarations where
  /-- No field. -/
  | empty
  /-- A field, the fields embedded in it and the fields after it. -/
  | field (declared : Declaration) (children : Declarations) (rest : Declarations)

namespace Declarations

instance : Inhabited Declarations := ⟨empty⟩

/-- Nothing is declared. -/
def isEmpty : Declarations → Bool
  | empty => true
  | field .. => false

/-- The names of the declared fields, in order. -/
def names : Declarations → List String
  | empty => []
  | field declared _ rest => declared.name :: rest.names

end Declarations

/-- What is declared about one entity type. -/
structure EntityDescriptor where
  /-- The entity type. -/
  entityType : String
  /-- The field that holds the id of a document. -/
  idField : String
  /-- The other fields. -/
  fields : Declarations
deriving Inhabited

/-- A scalar of any kind, or null. -/
def checkMarker : Json → Checked Json
  | .list _ | .object _ =>
    .invalid [⟨[.name "str"], .stringType⟩, ⟨[.name "int"], .intType⟩,
      ⟨[.name "float"], .floatType⟩, ⟨[.name "bool"], .boolType⟩]
  | j => .valid j

/-- Checks what is said about one field. -/
def Declaration.check (members : Json.Members) : Checked Declaration :=
  Declaration.mk <$> required members "name" checkText
    <*> required members "type" checkText
    <*> optional members "analyzed" true checkBool
    <*> optional members "indexed" true checkBool
    <*> optional members "stored" false checkBool
    <*> optional members "sortable" false checkBool
    <*> optional members "analyzer" none (checkNullable checkText)
    <*> optional members "date_format" none (checkNullable checkText)
    <*> optional members "null_marker" .null checkMarker

mutual

/-- Checks a declared field together with the fields embedded in it. -/
def checkDeclaration : Json → Checked (Declaration × Declarations)
  | .object members =>
    Prod.mk <$> Declaration.check members <*> checkDeclarationsOf "children" members
  | _ => .issue .modelType

/-- Checks the declared fields that a member of the given name holds. -/
def checkDeclarationsOf (key : String) : List (String × Json) → Checked Declarations
  | [] => .valid .empty
  | (name, j) :: rest =>
    if name = key then
      Checked.below (.name name)
        (match j with
        | .list items => checkDeclarations 0 items
        | _ => .issue .listType)
    else checkDeclarationsOf key rest

/-- Checks declared fields from a position on. -/
def checkDeclarations (position : Nat) : List Json → Checked Declarations
  | [] => .valid .empty
  | j :: rest =>
    (fun d others => .field d.1 d.2 others)
      <$> (checkDeclaration j).below (.position position) <*> checkDeclarations (position + 1) rest

end

/-- Checks a descriptor. -/
def EntityDescriptor.check : Json → Checked EntityDescriptor :=
  checkModel fun members => EntityDescriptor.mk
    <$> required members "entity_type" checkText
    <*> optional members "id_field" "id" checkText
    <*> checkDeclarationsOf "fields" members

end SearchIndex
