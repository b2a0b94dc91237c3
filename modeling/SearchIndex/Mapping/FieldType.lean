/-
# Field types

The types that a target schema can give to a field, and the type names that a service reports.  A
service may know more types than these, so the type of a reported field is kept by name.
-/

namespace SearchIndex

/-- The field types of a target schema. -/
inductive DataType where
  | text
  | keyword
  | integer
  | long
  | float
  | double
  | boolean
  | date
  | object
  | nested
  | geoPoint
deriving DecidableEq, Repr, Inhabited

namespace DataType

/-- The name of a type on the service. -/
def name : DataType → String
  | text => "text"
  | keyword => "keyword"
  | integer => "integer"
  | long => "long"
  | float => "float"
  | double => "double"
  | boolean => "boolean"
  | date => "date"
  | object => "object"
  | nested => "nested"
  | geoPoint => "geo_point"

/-- All field types. -/
def all : List DataType :=
  [text, keyword, integer, long, float, double, boolean, date, object, nested, geoPoint]

/-- The type of a name. -/
def ofName? (name : String) : Option DataType := all.find? fun t => t.name = name

/-- Fields of these types hold other fields. -/
def isContainer : DataType → Bool
  | object | nested => true
  | _ => false

@[simp] theorem ofName?_name (t : DataType) : ofName? t.name = some t := by
  cases t <;> decide

theorem name_of_ofName? {s : String} {t : DataType} (h : ofName? s = some t) : t.name = s := by
  simpa using List.find?_some h

theorem name_injective {s t : DataType} (h : s.name = t.name) : s = t := by
  have := ofName?_name s
  rw [h, ofName?_name] at this
  exact (Option.some.inj this).symm

end DataType

/-- The type of a field, by name. -/
structure FieldType where
  /-- The name that the service uses. -/
  name : String
deriving DecidableEq, Inhabited

namespace FieldType

/-- A type of the target schema as a field type. -/
def of (t : DataType) : FieldType := ⟨t.name⟩

/-- The type of the target schema that has this name. -/
def known? (t : FieldType) : Option DataType := DataType.ofName? t.name

@[simp] theorem known?_of (t : DataType) : (of t).known? = some t := DataType.ofName?_name t

theorem of_known? {t : FieldType} {d : DataType} (h : t.known? = some d) : of d = t := by
  cases t; simp [of, DataType.name_of_ofName? h]

end FieldType

end SearchIndex
