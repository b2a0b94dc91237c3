/-
# Comparison of schemas

The comparison walks through the target and reports where the schema on the service differs: types
and fields that are missing, fields of a type that will not do, and attributes that the target sets
and the service has otherwise.  What only the service has is never looked at.
-/
import SearchIndex.Mapping.Fields
import SearchIndex.Compatibility

namespace SearchIndex

/-- Where a field stands: its entity type and the names from the top of the mapping. -/
structure Place where
  /-- The entity type. -/
  entityType : String
  /-- The names down to the field. -/
  path : List String
deriving DecidableEq

/-- A place as messages name it. -/
def Place.text (p : Place) : String :=
  s!"type '{p.entityType}', field '" ++ ".".intercalate p.path ++ "'"

/-! ## Attributes with the defaults of the service -/

/-- The attributes that are compared. -/
inductive Attribute where
  | index
  | store
  | docValues
  | analyzer
  | format
deriving DecidableEq

namespace Attribute

/-- The name of an attribute. -/
def name : Attribute → String
  | index => "index"
  | store => "store"
  | docValues => "doc_values"
  | analyzer => "analyzer"
  | format => "format"

/-- The compared attributes, in the order in which they are reported. -/
def all : List Attribute := [index, store, docValues, analyzer, format]

end Attribute

/-- The value of an attribute. -/
inductive Setting where
  | flag (value : Bool)
  | word (value : String)
deriving DecidableEq

/-- A setting as messages show it. -/
def Setting.text : Setting → String
  | flag true => "True"
  | flag false => "False"
  | word value => value

/-- A setting that may be missing, as messages show it. -/
def settingText (s : Option Setting) : String := (s.map Setting.text).getD "None"

namespace Attributes

/-- The value that a mapping gives to an attribute. -/
def declared (a : Attributes) : Attribute → Option Setting
  | .index => a.index.map .flag
  | .store => a.store.map .flag
  | .docValues => a.docValues.map .flag
  | .analyzer => a.analyzer.map .word
  | .format => a.format.map .word

/-- The value that the service takes for an attribute that is not set. -/
def implied (a : Attributes) : Attribute → Option Setting
  | .index => some (.flag true)
  | .store => some (.flag false)
  | .docValues => some (.flag (a.type ≠ .of .text))
  | .analyzer => if a.type = .of .text then some (.word "standard") else none
  | .format => none

/-- The value in force: the one that is set, else the one implied. -/
def effective (a : Attributes) (which : Attribute) : Option Setting :=
  (a.declared which).or (a.implied which)

end Attributes

/-! ## Mismatches -/

/-- One difference between the target and the schema on the service. -/
inductive Mismatch where
  /-- The service has no mapping of the entity type. -/
  | missingType (entityType : String)
  /-- The service has no such field. -/
  | missingField (place : Place)
  /-- The field has a type that will not do; the accepted ones are given. -/
  | wrongType (place : Place) (found : FieldType) (accepted : List DataType)
  /-- The field has a type that will not do, and the target names a type that there is not. -/
  | strangeTarget (place : Place) (found expected : FieldType)
  /-- The field has another value of an attribute that the target sets. -/
  | wrongAttribute (place : Place) (which : Attribute) (found expected : Option Setting)
deriving DecidableEq

/-- The wording of a mismatch. -/
def Mismatch.message : Mismatch → String
  | missingType entityType => s!"type '{entityType}': mapping is missing"
  | missingField place => place.text ++ ": field is missing"
  | wrongType place found accepted =>
    place.text ++ s!": invalid type '{found.name}', expected one of [" ++
      ", ".intercalate (accepted.map DataType.name) ++ "]"
  | strangeTarget place found expected =>
    place.text ++ s!": invalid type '{found.name}', expected '{expected.name}'"
  | wrongAttribute place which found expected =>
    place.text ++ s!": invalid {which.name} '{settingText found}', expected " ++
      s!"'{settingText expected}'"

namespace Comparison

/-- The mismatch of two types, of which the first will not do with the second. -/
def typeMismatch (policy : Compatibility) (place : Place) (expected found : FieldType) : Mismatch :=
  match expected.known? with
  | some e => .wrongType place found (policy.accepted e)
  | none => .strangeTarget place found expected

/-- The attributes that the first mapping sets and the second has otherwise. -/
def attributeMismatches (place : Place) (expected found : Attributes) : List Mismatch :=
  Attribute.all.filterMap fun which =>
    if (expected.declared which).isSome ∧ expected.effective which ≠ found.effective which then
      some (.wrongAttribute place which (found.effective which) (expected.effective which))
    else none

/-- The mismatches of the fields of a target, in its own order; `above` is the place of the field
that holds them. -/
def fieldMismatches (policy : Compatibility) (above : Place) : Fields → Fields → List Mismatch
  | .empty, _ => []
  | .field name expected children rest, actual =>
    let place : Place := { above with path := above.path ++ [name] }
    (match actual.get? name with
    | none => [.missingField place]
    | some found =>
      if policy.accepts expected.type found.attributes.type then
        attributeMismatches place expected found.attributes
          ++ fieldMismatches policy place children found.children
      else [typeMismatch policy place expected.type found.attributes.type])
    ++ fieldMismatches policy above rest actual

/-- The mismatches of one entity type; the fields of the target are taken in the order of their
names. -/
def typeMismatches (policy : Compatibility) (entityType : String) (target : TypeMapping)
    (actual : Option TypeMapping) : List Mismatch :=
  match actual with
  | none => [.missingType entityType]
  | some found => fieldMismatches policy ⟨entityType, []⟩ target.fields.sortedDeep found.fields

/-- All mismatches, in the order of the entity types. -/
def mismatches (policy : Compatibility) (target : IndexSchema) (actual : Table TypeMapping) :
    List Mismatch :=
  (Table.sorted target.mappings).flatMap fun (entityType, mapping) =>
    typeMismatches policy entityType mapping (Table.get? actual entityType)

/-- The target names a type that there is not where it differs from the service. -/
def isStrange : Mismatch → Bool
  | .strangeTarget .. => true
  | _ => false

/-- The wording of all mismatches.  A target with a type that there is not cannot be reported on
where that type does not stand on the service as well. -/
def compare (policy : Compatibility) (target : IndexSchema) (actual : Table TypeMapping) :
    Except Failure (List String) :=
  let found := mismatches policy target actual
  if found.any isStrange then .error (.misfit .notAnObject)
  else .ok (found.map Mismatch.message)

end Comparison

end SearchIndex
