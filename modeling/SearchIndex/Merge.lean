/-
# Merging a target into a schema

A merge adds what the service does not have and never changes what it has.  A field that is there
keeps its type if that type will do; a type that will not do, or another analyzer, is a conflict.
The plan is the mapping to put for each entity type of the target.
-/
import SearchIndex.Comparison

namespace SearchIndex

/-- Why a field of the target cannot be merged. -/
inductive Conflict where
  /-- The field has a type that will not do. -/
  | type (place : Place) (existing wanted : FieldType)
  /-- The field has another analyzer. -/
  | analyzer (place : Place) (existing : Option String) (wanted : String)
deriving DecidableEq

namespace Conflict

/-- The place of a conflict. -/
def place : Conflict → Place
  | type place _ _ => place
  | analyzer place _ _ => place

/-- The wording of a conflict. -/
def message : Conflict → String
  | type place existing wanted =>
    place.text ++ s!": existing type '{existing.name}' is incompatible with '{wanted.name}'"
  | analyzer place existing wanted =>
    place.text ++ ": existing analyzer '" ++ existing.getD "None" ++
      s!"' cannot be changed to '{wanted}'"

end Conflict

namespace Merge

/-- The analyzer that the service uses for a field: the standard one when none is named. -/
def analyzerInUse (a : Attributes) : String :=
  match a.analyzer with
  | some name => if name.isEmpty then "standard" else name
  | none => "standard"

/-- The conflict of a field of the target with the one that the service has, if there is one. -/
def conflict? (policy : Compatibility) (place : Place) (wanted existing : Attributes) :
    Option Conflict :=
  if policy.accepts wanted.type existing.type then
    match wanted.analyzer with
    | some name =>
      if name ≠ analyzerInUse existing then some (.analyzer place existing.analyzer name) else none
    | none => none
  else some (.type place existing.type wanted.type)

/-- The conflicts of the fields of a target with those that the service has. -/
def fieldConflicts (policy : Compatibility) (above : Place) : Fields → Fields → List Conflict
  | .empty, _ => []
  | .field name wanted children rest, existing =>
    let place : Place := { above with path := above.path ++ [name] }
    (match existing.get? name with
    | none => []
    | some current =>
      match conflict? policy place wanted current.attributes with
      | some c => [c]
      | none => fieldConflicts policy place children current.children)
    ++ fieldConflicts policy above rest existing

/-- The fields to put: those of the target, each with the type that the service has given it. -/
def plannedFields : Fields → Fields → Fields
  | .empty, _ => .empty
  | .field name wanted children rest, existing =>
    match existing.get? name with
    | none => .field name wanted children (plannedFields rest existing)
    | some current =>
      .field name { wanted with type := current.attributes.type }
        (plannedFields children current.children) (plannedFields rest existing)

/-- The mapping to put for an entity type. -/
def plannedMapping (target : TypeMapping) (existing : Option TypeMapping) : TypeMapping :=
  match existing with
  | none => target
  | some current => { target with fields := plannedFields target.fields current.fields }

/-- All conflicts, in the order of the entity types. -/
def conflicts (policy : Compatibility) (target : IndexSchema) (existing : Table TypeMapping) :
    List Conflict :=
  (Table.sorted target.mappings).flatMap fun (entityType, mapping) =>
    match Table.get? existing entityType with
    | none => []
    | some current => fieldConflicts policy ⟨entityType, []⟩ mapping.fields current.fields

/-- The mapping to put for each entity type, in the order of the entity types. -/
def plan (target : IndexSchema) (existing : Table TypeMapping) : Table TypeMapping :=
  (Table.sorted target.mappings).map fun (entityType, mapping) =>
    (entityType, plannedMapping mapping (Table.get? existing entityType))

end Merge

end SearchIndex
