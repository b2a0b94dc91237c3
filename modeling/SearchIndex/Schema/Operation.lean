/-
# Schema operations

The operations that bring the schema of an index in line with a target, or check that it is.
-/
import SearchIndex.Schema.Access
import SearchIndex.Merge

namespace SearchIndex.Schema

/-- Creates the index, which must not exist, and waits for its health. -/
def createNew (target : IndexSchema) (options : SchemaOptions) : Action Unit := do
  let _ ← create target false
  awaitHealth target.name options

/-- Creates the index unless it exists, waits for its health and tells whether it was created. -/
def createIfAbsent (target : IndexSchema) (options : SchemaOptions) : Action Bool := do
  if ← exists? target.name then
    Action.note .info .creation s!"Index '{target.name}' already exists, not creating it"
    awaitHealth target.name options
    return false
  else
    let created ← create target true
    awaitHealth target.name options
    return created

/-- Deletes the index if it exists and tells whether this call did it. -/
def dropIfExisting (index : String) (options : SchemaOptions) : Action Bool := do
  if ← exists? index then drop index options
  else
    Action.note .debug .dropping s!"Index '{index}' does not exist, nothing to drop"
    return false

/-- Puts the planned mappings one after another.  A mapping that the service refuses as malformed is
a conflict. -/
def putPlan (index : String) : Table TypeMapping → Action Unit
  | [] => pure ()
  | (entityType, mapping) :: rest => do
    try putMapping index entityType mapping
    catch failure =>
      match failure with
      | .remote _ 400 _ =>
        throw (.mergeConflict index
          [s!"type '{entityType}': rejected by the service: " ++ failure.message])
      | _ => throw failure
    putPlan index rest

/-- Merges the target into the schema of the index, which is created when it does not exist. -/
def merge (policy : Compatibility) (target : IndexSchema) (options : SchemaOptions) :
    Action Unit := do
  if ← exists? target.name then
    awaitHealth target.name options
    let existing := (← mappings? target.name).getD []
    let conflicts := Merge.conflicts policy target existing
    unless conflicts.isEmpty do
      throw (.mergeConflict target.name (conflicts.map Conflict.message))
    putPlan target.name (Merge.plan target existing)
  else
    Action.note .info .merging
      s!"Index '{target.name}' does not exist, creating it with the full mapping"
    let _ ← create target true
    awaitHealth target.name options

/-- Checks that the schema of the index has everything that the target asks for. -/
def validate (policy : Compatibility) (target : IndexSchema) (options : SchemaOptions) :
    Action Unit := do
  unless ← exists? target.name do
    throw (.schemaDiverges target.name [s!"index '{target.name}' does not exist"])
  awaitHealth target.name options
  let existing := (← mappings? target.name).getD []
  let mismatches ← Action.ofExcept (Comparison.compare policy target existing)
  unless mismatches.isEmpty do
    Action.note .error .validation
      s!"Schema validation of index '{target.name}' found {mismatches.length} mismatch(es)"
    throw (.schemaDiverges target.name mismatches)
  Action.note .info .validation s!"Schema of index '{target.name}' is valid"

end SearchIndex.Schema
