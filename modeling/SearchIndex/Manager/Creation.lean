/-
# Managers from settings

The settings of schemas say with which policy types are compared and how each index is managed.  A
manager that is created from them is set up at once; when that fails there is no manager.
-/
import SearchIndex.Manager.Lifecycle

namespace SearchIndex

/-- What tasks share at the start, according to settings. -/
def Shared.ofSettings (limits : ProcessorLimits) (schema : SchemaSettings) :
    Except Failure Shared := do
  return .fresh limits (← Compatibility.ofConfig schema.compatibleJson)

namespace Manager

/-- Creates a manager for an index and sets it up as the settings say. -/
def create (name : String) (schema : SchemaSettings) (index : String) (multitenancy : Bool) :
    Activity Unit := do
  let properties := Properties.raw (.object (schema.propertiesFor index))
  let c ← Activity.attempt fun s =>
    setUp? name index properties multitenancy (s.setManager name .fresh)
  Activity.note .info .manager (initializedText c)

end Manager

/-- Ends the use of the processor: it is shut down unless somebody still uses it. -/
def Execution.close : Activity Unit := do
  let s ← Activity.look
  if s.processor.users = 0 then shutdown
  else
    Activity.note .warning .services
      s!"Closing services while {s.processor.users} index manager(s) still hold the processor"

/-- Runs an activity and ends the use of the processor, whatever comes of it. -/
def closeAfter {α : Type} (a : Activity α) : Activity α := do
  let outcome ← Activity.outcome a
  Execution.close
  Activity.ofExcept outcome

end SearchIndex
