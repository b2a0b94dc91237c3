/-
# The life of a manager

Initializing reads the settings of the index and takes the processor, or changes nothing.  Binding
runs the schema operations of the strategy.  Destroying waits for the asynchronous requests of the
index, runs the operations for that, and lets the processor go whatever happens.
-/
import SearchIndex.Indexing.Execution

namespace SearchIndex.Manager

/-- What a manager announces once it is initialized. -/
def initializedText (c : Configuration) : String :=
  s!"Index manager initialized: index={c.actualName}, strategy={c.strategy.name}, " ++
    s!"refresh_after_write={(Json.bool c.refresh).display}"

/-- A manager after it has been initialized. -/
def initialized (m : Manager) (c : Configuration) : Manager :=
  { m with state := .initialized, configuration := some c, holdsProcessor := true }

/-- Sets a manager up with the settings of its index, or changes nothing. -/
def setUp? (name index : String) (properties : Properties) (multitenancy : Bool)
    (s : Shared) : Except Failure (Shared × Configuration) := do
  let m := s.manager name
  m.require .uninitialized "initialize"
  let settings ← properties.settings index
  let c ← settings.configuration? index multitenancy
  return ((s.setManager name (m.initialized c)).mapProcessor Execution.acquire, c)

/-- A manager that has not been initialized is set up with what the settings say, if they are in
order. -/
theorem setUp?_of_uninitialized {name : String} {s : Shared}
    (h : (s.manager name).state = .uninitialized) (index : String) (properties : Properties)
    (multitenancy : Bool) :
    setUp? name index properties multitenancy s =
      (properties.settings index).map fun settings =>
        let c := settings.configuration index multitenancy
        ((s.setManager name ((s.manager name).initialized c)).mapProcessor Execution.acquire, c) := by
  have hrequire : (s.manager name).require .uninitialized "initialize" = .ok () := if_pos h
  rw [setUp?, hrequire]
  simp only [IndexSettings.configuration?_eq]
  cases properties.settings index <;> rfl

/-- Sets a manager up with the settings of its index. -/
def setUp (name index : String) (properties : Properties) (multitenancy : Bool) :
    Activity Unit := do
  let c ← Activity.attempt (setUp? name index properties multitenancy)
  Activity.note .info .manager (initializedText c)

/-- Says that the index contains an entity type. -/
def addContained (name entityType : String) : Activity Unit :=
  Activity.attempt fun s => do
    let m := s.manager name
    m.require .initialized "add_contained_entity"
    return (s.setManager name (m.contain entityType), ())

/-! ## The target -/

/-- The mapping of a descriptor, with a log record. -/
def mappingOf (descriptor : EntityDescriptor) (options : SchemaOptions) : Action TypeMapping := do
  let mapping ← Action.ofExcept (descriptor.mapping options)
  Action.note .debug .mapping
    s!"Translated entity '{descriptor.entityType}' into {mapping.fields.length} top-level fields"
  return mapping

/-- The mappings of entity types, in order. -/
def mappingsOf (c : Configuration) (descriptors : Table EntityDescriptor) :
    List String → Action (Table TypeMapping)
  | [] => pure []
  | entityType :: rest => do
    match Table.get? descriptors entityType with
    | none => throw (.noDescriptor c.actualName entityType)
    | some descriptor =>
      let mapping ← mappingOf descriptor c.options
      let others ← mappingsOf c descriptors rest
      return (entityType, mapping) :: others

/-- The target schema of the index, from the descriptors of the entity types that it contains. -/
def target (m : Manager) (descriptors : Table EntityDescriptor) : Action IndexSchema := do
  let c ← Action.ofExcept m.configured
  let mappings ← mappingsOf c descriptors (sortTexts m.contained)
  return ⟨c.actualName, mappings⟩

/-- Builds the target schema of a manager. -/
def buildTarget (name : String) (descriptors : Table EntityDescriptor) : Activity IndexSchema := do
  let s ← Activity.look
  Activity.ofAction ((s.manager name).target descriptors)

/-! ## Binding -/

/-- What a manager announces once it is bound. -/
def boundText (m : Manager) : String :=
  "Index manager bound: index=" ++ m.actualName?.getD "" ++
    s!", types={(Json.ofTexts (sortTexts m.contained)).shown}"

/-- Binds a manager: the schema operations of its strategy run, and then it serves. -/
def bind (name : String) (descriptors : Table EntityDescriptor) : Activity Unit := do
  let s ← Activity.look
  let m := s.manager name
  Activity.ofExcept (m.require .initialized "bind")
  let c ← Activity.ofExcept m.configured
  let _ ← Schema.runOnBind Activity.ofAction s.policy c.strategy c.actualName
    (buildTarget name descriptors) c.options
  Activity.change fun s => s.setManager name { s.manager name with state := .bound }
  let s ← Activity.look
  Activity.note .info .manager (s.manager name).boundText

/-! ## Destroying -/

/-- What a manager tells when asynchronous requests have failed. -/
def failedText (index : String) (count : Nat) : String :=
  s!"Index '{index}': {count} asynchronous request(s) failed before destroy"

/-- Waits for the asynchronous requests of an index.  Their failures are returned, so that what
follows runs in any case. -/
def drain (index : String) : Activity (Option Failure) := do
  match ← Activity.outcome (Execution.awaitCompletion (some index)) with
  | .ok () => return none
  | .error failure =>
    match failure with
    | .asynchronous _ _ others =>
      Activity.note .error .manager (failedText index (others.length + 1))
      return some failure
    | _ => throw failure

/-- What happens to the index before its manager is destroyed. -/
def wind (name : String) (c : Configuration) : Activity (Option Failure) := do
  let s ← Activity.look
  let failure ← if (s.manager name).holdsProcessor then drain c.actualName else pure none
  Activity.ofAction (Schema.runOnDestroy s.policy c.strategy c.actualName c.options)
  return failure

/-- A manager is destroyed and lets the processor go. -/
def finish (name : String) : Activity Unit := do
  let held ← Activity.step fun s =>
    let m := s.manager name
    (s.setManager name { m with state := .destroyed, holdsProcessor := false }, m.holdsProcessor)
  if held then Execution.release
  let s ← Activity.look
  Activity.note .info .manager
    ("Index manager destroyed: index=" ++ (s.manager name).actualName?.getD "")

/-- Destroys a manager.  It ends destroyed even if something fails; the failure is told then. -/
def destroy (name : String) : Activity Unit := do
  let s ← Activity.look
  let m := s.manager name
  if m.state = .uninitialized ∨ m.state = .destroyed then throw (.notDestroyable m.state)
  let c ← Activity.ofExcept m.configured
  let outcome ← Activity.outcome (wind name c)
  finish name
  match outcome with
  | .error failure => throw failure
  | .ok (some failure) => throw failure
  | .ok none => pure ()

end SearchIndex.Manager
