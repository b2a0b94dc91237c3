/-
# Schema strategies

A strategy says which schema operations run when an index is bound and which when it is destroyed.
`Strategy.onBind` and `Strategy.onDestroy` are the one table of that; everything else runs the
operations of a row in order and stops at the first failure.
-/
import SearchIndex.Schema.Operation

namespace SearchIndex

/-- How the schema of an index is managed. -/
inductive Strategy where
  | none
  | validate
  | merge
  | create
  | recreate
  | recreateDelete
deriving DecidableEq, Inhabited

/-- One schema operation of a strategy. -/
inductive SchemaStep where
  | validate
  | merge
  | createIfAbsent
  | create
  | dropIfExisting
deriving DecidableEq

/-- The name of an operation. -/
def SchemaStep.name : SchemaStep → String
  | validate => "validate"
  | merge => "merge"
  | createIfAbsent => "create_if_absent"
  | create => "create"
  | dropIfExisting => "drop_if_existing"

/-- Whether an operation needs the target schema. -/
def SchemaStep.needsTarget : SchemaStep → Bool
  | dropIfExisting => false
  | _ => true

namespace Strategy

/-- The name of a strategy. -/
def name : Strategy → String
  | none => "NONE"
  | validate => "VALIDATE"
  | merge => "MERGE"
  | create => "CREATE"
  | recreate => "RECREATE"
  | recreateDelete => "RECREATE_DELETE"

/-- All strategies. -/
def all : List Strategy := [none, validate, merge, create, recreate, recreateDelete]

/-- The strategy of a name, spelled exactly. -/
def ofName? (name : String) : Option Strategy := all.find? fun s => s.name = name

/-- The operations that run when an index is bound. -/
def onBind : Strategy → List SchemaStep
  | none => []
  | validate => [.validate]
  | merge => [.merge]
  | create => [.createIfAbsent]
  | recreate => [.dropIfExisting, .create]
  | recreateDelete => [.dropIfExisting, .create]

/-- The operations that run when an index is destroyed. -/
def onDestroy : Strategy → List SchemaStep
  | recreateDelete => [.dropIfExisting]
  | _ => []

theorem ofName?_name (s : Strategy) : ofName? s.name = some s := by cases s <;> decide

end Strategy

namespace Schema

/-- The record that announces an operation. -/
def announce (strategy : Strategy) (index : String) (step : SchemaStep) : Action Unit :=
  Action.note .info .strategy
    s!"Index '{index}': running {step.name} (strategy {strategy.name})"

/-- Runs an operation that needs a target. -/
def runTargeted (policy : Compatibility) (options : SchemaOptions) (target : IndexSchema) :
    SchemaStep → Action Unit
  | .validate => validate policy target options
  | .merge => merge policy target options
  | .createIfAbsent => do let _ ← createIfAbsent target options
  | .create => createNew target options
  | .dropIfExisting => pure ()

/-- Runs an operation that needs no target. -/
def runUntargeted (index : String) (options : SchemaOptions) : Action Unit := do
  let _ ← dropIfExisting index options

/-- Runs operations in order.  The target is built by the first operation that needs it, once; the
result is the target if there is one in the end.  Building may need more than the service, so the
operations are lifted to where it can be done. -/
def runSteps {m : Type → Type} [Monad m] (lift : Action Unit → m Unit) (policy : Compatibility)
    (strategy : Strategy) (index : String) (build : m IndexSchema) (options : SchemaOptions) :
    Option IndexSchema → List SchemaStep → m (Option IndexSchema)
  | built, [] => pure built
  | built, step :: rest => do
    lift (announce strategy index step)
    if step.needsTarget then
      let target ← built.elim build pure
      lift (runTargeted policy options target step)
      runSteps lift policy strategy index build options (some target) rest
    else
      lift (runUntargeted index options)
      runSteps lift policy strategy index build options built rest

/-- Runs the operations of binding; the result is the target if one of them needed it. -/
def runOnBind {m : Type → Type} [Monad m] (lift : Action Unit → m Unit) (policy : Compatibility)
    (strategy : Strategy) (index : String) (build : m IndexSchema) (options : SchemaOptions) :
    m (Option IndexSchema) :=
  runSteps lift policy strategy index build options none strategy.onBind

/-- Runs the operations of destroying, none of which needs a target. -/
def runOnDestroy (policy : Compatibility) (strategy : Strategy) (index : String)
    (options : SchemaOptions) : Action Unit := do
  let _ ← runSteps id policy strategy index (pure ⟨index, []⟩) options none strategy.onDestroy

end Schema

end SearchIndex
