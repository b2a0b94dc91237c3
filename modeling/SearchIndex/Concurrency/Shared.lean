/-
# What all tasks share

All tasks of a program share one request processor, the index managers and the log.  An `Activity`
is a task on these that may fail.  A piece of an activity between two points where it waits or calls
is atomic, as no other task runs in between.
-/
import SearchIndex.Concurrency.Task
import SearchIndex.Manager.Basic

namespace SearchIndex

/-- What all tasks share. -/
structure Shared where
  /-- The request processor. -/
  processor : Processor
  /-- The managers, by name. -/
  managers : Table Manager
  /-- The policy of compatible types. -/
  policy : Compatibility
  /-- The log records, in order. -/
  log : List Log.Entry

namespace Shared

/-- The start: no manager, no work. -/
def fresh (limits : ProcessorLimits) (policy : Compatibility) : Shared :=
  ⟨.fresh limits, [], policy, []⟩

instance : Inhabited Shared := ⟨fresh default default⟩

/-- The manager of a name; one that is not there has not been initialized. -/
def manager (s : Shared) (name : String) : Manager := (Table.get? s.managers name).getD .fresh

/-- Sets the manager of a name. -/
def setManager (s : Shared) (name : String) (m : Manager) : Shared :=
  { s with managers := Table.set s.managers name m }

/-- Changes the processor. -/
def mapProcessor (s : Shared) (f : Processor → Processor) : Shared :=
  { s with processor := f s.processor }

/-- Adds a log record. -/
def record (entry : Log.Entry) (s : Shared) : Shared := { s with log := s.log ++ [entry] }

end Shared

/-- A task that may fail. -/
abbrev Activity (α : Type) := ExceptT Failure (Task Shared) α

namespace Activity

variable {α : Type}

/-- What is shared. -/
def look : Activity Shared := .mk (.atomic id fun s => .done (.ok s))

/-- Changes what is shared. -/
def change (f : Shared → Shared) : Activity Unit := .mk (.atomic f fun _ => .done (.ok ()))

/-- Changes what is shared, with a result. -/
def step (f : Shared → Shared × α) : Activity α :=
  .mk (.atomic (fun s => (f s).1) fun s => .done (.ok (f s).2))

/-- The change that an attempt makes: none if it fails. -/
def attempted (f : Shared → Except Failure (Shared × α)) (s : Shared) : Shared :=
  match f s with
  | .ok (after, _) => after
  | .error _ => s

/-- Changes what is shared, unless that fails. -/
def attempt (f : Shared → Except Failure (Shared × α)) : Activity α :=
  .mk (.atomic (attempted f) fun s => .done ((f s).map (·.2)))

/-- Waits until what is shared lets the task go on. -/
def waitUntil (ready : Shared → Bool) : Activity Unit := .mk (.wait ready (.done (.ok ())))

/-- Gives up the turn once. -/
def pause : Activity Unit := waitUntil fun _ => true

/-- Calls the service. -/
def call (request : Call) : Activity Answer := .mk (.call request fun answer => .done (.ok answer))

/-- Goes on with a value or fails. -/
def ofExcept (e : Except Failure α) : Activity α := .mk (.done e)

/-- Runs an action. -/
def ofAction (a : Action α) : Activity α := .mk (Task.ofProgram Shared.record a.run)

/-- Writes a log record. -/
def note (level : Log.Level) (source : Log.Source) (text : String) : Activity Unit :=
  change (Shared.record ⟨level, source, text⟩)

/-- Runs an activity whose failure is not that of the whole. -/
def outcome (a : Activity α) : Activity (Except Failure α) := ExceptT.lift a.run

end Activity

end SearchIndex
