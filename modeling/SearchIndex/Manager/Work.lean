/-
# The work of a manager

A bound manager serves: operations are carried out at once, or handed to the workers one by one.  A
flush waits for the asynchronous requests of the index.
-/
import SearchIndex.Manager.Lifecycle

namespace SearchIndex.Manager

/-- The request of what is offered, which the monitor hears of; a flush has none. -/
def visit (index : String) (refresh : Bool) (monitor : Option String) (offered : Offered)
    (p : Processor) : Except Failure (Processor × Option WorkRequest) :=
  match offered with
  | .other kind => .error (.unsupportedOperation kind)
  | .operation operation =>
    match operation.request? index refresh monitor with
    | some r => .ok (p.notifyProduced r, some r)
    | none => .ok (p, none)

/-- Visits what is offered, for the index of a manager. -/
def visitFor (c : Configuration) (monitor : Option String) (offered : Offered) :
    Activity (Option WorkRequest) :=
  Activity.attempt fun s => do
    let (p, request) ← visit c.actualName c.refresh monitor offered s.processor
    return ({ s with processor := p }, request)

/-- Visits everything that is offered, in order. -/
def visitAll (c : Configuration) (monitor : Option String) :
    List Offered → Activity (List WorkRequest)
  | [] => pure []
  | offered :: rest => do
    let request ← visitFor c monitor offered
    let others ← visitAll c monitor rest
    return request.toList ++ others

/-- What a manager knows of its index, provided that it serves. -/
def serving (name action : String) : Activity Configuration := do
  let s ← Activity.look
  let m := s.manager name
  Activity.ofExcept (m.require .bound action)
  if m.holdsProcessor then Activity.ofExcept m.configured
  else throw (.misfit .unprepared)

/-- Carries out operations at once, in order. -/
def perform (name : String) (operations : List Offered) (monitor : Option String) :
    Activity Unit := do
  let c ← serving name "perform_operations"
  let requests ← visitAll c monitor operations
  Execution.runNow requests

/-- Hands an operation to the workers; a flush waits for those handed over before. -/
def stream (name : String) (offered : Offered) (monitor : Option String) : Activity Unit := do
  let c ← serving name "perform_stream_operation"
  match offered with
  | .operation .flush => Execution.awaitCompletion (some c.actualName)
  | _ =>
    match ← visitFor c monitor offered with
    | some request => do let _ ← Execution.submit request
    | none => pure ()

/-- Waits for the asynchronous requests of the index. -/
def flush (name : String) : Activity Unit := stream name (.operation .flush) none

/-- Merges the segments of the index, asynchronously. -/
def optimize (name : String) : Activity Unit := stream name (.operation .optimize) none

end SearchIndex.Manager
