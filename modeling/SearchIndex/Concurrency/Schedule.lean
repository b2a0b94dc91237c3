/-
# Running an activity alone

Where a single activity runs, the workers get their turn only when it waits: then they work through
the whole queue before it goes on.  The first worker that can do something does it, so one worker
finishes its batch before the next one is taken.
-/
import SearchIndex.Concurrency.Shared

namespace SearchIndex

namespace Worker

/-- Whether a worker waits for tickets. -/
def isIdle : Worker → Bool
  | idle => true
  | _ => false

end Worker

namespace Processor

/-- Whether no ticket waits in the queue. -/
def isQueueEmpty (p : Processor) : Bool :=
  match p.queue with
  | some q => q.tickets.isEmpty
  | none => true

/-- The first worker that waits for an answer, with the call that it made. -/
def awaiting? (p : Processor) : Option (Nat × Call) :=
  p.workers.zipIdx.findSome? fun (w, i) => (awaitedCall? w).map fun call => (i, call)

/-- One step of the workers, if there is one: an answer reaches a worker, or an idle one takes a
batch. -/
def advance? {ω : Type} (serve : ω → Call → Answer × ω) (p : Processor) (outside : ω) :
    Option (Processor × ω) :=
  match p.awaiting? with
  | some (i, call) =>
    let (answer, outside) := serve outside call
    some (p.onAnswer i answer, outside)
  | none =>
    if p.isQueueEmpty then none
    else (p.workers.findIdx? Worker.isIdle).map fun i => (p.takeBatch i, outside)

/-- Steps of the workers until there is none, at most the given number. -/
def settleFor {ω : Type} (serve : ω → Call → Answer × ω) :
    Nat → Processor → ω → Processor × ω
  | 0, p, outside => (p, outside)
  | fuel + 1, p, outside =>
    match p.advance? serve outside with
    | some (p, outside) => settleFor serve fuel p outside
    | none => (p, outside)

/-- A number of steps that is enough: taking a batch, sending its groups and refreshing are at most
three steps for each unfinished ticket. -/
def stepsLeft (p : Processor) : Nat := 3 * ((p.queue.map Queue.unfinished).getD 0) + 3

/-- The workers work until nothing is left to do. -/
def settle {ω : Type} (serve : ω → Call → Answer × ω) (p : Processor) (outside : ω) :
    Processor × ω :=
  p.settleFor serve p.stepsLeft outside

end Processor

/-- Runs a task alone.  Where it has to wait, the workers work first. -/
def Task.runAlone {α ω : Type} (serve : ω → Call → Answer × ω) :
    Task Shared α → Shared → ω → α × Shared × ω
  | .done result, s, outside => (result, s, outside)
  | .atomic change next, s, outside => (next s).runAlone serve (change s) outside
  | .call request next, s, outside =>
    let (answer, outside) := serve outside request
    (next answer).runAlone serve s outside
  | .wait ready next, s, outside =>
    if ready s then next.runAlone serve s outside
    else
      let (p, outside) := s.processor.settle serve outside
      next.runAlone serve { s with processor := p } outside

/-- Runs an activity alone. -/
def Activity.run {α ω : Type} (serve : ω → Call → Answer × ω) (a : Activity α) (s : Shared)
    (outside : ω) : Except Failure α × Shared × ω :=
  Task.runAlone serve (ExceptT.run a) s outside

end SearchIndex
