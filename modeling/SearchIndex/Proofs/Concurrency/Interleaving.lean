/-
# Interleavings

Several tasks share what is shared and take turns with the workers of the request processor.  A task
gives up its turn only where it waits or calls, so `Task.untilWait` runs it up to there.  A `World`
is what is shared and where each task stands; its events are that a call of the library is made,
that a task goes on, and that a worker does so.  Which event comes next, and what the service
answers, is left open: what holds of every run of events holds of every interleaving and every
service.

A ticket that is done leaves its pending set by a callback.  The processor on its own runs callbacks
at once; here each one is an event, so that others may have their turn between an answer and the
callbacks that it brings about (`Processor.answered`).

Each call of the library is a task of its own.  A client that makes one call after another is one
for which the next call happens to be the next event.
-/
import Mathlib.Tactic
import SearchIndex.Concurrency.Schedule

namespace SearchIndex

variable {ε ρ : Type}

/-- Runs a task until it waits, calls or is done. -/
def Task.untilWait {σ α : Type} : Task σ α → σ → Task σ α × σ
  | .atomic change next, s => (next s).untilWait (change s)
  | t, s => (t, s)

/-- The processor after an answer, before any callback of the tickets that are done by then. -/
def Processor.answered (p : Processor) (i : Nat) (answer : Answer) : Processor :=
  { p.onAnswer i answer with pending := p.pending }

/-- Tasks and what they share. -/
structure World (ρ : Type) where
  /-- What all tasks share. -/
  shared : Shared
  /-- Where each task stands, in the order in which they started. -/
  tasks : List (Task Shared ρ)

/-- What happens next. -/
inductive Event (ε : Type) where
  /-- A call of the library is made. -/
  | start (errand : ε)
  /-- A task that waits goes on. -/
  | resume (k : Nat)
  /-- The answer to the call of a task comes. -/
  | reply (k : Nat) (answer : Answer)
  /-- An idle worker takes a batch. -/
  | take (i : Nat)
  /-- The answer that a worker waits for comes. -/
  | answer (i : Nat) (answer : Answer)
  /-- The callback of a ticket takes it out of its pending set. -/
  | forget (t : Ticket)

namespace World

/-- A new task runs to where it waits first. -/
def started (w : World ρ) (t : Task Shared ρ) : World ρ :=
  ⟨(t.untilWait w.shared).2, w.tasks ++ [(t.untilWait w.shared).1]⟩

/-- A task goes on to where it waits next. -/
def continued (w : World ρ) (k : Nat) (t : Task Shared ρ) : World ρ :=
  ⟨(t.untilWait w.shared).2, w.tasks.set k (t.untilWait w.shared).1⟩

/-- The processor changes, and no task goes on. -/
def worked (w : World ρ) (p : Processor) : World ρ :=
  { w with shared := { w.shared with processor := p } }

/-- What can happen.  A task that waits goes on only if what is shared lets it, a worker takes a
batch only if it is idle and something is queued, an answer comes only to who waits for it, and a
callback runs only for a ticket that is done. -/
inductive Step (task : ε → Task Shared ρ) (w : World ρ) : Event ε → World ρ → Prop where
  | start (errand : ε) : Step task w (.start errand) (w.started (task errand))
  | resume {k : Nat} {ready : Shared → Bool} {next : Task Shared ρ}
      (hk : w.tasks[k]? = some (.wait ready next)) (hready : ready w.shared = true) :
      Step task w (.resume k) (w.continued k next)
  | reply {k : Nat} {request : Call} {next : Answer → Task Shared ρ}
      (hk : w.tasks[k]? = some (.call request next)) (answer : Answer) :
      Step task w (.reply k answer) (w.continued k (next answer))
  | take {i : Nat} (hi : w.shared.processor.workers[i]? = some .idle)
      (hqueue : w.shared.processor.isQueueEmpty = false) :
      Step task w (.take i) (w.worked (w.shared.processor.takeBatch i))
  | answer {i : Nat} {worker : Worker} (hi : w.shared.processor.workers[i]? = some worker)
      (hcall : (Processor.awaitedCall? worker).isSome) (answer : Answer) :
      Step task w (.answer i answer) (w.worked (w.shared.processor.answered i answer))
  | forget {t : Ticket} (hdone : (w.shared.processor.outcome t.serial).isDone = true) :
      Step task w (.forget t) (w.worked (w.shared.processor.forget t))

/-- A history of events, each with the world after it, and the world that it has led to. -/
inductive Run (task : ε → Task Shared ρ) (s : Shared) :
    List (Event ε × World ρ) → World ρ → Prop where
  | begin : Run task s [] ⟨s, []⟩
  | snoc {history : List (Event ε × World ρ)} {w w' : World ρ} {event : Event ε}
      (hrun : Run task s history w) (hstep : Step task w event w') :
      Run task s (history ++ [(event, w')]) w'

end World

end SearchIndex
