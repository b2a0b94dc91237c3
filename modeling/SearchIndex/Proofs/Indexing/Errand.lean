/-
# Submitting and awaiting as tasks

A task that submits a request waits only while the queue is full, and one that awaits asynchronous
requests only until they are done.  So there are few places where such a task can stand
(`IsPlace`): it waits to put a ticket in the queue, it waits for tickets to be done, or it is done
itself.  The lemmas here say what it does up to there.
-/
import SearchIndex.Proofs.Concurrency.Interleaving
import SearchIndex.Indexing.Execution

namespace SearchIndex

/-- A call of the library that has to do with asynchronous requests. -/
inductive Errand where
  /-- A request is handed to the workers. -/
  | submit (request : WorkRequest)
  /-- The asynchronous requests of one index, or of all, are awaited. -/
  | await (index : Option String)

namespace Errand

/-- What is left of an errand, and its result: the ticket of the request that it has submitted. -/
abbrev Rest := Task Shared (Except Failure (Option Ticket))

/-- An errand as a task. -/
def task : Errand → Rest
  | submit r => ExceptT.run (some <$> Execution.submit r)
  | await index => ExceptT.run (do Execution.awaitCompletion index; return none)

/-- The ticket that a task waits to put in the queue.  When it goes on, it puts the ticket there and
is done with it as its result. -/
def ticketToPut? : Rest → Option Ticket
  | .wait _ next =>
    match (next.untilWait default).1 with
    | .done (.ok ticket) => ticket
    | _ => none
  | _ => none

/-! ## Where errands stand -/

/-- What is left once there is room in the queue. -/
def enqueuing (t : Ticket) : Rest :=
  .atomic (fun s => s.mapProcessor (·.enqueue t)) fun _ => .done (.ok (some t))

/-- A ticket waits to be put in the queue. -/
def putting (t : Ticket) : Rest := .wait (fun s => !s.processor.isFull) (enqueuing t)

/-- The failures of one index, or of all, are taken and reported. -/
def report (index : Option String) : Activity Unit := do
  let failures ← Activity.step fun s =>
    (s.mapProcessor (·.clearReported index), s.processor.unreported index)
  match failures with
  | [] => pure ()
  | first :: others => throw (.asynchronous index first others)

/-- What is left once all tickets that were waited for are done. -/
def reporting (index : Option String) : Rest := ExceptT.run (do report index; return none)

/-- Tickets are waited for. -/
def awaiting (index : Option String) (waiting : List Nat) : Rest :=
  .wait (Execution.areDone waiting) (reporting index)

/-- The places where an errand can stand. -/
inductive IsPlace : Rest → Prop where
  | putting (t : Ticket) : IsPlace (putting t)
  | awaiting (index : Option String) (waiting : List Nat) : IsPlace (awaiting index waiting)
  | done (result : Except Failure (Option Ticket)) : IsPlace (.done result)

@[simp] lemma ticketToPut?_putting (t : Ticket) : ticketToPut? (putting t) = some t := rfl

@[simp] lemma ticketToPut?_awaiting (index : Option String) (waiting : List Nat) :
    ticketToPut? (awaiting index waiting) = none := by
  cases index <;> rfl

@[simp] lemma ticketToPut?_done (result : Except Failure (Option Ticket)) :
    ticketToPut? (.done result) = none := rfl

/-! ## What errands do -/

/-- Submitting a request enters it, and waits only if the queue is full. -/
lemma untilWait_submit (r : WorkRequest) (s : Shared) :
    (submit r).task.untilWait s =
      (if (Execution.accept r s).2.2 then .done (.ok (some (Execution.accept r s).2.1))
        else putting (Execution.accept r s).2.1, (Execution.accept r s).1) := by
  -- what the binds of the task amount to
  have htask : (submit r).task = .atomic (fun s => (Execution.accept r s).1) fun s =>
      if (Execution.accept r s).2.2 then .done (.ok (some (Execution.accept r s).2.1))
        else putting (Execution.accept r s).2.1 := by
    refine congrArg (Task.atomic _) (funext fun s => ?_)
    beta_reduce
    rcases Execution.accept r s with ⟨after, ticket, queued⟩
    cases queued <;> rfl
  rw [htask, Task.untilWait]
  split <;> rfl

/-- Reporting failures does not wait. -/
lemma untilWait_reporting (index : Option String) (s : Shared) : ∃ result,
    (reporting index).untilWait s = (.done result, s.mapProcessor (·.clearReported index)) := by
  have htask : reporting index = .atomic (fun s => s.mapProcessor (·.clearReported index)) fun s =>
      Task.bind (ExceptT.run (match s.processor.unreported index with
        | [] => pure ()
        | first :: others => throw (.asynchronous index first others) : Activity Unit))
        (ExceptT.bindCont fun _ => pure none) := rfl
  rw [htask, Task.untilWait]
  cases s.processor.unreported index with
  | nil => exact ⟨_, rfl⟩
  | cons first others => exact ⟨_, rfl⟩

/-- Awaiting requests waits only if some of them are not done. -/
lemma untilWait_await (index : Option String) (s : Shared) :
    (await index).task.untilWait s =
      if (s.processor.waitingTickets index).isEmpty then (reporting index).untilWait s
      else (awaiting index (s.processor.waitingTickets index), s) := by
  have htask : (await index).task = .atomic id fun s =>
      Task.bind (ExceptT.run (do
          unless (s.processor.waitingTickets index).isEmpty do
            Activity.waitUntil (Execution.areDone (s.processor.waitingTickets index))
          report index : Activity Unit))
        (ExceptT.bindCont fun _ => pure none) := rfl
  rw [htask, Task.untilWait]
  cases (s.processor.waitingTickets index).isEmpty with
  | false => rfl
  | true => rfl

end Errand

end SearchIndex
