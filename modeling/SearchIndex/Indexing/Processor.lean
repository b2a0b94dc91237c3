/-
# The request processor

The processor is shared by all index managers, which count as its users.  A request that is
submitted asynchronously becomes a ticket in a queue; workers take tickets from it in batches and
send each batch group by group.  A worker waits for the service only between its transitions, so its
life is a small state machine: `Worker` is where it stands, `Processor.takeBatch` and
`Processor.onAnswer` are its transitions.

For each index the processor keeps the set of tickets that are not done, and the failures that have
not been reported.  The set of an index is dropped once it is empty; a later one has another serial
number, by which a ticket finds the set that it was entered in.
-/
import SearchIndex.Indexing.Bulk
import SearchIndex.Indexing.Monitor

namespace SearchIndex

/-- A request that was submitted asynchronously. -/
structure Ticket where
  /-- The number of the ticket. -/
  serial : Nat
  /-- The serial number of the pending set that it was entered in. -/
  home : Nat
  /-- The request. -/
  request : WorkRequest

/-- What has become of a ticket. -/
inductive Outcome where
  /-- It is not done. -/
  | waiting
  /-- The service acknowledged it. -/
  | acknowledged
  /-- It failed. -/
  | failed (failure : Failure)

/-- Whether a ticket is done. -/
def Outcome.isDone : Outcome → Bool
  | waiting => false
  | _ => true

/-- Where a worker stands. -/
inductive Worker where
  /-- It waits for tickets. -/
  | idle
  /-- It waits for the answer to the call of a group, with these tickets acknowledged and these
  groups still to send. -/
  | sending (batch acknowledged group : List Ticket) (rest : List (List Ticket))
  /-- It waits for the answer to the refresh of its batch. -/
  | refreshing (batch acknowledged : List Ticket)
  /-- An error ended it. -/
  | dead

/-- The tickets that a worker has taken and not finished. -/
def Worker.batch : Worker → List Ticket
  | sending batch _ _ _ => batch
  | refreshing batch _ => batch
  | idle | dead => []

/-- The queue of tickets. -/
structure Queue where
  /-- The tickets, first in first out. -/
  tickets : List Ticket
  /-- How many tickets were entered and are not finished. -/
  unfinished : Nat
  /-- How often the number of unfinished tickets has fallen to zero.  Whoever waits for that is
  woken by the first time, even if new tickets come before it goes on. -/
  drained : Nat

/-- An empty queue. -/
def Queue.empty : Queue := ⟨[], 0, 0⟩

/-- The tickets of one index that are not done. -/
structure PendingSet where
  /-- The serial number of the set. -/
  serial : Nat
  /-- The numbers of the tickets. -/
  tickets : List Nat

/-- The limits of a processor. -/
structure ProcessorLimits where
  /-- How many workers there are. -/
  workers : Nat
  /-- How many requests a bulk call or batch holds at most. -/
  maxBulkSize : Nat
  /-- How many tickets the queue holds at most; zero for any number. -/
  queueSize : Nat
deriving DecidableEq, Inhabited

/-- The request processor. -/
structure Processor where
  /-- Its limits. -/
  limits : ProcessorLimits
  /-- How many users it has. -/
  users : Nat
  /-- The queue, once there is one. -/
  queue : Option Queue
  /-- The workers. -/
  workers : List Worker
  /-- The pending set of each index. -/
  pending : Table PendingSet
  /-- How many pending sets there have been. -/
  pendingSets : Nat
  /-- What has become of each ticket, by its number. -/
  outcomes : List Outcome
  /-- The failures of each index that have not been reported. -/
  failures : Table (List Failure)
  /-- The monitors, by name. -/
  monitors : Table Monitor

namespace Processor

/-- A processor without users and work. -/
def fresh (limits : ProcessorLimits) : Processor :=
  ⟨limits, 0, none, [], [], 0, [], [], []⟩

instance : Inhabited Processor := ⟨fresh default⟩

/-- The outcome of a ticket. -/
def outcome (p : Processor) (serial : Nat) : Outcome := p.outcomes.getD serial .waiting

/-- The tickets of an index that are not done. -/
def pendingOf (p : Processor) (index : String) : List Nat :=
  ((Table.get? p.pending index).map PendingSet.tickets).getD []

/-- The tickets of one index, or of all, that are not done. -/
def waitingTickets (p : Processor) : Option String → List Nat
  | some index => p.pendingOf index
  | none => p.pending.flatMap fun entry => entry.2.tickets

/-! ## Monitors -/

/-- Tells the monitor of a request that it was produced. -/
def notifyProduced (p : Processor) (r : WorkRequest) : Processor :=
  match r.monitor with
  | none => p
  | some name =>
    let m := (Table.get? p.monitors name).getD .counting
    { p with monitors := Table.set p.monitors name m.onProduced }

/-- Tells the monitor of a request that it failed; the second part tells whether the monitor raises
an error of its own. -/
def notifyFailed (p : Processor) (r : WorkRequest) (failure : Failure) : Processor × Bool :=
  match r.monitor with
  | none => (p, false)
  | some name =>
    let m := (Table.get? p.monitors name).getD .counting
    let (m, raised) := m.onFailed failure
    ({ p with monitors := Table.set p.monitors name m }, raised)

/-! ## Submitting -/

/-- Starts the queue and the workers where they are missing. -/
def start (p : Processor) : Processor :=
  { p with
    queue := some (p.queue.getD .empty)
    workers := if p.workers.isEmpty then List.replicate p.limits.workers .idle else p.workers }

/-- Enters a request as a new ticket among those of its index that are not done. -/
def register (p : Processor) (request : WorkRequest) : Processor × Ticket :=
  let (set, created) :=
    match Table.get? p.pending request.index with
    | some set => (set, 0)
    | none => (⟨p.pendingSets, []⟩, 1)
  let serial := p.outcomes.length
  ({ p with
      pending := Table.set p.pending request.index { set with tickets := set.tickets ++ [serial] }
      pendingSets := p.pendingSets + created
      outcomes := p.outcomes ++ [.waiting] },
    ⟨serial, set.serial, request⟩)

/-- Whether the queue takes no more tickets. -/
def isFull (p : Processor) : Bool :=
  match p.queue with
  | some q => 0 < p.limits.queueSize && p.limits.queueSize ≤ q.tickets.length
  | none => false

/-- Puts a ticket at the end of the queue. -/
def enqueue (p : Processor) (t : Ticket) : Processor :=
  let q := p.queue.getD .empty
  { p with queue := some { q with tickets := q.tickets ++ [t], unfinished := q.unfinished + 1 } }

/-! ## Resolving -/

/-- Removes a ticket from the pending set that it was entered in. -/
def forget (p : Processor) (t : Ticket) : Processor :=
  let without (set : PendingSet) : PendingSet :=
    if set.serial = t.home then { set with tickets := set.tickets.erase t.serial } else set
  { p with pending := Table.mapValues without p.pending }

/-- A ticket is done. -/
def resolve (p : Processor) (t : Ticket) (outcome : Outcome) : Processor :=
  { p.forget t with outcomes := p.outcomes.set t.serial outcome }

/-- Records a failure for an index. -/
def record (p : Processor) (index : String) (failure : Failure) : Processor :=
  let known := (Table.get? p.failures index).getD []
  { p with failures := Table.set p.failures index (known ++ [failure]) }

/-- Fails a ticket that is not done: the failure is recorded for its index, its monitor is told, and
then the ticket is done.  When the monitor raises an error the ticket stays as it is; the second
part tells that. -/
def fail (p : Processor) (t : Ticket) (failure : Failure) : Processor × Bool :=
  if (p.outcome t.serial).isDone then (p, false)
  else
    match (p.record t.request.index failure).notifyFailed t.request failure with
    | (p, true) => (p, true)
    | (p, false) => (p.resolve t (.failed failure), false)

/-- Fails tickets in order, up to the first one whose monitor raises an error. -/
def failAll (p : Processor) (failure : Failure) : List Ticket → Processor × Bool
  | [] => (p, false)
  | t :: rest =>
    match p.fail t failure with
    | (p, true) => (p, true)
    | (p, false) => p.failAll failure rest

/-- Acknowledges tickets that are not done. -/
def acknowledge (p : Processor) : List Ticket → Processor
  | [] => p
  | t :: rest =>
    if (p.outcome t.serial).isDone then p.acknowledge rest
    else (p.resolve t .acknowledged).acknowledge rest

/-! ## Workers -/

/-- Sets where a worker stands. -/
def setWorker (p : Processor) (i : Nat) (w : Worker) : Processor :=
  { p with workers := p.workers.set i w }

/-- A worker is through with a batch. -/
def finish (p : Processor) (i : Nat) (batch : List Ticket) (next : Worker) : Processor :=
  let q := p.queue.getD .empty
  let unfinished := q.unfinished - batch.length
  { p.setWorker i next with
    queue := some { q with unfinished, drained := q.drained + if unfinished = 0 then 1 else 0 } }

/-- The error of a monitor reached a worker: every ticket of its batch that is not done fails with
it.  If a monitor raises an error again, the worker ends. -/
def collapse (p : Processor) (i : Nat) (batch : List Ticket) : Processor :=
  match p.failAll (.misfit .monitorFailed) batch with
  | (p, true) => p.finish i batch .dead
  | (p, false) => p.finish i batch .idle

/-- An idle worker takes a batch from the queue and sends its first group. -/
def takeBatch (p : Processor) (i : Nat) : Processor :=
  match p.queue with
  | none => p
  | some q =>
    let size := max 1 p.limits.maxBulkSize
    let batch := q.tickets.take size
    let taken := { p with queue := some { q with tickets := q.tickets.drop size } }
    match groups (fun t => t.request.isBulkable) p.limits.maxBulkSize batch with
    | [] => p
    | group :: rest => taken.setWorker i (.sending batch [] group rest)

/-- The indexes that a worker refreshes once its groups are sent. -/
def batchIndexes (acknowledged : List Ticket) : List String :=
  refreshedIndexes (acknowledged.map Ticket.request)

/-- The call whose answer a worker waits for. -/
def awaitedCall? : Worker → Option Call
  | .sending _ _ group _ => some (groupCall (group.map Ticket.request))
  | .refreshing _ acknowledged => some (refreshCall (batchIndexes acknowledged))
  | .idle | .dead => none

/-- Applies the verdict on a group: tickets fail in order up to the first one whose monitor raises
an error.  The result tells whether one did, and else which tickets succeeded. -/
def applyVerdict (p : Processor) : List Ticket → List (Option Failure) →
    Processor × Option (List Ticket)
  | t :: group, none :: failures =>
    match p.applyVerdict group failures with
    | (p, some succeeded) => (p, some (t :: succeeded))
    | (p, none) => (p, none)
  | t :: group, some failure :: failures =>
    match p.fail t failure with
    | (p, true) => (p, none)
    | (p, false) => p.applyVerdict group failures
  | _, _ => (p, some [])

/-- What a worker does after a group: it sends the next one, or refreshes the indexes that ask for
it, or is through. -/
def proceed (p : Processor) (i : Nat) (batch acknowledged : List Ticket) :
    List (List Ticket) → Processor
  | group :: rest => p.setWorker i (.sending batch acknowledged group rest)
  | [] =>
    if (batchIndexes acknowledged).isEmpty then (p.acknowledge acknowledged).finish i batch .idle
    else p.setWorker i (.refreshing batch acknowledged)

/-- A worker receives the answer that it waits for. -/
def onAnswer (p : Processor) (i : Nat) (answer : Answer) : Processor :=
  match p.workers[i]? with
  | some (.sending batch acknowledged group rest) =>
    let requests := group.map Ticket.request
    match p.applyVerdict group ((judgeGroup requests answer).failures requests) with
    | (p, some succeeded) => p.proceed i batch (acknowledged ++ succeeded) rest
    | (p, none) => p.collapse i batch
  | some (.refreshing batch acknowledged) =>
    let call := refreshCall (batchIndexes acknowledged)
    match answer.judge call.method call.path [] with
    | .ok _ => (p.acknowledge acknowledged).finish i batch .idle
    | .error failure =>
      match p.failAll failure acknowledged with
      | (p, true) => p.collapse i batch
      | (p, false) => p.finish i batch .idle
  | _ => p

/-! ## Reporting -/

/-- The failures of one index, or of all, that have not been reported. -/
def unreported (p : Processor) : Option String → List Failure
  | some index => (Table.get? p.failures index).getD []
  | none => p.failures.flatMap (·.2)

/-- Forgets the failures that are being reported, and the pending set of an index when it is
empty. -/
def clearReported (p : Processor) : Option String → Processor
  | some index =>
    { p with
      failures := Table.erase p.failures index
      pending := if (p.pendingOf index).isEmpty then Table.erase p.pending index else p.pending }
  | none => { p with failures := [] }

/-- Ends the workers where they stand; what they have taken is left as it is. -/
def cancel (p : Processor) : Processor := { p with workers := p.workers.map fun _ => .dead }

/-- Drops the workers and the queue. -/
def stop (p : Processor) : Processor := { p with queue := none, workers := [] }

end Processor

end SearchIndex
