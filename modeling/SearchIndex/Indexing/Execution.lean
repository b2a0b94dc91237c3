/-
# Carrying out requests

Requests are carried out at once, group by group up to the first failure, or are handed to the
workers.  Whoever wants to know what has become of asynchronous requests waits for those that have
been accepted so far and is told the failures that nobody has been told before.
-/
import SearchIndex.Concurrency.Shared

namespace SearchIndex.Execution

/-! ## At once -/

/-- The requests of a group that failed, each with its error. -/
def failed (group : List WorkRequest) (errors : List (Option Raised)) :
    List (WorkRequest × Raised) :=
  (group.zip errors).filterMap fun (r, error) => error.map fun e => (r, e)

/-- Tells the monitors of failed requests in order, up to one that raises an error; the second part
tells whether one did. -/
def notifyAll (p : Processor) : List (WorkRequest × Raised) → Processor × Bool
  | [] => (p, false)
  | (r, error) :: rest =>
    match p.notifyFailed r error.failure with
    | (p, true) => (p, true)
    | (p, false) => notifyAll p rest

/-- What is told of a failed request: the details of its rejection, or a text when it was not
rejected. -/
def detailsOf (r : WorkRequest) : Failure → Json
  | .rejected (details :: _) => details
  | failure => .object [("request", .text r.describe), ("error", .text failure.message)]

/-- The failure that failed requests end with.  One error that they all share is that of the call,
unless it is a rejection; otherwise the details of each are told. -/
def summary? : List (WorkRequest × Raised) → Option Failure
  | [] => none
  | (r, first) :: rest =>
    let isShared := rest.all fun other => other.2.number = first.number
    if !first.failure.isRejection && isShared then some first.failure
    else some (.rejected (((r, first) :: rest).map fun f => detailsOf f.1 f.2.failure))

/-- Ends with the failure of a group, after the monitors of the failed requests have been told. -/
def report (group : List WorkRequest) (verdict : Verdict) : Activity Unit := do
  let failures := failed group (verdict.errors group)
  match summary? failures with
  | none => pure ()
  | some failure =>
    let raised ← Activity.step fun s =>
      let (p, raised) := notifyAll s.processor failures
      ({ s with processor := p }, raised)
    if raised then throw (.misfit .monitorFailed)
    throw failure

/-- Carries out groups of requests in order, up to the first one that fails. -/
def runGroups : List (List WorkRequest) → Activity Unit
  | [] => pure ()
  | group :: rest => do
    let answer ← Activity.call (groupCall group)
    report group (judgeGroup group answer)
    runGroups rest

/-- Refreshes the indexes that requests ask to refresh. -/
def refresh (requests : List WorkRequest) : Activity Unit := do
  let indexes := refreshedIndexes requests
  unless indexes.isEmpty do
    let call := refreshCall indexes
    let answer ← Activity.call call
    let _ ← Activity.ofExcept (answer.judge call.method call.path [])

/-- Carries out requests in order, at once, and refreshes. -/
def runNow (requests : List WorkRequest) : Activity Unit := do
  let s ← Activity.look
  runGroups (groups WorkRequest.isBulkable s.processor.limits.maxBulkSize requests)
  refresh requests

/-! ## Asynchronously -/

/-- Enters a request; it is queued at once if the queue is not full. -/
def accept (request : WorkRequest) (s : Shared) : Shared × Ticket × Bool :=
  let (p, ticket) := s.processor.start.register request
  if p.isFull then ({ s with processor := p }, ticket, false)
  else ({ s with processor := p.enqueue ticket }, ticket, true)

/-- Hands a request to the workers.  While the queue is full, the request waits to be put there. -/
def submit (request : WorkRequest) : Activity Ticket := do
  let (ticket, queued) ← Activity.step (accept request)
  unless queued do
    Activity.waitUntil fun s => !s.processor.isFull
    Activity.change fun s => s.mapProcessor (·.enqueue ticket)
  return ticket

/-- Whether all of the tickets are done. -/
def areDone (tickets : List Nat) (s : Shared) : Bool :=
  tickets.all fun t => (s.processor.outcome t).isDone

/-- Waits until the asynchronous requests of one index, or of all, that have been accepted so far
are done, and fails with their failures. -/
def awaitCompletion (index : Option String) : Activity Unit := do
  let s ← Activity.look
  let waiting := s.processor.waitingTickets index
  unless waiting.isEmpty do Activity.waitUntil (areDone waiting)
  let failures ← Activity.step fun s =>
    (s.mapProcessor (·.clearReported index), s.processor.unreported index)
  match failures with
  | [] => pure ()
  | first :: others => throw (.asynchronous index first others)

/-- How many requests of one index, or of all, are not done. -/
def pendingCount (s : Shared) (index : Option String) : Nat :=
  (s.processor.waitingTickets index).length

/-! ## Users -/

/-- Adds a user of the processor. -/
def acquire (p : Processor) : Processor := { p with users := p.users + 1 }

/-- Whether the queue that was seen has been drained since. -/
def isDrainedSince (seen : Queue) (s : Shared) : Bool :=
  match s.processor.queue with
  | some q => seen.drained < q.drained
  | none => true

/-- Waits until all queued requests are done, and stops the workers. -/
def shutdown : Activity Unit := do
  let s ← Activity.look
  match s.processor.queue with
  | some q => unless q.unfinished = 0 do Activity.waitUntil (isDrainedSince q)
  | none => pure ()
  let anyWorker ← Activity.step fun s =>
    (s.mapProcessor Processor.cancel, !s.processor.workers.isEmpty)
  if anyWorker then Activity.pause
  Activity.change fun s => s.mapProcessor Processor.stop
  Activity.note .info .processor "Backend request processor shut down"

/-- Removes a user of the processor; the last one shuts it down. -/
def release : Activity Unit := do
  let last ← Activity.attempt fun s =>
    if s.processor.users = 0 then .error .overReleased
    else
      let users := s.processor.users - 1
      .ok (s.mapProcessor fun p => { p with users }, decide (users = 0))
  if last then shutdown

end SearchIndex.Execution
