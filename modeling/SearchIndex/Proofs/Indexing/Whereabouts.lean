/-
# The whereabouts of asynchronous requests

Requests are submitted and awaited by any number of tasks, while workers carry them out, in any
interleaving, with any answers of the service and with callbacks that run at any time after them.
`no_request_lost` says that none is lost and none is doubled on the way, provided that no monitor
raises an error of its own.

The proof carries the ledger along a run: every event of a run is a transition of the processor that
keeps it accurate, for the tickets that the tasks of that world wait to put in the queue.
-/
import SearchIndex.Proofs.Indexing.Errand
import SearchIndex.Proofs.Indexing.Ledger

namespace SearchIndex

/-- Nothing has been submitted to the processor. -/
structure Processor.IsUnused (p : Processor) : Prop where
  queue_eq : p.queue = none
  workers_eq : p.workers = []
  pending_eq : p.pending = []
  outcomes_eq : p.outcomes = []

namespace World

/-- A world of errands. -/
abbrev OfErrands := World (Except Failure (Option Ticket))

/-- Events with the worlds after them. -/
abbrev History := List (Event Errand × OfErrands)

/-- The tickets that wait to be put in the queue. -/
def putting (w : OfErrands) : List Ticket := w.tasks.filterMap Errand.ticketToPut?

/-- All tickets that are somewhere: those that wait to be put in the queue, those in it, and those
in the batch of a worker. -/
def held (w : OfErrands) : List Ticket :=
  w.putting ++ w.shared.processor.queued ++ w.shared.processor.taken

/-- The tickets whose call is made at an event, given the world after it. -/
def sentBy (w : OfErrands) : Event Errand → List Ticket
  | .take i | .answer i _ => w.shared.processor.inCall i
  | .start _ | .resume _ | .reply _ _ | .forget _ => []

/-- The requests that are submitted at an event. -/
def acceptedBy : Event Errand → List WorkRequest
  | .start (.submit r) => [r]
  | .start (.await _) | .resume _ | .reply _ _ | .take _ | .answer _ _ | .forget _ => []

/-- The requests that have been submitted, in order. -/
def accepted (history : History) : List WorkRequest := history.flatMap fun x => acceptedBy x.1

/-- The tickets whose calls have been made, in order. -/
def sent (history : History) : List Ticket := history.flatMap fun x => x.2.sentBy x.1

/-- No request is lost or doubled.  Requests are known by the numbers in which they were accepted,
which are those of their tickets. -/
structure NothingLost (history : History) (w : OfErrands) : Prop where
  /-- A request that is not done is in the pending set that is stored under its index. -/
  pending : ∀ n r, (accepted history)[n]? = some r → ¬ w.shared.processor.IsDone n →
    n ∈ w.shared.processor.pendingOf r.index
  /-- Its ticket is in one place. -/
  somewhere : ∀ n r, (accepted history)[n]? = some r → ¬ w.shared.processor.IsDone n →
    ∃ t, t.request = r ∧ w.held.filter (fun other => other.serial = n) = [t]
  /-- No request is sent in two calls, or twice in one. -/
  sentOnce : ((sent history).map Ticket.serial).Nodup
  /-- The queue counts what is queued and what workers have taken. -/
  counted : w.shared.processor.unfinished =
    w.shared.processor.queued.length + w.shared.processor.taken.length
  /-- An index whose pending set is empty, or dropped, has no request that is not done. -/
  dropped : ∀ index, w.shared.processor.pendingOf index = [] → ∀ n r,
    (accepted history)[n]? = some r → r.index = index → w.shared.processor.IsDone n

/-! ## The invariant -/

/-- Every task stands where an errand can stand, and the processor is accurate. -/
structure IsSound (history : History) (w : OfErrands) : Prop where
  places : ∀ t ∈ w.tasks, Errand.IsPlace t
  accurate : w.shared.processor.IsAccurate (accepted history) w.putting (sent history)

variable {history : History} {w w' : OfErrands}

lemma isSound_begin {s : Shared} (hunused : s.processor.IsUnused)
    (hquiet : s.processor.HasQuietMonitors) : IsSound [] (⟨s, []⟩ : OfErrands) := by
  obtain ⟨hqueue, hworkers, hpending, houtcomes⟩ := hunused
  refine ⟨by simp, hquiet, ?_, by simp [hworkers], ?_⟩
  · simp only [putting, Processor.queued, Processor.taken, hqueue, hworkers]
    exact ⟨by simp [accepted, houtcomes], by simp, by simp, by simp [accepted], by simp,
      by simp [sent], by simp [sent]⟩
  · simp [Processor.unfinished, Processor.queued, Processor.taken, hqueue, hworkers]

lemma accepted_snoc (event : Event Errand) :
    accepted (history ++ [(event, w')]) = accepted history ++ acceptedBy event := by
  simp [accepted]

/-- The requests that have been accepted keep their numbers. -/
lemma getElem?_accepted_snoc {event : Event Errand} {n : Nat} {r : WorkRequest}
    (h : (accepted history)[n]? = some r) :
    (accepted (history ++ [(event, w')]))[n]? = some r := by
  obtain ⟨hlt, -⟩ := List.getElem?_eq_some_iff.1 h
  rw [accepted_snoc, List.getElem?_append_left hlt, h]

lemma sent_snoc (event : Event Errand) :
    sent (history ++ [(event, w')]) = sent history ++ w'.sentBy event := by
  simp [sent]

/-! ## Steps -/

/-- What becomes of the tickets that wait to be put when a task is added. -/
lemma filterMap_snoc (tasks : List Errand.Rest) (task : Errand.Rest) :
    (tasks ++ [task]).filterMap Errand.ticketToPut? =
      tasks.filterMap Errand.ticketToPut? ++ (Errand.ticketToPut? task).toList := by
  rw [List.filterMap_append]
  cases htask : Errand.ticketToPut? task <;> simp [htask]

lemma forall_mem_set_done (hplaces : ∀ t ∈ w.tasks, Errand.IsPlace t) {k : Nat}
    {result : Except Failure (Option Ticket)} :
    ∀ t ∈ w.tasks.set k (.done result), Errand.IsPlace t := by
  intro t ht
  rcases List.mem_or_eq_of_mem_set ht with ht | rfl
  · exact hplaces t ht
  · exact .done result

/-- The tickets that wait to be put, once a task has come to its end. -/
lemma perm_putting_of_set {k : Nat} {task : Errand.Rest} (hk : w.tasks[k]? = some task)
    (result : Except Failure (Option Ticket)) :
    w.putting.Perm ((Errand.ticketToPut? task).toList ++
      (w.tasks.set k (.done result)).filterMap Errand.ticketToPut?) := by
  obtain ⟨before, after, htasks, hset⟩ := exists_around hk
  have hsplit (t : Errand.Rest) : (before ++ t :: after).filterMap Errand.ticketToPut? =
      before.filterMap Errand.ticketToPut? ++
        ((Errand.ticketToPut? t).toList ++ after.filterMap Errand.ticketToPut?) := by
    rw [List.append_cons, List.filterMap_append, filterMap_snoc, List.append_assoc]
  rw [putting, htasks, ← htasks, hset, htasks, hsplit, hsplit, Errand.ticketToPut?_done]
  exact List.perm_append_comm_assoc _ _ _

/-- A new task stands at a place of errands, and the processor is accurate for it. -/
lemma IsSound.snoc_started (h : IsSound history w) {errand : Errand} {s : Shared}
    {task : Errand.Rest} (hstarted : w.started errand.task = ⟨s, w.tasks ++ [task]⟩)
    (hplace : Errand.IsPlace task)
    (haccurate : s.processor.IsAccurate (accepted history ++ acceptedBy (.start errand))
      (w.putting ++ (Errand.ticketToPut? task).toList) (sent history)) :
    IsSound (history ++ [(.start errand, w.started errand.task)]) (w.started errand.task) := by
  rw [hstarted]
  refine ⟨fun other hother => ?_, ?_⟩
  · rcases List.mem_append.1 hother with hother | hother
    · exact h.places other hother
    · rw [List.mem_singleton.1 hother]
      exact hplace
  · rw [accepted_snoc, sent_snoc, sentBy, List.append_nil, putting, filterMap_snoc]
    exact haccurate

lemma started_submit (w : OfErrands) (r : WorkRequest) :
    w.started (Errand.submit r).task = ⟨(Execution.accept r w.shared).1, w.tasks ++ [
      if (Execution.accept r w.shared).2.2 then
        .done (.ok (some (Execution.accept r w.shared).2.1))
      else Errand.putting (Execution.accept r w.shared).2.1]⟩ := by
  rw [started, Errand.untilWait_submit]

lemma IsSound.submit (h : IsSound history w) (r : WorkRequest) :
    IsSound (history ++ [(.start (.submit r), w.started (Errand.submit r).task)])
      (w.started (Errand.submit r).task) := by
  let p := (w.shared.processor.start.register r).1
  let t := (w.shared.processor.start.register r).2
  have hregister : p.IsAccurate (accepted history ++ [r]) (w.putting ++ [t]) (sent history) :=
    h.accurate.start.register r
  have haccept : Execution.accept r w.shared =
      if p.isFull then ({ w.shared with processor := p }, t, false)
      else ({ w.shared with processor := p.enqueue t }, t, true) := rfl
  by_cases hfull : p.isFull = true
  · -- the ticket has to wait
    rw [if_pos hfull] at haccept
    have hstarted : w.started (Errand.submit r).task =
        ⟨{ w.shared with processor := p }, w.tasks ++ [Errand.putting t]⟩ := by
      rw [started_submit, haccept]
      rfl
    exact h.snoc_started hstarted (.putting t) hregister
  · -- the ticket is queued at once
    rw [if_neg hfull] at haccept
    have hstarted : w.started (Errand.submit r).task =
        ⟨{ w.shared with processor := p.enqueue t }, w.tasks ++ [.done (.ok (some t))]⟩ := by
      rw [started_submit, haccept]
      rfl
    have hperm : (w.putting ++ [t]).Perm (t :: (w.putting ++ [])) := by
      rw [List.append_nil]
      exact List.perm_append_comm
    exact h.snoc_started hstarted (.done _) (hregister.enqueue hperm)

lemma IsSound.await (h : IsSound history w) (index : Option String) :
    IsSound (history ++ [(.start (.await index), w.started (Errand.await index).task)])
      (w.started (Errand.await index).task) := by
  by_cases hempty : (w.shared.processor.waitingTickets index).isEmpty = true
  · -- nothing has to be waited for, so failures are reported at once
    obtain ⟨result, hreporting⟩ := Errand.untilWait_reporting index w.shared
    have hstarted : w.started (Errand.await index).task =
        ⟨w.shared.mapProcessor (·.clearReported index), w.tasks ++ [.done result]⟩ := by
      rw [started, Errand.untilWait_await, if_pos hempty, hreporting]
    refine h.snoc_started hstarted (.done result) ?_
    simpa [acceptedBy, Shared.mapProcessor] using h.accurate.clearReported index
  · -- the task waits, and nothing else changes
    have hstarted : w.started (Errand.await index).task =
        ⟨w.shared,
          w.tasks ++ [Errand.awaiting index (w.shared.processor.waitingTickets index)]⟩ := by
      rw [started, Errand.untilWait_await, if_neg hempty]
    refine h.snoc_started hstarted (.awaiting index _) ?_
    simpa [acceptedBy] using h.accurate

/-- A task that waited has gone on to its end. -/
lemma IsSound.snoc_resumed {k : Nat} {next task : Errand.Rest} {s : Shared}
    {result : Except Failure (Option Ticket)} (h : IsSound history w)
    (hk : w.tasks[k]? = some task) (hnext : next.untilWait w.shared = (.done result, s))
    (haccurate : ∀ others, w.putting.Perm ((Errand.ticketToPut? task).toList ++ others) →
      s.processor.IsAccurate (accepted history) others (sent history)) :
    IsSound (history ++ [(.resume k, w.continued k next)]) (w.continued k next) := by
  have hcontinued : w.continued k next = ⟨s, w.tasks.set k (.done result)⟩ := by
    rw [continued, hnext]
  rw [hcontinued]
  refine ⟨forall_mem_set_done h.places, ?_⟩
  rw [accepted_snoc, sent_snoc, sentBy, acceptedBy, List.append_nil, List.append_nil]
  exact haccurate _ (perm_putting_of_set hk result)

lemma IsSound.resume {k : Nat} {ready : Shared → Bool} {next : Errand.Rest}
    (h : IsSound history w) (hk : w.tasks[k]? = some (.wait ready next)) :
    IsSound (history ++ [(.resume k, w.continued k next)]) (w.continued k next) := by
  have hplace := h.places _ (List.mem_of_getElem? hk)
  -- the task is a variable here, so that its place can be split into cases
  generalize htask : Task.wait ready next = task at hplace hk
  cases hplace with
  | done result => cases htask
  | putting t =>
    -- the ticket is put in the queue
    obtain ⟨-, rfl⟩ := Task.wait.inj htask
    exact h.snoc_resumed hk rfl fun others hperm => h.accurate.enqueue hperm
  | awaiting index waiting =>
    -- the failures are reported
    obtain ⟨-, rfl⟩ := Task.wait.inj htask
    obtain ⟨result, hreporting⟩ := Errand.untilWait_reporting index w.shared
    refine h.snoc_resumed hk hreporting fun others hperm => ?_
    rw [Errand.ticketToPut?_awaiting, Option.toList_none, List.nil_append] at hperm
    exact (h.accurate.perm hperm).clearReported index

/-- The processor has worked. -/
lemma IsSound.snoc_worked {event : Event Errand} {p : Processor} (h : IsSound history w)
    (haccepted : acceptedBy event = [])
    (haccurate : p.IsAccurate (accepted history) w.putting
      (sent history ++ (w.worked p).sentBy event)) :
    IsSound (history ++ [(event, w.worked p)]) (w.worked p) := by
  refine ⟨h.places, ?_⟩
  rw [accepted_snoc, sent_snoc, haccepted, List.append_nil]
  exact haccurate

/-- What happens next keeps every task at a place of errands and the processor accurate. -/
lemma IsSound.step {event : Event Errand} (h : IsSound history w)
    (hstep : Step Errand.task w event w') : IsSound (history ++ [(event, w')]) w' := by
  cases hstep with
  | start errand =>
    cases errand with
    | submit r => exact h.submit r
    | await index => exact h.await index
  | resume hk hready => exact h.resume hk
  | reply hk answer =>
    -- no errand stands at a call
    cases h.places _ (List.mem_of_getElem? hk)
  | take hi hqueue => exact h.snoc_worked rfl (h.accurate.takeBatch hi hqueue)
  | answer hi hcall answer => exact h.snoc_worked rfl (h.accurate.answered hi hcall answer)
  | forget hdone =>
    refine h.snoc_worked rfl ?_
    rw [sentBy, List.append_nil]
    exact h.accurate.forget hdone

/-- Along a run every task stands at a place of errands, and the processor is accurate. -/
lemma Run.isSound {s : Shared} (hunused : s.processor.IsUnused)
    (hquiet : s.processor.HasQuietMonitors) (hrun : Run Errand.task s history w) :
    IsSound history w := by
  induction hrun with
  | begin => exact isSound_begin hunused hquiet
  | snoc _ hstep ih => exact ih.step hstep

/-- Tickets that are done may leave their pending sets one after another. -/
lemma Run.forgetAll {s : Shared} {tickets : List Ticket} (hrun : Run Errand.task s history w)
    (hdone : ∀ t ∈ tickets, w.shared.processor.IsDone t.serial) :
    ∃ events, Run Errand.task s (history ++ events)
      (w.worked (w.shared.processor.forgetAll tickets)) := by
  induction tickets generalizing history w with
  | nil => exact ⟨[], by rwa [List.append_nil]⟩
  | cons t rest ih =>
    obtain ⟨hfirst, hrest⟩ := List.forall_mem_cons.1 hdone
    obtain ⟨events, hevents⟩ := ih (hrun.snoc (.forget hfirst)) hrest
    rw [List.append_assoc] at hevents
    exact ⟨_, hevents⟩

/-- Where the callbacks that an answer brings about run at once, the events of the answer and of the
callbacks are what the processor makes of the answer on its own. -/
lemma Run.onAnswer {s : Shared} {i : Nat} {worker : Worker} (hunused : s.processor.IsUnused)
    (hquiet : s.processor.HasQuietMonitors) (hrun : Run Errand.task s history w)
    (hi : w.shared.processor.workers[i]? = some worker)
    (hcall : (Processor.awaitedCall? worker).isSome) (answer : Answer) :
    ∃ events, Run Errand.task s (history ++ events)
      (w.worked (w.shared.processor.onAnswer i answer)) := by
  obtain ⟨tickets, hdone, heq⟩ :=
    ((hrun.isSound hunused hquiet).accurate.advances hi hcall answer).eq_forgetAll
  obtain ⟨events, hevents⟩ := (hrun.snoc (.answer hi hcall answer)).forgetAll hdone
  rw [List.append_assoc] at hevents
  rw [heq]
  exact ⟨_, hevents⟩

/-- A ticket that waits to be put is put in the queue once there is room. -/
lemma Step.resume_putting {k : Nat} {t : Ticket} (hk : w.tasks[k]? = some (Errand.putting t))
    (hroom : w.shared.processor.isFull = false) :
    Step Errand.task w (.resume k) (w.continued k (Errand.enqueuing t)) :=
  .resume hk (by rw [hroom]; rfl)

/-! ## Nothing is lost -/

/-- The one ticket of a number. -/
lemma filter_serial_eq {held : List Ticket} (hdistinct : (held.map Ticket.serial).Nodup)
    {t : Ticket} (ht : t ∈ held) : held.filter (fun other => other.serial = t.serial) = [t] := by
  induction held with
  | nil => exact absurd ht List.not_mem_nil
  | cons first rest ih =>
    rw [List.map_cons, List.nodup_cons] at hdistinct
    obtain ⟨hfirst, hrest⟩ := hdistinct
    rcases List.mem_cons.1 ht with rfl | ht
    · have hnone : rest.filter (fun other => other.serial = t.serial) = [] := by
        refine List.filter_eq_nil_iff.2 fun other hother heq => hfirst ?_
        exact List.mem_map.2 ⟨other, hother, by simpa using heq⟩
      rw [List.filter_cons_of_pos (by simp), hnone]
    · have hne : first.serial ≠ t.serial := fun heq =>
        hfirst (heq ▸ List.mem_map_of_mem ht)
      rw [List.filter_cons_of_neg (by simpa using hne)]
      exact ih hrest ht

/-- The ticket of a request that is not done is held by somebody. -/
lemma IsSound.exists_held (h : IsSound history w) {n : Nat} {r : WorkRequest}
    (hr : (accepted history)[n]? = some r) (hnot : ¬ w.shared.processor.IsDone n) :
    ∃ t ∈ w.held, t.serial = n ∧ t.request = r := by
  have haccounts := h.accurate.accounts
  obtain ⟨hlt, -⟩ := List.getElem?_eq_some_iff.1 hr
  obtain ⟨t, ht, rfl⟩ := haccounts.complete n hlt hnot
  exact ⟨t, ht, rfl, Option.some.inj ((haccounts.genuine t ht).symm.trans hr)⟩

/-- A request that is not done is pending under its index. -/
lemma IsSound.mem_pendingOf (h : IsSound history w) {n : Nat} {r : WorkRequest}
    (hr : (accepted history)[n]? = some r) (hnot : ¬ w.shared.processor.IsDone n) :
    n ∈ w.shared.processor.pendingOf r.index := by
  obtain ⟨t, ht, rfl, rfl⟩ := h.exists_held hr hnot
  exact (h.accurate.accounts.keeps t ht hnot).mem_pendingOf

/-- **No request is lost or doubled.**  Whatever the interleaving of tasks that submit and await
requests, of the workers, of the answers of the service and of callbacks: a request that is not done
is in the pending set that is stored under its index, and its ticket is in one place.  No request is
sent twice, and the queue counts the unfinished tickets right. -/
theorem no_request_lost {s : Shared} (hunused : s.processor.IsUnused)
    (hquiet : s.processor.HasQuietMonitors) {history : History} {w : OfErrands}
    (hrun : Run Errand.task s history w) : NothingLost history w := by
  have hsound := hrun.isSound hunused hquiet
  have haccounts := hsound.accurate.accounts
  refine ⟨fun n r hr hnot => hsound.mem_pendingOf hr hnot, fun n r hr hnot => ?_, ?_,
    hsound.accurate.counted, fun index hempty n r hr hindex => ?_⟩
  · obtain ⟨t, ht, rfl, hrequest⟩ := hsound.exists_held hr hnot
    exact ⟨t, hrequest, filter_serial_eq haccounts.distinct ht⟩
  · have hsent := haccounts.sentOnce
    rw [List.map_append] at hsent
    exact hsent.of_append_left
  · by_contra hnot
    have hmem := hsound.mem_pendingOf hr hnot
    rw [hindex, hempty] at hmem
    exact List.not_mem_nil hmem

/-- Two writes, of which the second one waits while the queue holds the first one, and is queued
once a worker has taken that. -/
theorem no_request_lost_full_queue :
    let request (id : String) := Operation.write "books" true none ⟨"book", id, none⟩ []
    ∃ history w, Run Errand.task (Shared.fresh ⟨1, 100, 1⟩ default) history w ∧
      accepted history = [request "1", request "2"] ∧
      w.shared.processor.taken.map Ticket.serial = [0] ∧
      w.shared.processor.queued.map Ticket.serial = [1] ∧ NothingLost history w := by
  intro request
  let s : Shared := Shared.fresh ⟨1, 100, 1⟩ default
  have hbegin : Run Errand.task s [] ⟨s, []⟩ := .begin
  have hfirst := hbegin.snoc (.start (.submit (request "1")))
  have hsecond := hfirst.snoc (.start (.submit (request "2")))
  simp only [started_submit, List.nil_append] at hsecond
  have htaken := hsecond.snoc (.take (i := 0) rfl rfl)
  have hqueued := htaken.snoc (.resume_putting (k := 1) (t := ⟨1, 0, request "2"⟩) rfl rfl)
  exact ⟨_, _, hqueued, rfl, rfl, rfl,
    no_request_lost ⟨rfl, rfl, rfl, rfl⟩ (fun _ _ => rfl) hqueued⟩

end World

end SearchIndex
