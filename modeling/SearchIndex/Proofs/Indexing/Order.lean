/-
# One worker keeps the order

Tasks put tickets in a queue of any size, and one worker cuts it into batches at any moment, and each
batch into groups.  All the same the tickets stand in one line (`Processor.IsInLine`): those that have
been sent, those that the worker has taken and not sent, and those in the queue are the tickets that
have entered the queue, in the order in which they have.  So what is sent is always the beginning of
what has entered, and all of it once nothing is left to do; where a list of requests is submitted in
turn, it is what carrying out the list at once sends (`World.one_worker_keeps_order`).
-/
import SearchIndex.Proofs.Concurrency.Paths
import SearchIndex.Proofs.Indexing.Carrying
import SearchIndex.Proofs.Indexing.Settling
import SearchIndex.Proofs.Indexing.Whereabouts

namespace SearchIndex

/-! ## Workers -/

namespace Worker

/-- Whether a worker waits for the answer to a refresh. -/
def isRefreshing : Worker → Bool
  | refreshing .. => true
  | idle | sending .. | dead => false

/-- The call that a worker has made for tickets and waits for; a refresh is not for any. -/
def workCall? (worker : Worker) : Option Call :=
  if worker.isRefreshing then none else Processor.awaitedCall? worker

/-- The call of a worker carries the tickets that are in call. -/
lemma SendsGroups.carry {worker : Worker} (h : worker.SendsGroups) :
    Carry worker.workCall?.toList (worker.inCall.map Ticket.request) := by
  cases worker with
  | idle => exact .nil
  | refreshing batch acknowledged => exact .nil
  | dead => exact .nil
  | sending batch acknowledged group rest =>
    obtain ⟨_, hgroup⟩ := h group List.mem_cons_self
    exact .groupCall (isGroup_requests hgroup)

/-- A worker has taken what it has not sent. -/
lemma IsSound.unsent_subset {p : Processor} {worker : Worker} (h : worker.IsSound p) :
    worker.unsent ⊆ worker.batch := by
  cases worker with
  | idle => exact List.nil_subset _
  | refreshing batch acknowledged => exact List.nil_subset _
  | dead => exact List.nil_subset _
  | sending batch acknowledged group rest => exact (List.append_subset.1 h.1).2

end Worker

namespace Processor

variable {p : Processor} {i : Nat} {worker : Worker} {accepted : List WorkRequest}
  {putting sent entered : List Ticket}

/-- What an answer makes of a worker: the groups that it had not sent are in call or still not
sent. -/
lemma IsAccurate.exists_next (h : p.IsAccurate accepted putting sent)
    (hi : p.workers[i]? = some worker) (hcall : (awaitedCall? worker).isSome) (answer : Answer) :
    ∃ next, (p.onAnswer i answer).workers = p.workers.set i next ∧
      (p.onAnswer i answer).queued = p.queued ∧ next.inCall ++ next.unsent = worker.unsent ∧
      (worker.SendsGroups → next.SendsGroups) := by
  obtain ⟨next, acknowledged, hturned⟩ := exists_turns hi hcall answer
  refine ⟨next, hturned.workers_eq, hturned.queued_eq, ?_, hturned.turns.sendsGroups⟩
  have hlt : i < p.workers.length := (List.getElem?_eq_some_iff.1 hi).1
  -- a worker that advances stands at one place only
  have hsame {other : Worker} (hother : (p.onAnswer i answer).workers = p.workers.set i other) :
      other = next := by
    have hset := congrArg (·[i]?) (hother.symm.trans hturned.workers_eq)
    simpa [hlt] using hset
  cases h.advances hi hcall answer with
  | moved hprogress _ _ hunsent hafter =>
    rw [← hsame (by rw [hafter, setWorker, hprogress.workers_eq])]
    exact hunsent
  | finished hprogress _ hunsent hafter =>
    rw [← hsame (by rw [hafter, finish, setWorker, hprogress.workers_eq]), hunsent]
    rfl

/-! ## Standing in line -/

/-- There is one worker at most, and the tickets that have entered the queue stand in one line: the
sent ones first, then those that the worker has not sent, then those in the queue. -/
structure IsInLine (p : Processor) (sent entered : List Ticket) : Prop where
  crew : p.workers.length = 1 ∨ p.workers = [] ∧ p.limits.workers = 1
  groups : ∀ worker ∈ p.workers, worker.SendsGroups
  line : sent ++ p.workers.flatMap Worker.unsent ++ p.queued = entered

namespace IsInLine

/-- A worker is the only one. -/
lemma workers_eq (h : p.IsInLine sent entered) (hi : p.workers[i]? = some worker) :
    p.workers = [worker] ∧ i = 0 := by
  rcases h.crew with hone | ⟨hnone, -⟩
  · obtain ⟨only, honly⟩ := List.length_eq_one_iff.1 hone
    rw [honly] at hi ⊢
    obtain ⟨hlt, rfl⟩ := List.getElem?_eq_some_iff.1 hi
    simp at hlt
    subst hlt
    exact ⟨rfl, rfl⟩
  · rw [hnone] at hi
    cases hi

lemma start (h : p.IsInLine sent entered) : p.start.IsInLine sent entered := by
  rcases h.crew with hone | ⟨hnone, hlimit⟩
  · have hworkers : p.start.workers = p.workers := by
      have hne : p.workers ≠ [] := fun hnone => by simp [hnone] at hone
      simp [Processor.start, hne]
    refine ⟨Or.inl (hworkers ▸ hone), hworkers ▸ h.groups, ?_⟩
    rw [hworkers, queued_start]
    exact h.line
  · have hworkers : p.start.workers = [.idle] := by simp [Processor.start, hnone, hlimit]
    have hline := h.line
    rw [hnone] at hline
    refine ⟨Or.inl (by rw [hworkers]; rfl), ?_, ?_⟩
    · rw [hworkers]
      exact List.forall_mem_singleton.2 trivial
    · rw [hworkers, queued_start]
      exact hline

lemma register (h : p.IsInLine sent entered) (r : WorkRequest) :
    (p.register r).1.IsInLine sent entered := ⟨h.crew, h.groups, h.line⟩

/-- A ticket that is put in the queue comes to the end of the line. -/
lemma enqueue (h : p.IsInLine sent entered) (t : Ticket) :
    (p.enqueue t).IsInLine sent (entered ++ [t]) := by
  refine ⟨h.crew, h.groups, ?_⟩
  rw [queued_enqueue, ← List.append_assoc]
  exact congrArg (· ++ [t]) h.line

lemma clearReported (h : p.IsInLine sent entered) (index : Option String) :
    (p.clearReported index).IsInLine sent entered := by
  cases index <;> exact ⟨h.crew, h.groups, h.line⟩

lemma forget (h : p.IsInLine sent entered) (t : Ticket) : (p.forget t).IsInLine sent entered :=
  ⟨h.crew, h.groups, h.line⟩

/-- The worker takes a batch from the front of the queue and sends its first group. -/
lemma takeBatch (h : p.IsInLine sent entered) (hi : p.workers[i]? = some .idle)
    (hqueue : p.isQueueEmpty = false) :
    (p.takeBatch i).IsInLine (sent ++ (p.takeBatch i).inCall i) entered := by
  obtain ⟨q, batch, left, group, rest, hq, htickets, hgroups, htake⟩ := takeBatch_eq_groups i hqueue
  obtain ⟨hworkers, rfl⟩ := h.workers_eq hi
  have hworkers' : (p.takeBatch 0).workers = [.sending batch [] group rest] := by
    rw [htake]
    simp [setWorker, hworkers]
  have hqueued : p.queued = batch ++ left := by simp [queued, hq, htickets]
  have hqueued' : (p.takeBatch 0).queued = left := by
    rw [htake]
    rfl
  have hflatten : group ++ rest.flatten = batch := by
    rw [← List.flatten_cons, ← hgroups, flatten_groups]
  have hline := h.line
  rw [hworkers, hqueued, ← hflatten] at hline
  refine ⟨Or.inl (by rw [hworkers']; rfl), ?_, ?_⟩
  · rw [hworkers']
    exact List.forall_mem_singleton.2 (Worker.sendsGroups_of_groups_eq hgroups)
  · rw [inCall, hworkers', hqueued']
    simpa [Worker.inCall, Worker.unsent] using hline

/-- The worker sends its next group, if there is one. -/
lemma answered (h : p.IsInLine sent entered) (haccurate : p.IsAccurate accepted putting sent)
    (hi : p.workers[i]? = some worker) (hcall : (awaitedCall? worker).isSome) (answer : Answer) :
    (p.answered i answer).IsInLine (sent ++ (p.answered i answer).inCall i) entered := by
  obtain ⟨next, hnext, hqueued, hunsent, hgroups⟩ := haccurate.exists_next hi hcall answer
  obtain ⟨hworkers, rfl⟩ := h.workers_eq hi
  have hworkers' : (p.answered 0 answer).workers = [next] := by
    rw [Processor.answered, hnext, hworkers]
    rfl
  have hqueued' : (p.answered 0 answer).queued = p.queued := hqueued
  have hline := h.line
  rw [hworkers] at hline
  refine ⟨Or.inl (by rw [hworkers']; rfl), ?_, ?_⟩
  · rw [hworkers']
    exact List.forall_mem_singleton.2 (hgroups (h.groups worker (hworkers ▸ List.mem_cons_self)))
  · rw [inCall, hworkers', hqueued']
    simpa [← hunsent] using hline

end IsInLine

end Processor

/-! ## Histories -/

namespace World

variable {s : Shared} {history : History} {w w' : OfErrands} {event : Event Errand}

/-- The steps of a history, given the world before it: the world before each event, the event, and
the world after it. -/
def steps : OfErrands → History → List (OfErrands × Event Errand × OfErrands)
  | _, [] => []
  | w, (event, w') :: rest => (w, event, w') :: steps w' rest

lemma steps_concat (w : OfErrands) (history : History) (event : Event Errand) (w' : OfErrands) :
    steps w (history ++ [(event, w')]) = steps w history ++ [(reached w history, event, w')] := by
  induction history generalizing w with
  | nil => rfl
  | cons x rest ih =>
    have hreached : reached w (x :: rest) = reached x.2 rest := by
      cases rest with
      | nil => rfl
      | cons y rest => simp [reached, List.getLast?_eq_some_getLast]
    rw [List.cons_append, steps, ih, steps, hreached, List.cons_append]

/-- The tickets that enter the queue at a step: what a task has put at the end of it. -/
def enteredBy (w : OfErrands) (event : Event Errand) (w' : OfErrands) : List Ticket :=
  match event with
  | .start _ | .resume _ | .reply _ _ =>
    w'.shared.processor.queued.drop w.shared.processor.queued.length
  | .take _ | .answer _ _ | .forget _ => []

/-- The tickets that have entered the queue, in order. -/
def entered (s : Shared) (history : History) : List Ticket :=
  (steps ⟨s, []⟩ history).flatMap fun x => enteredBy x.1 x.2.1 x.2.2

/-- The call that a worker makes for tickets at an event, given the world after it. -/
def workBy (w : OfErrands) : Event Errand → List Call
  | .take i | .answer i _ => (w.shared.processor.workers[i]?.bind Worker.workCall?).toList
  | .start _ | .resume _ | .reply _ _ | .forget _ => []

/-- The calls that workers have made, in order, but for those to refresh. -/
def workCalls (history : History) : List Call := history.flatMap fun x => x.2.workBy x.1

/-- Requests are submitted in turn, as one client submits those of a list: none is submitted while
another one waits to be put in the queue. -/
def InTurn (s : Shared) (history : History) : Prop :=
  ∀ x ∈ steps ⟨s, []⟩ history, acceptedBy x.2.1 ≠ [] → x.1.putting = []

lemma Run.entered_snoc (hrun : Run Errand.task s history w) (event : Event Errand)
    (w' : OfErrands) :
    entered s (history ++ [(event, w')]) = entered s history ++ enteredBy w event w' := by
  simp [entered, steps_concat, hrun.reached_eq]

lemma Run.inTurn_snoc (hrun : Run Errand.task s history w) (event : Event Errand)
    (w' : OfErrands) : InTurn s (history ++ [(event, w')]) ↔
      InTurn s history ∧ (acceptedBy event ≠ [] → w.putting = []) := by
  simp [InTurn, steps_concat, hrun.reached_eq, or_imp, forall_and]

lemma workCalls_snoc (event : Event Errand) :
    workCalls (history ++ [(event, w')]) = workCalls history ++ w'.workBy event := by
  simp [workCalls]

/-- A call that a worker makes for tickets carries them. -/
lemma carry_workBy {sent entered : List Ticket} (h : w.shared.processor.IsInLine sent entered)
    (event : Event Errand) : Carry (w.workBy event) ((w.sentBy event).map Ticket.request) := by
  have hworker (i : Nat) : Carry (w.shared.processor.workers[i]?.bind Worker.workCall?).toList
      ((w.shared.processor.inCall i).map Ticket.request) := by
    rw [Processor.inCall]
    cases hi : w.shared.processor.workers[i]? with
    | none => exact .nil
    | some worker => exact (h.groups worker (List.mem_of_getElem? hi)).carry
  cases event with
  | take i => exact hworker i
  | answer i answer => exact hworker i
  | start errand => exact .nil
  | resume k => exact .nil
  | reply k answer => exact .nil
  | forget t => exact .nil

/-! ## The invariant -/

/-- The tickets stand in line and are those of requests that were submitted, calls carry the ones that
are sent, and where requests are submitted in turn they enter the queue in that order. -/
structure IsOrdered (s : Shared) (history : History) (w : OfErrands) : Prop where
  inLine : w.shared.processor.IsInLine (sent history) (entered s history)
  genuine : ∀ t ∈ entered s history, (accepted history)[t.serial]? = some t.request
  carried : Carry (workCalls history) ((sent history).map Ticket.request)
  turns : InTurn s history → w.putting.length ≤ 1 ∧
    (entered s history ++ w.putting).map Ticket.request = accepted history

/-- Tickets have entered the queue, or have been sent from it. -/
lemma IsOrdered.snoc (h : IsOrdered s history w) (hrun : Run Errand.task s history w)
    {sent' : List Ticket} (tickets : List Ticket) (hentered : enteredBy w event w' = tickets)
    (hsent : sent history ++ w'.sentBy event = sent')
    (hline : w'.shared.processor.IsInLine sent' (entered s history ++ tickets))
    (hgenuine : ∀ t ∈ tickets, (accepted history ++ acceptedBy event)[t.serial]? = some t.request)
    (hturns : (acceptedBy event ≠ [] → w.putting = []) → w.putting.length ≤ 1 →
      w'.putting.length ≤ 1 ∧ (tickets ++ w'.putting).map Ticket.request =
        w.putting.map Ticket.request ++ acceptedBy event) :
    IsOrdered s (history ++ [(event, w')]) w' := by
  have hsent' : sent (history ++ [(event, w')]) = sent' := (sent_snoc event).trans hsent
  have hentered' : entered s (history ++ [(event, w')]) = entered s history ++ tickets := by
    rw [hrun.entered_snoc, hentered]
  refine ⟨?_, ?_, ?_, fun hturn => ?_⟩
  · rw [hsent', hentered']
    exact hline
  · rw [hentered']
    refine List.forall_mem_append.2 ⟨fun t ht => getElem?_accepted_snoc (h.genuine t ht), ?_⟩
    rw [accepted_snoc]
    exact hgenuine
  · rw [workCalls_snoc, sent_snoc, List.map_append]
    exact h.carried.append (carry_workBy hline event)
  · obtain ⟨hbefore, hnow⟩ := (hrun.inTurn_snoc event w').1 hturn
    obtain ⟨hlength, haccepted⟩ := h.turns hbefore
    obtain ⟨hlength', hput⟩ := hturns hnow hlength
    refine ⟨hlength', ?_⟩
    rw [accepted_snoc, ← haccepted, hentered', List.append_assoc, List.map_append, hput,
      List.map_append, List.append_assoc]

/-- Nothing has been submitted, and nothing has entered the queue. -/
lemma IsOrdered.snoc_kept (h : IsOrdered s history w) (hrun : Run Errand.task s history w)
    {sent' : List Ticket} (hentered : enteredBy w event w' = [])
    (hsent : sent history ++ w'.sentBy event = sent') (haccepted : acceptedBy event = [])
    (hline : w'.shared.processor.IsInLine sent' (entered s history))
    (hputting : w'.putting = w.putting) : IsOrdered s (history ++ [(event, w')]) w' := by
  refine h.snoc hrun [] hentered hsent ?_ (by simp) fun _ hlength => ?_
  · rw [List.append_nil]
    exact hline
  · rw [hputting, haccepted, List.append_nil]
    exact ⟨hlength, rfl⟩

lemma isOrdered_begin (hunused : s.processor.IsUnused) (hworkers : s.processor.limits.workers = 1) :
    IsOrdered s [] (⟨s, []⟩ : OfErrands) := by
  refine ⟨⟨Or.inr ⟨hunused.workers_eq, hworkers⟩, ?_, ?_⟩, nofun, .nil, fun _ => ⟨?_, rfl⟩⟩
  · simp [hunused.workers_eq]
  · simp [hunused.workers_eq, sent, entered, steps, Processor.queued, hunused.queue_eq]
  · simp [putting]

/-- The tickets that wait to be put, once a task has been added. -/
lemma putting_snoc (s' : Shared) (task : Errand.Rest) :
    (⟨s', w.tasks ++ [task]⟩ : OfErrands).putting =
      w.putting ++ (Errand.ticketToPut? task).toList := filterMap_snoc w.tasks task

/-- Nothing enters a queue that stays as it is. -/
lemma drop_queued_of_eq {p p' : Processor} (h : p'.queued = p.queued) :
    p'.queued.drop p.queued.length = [] := by
  rw [h, List.drop_length]

/-- A ticket that comes to the end of the queue is what enters it. -/
lemma drop_queued_enqueue {p p' : Processor} (h : p'.queued = p.queued) (t : Ticket) :
    (p'.enqueue t).queued.drop p.queued.length = [t] := by
  rw [Processor.queued_enqueue, h, List.drop_left]

/-- Reporting failures leaves the queue alone. -/
lemma queued_mapProcessor_clearReported (s : Shared) (index : Option String) :
    (s.mapProcessor (·.clearReported index)).processor.queued = s.processor.queued := by
  cases index <;> rfl

/-- A request that is submitted enters the queue at once, or waits for that. -/
lemma IsOrdered.submit (h : IsOrdered s history w) (hrun : Run Errand.task s history w)
    (hsound : IsSound history w) (r : WorkRequest) :
    IsOrdered s (history ++ [(.start (.submit r), w.started (Errand.submit r).task)])
      (w.started (Errand.submit r).task) := by
  let p := (w.shared.processor.start.register r).1
  let t := (w.shared.processor.start.register r).2
  have hqueued : p.queued = w.shared.processor.queued :=
    Processor.queued_start w.shared.processor
  have hline : p.IsInLine (sent history) (entered s history) := h.inLine.start.register r
  have haccept : Execution.accept r w.shared =
      if p.isFull then ({ w.shared with processor := p }, t, false)
      else ({ w.shared with processor := p.enqueue t }, t, true) := rfl
  have hsubmitted : acceptedBy (.start (.submit r)) ≠ [] := List.cons_ne_nil r []
  rw [started_submit, haccept]
  by_cases hfull : p.isFull = true
  · -- the ticket has to wait
    rw [if_pos hfull]
    refine h.snoc hrun [] (drop_queued_of_eq hqueued) (List.append_nil _) ?_ (by simp)
      fun hnow _ => ?_
    · rw [List.append_nil]
      exact hline
    · rw [putting_snoc, hnow hsubmitted]
      exact ⟨le_rfl, rfl⟩
  · -- the ticket is queued at once
    rw [if_neg hfull]
    have hregister := hsound.accurate.start.register r
    refine h.snoc hrun [t] (drop_queued_enqueue hqueued t) (List.append_nil _)
      (hline.enqueue t) (List.forall_mem_singleton.2 ?_) fun hnow _ => ?_
    · exact hregister.accounts.genuine t (by simp [t])
    · rw [putting_snoc, hnow hsubmitted]
      exact ⟨Nat.zero_le 1, rfl⟩

lemma IsOrdered.await (h : IsOrdered s history w) (hrun : Run Errand.task s history w)
    (index : Option String) :
    IsOrdered s (history ++ [(.start (.await index), w.started (Errand.await index).task)])
      (w.started (Errand.await index).task) := by
  rw [started, Errand.untilWait_await]
  by_cases hempty : (w.shared.processor.waitingTickets index).isEmpty = true
  · -- nothing has to be waited for, so failures are reported at once
    obtain ⟨result, hreporting⟩ := Errand.untilWait_reporting index w.shared
    rw [if_pos hempty, hreporting]
    refine h.snoc_kept hrun
      (drop_queued_of_eq (queued_mapProcessor_clearReported w.shared index)) (List.append_nil _) rfl
      (h.inLine.clearReported index) ?_
    rw [putting_snoc, Errand.ticketToPut?_done]
    exact List.append_nil _
  · rw [if_neg hempty]
    refine h.snoc_kept hrun (drop_queued_of_eq rfl) (List.append_nil _) rfl h.inLine ?_
    rw [putting_snoc, Errand.ticketToPut?_awaiting]
    exact List.append_nil _

/-- A task that waits goes on: its ticket enters the queue, or failures are reported. -/
lemma IsOrdered.resume (h : IsOrdered s history w) (hrun : Run Errand.task s history w)
    (hsound : IsSound history w) {k : Nat} {ready : Shared → Bool} {next : Errand.Rest}
    (hk : w.tasks[k]? = some (.wait ready next)) :
    IsOrdered s (history ++ [(.resume k, w.continued k next)]) (w.continued k next) := by
  have hplace := hsound.places _ (List.mem_of_getElem? hk)
  -- the task is a variable here, so that its place can be split into cases
  generalize htask : Task.wait ready next = task at hplace hk
  cases hplace with
  | done result => cases htask
  | putting t =>
    obtain ⟨-, rfl⟩ := Task.wait.inj htask
    have hperm : w.putting.Perm (t :: (w.continued k (Errand.enqueuing t)).putting) :=
      perm_putting_of_set hk _
    refine h.snoc hrun [t] (drop_queued_enqueue rfl t) (List.append_nil _)
      (h.inLine.enqueue t) (List.forall_mem_singleton.2 ?_) fun _ hlength => ?_
    · rw [acceptedBy, List.append_nil]
      refine hsound.accurate.accounts.genuine t (List.mem_append_left _ (List.mem_append_left _ ?_))
      exact hperm.mem_iff.2 List.mem_cons_self
    · -- no other ticket waited
      have hnone : (w.continued k (Errand.enqueuing t)).putting = [] := by
        rw [← List.length_eq_zero_iff]
        have hsum := hperm.length_eq
        rw [List.length_cons] at hsum
        omega
      rw [hnone] at hperm ⊢
      rw [List.perm_singleton.1 hperm]
      exact ⟨Nat.zero_le 1, rfl⟩
  | awaiting index waiting =>
    obtain ⟨-, rfl⟩ := Task.wait.inj htask
    obtain ⟨result, hreporting⟩ := Errand.untilWait_reporting index w.shared
    rw [continued, hreporting]
    refine h.snoc_kept hrun
      (drop_queued_of_eq (queued_mapProcessor_clearReported w.shared index)) (List.append_nil _) rfl
      (h.inLine.clearReported index) ?_
    obtain ⟨before, after, htasks, hset⟩ := exists_around hk
    change (w.tasks.set k (.done result)).filterMap _ = w.tasks.filterMap _
    rw [hset, htasks]
    simp [List.filterMap_cons]

/-- What happens next keeps the order. -/
lemma IsOrdered.step (h : IsOrdered s history w) (hrun : Run Errand.task s history w)
    (hsound : IsSound history w) (hstep : Step Errand.task w event w') :
    IsOrdered s (history ++ [(event, w')]) w' := by
  cases hstep with
  | start errand =>
    cases errand with
    | submit r => exact h.submit hrun hsound r
    | await index => exact h.await hrun index
  | resume hk hready => exact h.resume hrun hsound hk
  | reply hk answer =>
    -- no errand stands at a call
    cases hsound.places _ (List.mem_of_getElem? hk)
  | take hi hqueue => exact h.snoc_kept hrun rfl rfl rfl (h.inLine.takeBatch hi hqueue) rfl
  | answer hi hcall answer =>
    exact h.snoc_kept hrun rfl rfl rfl (h.inLine.answered hsound.accurate hi hcall answer) rfl
  | forget hdone =>
    exact h.snoc_kept hrun rfl (List.append_nil _) rfl (h.inLine.forget _) rfl

/-- Along a run with one worker the tickets stand in line. -/
lemma Run.isOrdered (hunused : s.processor.IsUnused) (hquiet : s.processor.HasQuietMonitors)
    (hworkers : s.processor.limits.workers = 1) (hrun : Run Errand.task s history w) :
    IsOrdered s history w := by
  induction hrun with
  | begin => exact isOrdered_begin hunused hworkers
  | snoc hrun hstep ih => exact ih.step hrun (hrun.isSound hunused hquiet) hstep

/-! ## The order of what is sent -/

/-- Requests have been sent as they are when they are carried out at once and nothing fails: the
calls carry the same requests in the same order, and the service reads the same from them. -/
structure SentAsAtOnce (history : History) (requests : List WorkRequest) : Prop where
  requests_eq : (sent history).map Ticket.request = requests
  atOnce : ∀ {ω : Type} (serve : ω → Call → Answer × ω) (s : Shared) (outside : ω),
    s.processor.HasQuietMonitors →
    ((Execution.runNow requests).transcript serve s outside).result = .ok () →
    ∃ work refreshing, Carry work ((sent history).map Ticket.request) ∧
      (refreshing = [] ∨ refreshing = [refreshCall (refreshedIndexes requests)]) ∧
      ((Execution.runNow requests).transcript serve s outside).calls.map Prod.fst =
        work ++ refreshing ∧
      ((∀ r ∈ requests, r.IsRegular) → deliveries? (workCalls history) = deliveries? work)

/-- What has been sent is in order: it is the beginning of what has entered the queue, each ticket
once, and all of it once the queue is drained. -/
structure KeepsOrder (s : Shared) (history : History) (w : OfErrands) : Prop where
  /-- The calls, but for those to refresh, carry the requests that have been sent. -/
  carried : Carry (workCalls history) ((sent history).map Ticket.request)
  /-- The tickets that have entered the queue are those of requests that were submitted. -/
  genuine : ∀ t ∈ entered s history, (accepted history)[t.serial]? = some t.request
  /-- No ticket has entered the queue twice. -/
  once : ((entered s history).map Ticket.serial).Nodup
  /-- What has been sent has entered the queue first, in the same order. -/
  order : sent history <+: entered s history
  /-- Once the queue is drained, everything has been sent. -/
  drained : w.shared.processor.unfinished = 0 → sent history = entered s history
  /-- Requests that were submitted in turn have been sent then as they are sent at once. -/
  atOnce : InTurn s history → w.putting = [] → w.shared.processor.unfinished = 0 →
    SentAsAtOnce history (accepted history)

/-- Where nothing is left to do, a worker has sent all that it has taken. -/
lemma IsOrdered.sent_eq (h : IsOrdered s history w) (hsound : IsSound history w)
    (hdrained : w.shared.processor.unfinished = 0) : sent history = entered s history := by
  have hcounted := hsound.accurate.counted
  have hqueued : w.shared.processor.queued = [] := List.length_eq_zero_iff.1 (by omega)
  have htaken : w.shared.processor.taken = [] := List.length_eq_zero_iff.1 (by omega)
  have hunsent : w.shared.processor.workers.flatMap Worker.unsent = [] := by
    refine List.flatMap_eq_nil_iff.2 fun worker hworker => ?_
    have hbatch := List.flatMap_eq_nil_iff.1 htaken worker hworker
    exact List.subset_nil.1 (hbatch ▸ (hsound.accurate.sound worker hworker).unsent_subset)
  have hline := h.inLine.line
  rw [hqueued, hunsent, List.append_nil, List.append_nil] at hline
  exact hline

/-- No ticket has entered the queue twice. -/
lemma IsOrdered.once (h : IsOrdered s history w) (hsound : IsSound history w) :
    ((entered s history).map Ticket.serial).Nodup := by
  have hperm : (sent history ++ (w.shared.processor.queued ++
      w.shared.processor.workers.flatMap Worker.unsent)).Perm (entered s history) := by
    rw [← h.inLine.line, List.append_assoc]
    exact List.perm_append_comm.append_left _
  have hsublist : (sent history ++ (w.shared.processor.queued ++
      w.shared.processor.workers.flatMap Worker.unsent)).Sublist (sent history ++
        (w.putting ++ w.shared.processor.queued ++
          w.shared.processor.workers.flatMap Worker.unsent)) := by
    rw [List.append_assoc]
    exact (List.sublist_append_right _ _).append_left _
  exact (hperm.map _).nodup_iff.1
    (hsound.accurate.accounts.sentOnce.sublist (hsublist.map Ticket.serial))

/-- **One worker keeps the order.**  Whatever the interleaving of tasks that submit and await
requests, the limits of the queue and of calls, and the answers of the service: with one worker the
requests that have been sent are the beginning of those that have entered the queue, each once, and
all of them once the queue is drained.  A list of requests that is submitted in turn is then sent as
it is sent at once. -/
theorem one_worker_keeps_order {s : Shared} (hunused : s.processor.IsUnused)
    (hquiet : s.processor.HasQuietMonitors) (hworkers : s.processor.limits.workers = 1)
    {history : History} {w : OfErrands} (hrun : Run Errand.task s history w) :
    KeepsOrder s history w := by
  have hordered := hrun.isOrdered hunused hquiet hworkers
  have hsound := hrun.isSound hunused hquiet
  refine ⟨hordered.carried, hordered.genuine, hordered.once hsound, ?_, hordered.sent_eq hsound,
    fun hturn hnone hdrained => ?_⟩
  · rw [← hordered.inLine.line, List.append_assoc]
    exact List.prefix_append _ _
  · have hrequests : (sent history).map Ticket.request = accepted history := by
      obtain ⟨-, haccepted⟩ := hordered.turns hturn
      rwa [hnone, List.append_nil, ← hordered.sent_eq hsound hdrained] at haccepted
    refine ⟨hrequests, fun serve s' outside hquiet' hok => ?_⟩
    obtain ⟨work, refreshing, hwork, hrefreshing, hcalls⟩ :=
      carry_of_runNow_ok serve (accepted history) s' outside hquiet' hok
    rw [← hrequests] at hwork
    refine ⟨work, refreshing, hwork, hrefreshing, hcalls, fun hregular => ?_⟩
    rw [← hrequests] at hregular
    rw [hordered.carried.deliveries?_eq hregular, hwork.deliveries?_eq hregular]

/-- The answer to a bulk call of which all items are taken. -/
def allTaken (count : Nat) : Answer :=
  .reply 200 (.json (.object [("items",
    .list (List.replicate count (.object [("index", .object [])])))]))

/-- Two writes that are submitted in turn, of which the second one waits for room in the queue, are
sent in two calls and in order; at once they are sent in one. -/
theorem one_worker_keeps_order_full_queue :
    let request (id : String) := Operation.write "books" false none ⟨"book", id, none⟩ []
    let s := Shared.fresh ⟨1, 100, 1⟩ default
    let atOnce := (Execution.runNow [request "1", request "2"]).transcript
      (fun _ _ => (allTaken 2, ())) s ()
    ∃ history w, Run Errand.task s history w ∧ accepted history = [request "1", request "2"] ∧
      InTurn s history ∧ w.putting = [] ∧ w.shared.processor.unfinished = 0 ∧
      workCalls history = [bulkCall [request "1"], bulkCall [request "2"]] ∧
      atOnce.result = .ok () ∧
      atOnce.calls.map Prod.fst = [bulkCall [request "1", request "2"]] ∧
      KeepsOrder s history w := by
  intro request s atOnce
  let first : Ticket := ⟨0, 0, request "1"⟩
  let second : Ticket := ⟨1, 0, request "2"⟩
  let stage (queue : Queue) (worker : Worker) (pending : List Nat) (outcomes : List Outcome)
      (last : Errand.Rest) : OfErrands :=
    ⟨{ s with processor :=
        ⟨⟨1, 100, 1⟩, 0, some queue, [worker], [("books", ⟨0, pending⟩)], 1, outcomes, [], []⟩ },
      [.done (.ok (some first)), last]⟩
  have hbegin : Run Errand.task s [] ⟨s, []⟩ := .begin
  have hfirst := hbegin.snoc (.start (Errand.submit (request "1")))
  have hsecond : Run Errand.task s _ (stage ⟨[first], 1, 0⟩ .idle [0, 1] [.waiting, .waiting]
      (Errand.putting second)) := hfirst.snoc (.start (Errand.submit (request "2")))
  have htaken : Run Errand.task s _ (stage ⟨[], 1, 0⟩ (.sending [first] [] [first] []) [0, 1]
      [.waiting, .waiting] (Errand.putting second)) := hsecond.snoc (.take (i := 0) rfl rfl)
  have hqueued : Run Errand.task s _ (stage ⟨[second], 2, 0⟩ (.sending [first] [] [first] []) [0, 1]
      [.waiting, .waiting] (.done (.ok (some second)))) :=
    htaken.snoc (.resume_putting (k := 1) (t := second) rfl rfl)
  have hanswered : Run Errand.task s _ (stage ⟨[second], 1, 0⟩ .idle [0, 1]
      [.acknowledged, .waiting] (.done (.ok (some second)))) :=
    hqueued.snoc (.answer (i := 0) rfl rfl (allTaken 1))
  have htaken' : Run Errand.task s _ (stage ⟨[], 1, 0⟩ (.sending [second] [] [second] []) [0, 1]
      [.acknowledged, .waiting] (.done (.ok (some second)))) :=
    hanswered.snoc (.take (i := 0) rfl rfl)
  have hrun : Run Errand.task s _ (stage ⟨[], 0, 1⟩ .idle [0, 1]
      [.acknowledged, .acknowledged] (.done (.ok (some second)))) :=
    htaken'.snoc (.answer (i := 0) rfl rfl (allTaken 1))
  refine ⟨_, _, hrun, rfl, ?_, rfl, rfl, rfl, rfl, rfl,
    one_worker_keeps_order ⟨rfl, rfl, rfl, rfl⟩ (fun _ _ => rfl) rfl hrun⟩
  -- no ticket waits when the writes are submitted, and nothing is submitted later
  refine List.forall_mem_cons.2 ⟨fun _ => rfl, List.forall_mem_cons.2 ⟨fun _ => rfl, ?_⟩⟩
  simp [steps, acceptedBy]

end World

end SearchIndex
