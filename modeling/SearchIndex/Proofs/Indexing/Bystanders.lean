/-
# Bystanders of a refresh

A worker refreshes the indexes of a batch in one call, and only after all of its groups have been
sent.  Until then the tickets that the service has accepted wait as acknowledged ones, and with them
those whose requests ask for no refresh.

The main result, `World.isSpared_iff_not_unrefreshed`, says what comes of that for every
interleaving, provided that no monitor raises an error of its own.  Once no worker holds it any
longer, a ticket that the service has accepted is acknowledged, and has no failure to its account,
exactly if the refresh of its batch has not been refused.  Whether its own request asks for a
refresh has no part in that, so a refusal for one index fails requests for others
(`World.not_isSpared_of_refusal`).
-/
import SearchIndex.Proofs.Indexing.Reporting
import SearchIndex.Proofs.Indexing.Visibility

namespace SearchIndex

open Processor

namespace Worker

/-- The tickets that the service accepts with the answer to the call of their group. -/
def passing (answer : Answer) : Worker → List Ticket
  | sending _ _ group _ =>
    succeededBy group
      ((judgeGroup (group.map Ticket.request) answer).failures (group.map Ticket.request))
  | refreshing _ _ | idle | dead => []

/-- The acknowledged tickets of a batch that an answer refuses to refresh. -/
def unrefreshed (answer : Answer) : Worker → List Ticket
  | refreshing _ acknowledged =>
    let call := refreshCall (batchIndexes acknowledged)
    match answer.judge call.method call.path [] with
    | .ok _ => []
    | .error _ => acknowledged
  | sending _ _ _ _ | idle | dead => []

variable {worker : Worker} {answer : Answer} {t : Ticket}

/-- A ticket whose batch is not refreshed fails. -/
lemma exists_failing_of_unrefreshed (ht : t ∈ worker.unrefreshed answer) :
    ∃ failure, (t, failure) ∈ worker.failing answer := by
  cases worker with
  | refreshing batch acknowledged =>
    cases hjudge : answer.judge (refreshCall (batchIndexes acknowledged)).method
        (refreshCall (batchIndexes acknowledged)).path [] with
    | ok response =>
      simp only [unrefreshed, hjudge] at ht
      exact absurd ht List.not_mem_nil
    | error failure =>
      simp only [unrefreshed, hjudge] at ht
      refine ⟨failure, ?_⟩
      simp only [failing, hjudge]
      exact List.mem_map_of_mem ht
  | sending batch acknowledged group rest => exact absurd ht List.not_mem_nil
  | idle => exact absurd ht List.not_mem_nil
  | dead => exact absurd ht List.not_mem_nil

lemma sublist_acknowledged (worker : Worker) : worker.acknowledged.Sublist worker.undecided := by
  cases worker with
  | sending batch acknowledged group rest =>
    exact (List.sublist_append_left _ _).trans (List.sublist_append_left _ _)
  | refreshing batch acknowledged => exact .refl _
  | idle => exact .slnil
  | dead => exact .slnil

end Worker

/-! ## What becomes of accepted tickets -/

namespace Processor

variable {p p' : Processor} {i : Nat} {worker : Worker} {answer : Answer} {t : Ticket}
  {putting : List Ticket}

/-- A ticket that the service has accepted is in good hands: a worker has it among its acknowledged
ones, or has acknowledged it. -/
def IsKept (p : Processor) (t : Ticket) : Prop :=
  (∃ worker ∈ p.workers, t ∈ worker.acknowledged) ∨ p.outcome t.serial = .acknowledged

/-- A ticket is acknowledged with others, unless it is done. -/
lemma outcome_acknowledge_of_mem {batch : List Ticket} (hknows : p.Knows batch) (ht : t ∈ batch)
    (hnot : ¬ p.IsDone t.serial) : (p.acknowledge batch).outcome t.serial = .acknowledged := by
  have hdone : (p.acknowledge batch).IsDone t.serial :=
    (isDone_acknowledge hknows t.serial).2 (Or.inr ⟨t, ht, rfl⟩)
  cases houtcome : (p.acknowledge batch).outcome t.serial with
  | waiting =>
    rw [IsDone, houtcome] at hdone
    cases hdone
  | acknowledged => rfl
  | failed failure =>
    rw [outcome_acknowledge_eq_failed_iff hknows] at houtcome
    rw [IsDone, houtcome] at hnot
    exact absurd rfl hnot

namespace IsOrderly

/-- With quiet monitors the tickets that an answer fails do fail. -/
lemma fails_failEach (h : p.IsOrderly putting) (hquiet : p.HasQuietMonitors)
    (hi : p.workers[i]? = some worker) (answer : Answer) :
    (p.failEach (worker.failing answer)).2 = false ∧
      p.Fails (worker.failing answer) (p.failEach (worker.failing answer)).1 := by
  have hworker := List.mem_of_getElem? hi
  rcases failEach_failing_cases (h.workers worker hworker) (h.knows_batch hworker)
    (h.distinct_batch hi) answer with hfails | ⟨-, before, t, failure, later, -, hhalts⟩
  · exact hfails
  · exact absurd hhalts (Answered.not_halts hquiet)

/-- The answer to the call of a group fails none of the tickets that the service has accepted. -/
lemma serial_ne_of_mem_failing (h : p.IsOrderly putting) {batch acknowledged group : List Ticket}
    {rest : List (List Ticket)}
    (hi : p.workers[i]? = some (.sending batch acknowledged group rest)) {x : FailedTicket}
    (hx : x ∈ Worker.failing answer (.sending batch acknowledged group rest))
    (ht : t ∈ acknowledged ++ Worker.passing answer (.sending batch acknowledged group rest)) :
    x.1.serial ≠ t.serial := by
  have hdistinct : ((acknowledged ++ group ++ rest.flatten).map Ticket.serial).Nodup :=
    (h.distinct_batch hi).sublist ((h.workers _ (List.mem_of_getElem? hi)).within.map _)
  rw [List.map_append, List.map_append] at hdistinct
  obtain ⟨-, hgroup, hapart⟩ := List.nodup_append.1 hdistinct.of_append_left
  rcases List.mem_append.1 ht with ht | ht
  · have hfailed : x.1.serial ∈ group.map Ticket.serial :=
      List.mem_map_of_mem ((sublist_failedBy group _).subset (List.mem_map_of_mem hx))
    exact (hapart _ (List.mem_map_of_mem ht) _ hfailed).symm
  · exact disjoint_failedBy_succeededBy hgroup x hx t ht

/-- A group has been sent, and what the service accepted of it is kept with the rest. -/
lemma isKept_answered_sending (h : p.IsOrderly putting) (hquiet : p.HasQuietMonitors)
    {batch acknowledged group : List Ticket} {rest : List (List Ticket)}
    (hi : p.workers[i]? = some (.sending batch acknowledged group rest)) (answer : Answer)
    (ht : t ∈ acknowledged ++ Worker.passing answer (.sending batch acknowledged group rest)) :
    (p.answered i answer).IsKept t := by
  let worker : Worker := .sending batch acknowledged group rest
  let kept := acknowledged ++ worker.passing answer
  obtain ⟨hraised, hfails⟩ := h.fails_failEach hquiet hi answer
  let p' := (p.failEach (worker.failing answer)).1
  have hafter : p.onAnswer i answer = p'.proceed i batch kept rest := by
    rw [onAnswer_sending hi answer rfl]
    exact if_neg (hraised ▸ Bool.false_ne_true)
  have hlt : i < p.workers.length := (List.getElem?_eq_some_iff.1 hi).1
  have hset (next : Worker) : next ∈ (p'.setWorker i next).workers := by
    rw [setWorker, hfails.progresses.workers_eq]
    exact List.mem_set hlt next
  change (p.onAnswer i answer).IsKept t
  rw [hafter]
  cases rest with
  | cons next rest => exact Or.inl ⟨.sending batch kept next rest, hset _, ht⟩
  | nil =>
    rw [proceed]
    -- without an index to refresh the worker acknowledges the tickets at once
    by_cases hnone : (batchIndexes kept).isEmpty = true
    · have hworker := List.mem_of_getElem? hi
      have hwithin : (acknowledged ++ worker.passing answer).Sublist worker.undecided := by
        refine List.Sublist.trans ?_ (List.sublist_append_left _ _)
        exact (sublist_succeededBy group _).append_left acknowledged
      have hnot : ¬ p'.IsDone t.serial := by
        rintro hdone
        rcases (hfails.isDone_iff t.serial).1 hdone with hdone | ⟨x, hx, heq⟩
        · exact (h.workers worker hworker).undone t (hwithin.subset ht) hdone
        · exact h.serial_ne_of_mem_failing hi hx ht heq
      rw [if_pos hnone]
      exact Or.inr (outcome_acknowledge_of_mem (h.knows_acknowledged hi hfails hwithin) ht hnot)
    · rw [if_neg hnone]
      exact Or.inl ⟨.refreshing batch kept, hset _, ht⟩

/-- A refresh has been answered, and what it has not failed is acknowledged. -/
lemma isKept_answered_refreshing (h : p.IsOrderly putting) {batch acknowledged : List Ticket}
    (hi : p.workers[i]? = some (.refreshing batch acknowledged)) (answer : Answer)
    (ht : t ∈ acknowledged) :
    (p.answered i answer).IsKept t ∨
      t ∈ Worker.unrefreshed answer (.refreshing batch acknowledged) := by
  cases hjudge : answer.judge (refreshCall (batchIndexes acknowledged)).method
      (refreshCall (batchIndexes acknowledged)).path [] with
  | ok response =>
    have hafter : p.onAnswer i answer = (p.acknowledge acknowledged).finish i batch .idle := by
      simp only [onAnswer, hi, hjudge]
    have hworker := List.mem_of_getElem? hi
    have hknows : p.Knows acknowledged := fun t ht =>
      h.knows_batch hworker t ((h.workers _ hworker).within.subset ht)
    refine Or.inl (Or.inr ?_)
    change (p.onAnswer i answer).outcome t.serial = _
    rw [hafter]
    exact outcome_acknowledge_of_mem hknows ht ((h.workers _ hworker).undone t ht)
  | error failure =>
    refine Or.inr ?_
    simp only [Worker.unrefreshed, hjudge]
    exact ht

/-- An answer takes no accepted ticket out of good hands, unless it refuses to refresh its batch. -/
lemma isKept_answered (h : p.IsOrderly putting) (hquiet : p.HasQuietMonitors)
    (hi : p.workers[i]? = some worker) (hcall : (awaitedCall? worker).isSome) (answer : Answer)
    (ht : p.IsKept t ∨ t ∈ worker.passing answer) :
    (p.answered i answer).IsKept t ∨ t ∈ worker.unrefreshed answer := by
  -- what this worker holds it keeps, and all others stay as they are
  have hheld (ht : t ∈ worker.acknowledged ++ worker.passing answer) :
      (p.answered i answer).IsKept t ∨ t ∈ worker.unrefreshed answer := by
    cases worker with
    | sending batch acknowledged group rest =>
      exact Or.inl (h.isKept_answered_sending hquiet hi answer ht)
    | refreshing batch acknowledged =>
      exact h.isKept_answered_refreshing hi answer ((List.append_nil acknowledged) ▸ ht)
    | idle => cases hcall
    | dead => cases hcall
  rcases ht with (⟨other, hother, ht⟩ | hdone) | ht
  · obtain ⟨j, hj⟩ := List.getElem?_of_mem hother
    by_cases hij : i = j
    · subst hij
      obtain rfl := Option.some.inj (hi.symm.trans hj)
      exact hheld (List.mem_append_left _ ht)
    · obtain ⟨next, acknowledged, hturned⟩ := exists_turns hi hcall answer
      have hstays : (p.answered i answer).workers[j]? = some other := by
        change (p.onAnswer i answer).workers[j]? = some other
        rw [hturned.workers_eq, List.getElem?_set_ne hij, hj]
      exact Or.inl (Or.inl ⟨other, List.mem_of_getElem? hstays, ht⟩)
  · obtain ⟨next, acknowledged, hturned⟩ := exists_turns hi hcall answer
    have hisDone : p.IsDone t.serial := by
      rw [IsDone, hdone]
      rfl
    exact Or.inl (Or.inr ((hturned.settles.outcome_eq t.serial hisDone).trans hdone))
  · exact hheld (List.mem_append_right _ ht)

end IsOrderly

namespace IsKept

/-- Good hands stay good where the workers that hold acknowledged tickets stay, and outcomes do. -/
lemma congr (h : p.IsKept t)
    (hworkers : ∀ worker ∈ p.workers, t ∈ worker.acknowledged → worker ∈ p'.workers)
    (houtcome : p'.outcome t.serial = p.outcome t.serial) : p'.IsKept t := by
  rcases h with ⟨worker, hworker, ht⟩ | hdone
  · exact Or.inl ⟨worker, hworkers worker hworker ht, ht⟩
  · exact Or.inr (houtcome.trans hdone)

lemma register (h : p.IsKept t) (r : WorkRequest) : (p.start.register r).1.IsKept t := by
  refine h.congr (fun worker hworker _ => ?_) (outcome_register p.start r t.serial)
  have hsome : p.workers.isEmpty = false :=
    List.isEmpty_eq_false_iff.2 (List.ne_nil_of_mem hworker)
  change worker ∈ p.start.workers
  rw [start, hsome]
  exact hworker

lemma clearReported (h : p.IsKept t) (scope : Option String) :
    (p.clearReported scope).IsKept t := by
  refine h.congr (fun worker hworker _ => ?_) (outcome_clearReported p scope t.serial)
  rwa [workers_clearReported]

/-- Only a worker that holds nothing takes a batch. -/
lemma takeBatch (h : p.IsKept t) (hi : p.workers[i]? = some .idle)
    (hqueue : p.isQueueEmpty = false) : (p.takeBatch i).IsKept t := by
  obtain ⟨q, batch, left, group, rest, -, -, -, htake⟩ := takeBatch_eq i hqueue
  refine h.congr (fun worker hworker ht => ?_) (by rw [htake]; rfl)
  obtain ⟨j, hj⟩ := List.getElem?_of_mem hworker
  have hij : i ≠ j := by
    rintro rfl
    obtain rfl := Option.some.inj (hi.symm.trans hj)
    exact absurd ht List.not_mem_nil
  rw [htake]
  refine List.mem_of_getElem? (i := j) ?_
  rw [setWorker, List.getElem?_set_ne hij, hj]

end IsKept

end Processor

/-! ## Worlds -/

namespace World

variable {s : Shared} {history : History} {w w' : OfErrands} {event : Event Errand} {t : Ticket}

/-- The tickets that an answer concerns in some way, if the event is an answer to a worker. -/
def ticketsAt (concerned : Answer → Worker → List Ticket) (w : OfErrands) :
    Event Errand → List Ticket
  | .answer i answer => ((w.shared.processor.workers[i]?).map (concerned answer)).getD []
  | .start _ | .resume _ | .reply _ _ | .take _ | .forget _ => []

/-- The tickets that answers have concerned in some way, in order. -/
def ticketsOf (concerned : Answer → Worker → List Ticket) (s : Shared) (history : History) :
    List Ticket :=
  (transitions ⟨s, []⟩ history).flatMap fun x => ticketsAt concerned x.1 x.2.1

/-- The tickets that the service has accepted, in order. -/
def passed : Shared → History → List Ticket := ticketsOf Worker.passing

/-- The accepted tickets whose batches the service has refused to refresh, in order. -/
def unrefreshed : Shared → History → List Ticket := ticketsOf Worker.unrefreshed

lemma ticketsOf_snoc (hrun : Run Errand.task s history w)
    (concerned : Answer → Worker → List Ticket) (event : Event Errand) (w' : OfErrands) :
    ticketsOf concerned s (history ++ [(event, w')]) =
      ticketsOf concerned s history ++ ticketsAt concerned w event := by
  simp [ticketsOf, transitions_snoc, hrun.last_eq]

/-- What has been accepted stays so. -/
lemma mem_passed_snoc (hrun : Run Errand.task s history w) (ht : t ∈ passed s history)
    (event : Event Errand) (w' : OfErrands) : t ∈ passed s (history ++ [(event, w')]) := by
  rw [passed, ticketsOf_snoc hrun]
  exact List.mem_append_left _ ht

/-- What has become of the tickets that the service has accepted. -/
structure IsFair (s : Shared) (history : History) (w : OfErrands) : Prop where
  kept : ∀ t ∈ passed s history, w.shared.processor.IsKept t ∨ t ∈ unrefreshed s history
  refused : ∀ t ∈ unrefreshed s history, ∃ failure, (t, failure) ∈ failed s history

/-- Accepted tickets stay in good hands, whatever happens, and become so by an answer. -/
lemma Happens.isKept (horderly : w.shared.processor.IsOrderly w.putting)
    (hquiet : w.shared.processor.HasQuietMonitors) (h : Happens w event w')
    (ht : w.shared.processor.IsKept t ∨ t ∈ ticketsAt Worker.passing w event) :
    w'.shared.processor.IsKept t ∨ t ∈ ticketsAt Worker.unrefreshed w event := by
  cases h with
  | queues r => exact Or.inl ((ht.resolve_right List.not_mem_nil).register r)
  | lingers r => exact Or.inl ((ht.resolve_right List.not_mem_nil).register r)
  | awaits scope => exact Or.inl (ht.resolve_right List.not_mem_nil)
  | reports scope hnone => exact Or.inl ((ht.resolve_right List.not_mem_nil).clearReported scope)
  | puts hk => exact Or.inl (ht.resolve_right List.not_mem_nil)
  | goesOn hk hdone => exact Or.inl ((ht.resolve_right List.not_mem_nil).clearReported _)
  | takes hi hqueue => exact Or.inl ((ht.resolve_right List.not_mem_nil).takeBatch hi hqueue)
  | answers hi hcall answer =>
    rw [ticketsAt, hi] at ht ⊢
    exact horderly.isKept_answered hquiet hi hcall answer ht
  | forgets hdone => exact Or.inl (ht.resolve_right List.not_mem_nil)

/-- What answers refuse to refresh fails. -/
lemma exists_failedAt_of_unrefreshed (ht : t ∈ ticketsAt Worker.unrefreshed w event) :
    ∃ failure, (t, failure) ∈ w.failedAt event := by
  cases event with
  | answer i answer =>
    rw [ticketsAt] at ht
    rw [failedAt]
    cases hi : w.shared.processor.workers[i]? with
    | none => simp [hi] at ht
    | some worker =>
      rw [hi] at ht
      exact Worker.exists_failing_of_unrefreshed ht
  | start errand => exact absurd ht List.not_mem_nil
  | resume k => exact absurd ht List.not_mem_nil
  | reply k answer => exact absurd ht List.not_mem_nil
  | take i => exact absurd ht List.not_mem_nil
  | forget t => exact absurd ht List.not_mem_nil

lemma Run.isFair (hunused : s.processor.IsUnused) (hquiet : s.processor.HasQuietMonitors)
    (hrun : Run Errand.task s history w) : IsFair s history w := by
  induction hrun with
  | begin => exact ⟨fun t ht => absurd ht List.not_mem_nil, fun t ht => absurd ht List.not_mem_nil⟩
  | @snoc history w w' event hrun hstep ih =>
    have horder := hrun.isInOrder hunused
    have hstays (t : Ticket) := (horder.happens hstep).isKept (t := t) horder.orderly
      (hrun.isSound hunused hquiet).accurate.quiet
    refine ⟨fun t ht => ?_, fun t ht => ?_⟩
    · rw [passed, ticketsOf_snoc hrun, List.mem_append] at ht
      rw [unrefreshed, ticketsOf_snoc hrun, List.mem_append]
      rcases ht with ht | ht
      · rcases ih.kept t ht with hkept | hrefused
        · exact (hstays t (Or.inl hkept)).imp_right Or.inr
        · exact Or.inr (Or.inl hrefused)
      · exact (hstays t (Or.inr ht)).imp_right Or.inr
    · rw [unrefreshed, ticketsOf_snoc hrun, List.mem_append] at ht
      rw [failed_snoc hrun]
      rcases ht with ht | ht
      · obtain ⟨failure, hfailed⟩ := ih.refused t ht
        exact ⟨failure, List.mem_append_left _ hfailed⟩
      · obtain ⟨failure, hfailed⟩ := exists_failedAt_of_unrefreshed ht
        exact ⟨failure, List.mem_append_right _ hfailed⟩

/-- A ticket comes out well: it is acknowledged, and no failure is told or recorded for it. -/
structure IsSpared (s : Shared) (history : History) (w : OfErrands) (t : Ticket) : Prop where
  acknowledged : w.shared.processor.outcome t.serial = .acknowledged
  unblamed : ∀ failure, (t, failure) ∉ failed s history

/-- **Who is spared by a refusal to refresh.**  Whatever the interleaving of tasks, workers, answers
of the service and callbacks, with monitors that raise no error: a ticket that the service has
accepted and that no worker holds any longer is spared if and only if the refresh of its batch has
not been refused.  Nothing else is told to monitors and recorded of failures than what has failed
(`IsTallied`, `IsCarried`). -/
theorem isSpared_iff_not_unrefreshed (hunused : s.processor.IsUnused)
    (hnone : s.processor.failures = []) (hquiet : s.processor.HasQuietMonitors)
    (hrun : Run Errand.task s history w) {t : Ticket} (ht : t ∈ passed s history)
    (hover : t ∉ w.shared.processor.taken) :
    (IsSpared s history w t ↔ t ∉ unrefreshed s history) ∧
      IsTallied s history w ∧ ∃ notices still, IsCarried s history w notices still := by
  have htallied := hrun.isTallied hunused hnone hquiet
  have hfair := hrun.isFair hunused hquiet
  refine ⟨⟨fun hspared hrefused => ?_, fun hnot => ?_⟩, htallied,
    hrun.exists_isCarried hunused hnone hquiet⟩
  · obtain ⟨failure, hfailed⟩ := hfair.refused t hrefused
    exact hspared.unblamed failure hfailed
  · have hdone : w.shared.processor.outcome t.serial = .acknowledged := by
      rcases (hfair.kept t ht).resolve_right hnot with ⟨worker, hworker, hmem⟩ | hdone
      -- what a worker has acknowledged is among the tickets that it has taken
      · have horderly := (hrun.isInOrder hunused).orderly.workers worker hworker
        have hbatch := (worker.sublist_acknowledged.trans horderly.within).subset hmem
        exact absurd (List.mem_flatMap.2 ⟨worker, hworker, hbatch⟩) hover
      · exact hdone
    refine ⟨hdone, fun failure hfailed => ?_⟩
    have houtcome := (htallied.resolved t.serial failure).2 ⟨t, hfailed, rfl⟩
    cases hdone.symm.trans houtcome

/-! ### Two writes in one batch -/

/-- A write that asks for no refresh. -/
def archived : Ticket := ⟨0, 0, Operation.write "archive" false none ⟨"book", "1", none⟩ []⟩

/-- A write to another index, which asks for a refresh. -/
def lent : Ticket := ⟨1, 1, Operation.write "library" true none ⟨"book", "2", none⟩ []⟩

/-- Both writes have been submitted to one worker. -/
def twoWrites (queue : Queue) (worker : Worker) : OfErrands :=
  ⟨{ Shared.fresh ⟨1, 100, 0⟩ default with
      processor := ⟨⟨1, 100, 0⟩, 0, some queue, [worker],
        [("archive", ⟨0, [0]⟩), ("library", ⟨1, [1]⟩)], 2, [.waiting, .waiting], [], []⟩ },
    [.done (.ok (some archived)), .done (.ok (some lent))]⟩

/-- The service accepts both writes in one call, and the worker goes on to refresh. -/
lemma exists_run_twoWrites :
    let s := Shared.fresh ⟨1, 100, 0⟩ default
    ∃ history, Run Errand.task s history
        (twoWrites ⟨[], 2, 0⟩ (.refreshing [archived, lent] [archived, lent])) ∧
      passed s history = [archived, lent] ∧ unrefreshed s history = [] := by
  intro s
  let item : Json := .object [("index", .object [("status", .int 201)])]
  let bothAccepted : Answer := .reply 200 (.json (.object [("items", .list [item, item])]))
  have hbegin : Run Errand.task s [] ⟨s, []⟩ := .begin
  have harchived := hbegin.snoc (.start (Errand.submit archived.request))
  simp only [started_submit, List.nil_append] at harchived
  have hlent : Run Errand.task s _ (twoWrites ⟨[archived, lent], 2, 0⟩ .idle) :=
    harchived.snoc (.start (Errand.submit lent.request))
  have htaken : Run Errand.task s _
      (twoWrites ⟨[], 2, 0⟩ (.sending [archived, lent] [] [archived, lent] [])) :=
    hlent.snoc (.take (i := 0) rfl rfl)
  have hsent : Run Errand.task s _
      (twoWrites ⟨[], 2, 0⟩ (.refreshing [archived, lent] [archived, lent])) :=
    htaken.snoc (.answer (i := 0) rfl rfl bothAccepted)
  exact ⟨_, hsent, rfl, rfl⟩

/-- The refresh is accepted, and the write that asked for none is spared. -/
theorem isSpared_of_refresh :
    let s := Shared.fresh ⟨1, 100, 0⟩ default
    ∃ history w, Run Errand.task s history w ∧ archived ∈ passed s history ∧
      w.shared.processor.taken = [] ∧ IsSpared s history w archived := by
  intro s
  obtain ⟨history, hrun, hpassed, hnone⟩ := exists_run_twoWrites
  have hrefreshed := hrun.snoc (.answer (i := 0) rfl rfl (.reply 200 .empty))
  have harchived : archived ∈ passed s history := hpassed ▸ List.mem_cons_self
  refine ⟨_, _, hrefreshed, mem_passed_snoc hrun harchived _ _, rfl, ?_⟩
  refine (isSpared_iff_not_unrefreshed ⟨rfl, rfl, rfl, rfl⟩ rfl (fun _ _ => rfl) hrefreshed
    (mem_passed_snoc hrun harchived _ _) List.not_mem_nil).1.2 ?_
  rw [unrefreshed, ticketsOf_snoc hrun, ← unrefreshed, hnone]
  exact List.not_mem_nil

/-- The refresh is refused, and the write that asked for none fails with it, though its index was
not to be refreshed. -/
theorem not_isSpared_of_refusal :
    let s := Shared.fresh ⟨1, 100, 0⟩ default
    let failure := Failure.remote (.status "POST" "/library/_refresh") 503 .null
    ∃ history w, Run Errand.task s history w ∧ archived ∈ passed s history ∧
      archived.request.refresh = false ∧ w.shared.processor.taken = [] ∧
      w.shared.processor.outcome archived.serial = .failed failure ∧
      w.shared.processor.recorded archived.request.index = [failure] ∧
      ¬ IsSpared s history w archived := by
  intro s failure
  obtain ⟨history, hrun, hpassed, -⟩ := exists_run_twoWrites
  have hrefused := hrun.snoc (.answer (i := 0) rfl rfl (.reply 503 .empty))
  have harchived : archived ∈ passed s history := hpassed ▸ List.mem_cons_self
  refine ⟨_, _, hrefused, mem_passed_snoc hrun harchived _ _, rfl, rfl, rfl, rfl,
    fun hspared => ?_⟩
  cases hspared.acknowledged

end World

end SearchIndex
