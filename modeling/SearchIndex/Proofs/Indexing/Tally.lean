/-
# What becomes of failures

The tickets that fail can be read from a history: each answer fails those that its verdict names
(`World.failed`).  With monitors that raise no error of their own, each of them is an accepted
request that fails once, each is told to its monitor once, and they are the ones whose outcome is a
failure (`World.Run.isTallied`).

What is recorded of failures changes in two ways only (`World.Happens.effect`): tickets fail and are
recorded under their indexes, or a task reports what is recorded of one index or of all.
-/
import SearchIndex.Proofs.Indexing.Happenings

namespace SearchIndex

/-- Whether the requests of an index are awaited when those of one index, or of all, are. -/
def covers (scope : Option String) (index : String) : Bool := scope.all (· == index)

namespace Processor

variable {p p' : Processor} {failed : List FailedTicket}

/-- Whoever awaits an index, or all, waits for what is pending there. -/
lemma mem_waitingTickets {index : String} {n : Nat} (hn : n ∈ p.pendingOf index)
    {scope : Option String} (hcovers : covers scope index = true) : n ∈ p.waitingTickets scope := by
  cases scope with
  | some own =>
    obtain rfl : own = index := by simpa [covers] using hcovers
    exact hn
  | none =>
    rw [pendingOf] at hn
    cases hset : Table.get? p.pending index with
    | none => simp [hset] at hn
    | some set =>
      rw [hset] at hn
      exact List.mem_flatMap.2 ⟨_, Table.mem_of_get?_eq_some hset, hn⟩

/-! ## What becomes of failures -/

/-- Tickets have failed, and no failure has been reported. -/
structure Adds (p : Processor) (failed : List FailedTicket) (p' : Processor) : Prop where
  recorded_eq : ∀ index, p'.recorded index = p.recorded index ++ failuresOn index failed
  monitor_eq : ∀ name, p'.monitor name = (p.monitor name).hear (heardBy name (toldTo failed))
  failed_iff : ∀ n failure, p'.outcome n = .failed failure ↔
    p.outcome n = .failed failure ∨ ∃ t, (t, failure) ∈ failed ∧ t.serial = n
  distinct : Table.IsDistinct p.failures → Table.IsDistinct p'.failures

lemma adds_of_eq (hfailures : p'.failures = p.failures) (hmonitors : p'.monitors = p.monitors)
    (houtcome : ∀ n, p'.outcome n = p.outcome n) : p.Adds [] p' where
  recorded_eq index := by simp [recorded, unreported, hfailures]
  monitor_eq name := by simp [monitor, hmonitors, toldTo, heardBy]
  failed_iff n failure := by simp [houtcome]
  distinct h := by rwa [hfailures]

/-- Tickets that were not done have failed. -/
lemma Fails.adds (h : p.Fails failed p') (hundone : ∀ x ∈ failed, ¬ p.IsDone x.1.serial) :
    p.Adds failed p' := by
  refine ⟨h.recorded_eq, h.monitor_eq, fun n failure => ⟨fun hfailure => ?_, ?_⟩, h.distinct⟩
  · by_cases hn : ∃ x ∈ failed, x.1.serial = n
    · obtain ⟨⟨t, other⟩, hx, rfl⟩ := hn
      obtain rfl : other = failure := by
        rw [h.outcome_eq _ hx] at hfailure
        exact Outcome.failed.inj hfailure
      exact Or.inr ⟨t, hx, rfl⟩
    · push Not at hn
      rw [h.outcome_of_ne n hn] at hfailure
      exact Or.inl hfailure
  · rintro (hfailure | ⟨t, ht, rfl⟩)
    · rw [h.outcome_of_ne, hfailure]
      rintro x hx rfl
      refine hundone x hx ?_
      rw [IsDone, hfailure]
      rfl
    · exact h.outcome_eq _ ht

/-- More happens, but not to failures. -/
lemma Adds.trans_eq {p'' : Processor} (h : p.Adds failed p')
    (hfailures : p''.failures = p'.failures) (hmonitors : p''.monitors = p'.monitors)
    (houtcome : ∀ n failure, p''.outcome n = .failed failure ↔ p'.outcome n = .failed failure) :
    p.Adds failed p'' where
  recorded_eq index := by
    rw [← h.recorded_eq, recorded, recorded, unreported, unreported, hfailures]
  monitor_eq name := by rw [← h.monitor_eq, monitor, monitor, hmonitors]
  failed_iff n failure := by rw [houtcome, h.failed_iff]
  distinct hdistinct := hfailures ▸ h.distinct hdistinct

/-- With quiet monitors, an answer does to failures what its verdict says. -/
lemma IsOrderly.adds {putting : List Ticket} {i : Nat} {worker : Worker}
    (h : p.IsOrderly putting) (hquiet : p.HasQuietMonitors) (hi : p.workers[i]? = some worker)
    (hcall : (awaitedCall? worker).isSome) (answer : Answer) :
    p.Adds (worker.failing answer) (p.answered i answer) := by
  have hworker := List.mem_of_getElem? hi
  have horderly := h.workers worker hworker
  have hundone (x : FailedTicket) (hx : x ∈ worker.failing answer) : ¬ p.IsDone x.1.serial :=
    horderly.undone x.1 ((Worker.sublist_failing answer worker).subset (List.mem_map_of_mem hx))
  suffices hafter : p.Adds (worker.failing answer) (p.onAnswer i answer) from
    hafter.trans_eq rfl rfl fun _ _ => Iff.rfl
  cases h.answered_cases hi hcall answer with
  | moves hfails hbatch hwithin hfresh hall hbusy hafter =>
    rw [hafter]
    exact (hfails.adds hundone).trans_eq rfl rfl fun _ _ => Iff.rfl
  | @ends p' acknowledged hfails hwithin hall hafter =>
    rw [hafter]
    have hknows := h.knows_acknowledged hi hfails hwithin
    have hsame := acknowledge_eq p' acknowledged
    refine (hfails.adds hundone).trans_eq ?_ ?_ fun n failure =>
      outcome_acknowledge_eq_failed_iff hknows n failure
    · change (p'.acknowledge acknowledged).failures = _
      rw [hsame]
    · change (p'.acknowledge acknowledged).monitors = _
      rw [hsame]
  | recovers hsplit hhalts hfails hafter => exact absurd hhalts (Answered.not_halts hquiet)
  | dies hsplit hhalts hmem hothers hagain hafter =>
    exact absurd hhalts (Answered.not_halts hquiet)

lemma recorded_clearReported (hdistinct : Table.IsDistinct p.failures) (scope : Option String)
    (index : String) :
    (p.clearReported scope).recorded index =
      if covers scope index then [] else p.recorded index := by
  cases scope with
  | none => rfl
  | some own =>
    by_cases hindex : own = index
    · subst hindex
      simp [covers, clearReported, unreported, Table.get?_erase_self hdistinct]
    · simp [covers, clearReported, unreported, Table.get?_erase_of_ne _ hindex, hindex]

lemma isDistinct_clearReported (hdistinct : Table.IsDistinct p.failures) (scope : Option String) :
    Table.IsDistinct (p.clearReported scope).failures := by
  cases scope with
  | none => exact List.nodup_nil
  | some index => exact Table.isDistinct_erase hdistinct index

lemma outcome_clearReported (p : Processor) (scope : Option String) (n : Nat) :
    (p.clearReported scope).outcome n = p.outcome n := by
  cases scope <;> rfl

lemma monitor_clearReported (p : Processor) (scope : Option String) (name : String) :
    (p.clearReported scope).monitor name = p.monitor name := by
  cases scope <;> rfl

end Processor

namespace World

variable {s : Shared} {history : History} {w w' : OfErrands} {event : Event Errand}

/-! ## Reading a history -/

/-- The tickets that fail at an event, each with the failure that an answer gives it. -/
def failedAt (w : OfErrands) : Event Errand → List FailedTicket
  | .answer i answer => ((w.shared.processor.workers[i]?).map (Worker.failing answer)).getD []
  | .start _ | .resume _ | .reply _ _ | .take _ | .forget _ => []

/-- The tickets that have failed, in order. -/
def failed (s : Shared) (history : History) : List FailedTicket :=
  (transitions ⟨s, []⟩ history).flatMap fun x => x.1.failedAt x.2.1

/-- The failure that a task has ended with. -/
def failureOf : Option Errand.Rest → List Failure
  | some (.done (.error failure)) => [failure]
  | _ => []

/-- The failure that a task has ended with at an event, given the world after it. -/
def raisedAt (w' : OfErrands) : Event Errand → List Failure
  | .start _ => failureOf w'.tasks.getLast?
  | .resume k | .reply k _ => failureOf w'.tasks[k]?
  | .take _ | .answer _ _ | .forget _ => []

/-- The failures that tasks have ended with, in order. -/
def raised (history : History) : List Failure := history.flatMap fun x => x.2.raisedAt x.1

/-- The errand that starts at an event. -/
def errand? : Event Errand → Option Errand
  | .start errand => some errand
  | .resume _ | .reply _ _ | .take _ | .answer _ _ | .forget _ => none

/-- The errands that have started, in order; each has the number of its task. -/
def errands (history : History) : List Errand := history.filterMap fun x => errand? x.1

/-- The requests that some errands submit, in order. -/
def requested (errands : List Errand) : List WorkRequest :=
  errands.filterMap fun
    | .submit r => some r
    | .await _ => none

lemma failed_snoc (hrun : Run Errand.task s history w) (event : Event Errand) (w' : OfErrands) :
    failed s (history ++ [(event, w')]) = failed s history ++ w.failedAt event := by
  simp [failed, transitions_snoc, hrun.last_eq]

lemma raised_snoc (history : History) (event : Event Errand) (w' : OfErrands) :
    raised (history ++ [(event, w')]) = raised history ++ w'.raisedAt event := by
  simp [raised]

lemma errands_snoc (history : History) (event : Event Errand) (w' : OfErrands) :
    errands (history ++ [(event, w')]) = errands history ++ (errand? event).toList := by
  cases event <;> simp [errands, errand?]

/-- The requests that have been accepted are those that errands submit. -/
lemma requested_errands (history : History) : requested (errands history) = accepted history := by
  induction history with
  | nil => rfl
  | cons x rest ih =>
    obtain ⟨event, w'⟩ := x
    rw [accepted, requested, errands] at ih ⊢
    rw [List.flatMap_cons, ← ih]
    cases event with
    | start errand => cases errand <;> rfl
    | resume k => rfl
    | reply k answer => rfl
    | take i => rfl
    | answer i answer => rfl
    | forget t => rfl

/-! ## What an event does to failures -/

/-- Either tickets fail and nothing is reported, or what is recorded of a scope is reported. -/
lemma Happens.effect (horderly : w.shared.processor.IsOrderly w.putting)
    (hquiet : w.shared.processor.HasQuietMonitors) (h : Happens w event w') :
    (w'.raisedAt event = [] ∧ w.shared.processor.Adds (w.failedAt event) w'.shared.processor) ∨
    ∃ scope, w.failedAt event = [] ∧
      w'.raisedAt event = failureOf (some (.done
        (Errand.reported scope (w.shared.processor.unreported scope)))) ∧
      w'.shared.processor = w.shared.processor.clearReported scope := by
  cases h with
  | queues r =>
    refine Or.inl ⟨by simp [raisedAt, failureOf], Processor.adds_of_eq rfl rfl fun n => ?_⟩
    exact Processor.outcome_register w.shared.processor.start r n
  | lingers r =>
    refine Or.inl ⟨by simp [raisedAt, failureOf, Errand.putting],
      Processor.adds_of_eq rfl rfl fun n => ?_⟩
    exact Processor.outcome_register w.shared.processor.start r n
  | awaits scope =>
    refine Or.inl ⟨by simp [raisedAt, failureOf, Errand.awaiting],
      Processor.adds_of_eq rfl rfl fun n => rfl⟩
  | reports scope hnone =>
    refine Or.inr ⟨scope, rfl, ?_, rfl⟩
    rw [raisedAt, List.getLast?_concat]
  | @puts k t hk =>
    have hlt : k < w.tasks.length := (List.getElem?_eq_some_iff.1 hk).1
    refine Or.inl ⟨?_, Processor.adds_of_eq rfl rfl fun n => rfl⟩
    rw [raisedAt, List.getElem?_set_self hlt]
    rfl
  | @goesOn k scope waiting hk hdone =>
    have hlt : k < w.tasks.length := (List.getElem?_eq_some_iff.1 hk).1
    refine Or.inr ⟨scope, rfl, ?_, rfl⟩
    rw [raisedAt, List.getElem?_set_self hlt]
  | takes hi hqueue =>
    obtain ⟨q, batch, left, group, rest, hq, htickets, hgroups, htake⟩ :=
      Processor.takeBatch_eq _ hqueue
    refine Or.inl ⟨rfl, ?_⟩
    rw [worked, htake]
    exact Processor.adds_of_eq rfl rfl fun n => rfl
  | answers hi hcall answer =>
    refine Or.inl ⟨rfl, ?_⟩
    rw [failedAt, hi]
    exact horderly.adds hquiet hi hcall answer
  | forgets hdone => exact Or.inl ⟨rfl, Processor.adds_of_eq rfl rfl fun n => rfl⟩

/-- What is done stays so. -/
lemma Happens.isDone (horderly : w.shared.processor.IsOrderly w.putting) (h : Happens w event w')
    {n : Nat} (hdone : w.shared.processor.IsDone n) : w'.shared.processor.IsDone n := by
  have hregister (r : WorkRequest) :
      (w.shared.processor.start.register r).1.IsDone n := by
    rw [Processor.IsDone, Processor.outcome_register]
    exact hdone
  have hcleared (scope : Option String) : (w.shared.processor.clearReported scope).IsDone n := by
    rw [Processor.IsDone, Processor.outcome_clearReported]
    exact hdone
  cases h with
  | queues r => exact hregister r
  | lingers r => exact hregister r
  | awaits scope => exact hdone
  | reports scope hnone => exact hcleared scope
  | puts hk => exact hdone
  | goesOn hk hall => exact hcleared _
  | takes hi hqueue =>
    obtain ⟨q, batch, left, group, rest, hq, htickets, hgroups, htake⟩ :=
      Processor.takeBatch_eq _ hqueue
    rw [worked, htake]
    exact hdone
  | answers hi hcall answer => exact horderly.isDone_answered hi hcall answer hdone
  | forgets hall => exact hdone

/-- The tickets that fail at an event have been taken by a worker and are not done, and they have
different numbers. -/
lemma failedAt_spec (horderly : w.shared.processor.IsOrderly w.putting) (event : Event Errand) :
    (∀ x ∈ w.failedAt event, x.1 ∈ w.held ∧ ¬ w.shared.processor.IsDone x.1.serial) ∧
      ((w.failedAt event).map fun x => x.1.serial).Nodup := by
  cases event with
  | answer i answer =>
    rw [failedAt]
    cases hi : w.shared.processor.workers[i]? with
    | none => simp
    | some worker =>
      have hworker := List.mem_of_getElem? hi
      have hundecided := Worker.sublist_failing answer worker
      have hbatch := hundecided.trans (horderly.workers worker hworker).within
      refine ⟨fun x hx => ⟨List.mem_append_right _ (List.mem_flatMap.2 ⟨worker, hworker, ?_⟩),
        (horderly.workers worker hworker).undone x.1 (hundecided.subset ?_)⟩, ?_⟩
      · exact hbatch.subset (List.mem_map_of_mem hx)
      · exact List.mem_map_of_mem hx
      · have hnodup := (horderly.distinct_batch hi).sublist (hbatch.map Ticket.serial)
        rwa [List.map_map] at hnodup
  | start errand => simp [failedAt]
  | resume k => simp [failedAt]
  | reply k answer => simp [failedAt]
  | take i => simp [failedAt]
  | forget t => simp [failedAt]

/-! ## Each failure once -/

/-- What has become of the tickets that have failed. -/
structure IsTallied (s : Shared) (history : History) (w : OfErrands) : Prop where
  once : ((failed s history).map fun x => x.1.serial).Nodup
  genuine : ∀ x ∈ failed s history, (accepted history)[x.1.serial]? = some x.1.request
  resolved : ∀ n failure, w.shared.processor.outcome n = .failed failure ↔
    ∃ t, (t, failure) ∈ failed s history ∧ t.serial = n
  told : ∀ name, w.shared.processor.monitor name =
    (s.processor.monitor name).hear (Processor.heardBy name (toldTo (failed s history)))
  distinct : Table.IsDistinct w.shared.processor.failures

lemma isTallied_begin (hunused : s.processor.IsUnused) (hnone : s.processor.failures = []) :
    IsTallied s [] (⟨s, []⟩ : OfErrands) := by
  refine ⟨List.nodup_nil, by simp [failed, transitions], fun n failure => ?_, fun name => ?_, ?_⟩
  · simp [failed, transitions, Processor.outcome, hunused.outcomes_eq]
  · simp [failed, transitions, toldTo, Processor.heardBy]
  · rw [hnone]
    exact List.nodup_nil

lemma Run.isTallied (hunused : s.processor.IsUnused) (hnone : s.processor.failures = [])
    (hquiet : s.processor.HasQuietMonitors) (hrun : Run Errand.task s history w) :
    IsTallied s history w := by
  induction hrun with
  | begin => exact isTallied_begin hunused hnone
  | @snoc history w w' event hrun hstep ih =>
    have hsound := hrun.isSound hunused hquiet
    have horder := hrun.isInOrder hunused
    obtain ⟨hspec, hnodup⟩ := failedAt_spec horder.orderly event
    have hfailed := failed_snoc hrun event w'
    rcases (horder.happens hstep).effect horder.orderly hsound.accurate.quiet with
      ⟨-, hadds⟩ | ⟨scope, hempty, -, hclear⟩
    · refine ⟨?_, fun x hx => getElem?_accepted_snoc ?_, fun n failure => ?_, fun name => ?_,
        hadds.distinct ih.distinct⟩
      · -- what has failed before is done, and what fails now is not
        rw [hfailed, List.map_append]
        refine List.nodup_append.2 ⟨ih.once, hnodup, ?_⟩
        rintro n hn m hm rfl
        obtain ⟨⟨t, failure⟩, ht, rfl⟩ := List.mem_map.1 hn
        obtain ⟨x, hx, heq⟩ := List.mem_map.1 hm
        refine (hspec x hx).2 ?_
        rw [heq, Processor.IsDone, (ih.resolved _ _).2 ⟨t, ht, rfl⟩]
        rfl
      · rw [hfailed] at hx
        rcases List.mem_append.1 hx with hx | hx
        · exact ih.genuine x hx
        · exact hsound.accurate.accounts.genuine x.1 (hspec x hx).1
      · rw [hadds.failed_iff, ih.resolved, hfailed]
        simp only [List.mem_append, or_and_right, exists_or]
      · rw [hadds.monitor_eq, ih.told, Monitor.hear_hear, hfailed, toldTo_append, heardBy_append]
    · rw [hempty, List.append_nil] at hfailed
      refine ⟨?_, fun x hx => getElem?_accepted_snoc (ih.genuine x (hfailed ▸ hx)),
        fun n failure => ?_, fun name => ?_, ?_⟩
      · rw [hfailed]
        exact ih.once
      · rw [hclear, Processor.outcome_clearReported, ih.resolved, hfailed]
      · rw [hclear, Processor.monitor_clearReported, ih.told, hfailed]
      · rw [hclear]
        exact Processor.isDistinct_clearReported ih.distinct scope

end World

end SearchIndex
