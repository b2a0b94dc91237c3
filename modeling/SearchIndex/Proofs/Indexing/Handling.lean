/-
# Handling a batch

A worker that lets go of a batch should leave every ticket of it done, should have recorded the
failure of each failed one once, and should be ready for the next batch (`World.IsHandled`).  The
main result, `isHandled_iff_calm`, says exactly when that is so, for monitors of any kind: if and
only if no monitor has raised an error at the last answer.

An error of a monitor comes between recording a failure and failing the ticket.  So the ticket fails
again with the error of the monitor, and has two failures recorded for it; if a monitor raises a
second error at that, the worker is dead and tickets of its batch are never done.
-/
import SearchIndex.Proofs.Indexing.Happenings

namespace SearchIndex

/-- The failure of a ticket that has failed. -/
def Outcome.failure? : Outcome → Option Failure
  | failed failure => some failure
  | waiting | acknowledged => none

lemma Outcome.failure?_eq_none_of_not_isDone {outcome : Outcome} (h : ¬ outcome.isDone = true) :
    outcome.failure? = none := by
  cases outcome with
  | waiting => rfl
  | acknowledged => exact absurd rfl h
  | failed failure => exact absurd rfl h

namespace Processor

variable {p p' : Processor} {batch : List Ticket} {failed : List FailedTicket} {index : String}

/-- The failures of the tickets of a batch that are for an index and have failed. -/
def failuresAmong (p : Processor) (index : String) (batch : List Ticket) : List Failure :=
  batch.filterMap fun t =>
    if t.request.index = index then (p.outcome t.serial).failure? else none

lemma failuresAmong_congr
    (h : ∀ t ∈ batch, (p'.outcome t.serial).failure? = (p.outcome t.serial).failure?) :
    p'.failuresAmong index batch = p.failuresAmong index batch :=
  List.filterMap_congr fun t ht => by rw [h t ht]

lemma failuresAmong_eq_nil (h : ∀ t ∈ batch, ¬ p.IsDone t.serial) :
    p.failuresAmong index batch = [] := by
  refine List.filterMap_eq_nil_iff.2 fun t ht => ?_
  rw [Outcome.failure?_eq_none_of_not_isDone (h t ht), ite_self]

lemma failuresAmong_acknowledge {acknowledged : List Ticket} (hknows : p.Knows acknowledged)
    (batch : List Ticket) :
    (p.acknowledge acknowledged).failuresAmong index batch = p.failuresAmong index batch := by
  refine failuresAmong_congr fun t _ => Option.ext fun failure => ?_
  have hfailure (outcome : Outcome) :
      outcome.failure? = some failure ↔ outcome = .failed failure := by
    cases outcome <;> simp [Outcome.failure?]
  rw [hfailure, hfailure, outcome_acknowledge_eq_failed_iff hknows]

/-- The failures of tickets that have failed, read from their outcomes. -/
lemma failuresAmong_map_fst (h : ∀ x ∈ failed, p.outcome x.1.serial = .failed x.2) :
    p.failuresAmong index (failed.map Prod.fst) = failuresOn index failed := by
  induction failed with
  | nil => rfl
  | cons x rest ih =>
    obtain ⟨hfirst, hrest⟩ := List.forall_mem_cons.1 h
    have htail := ih hrest
    rw [failuresAmong, failuresOn] at htail ⊢
    rw [List.map_cons, List.filterMap_cons, hfirst, htail]
    by_cases hindex : x.1.request.index = index
    · simp [hindex, Outcome.failure?]
    · simp [hindex]

/-- Some tickets of a batch that were not done have failed, and nothing has become of the others. -/
lemma perm_failuresAmong (hwithin : (failed.map Prod.fst).Sublist batch)
    (hdistinct : (batch.map Ticket.serial).Nodup) (hundone : ∀ x ∈ failed, ¬ p.IsDone x.1.serial)
    (houtcome : ∀ x ∈ failed, p'.outcome x.1.serial = .failed x.2)
    (hothers : ∀ n, (∀ x ∈ failed, x.1.serial ≠ n) → p'.outcome n = p.outcome n) :
    (p'.failuresAmong index batch).Perm
      (p.failuresAmong index batch ++ failuresOn index failed) := by
  obtain ⟨rest, hperm⟩ := hwithin.exists_perm_append
  have hsplit (q : Processor) : (q.failuresAmong index batch).Perm
      (q.failuresAmong index (failed.map Prod.fst) ++ q.failuresAmong index rest) := by
    rw [failuresAmong, failuresAmong, failuresAmong, ← List.filterMap_append]
    exact hperm.filterMap _
  have hbefore : p.failuresAmong index (failed.map Prod.fst) = [] := by
    refine failuresAmong_eq_nil fun t ht => ?_
    obtain ⟨x, hx, rfl⟩ := List.mem_map.1 ht
    exact hundone x hx
  have hrest : p'.failuresAmong index rest = p.failuresAmong index rest := by
    refine failuresAmong_congr fun t ht => congrArg _ (hothers t.serial fun x hx heq => ?_)
    -- the failed tickets have other numbers than the rest of the batch
    have hnodup := (hperm.map Ticket.serial).nodup_iff.1 hdistinct
    rw [List.map_append] at hnodup
    exact (List.nodup_append.1 hnodup).2.2 _ (List.mem_map_of_mem (List.mem_map_of_mem hx)) _
      (List.mem_map_of_mem ht) heq
  have hold := hsplit p
  rw [hbefore, List.nil_append] at hold
  have hnew := hsplit p'
  rw [failuresAmong_map_fst houtcome, hrest] at hnew
  exact hnew.trans (List.perm_append_comm.trans (hold.symm.append_right _))

/-- The failures of a batch, once some of the tickets that an answer fails have failed. -/
lemma IsOrderly.perm_failuresAmong {putting : List Ticket} {i : Nat} {worker : Worker}
    {answer : Answer} {later : List FailedTicket} (h : p.IsOrderly putting)
    (hi : p.workers[i]? = some worker) (hsplit : worker.failing answer = failed ++ later)
    (houtcome : ∀ x ∈ failed, p'.outcome x.1.serial = .failed x.2)
    (hothers : ∀ n, (∀ x ∈ failed, x.1.serial ≠ n) → p'.outcome n = p.outcome n) :
    (p'.failuresAmong index worker.batch).Perm
      (p.failuresAmong index worker.batch ++ failuresOn index failed) := by
  have horderly := h.workers worker (List.mem_of_getElem? hi)
  have hundecided : (failed.map Prod.fst).Sublist worker.undecided := by
    refine List.Sublist.trans ?_ (Worker.sublist_failing answer worker)
    rw [hsplit]
    exact (List.sublist_append_left failed later).map Prod.fst
  refine Processor.perm_failuresAmong (hundecided.trans horderly.within) (h.distinct_batch hi)
    (fun x hx => ?_) houtcome hothers
  exact horderly.undone x.1 (hundecided.subset (List.mem_map_of_mem hx))

end Processor

namespace World

variable {s : Shared} {history : History} {w w' : OfErrands} {event : Event Errand} {i : Nat}
  {index : String}

/-! ## What a worker records -/

/-- The failures that worker `i` has recorded for an index in its batch, after one more transition,
given those before it. -/
def noteAt (i : Nat) (index : String) (noted : List Failure) :
    OfErrands × Event Errand × OfErrands → List Failure
  | (_, .take j, _) => if j = i then [] else noted
  | (w, .answer j _, w') =>
    if j = i then
      noted ++ (w'.shared.processor.recorded index).drop
        (w.shared.processor.recorded index).length
    else noted
  | (_, .start _, _) | (_, .resume _, _) | (_, .reply _ _, _) | (_, .forget _, _) => noted

/-- The failures that worker `i` has recorded for an index since it has taken its last batch. -/
def noted (s : Shared) (i : Nat) (index : String) (history : History) : List Failure :=
  (transitions ⟨s, []⟩ history).foldl (noteAt i index) []

lemma noted_snoc (hrun : Run Errand.task s history w) (event : Event Errand) (w' : OfErrands) :
    noted s i index (history ++ [(event, w')]) =
      noteAt i index (noted s i index history) (w, event, w') := by
  rw [noted, transitions_snoc, hrun.last_eq, List.foldl_concat]
  rfl

/-- What a worker has recorded while it handles a batch are the failures of tickets of the batch. -/
def IsNoted (s : Shared) (history : History) (w : OfErrands) : Prop :=
  ∀ (i : Nat) (worker : Worker), w.shared.processor.workers[i]? = some worker →
    (Processor.awaitedCall? worker).isSome → ∀ index,
    (noted s i index history).Perm (w.shared.processor.failuresAmong index worker.batch)

/-- Nothing happens to batches. -/
lemma IsNoted.congr (h : IsNoted s history w) {history' : History}
    (hworkers : ∀ (i : Nat) (worker : Worker), w'.shared.processor.workers[i]? = some worker →
      (Processor.awaitedCall? worker).isSome → w.shared.processor.workers[i]? = some worker)
    (houtcome : ∀ n, w'.shared.processor.outcome n = w.shared.processor.outcome n)
    (hnoted : ∀ i index, noted s i index history' = noted s i index history) :
    IsNoted s history' w' := by
  intro i worker hi hcall index
  rw [hnoted, Processor.failuresAmong_congr fun t _ => congrArg _ (houtcome t.serial)]
  exact h i worker (hworkers i worker hi hcall) hcall index

/-- Workers that are started wait for tickets. -/
lemma getElem?_workers_start (p : Processor) (i : Nat) (worker : Worker)
    (hi : p.start.workers[i]? = some worker) (hcall : (Processor.awaitedCall? worker).isSome) :
    p.workers[i]? = some worker := by
  by_cases hnone : p.workers = []
  · have hstarted : p.start.workers = List.replicate p.limits.workers .idle := by
      simp [Processor.start, hnone]
    rw [hstarted] at hi
    obtain rfl := List.eq_of_mem_replicate (List.mem_of_getElem? hi)
    cases hcall
  · have hsame : p.start.workers = p.workers := by simp [Processor.start, hnone]
    rwa [hsame] at hi

/-- A worker that takes a batch has recorded nothing in it. -/
lemma IsNoted.take (h : IsNoted s history w) (hrun : Run Errand.task s history w)
    (horderly : w.shared.processor.IsOrderly w.putting)
    (hi : w.shared.processor.workers[i]? = some .idle)
    (hqueue : w.shared.processor.isQueueEmpty = false) :
    IsNoted s (history ++ [(.take i, w.worked (w.shared.processor.takeBatch i))])
      (w.worked (w.shared.processor.takeBatch i)) := by
  intro j worker hj hcall index
  have hafter := horderly.takeBatch hi hqueue
  have hworker := hafter.workers worker (List.mem_of_getElem? hj)
  obtain ⟨q, batch, left, group, rest, hq, htickets, hgroups, htake⟩ :=
    Processor.takeBatch_eq i hqueue
  have hworkers : (w.shared.processor.takeBatch i).workers =
      w.shared.processor.workers.set i (.sending batch [] group rest) := by
    rw [htake]
    rfl
  have houtcome (n : Nat) :
      (w.shared.processor.takeBatch i).outcome n = w.shared.processor.outcome n := by
    rw [htake]
    rfl
  rw [worked, hworkers] at hj
  rw [noted_snoc hrun, noteAt]
  by_cases hij : i = j
  · subst hij
    have hlt : i < w.shared.processor.workers.length := (List.getElem?_eq_some_iff.1 hi).1
    rw [List.getElem?_set_self hlt] at hj
    obtain rfl := Option.some.inj hj
    have hundone : ∀ t ∈ batch, ¬ (w.shared.processor.takeBatch i).IsDone t.serial :=
      fun t ht => hworker.undone t (hgroups.symm ▸ ht)
    rw [if_pos rfl]
    exact .of_eq (Processor.failuresAmong_eq_nil hundone).symm
  · rw [List.getElem?_set_ne hij] at hj
    rw [if_neg hij]
    refine (h j worker hj hcall index).trans (.of_eq ?_)
    exact (Processor.failuresAmong_congr fun t _ => congrArg _ (houtcome t.serial)).symm

/-- What worker `i` records for an index at an answer. -/
lemma noted_answer (hrun : Run Errand.task s history w) {answer : Answer} {p : Processor}
    {more : List Failure}
    (hrecorded : p.recorded index = w.shared.processor.recorded index ++ more) :
    noted s i index (history ++ [(.answer i answer, w.worked p)]) =
      noted s i index history ++ more := by
  rw [noted_snoc hrun, noteAt, if_pos rfl, worked, hrecorded, List.drop_left]

/-- A worker that goes on after an answer has recorded what has failed by it. -/
lemma IsNoted.answer (h : IsNoted s history w) (hrun : Run Errand.task s history w)
    (horderly : w.shared.processor.IsOrderly w.putting) {worker : Worker}
    (hi : w.shared.processor.workers[i]? = some worker)
    (hcall : (Processor.awaitedCall? worker).isSome) (answer : Answer) :
    IsNoted s (history ++ [(.answer i answer, w.worked (w.shared.processor.answered i answer))])
      (w.worked (w.shared.processor.answered i answer)) := by
  intro j other hj hother index
  have hlt : i < w.shared.processor.workers.length := (List.getElem?_eq_some_iff.1 hi).1
  obtain ⟨next, hworkers, hgoesOn⟩ := horderly.exists_workers_answered hi hcall answer
  rw [worked, hworkers] at hj
  by_cases hij : i = j
  · subst hij
    rw [List.getElem?_set_self hlt] at hj
    obtain rfl := Option.some.inj hj
    obtain ⟨p', hfails, hbatch, hafter⟩ := hgoesOn hother
    have hrecorded : (w.shared.processor.answered i answer).recorded index =
        w.shared.processor.recorded index ++ failuresOn index (worker.failing answer) := by
      rw [← hfails.recorded_eq]
      change (w.shared.processor.onAnswer i answer).recorded index = _
      rw [hafter]
      rfl
    have hsame : (w.shared.processor.answered i answer).failuresAmong index next.batch =
        p'.failuresAmong index worker.batch := by
      rw [hbatch]
      change (w.shared.processor.onAnswer i answer).failuresAmong index worker.batch = _
      rw [hafter]
      rfl
    rw [noted_answer hrun hrecorded, worked, hsame]
    refine ((h i worker hi hcall index).append_right _).trans (List.Perm.symm ?_)
    exact horderly.perm_failuresAmong hi (List.append_nil _).symm hfails.outcome_eq
      hfails.outcome_of_ne
  · -- the other workers have nothing to do with the answer
    rw [List.getElem?_set_ne hij] at hj
    rw [noted_snoc hrun, noteAt, if_neg hij]
    refine (h j other hj hother index).trans (.of_eq ?_)
    refine (Processor.failuresAmong_congr fun t ht => congrArg _ ?_).symm
    exact horderly.outcome_answered_of_ne hi hcall answer fun t' ht' =>
      horderly.serial_ne_of_mem_batch hij hi hj t' ht' t ht

lemma Run.isNoted (hunused : s.processor.IsUnused) (hrun : Run Errand.task s history w) :
    IsNoted s history w := by
  induction hrun with
  | begin =>
    intro i worker hi
    rw [hunused.workers_eq] at hi
    cases hi
  | @snoc history w w' event hrun hstep ih =>
    have horder := hrun.isInOrder hunused
    cases horder.happens hstep with
    | queues r =>
      refine ih.congr ?_ (fun n => ?_) fun _ _ => noted_snoc hrun _ _
      · exact getElem?_workers_start w.shared.processor
      · exact Processor.outcome_register w.shared.processor.start r n
    | lingers r =>
      refine ih.congr ?_ (fun n => ?_) fun _ _ => noted_snoc hrun _ _
      · exact getElem?_workers_start w.shared.processor
      · exact Processor.outcome_register w.shared.processor.start r n
    | awaits scope =>
      exact ih.congr (fun _ _ hi _ => hi) (fun _ => rfl) fun _ _ => noted_snoc hrun _ _
    | reports scope hnone =>
      refine ih.congr (fun _ _ hi _ => ?_) (fun n => ?_) fun _ _ => noted_snoc hrun _ _
      · cases scope <;> exact hi
      · cases scope <;> rfl
    | puts hk => exact ih.congr (fun _ _ hi _ => hi) (fun _ => rfl) fun _ _ => noted_snoc hrun _ _
    | @goesOn k scope waiting hk hdone =>
      refine ih.congr (fun _ _ hi _ => ?_) (fun n => ?_) fun _ _ => noted_snoc hrun _ _
      · cases scope <;> exact hi
      · cases scope <;> rfl
    | takes hi hqueue => exact ih.take hrun horder.orderly hi hqueue
    | answers hi hcall answer => exact ih.answer hrun horder.orderly hi hcall answer
    | forgets hdone =>
      exact ih.congr (fun _ _ hi _ => hi) (fun _ => rfl) fun _ _ => noted_snoc hrun _ _

/-! ## Letting go of a batch -/

/-- Worker `i` has let go of a batch as it should. -/
structure IsHandled (s : Shared) (history : History) (w : OfErrands) (i : Nat)
    (batch : List Ticket) : Prop where
  /-- Every ticket of the batch is done. -/
  done : ∀ t ∈ batch, w.shared.processor.IsDone t.serial
  /-- The failure of each one that has failed has been recorded once, under its index. -/
  recordedOnce : ∀ index, (noted s i index history).Perm
    (w.shared.processor.failuresAmong index batch)
  /-- The worker waits for more tickets. -/
  idle : w.shared.processor.workers[i]? = some .idle

/-- The verdict on the whole batch has come, and no monitor has raised an error at it. -/
lemma IsNoted.isHandled (h : IsNoted s history w) (hrun : Run Errand.task s history w)
    (horderly : w.shared.processor.IsOrderly w.putting) {worker : Worker} {answer : Answer}
    (hi : w.shared.processor.workers[i]? = some worker)
    (hcall : (Processor.awaitedCall? worker).isSome) {p' after : Processor}
    {acknowledged : List Ticket}
    (hfails : w.shared.processor.Fails (worker.failing answer) p')
    (hwithin : acknowledged.Sublist worker.undecided)
    (hall : ∀ t ∈ worker.undecided,
      t ∈ (worker.failing answer).map Prod.fst ∨ t ∈ acknowledged)
    (houtcome : ∀ n, after.outcome n = (p'.acknowledge acknowledged).outcome n)
    (hrecorded : ∀ index, after.recorded index = p'.recorded index)
    (hidle : after.workers[i]? = some .idle) :
    IsHandled s (history ++ [(.answer i answer, w.worked after)]) (w.worked after) i
      worker.batch := by
  have hworker := List.mem_of_getElem? hi
  have hknows := horderly.knows_acknowledged hi hfails hwithin
  refine ⟨fun t ht => ?_, fun index => ?_, hidle⟩
  · rw [worked, Processor.IsDone, houtcome]
    refine (Processor.isDone_acknowledge hknows t.serial).2 ?_
    rcases (horderly.workers worker hworker).decided t ht with hdone | hundecided
    · exact Or.inl (hfails.progresses.isDone t.serial hdone)
    · refine (hall t hundecided).imp (fun hmem => ?_) fun hmem => ⟨t, hmem, rfl⟩
      obtain ⟨x, hx, rfl⟩ := List.mem_map.1 hmem
      exact (hfails.isDone_iff x.1.serial).2 (Or.inr ⟨x, hx, rfl⟩)
  · have hmore : after.recorded index =
        w.shared.processor.recorded index ++ failuresOn index (worker.failing answer) := by
      rw [hrecorded, hfails.recorded_eq]
    have hsame : after.failuresAmong index worker.batch =
        p'.failuresAmong index worker.batch := by
      rw [← Processor.failuresAmong_acknowledge hknows]
      exact Processor.failuresAmong_congr fun t _ => congrArg _ (houtcome t.serial)
    rw [noted_answer hrun hmore, worked, hsame]
    refine ((h i worker hi hcall index).append_right _).trans (List.Perm.symm ?_)
    exact horderly.perm_failuresAmong hi (List.append_nil _).symm hfails.outcome_eq
      hfails.outcome_of_ne

/-- The error of a monitor leaves a ticket with two failures that are recorded for it. -/
lemma IsNoted.not_isHandled (h : IsNoted s history w) (hrun : Run Errand.task s history w)
    (horderly : w.shared.processor.IsOrderly w.putting) {worker : Worker} {answer : Answer}
    (hi : w.shared.processor.workers[i]? = some worker)
    (hcall : (Processor.awaitedCall? worker).isSome) {p' p'' after : Processor}
    {before later : List FailedTicket} {t : Ticket} {failure : Failure}
    (hsplit : worker.failing answer = before ++ (t, failure) :: later)
    (hhalts : w.shared.processor.Halts before t failure p')
    (hfails : p'.Fails (p'.undone (worker.batch.map (·, .misfit .monitorFailed))) p'')
    (houtcome : ∀ n, after.outcome n = p''.outcome n)
    (hrecorded : ∀ index, after.recorded index = p''.recorded index) :
    ¬ IsHandled s (history ++ [(.answer i answer, w.worked after)]) (w.worked after) i
      worker.batch := by
  intro hhandled
  let rest := p'.undone (worker.batch.map (·, .misfit .monitorFailed))
  let index := t.request.index
  have hfirst : (p'.failuresAmong index worker.batch).Perm _ :=
    horderly.perm_failuresAmong hi hsplit hhalts.outcome_eq hhalts.outcome_of_ne
  have hrest : (rest.map Prod.fst).Sublist worker.batch := by
    refine (List.filter_sublist.map Prod.fst).trans ?_
    rw [Processor.map_fst_map_misfit]
  have hsecond : (p''.failuresAmong index worker.batch).Perm _ :=
    Processor.perm_failuresAmong hrest (horderly.distinct_batch hi)
      (fun x hx => (Processor.mem_undone.1 hx).2) hfails.outcome_eq hfails.outcome_of_ne
  have hmore : after.recorded index = w.shared.processor.recorded index ++
      (failuresOn index before ++ failuresOn index [(t, failure)] ++ failuresOn index rest) := by
    rw [hrecorded, hfails.recorded_eq, hhalts.recorded_eq]
    simp only [List.append_assoc, rest]
  have hself : failuresOn index [(t, failure)] = [failure] := by simp [failuresOn, index]
  have hsame : after.failuresAmong index worker.batch = p''.failuresAmong index worker.batch :=
    Processor.failuresAmong_congr fun t _ => congrArg _ (houtcome t.serial)
  -- the two lists would have to be equally long
  have hlength := (hhandled.recordedOnce index).length_eq
  have hnoted := (h i worker hi hcall index).length_eq
  have hlengthFirst := hfirst.length_eq
  have hlengthSecond := hsecond.length_eq
  rw [noted_answer hrun hmore, worked, hsame, hself] at hlength
  simp only [List.length_append, List.length_singleton] at hlength hlengthFirst hlengthSecond
  omega

/-- What monitors hear is all that matters to whether they are calm. -/
lemma isCalmUntil_congr {p p' after : Processor} (h : after.monitors = p'.monitors) :
    p.IsCalmUntil after ↔ p.IsCalmUntil p' := by
  have hmonitor (name : String) : after.monitor name = p'.monitor name := by
    rw [Processor.monitor, Processor.monitor, h]
  simp only [Processor.IsCalmUntil, hmonitor]

/-- **When a batch is handled as it should be.**  Whatever the interleaving of tasks, workers,
answers of the service and callbacks, and whatever the monitors: a worker that lets go of a batch
leaves all of it done, with each failure recorded once, and waits for the next batch, if and only if
no monitor has raised an error at the last answer. -/
theorem isHandled_iff_calm (hunused : s.processor.IsUnused) (hrun : Run Errand.task s history w)
    {answer : Answer} (hstep : Step Errand.task w (.answer i answer) w') {worker : Worker}
    (hi : w.shared.processor.workers[i]? = some worker)
    (hthrough : ∀ next, w'.shared.processor.workers[i]? = some next →
      Processor.awaitedCall? next = none) :
    IsHandled s (history ++ [(.answer i answer, w')]) w' i worker.batch ↔
      w.shared.processor.IsCalmUntil w'.shared.processor := by
  have horderly := (hrun.isInOrder hunused).orderly
  have hnoted := hrun.isNoted hunused
  have hworker := List.mem_of_getElem? hi
  have hlt : i < w.shared.processor.workers.length := (List.getElem?_eq_some_iff.1 hi).1
  have hset {p' : Processor} (hprogress : w.shared.processor.Progresses p') (next : Worker) :
      (p'.workers.set i next)[i]? = some next := by
    rw [hprogress.workers_eq, List.getElem?_set_self hlt]
  cases hstep with
  | answer hi' hcall answer =>
    obtain rfl := Option.some.inj (hi.symm.trans hi')
    have hanswered : w.shared.processor.answered i answer =
        { w.shared.processor.onAnswer i answer with pending := w.shared.processor.pending } := rfl
    cases horderly.answered_cases hi hcall answer with
    | moves hfails hbatch hwithin hfresh hall hbusy hafter =>
      have hnext := hthrough _ (by
        rw [worked, hanswered, hafter]
        exact hset hfails.progresses _)
      rw [hnext] at hbusy
      cases hbusy
    | @ends p' acknowledged hfails hwithin hall hafter =>
      have hknows := horderly.knows_acknowledged hi hfails hwithin
      have hsame := Processor.acknowledge_eq p' acknowledged
      refine iff_of_true (hnoted.isHandled hrun horderly hi hcall hfails hwithin hall
        (fun n => ?_) (fun index => ?_) ?_) ((isCalmUntil_congr ?_).2 hfails.calm)
      · rw [hanswered, hafter]
        rfl
      · rw [hanswered, hafter, hsame]
        rfl
      · rw [hanswered, hafter]
        exact hset (hfails.progresses.trans (Processor.acknowledge_spec hknows).1) .idle
      · rw [worked, hanswered, hafter, hsame]
        rfl
    | @recovers p' p'' before later t failure hsplit hhalts hfails hafter =>
      refine iff_of_false (hnoted.not_isHandled hrun horderly hi hcall hsplit hhalts hfails
        (fun n => ?_) fun index => ?_) fun hcalm => ?_
      · rw [hanswered, hafter]
        rfl
      · rw [hanswered, hafter]
        rfl
      · refine hhalts.not_calm_of_le hfails.heard_le ((isCalmUntil_congr ?_).1 hcalm)
        rw [worked, hanswered, hafter]
        rfl
    | @dies p' p'' before later others t other failure otherFailure hsplit hhalts hmem hothers
        hagain hafter =>
      refine iff_of_false (fun hhandled => ?_) fun hcalm => ?_
      · have hdead := hhandled.idle
        rw [worked, hanswered, hafter] at hdead
        cases hdead.symm.trans (hset (hhalts.progresses.trans hagain.progresses) .dead)
      · refine hhalts.not_calm_of_le hagain.heard_le ((isCalmUntil_congr ?_).1 hcalm)
        rw [worked, hanswered, hafter]
        rfl

/-- A write that the service refuses, where nobody listens. -/
theorem isHandled_iff_calm_refused :
    let s := Shared.fresh ⟨1, 100, 0⟩ default
    let request := Operation.write "books" false none ⟨"book", "1", none⟩ []
    ∃ history w w', Run Errand.task s history w ∧
      Step Errand.task w (.answer 0 (.reply 503 .empty)) w' ∧
      w'.shared.processor.recorded "books" = [.remote (.status "POST" "/_bulk") 503 .null] ∧
      IsHandled s (history ++ [(.answer 0 (.reply 503 .empty), w')]) w' 0 [⟨0, 0, request⟩] := by
  intro s request
  have hbegin : Run Errand.task s [] ⟨s, []⟩ := .begin
  have hsubmitted := hbegin.snoc (.start (.submit request))
  simp only [started_submit, List.nil_append] at hsubmitted
  have htaken := hsubmitted.snoc (.take (i := 0) rfl rfl)
  have hquiet : s.processor.HasQuietMonitors := fun _ _ => rfl
  refine ⟨_, _, _, htaken, .answer (i := 0) rfl rfl _, rfl, ?_⟩
  refine (isHandled_iff_calm ⟨rfl, rfl, rfl, rfl⟩ htaken (.answer (i := 0) rfl rfl _) rfl
    fun next hnext => ?_).2 (hquiet.isCalmUntil _)
  obtain rfl := Option.some.inj hnext
  rfl

/-- The same write with a monitor that raises an error at the first failure: two failures are
recorded for one request, and it fails with the second one. -/
theorem isHandled_not_of_flaky :
    let s := (Shared.fresh ⟨1, 100, 0⟩ default).mapProcessor fun p =>
      { p with monitors := [("flaky", .flaky)] }
    let request := Operation.write "books" false (some "flaky") ⟨"book", "1", none⟩ []
    ∃ history w w', Run Errand.task s history w ∧
      Step Errand.task w (.answer 0 (.reply 503 .empty)) w' ∧
      w.shared.processor.workers = [.sending [⟨0, 0, request⟩] [] [⟨0, 0, request⟩] []] ∧
      w'.shared.processor.workers = [.idle] ∧
      w'.shared.processor.recorded "books" =
        [.remote (.status "POST" "/_bulk") 503 .null, .misfit .monitorFailed] ∧
      w'.shared.processor.outcomes = [.failed (.misfit .monitorFailed)] ∧
      ¬ IsHandled s (history ++ [(.answer 0 (.reply 503 .empty), w')]) w' 0
        [⟨0, 0, request⟩] := by
  intro s request
  have hbegin : Run Errand.task s [] ⟨s, []⟩ := .begin
  have hsubmitted := hbegin.snoc (.start (.submit request))
  simp only [started_submit, List.nil_append] at hsubmitted
  have htaken := hsubmitted.snoc (.take (i := 0) rfl rfl)
  refine ⟨_, _, _, htaken, .answer (i := 0) rfl rfl _, rfl, rfl, rfl, rfl, fun hhandled => ?_⟩
  have hlength := (hhandled.recordedOnce "books").length_eq
  cases hlength

end World

end SearchIndex
