/-
# What an answer does to a batch

A worker judges its batch answer by answer.  The tickets about which nothing has been decided yet
are none of them done, and those are all of the batch that is not done (`Worker.IsOrderly`).

An answer fails some of them (`Worker.failing`).  Unless a monitor raises an error at that, they
have failed for good, and the worker goes on with the others or lets go of the batch, all of which
is done then.  If a monitor does raise an error, the whole rest of the batch is failed with that;
the worker dies if it happens again.  `onAnswer_cases` says that there is nothing else.

`Processor.IsOrderly` says of all tickets of a processor that each is in one place and not done
before a worker decides about it.  Whatever the monitors do, every transition keeps that.
-/
import SearchIndex.Proofs.Indexing.Failing

namespace SearchIndex

open Processor

namespace Worker

/-- The tickets of a worker's batch about which nothing has been decided. -/
def undecided : Worker → List Ticket
  | sending _ acknowledged group rest => acknowledged ++ group ++ rest.flatten
  | refreshing _ acknowledged => acknowledged
  | idle | dead => []

/-- The tickets that an answer fails, each with its failure: those of a group that it does not
accept, and all that are acknowledged if it refuses to refresh. -/
def failing (answer : Answer) : Worker → List FailedTicket
  | sending _ _ group _ =>
    failedBy group
      ((judgeGroup (group.map Ticket.request) answer).failures (group.map Ticket.request))
  | refreshing _ acknowledged =>
    let call := refreshCall (batchIndexes acknowledged)
    match answer.judge call.method call.path [] with
    | .ok _ => []
    | .error failure => acknowledged.map (·, failure)
  | idle | dead => []

/-- The tickets of a batch are undecided or done, and not both. -/
structure IsOrderly (p : Processor) (worker : Worker) : Prop where
  within : worker.undecided.Sublist worker.batch
  undone : ∀ t ∈ worker.undecided, ¬ p.IsDone t.serial
  decided : ∀ t ∈ worker.batch, p.IsDone t.serial ∨ t ∈ worker.undecided

variable {p p' : Processor} {worker : Worker} {answer : Answer}

lemma isOrderly_idle : IsOrderly p .idle := ⟨.slnil, by simp [undecided], by simp [batch]⟩

lemma isOrderly_dead : IsOrderly p .dead := ⟨.slnil, by simp [undecided], by simp [batch]⟩

/-- What becomes of other tickets does not matter. -/
lemma IsOrderly.congr (h : worker.IsOrderly p)
    (hsame : ∀ t ∈ worker.batch, p'.IsDone t.serial ↔ p.IsDone t.serial) : worker.IsOrderly p' where
  within := h.within
  undone t ht := mt (hsame t (h.within.subset ht)).1 (h.undone t ht)
  decided t ht := (h.decided t ht).imp_left (hsame t ht).2

lemma sublist_failing (answer : Answer) (worker : Worker) :
    ((worker.failing answer).map Prod.fst).Sublist worker.undecided := by
  cases worker with
  | idle => exact .slnil
  | dead => exact .slnil
  | sending batch acknowledged group rest =>
    have hgroup : group.Sublist (acknowledged ++ group ++ rest.flatten) :=
      (List.sublist_append_right _ _).trans (List.sublist_append_left _ _)
    exact (sublist_failedBy _ _).trans hgroup
  | refreshing batch acknowledged =>
    rw [failing]
    split
    · exact List.nil_sublist _
    · rw [List.map_map]
      exact (List.map_id _).symm ▸ List.Sublist.refl acknowledged

end Worker

namespace Processor

variable {p p' : Processor} {i : Nat} {worker : Worker} {answer : Answer}

/-! ## Acknowledging -/

lemma isDone_resolve {t : Ticket} (hlt : t.serial < p.outcomes.length) {outcome : Outcome}
    (hdone : outcome.isDone = true) (n : Nat) :
    (p.resolve t outcome).IsDone n ↔ p.IsDone n ∨ n = t.serial := by
  by_cases hn : n = t.serial
  · subst hn
    rw [IsDone, outcome_resolve hlt, if_pos rfl]
    simp [hdone]
  · rw [IsDone, outcome_resolve hlt, if_neg hn]
    simp [IsDone, hn]

/-- Acknowledged tickets are done, and no other ticket has become so. -/
lemma isDone_acknowledge {batch : List Ticket} (hknows : p.Knows batch) (n : Nat) :
    (p.acknowledge batch).IsDone n ↔ p.IsDone n ∨ ∃ t ∈ batch, t.serial = n := by
  induction batch generalizing p with
  | nil => simp [acknowledge]
  | cons t rest ih =>
    obtain ⟨hlt, hrest⟩ := List.forall_mem_cons.1 hknows
    rw [acknowledge, List.exists_mem_cons_iff]
    by_cases hdone : (p.outcome t.serial).isDone = true
    · rw [if_pos hdone, ih hrest]
      constructor
      · exact Or.imp_right Or.inr
      · rintro (h | rfl | h)
        · exact Or.inl h
        · exact Or.inl hdone
        · exact Or.inr h
    · rw [if_neg hdone]
      obtain ⟨hprogress, -⟩ := progresses_resolve hlt (rfl : Outcome.acknowledged.isDone = true)
      rw [ih (hprogress.knows hrest), isDone_resolve hlt rfl, or_assoc, eq_comm (a := n)]

/-- No failure comes or goes when tickets are acknowledged. -/
lemma outcome_acknowledge_eq_failed_iff {batch : List Ticket} (hknows : p.Knows batch) (n : Nat)
    (failure : Failure) :
    (p.acknowledge batch).outcome n = .failed failure ↔ p.outcome n = .failed failure := by
  induction batch generalizing p with
  | nil => rfl
  | cons t rest ih =>
    obtain ⟨hlt, hrest⟩ := List.forall_mem_cons.1 hknows
    rw [acknowledge]
    by_cases hdone : (p.outcome t.serial).isDone = true
    · rw [if_pos hdone, ih hrest]
    · rw [if_neg hdone]
      obtain ⟨hprogress, -⟩ := progresses_resolve hlt (rfl : Outcome.acknowledged.isDone = true)
      rw [ih (hprogress.knows hrest), outcome_resolve hlt]
      by_cases hn : n = t.serial
      · subst hn
        rw [if_pos rfl]
        constructor
        · intro h
          cases h
        · intro h
          refine absurd ?_ hdone
          rw [h]
          rfl
      · rw [if_neg hn]

lemma outcome_acknowledge_of_ne {batch : List Ticket} (hknows : p.Knows batch) {n : Nat}
    (hn : ∀ t ∈ batch, t.serial ≠ n) : (p.acknowledge batch).outcome n = p.outcome n := by
  induction batch generalizing p with
  | nil => rfl
  | cons t rest ih =>
    obtain ⟨hlt, hrest⟩ := List.forall_mem_cons.1 hknows
    obtain ⟨hne, hnrest⟩ := List.forall_mem_cons.1 hn
    rw [acknowledge]
    split
    · exact ih hrest hnrest
    · obtain ⟨hprogress, -⟩ := progresses_resolve hlt (rfl : Outcome.acknowledged.isDone = true)
      rw [ih (hprogress.knows hrest) hnrest, outcome_resolve hlt, if_neg hne.symm]

lemma acknowledge_eq (p : Processor) (batch : List Ticket) :
    p.acknowledge batch =
      { p with
        pending := (p.acknowledge batch).pending, outcomes := (p.acknowledge batch).outcomes } := by
  induction batch generalizing p with
  | nil => rfl
  | cons t rest ih =>
    rw [acknowledge]
    split
    · exact ih p
    · rw [ih]
      rfl

/-! ## What an answer does -/

/-- What comes of an answer that fails some tickets. -/
inductive Answered (p : Processor) (i : Nat) (worker : Worker) (failing : List FailedTicket)
    (after : Processor) : Prop where
  /-- The tickets have failed, and the worker goes on with the others. -/
  | moves {p' : Processor} {worker' : Worker} (hfails : p.Fails failing p')
      (hbatch : worker'.batch = worker.batch)
      (hwithin : worker'.undecided.Sublist worker.undecided)
      (hfresh : ∀ x ∈ failing, ∀ t ∈ worker'.undecided, x.1.serial ≠ t.serial)
      (hall : ∀ t ∈ worker.undecided, t ∈ failing.map Prod.fst ∨ t ∈ worker'.undecided)
      (hbusy : (awaitedCall? worker').isSome) (hafter : after = p'.setWorker i worker')
  /-- The tickets have failed, the others are acknowledged, and the worker is through. -/
  | ends {p' : Processor} {acknowledged : List Ticket} (hfails : p.Fails failing p')
      (hwithin : acknowledged.Sublist worker.undecided)
      (hall : ∀ t ∈ worker.undecided, t ∈ failing.map Prod.fst ∨ t ∈ acknowledged)
      (hafter : after = (p'.acknowledge acknowledged).finish i worker.batch .idle)
  /-- A monitor has raised an error at one of the tickets.  All that was not done by then has failed
  with that error. -/
  | recovers {p' p'' : Processor} {failed later : List FailedTicket} {t : Ticket}
      {failure : Failure} (hsplit : failing = failed ++ (t, failure) :: later)
      (hhalts : p.Halts failed t failure p')
      (hfails : p'.Fails (p'.undone (worker.batch.map (·, .misfit .monitorFailed))) p'')
      (hafter : after = p''.finish i worker.batch .idle)
  /-- A monitor has raised an error at one of the tickets, and another one when the rest was to fail
  with that error.  The worker is dead. -/
  | dies {p' p'' : Processor} {failed later others : List FailedTicket} {t other : Ticket}
      {failure otherFailure : Failure} (hsplit : failing = failed ++ (t, failure) :: later)
      (hhalts : p.Halts failed t failure p') (hmem : other ∈ worker.batch)
      (hothers : ∀ x ∈ others, x.1 ∈ worker.batch)
      (hagain : p'.Halts others other otherFailure p'')
      (hafter : after = p''.finish i worker.batch .dead)

lemma map_serial_map_misfit (batch : List Ticket) (failure : Failure) :
    ((batch.map (·, failure)).map fun x : FailedTicket => x.1.serial) =
      batch.map Ticket.serial := by
  rw [List.map_map]
  rfl

lemma map_fst_map_misfit (batch : List Ticket) (failure : Failure) :
    ((batch.map (·, failure)).map (Prod.fst : FailedTicket → Ticket)) = batch := by
  rw [List.map_map]
  exact List.map_id batch

/-- What comes of the error of a monitor. -/
lemma answered_collapse {failing failed later : List FailedTicket} {t : Ticket} {failure : Failure}
    (hknows : p.Knows worker.batch) (hdistinct : (worker.batch.map Ticket.serial).Nodup)
    (hsplit : failing = failed ++ (t, failure) :: later) (hhalts : p.Halts failed t failure p') :
    p.Answered i worker failing (p'.collapse i worker.batch) := by
  let rest : List FailedTicket := worker.batch.map (·, .misfit .monitorFailed)
  have hcollapse : p'.collapse i worker.batch =
      (p'.failEach rest).1.finish i worker.batch
        (if (p'.failEach rest).2 then .dead else .idle) := by
    rw [collapse, failAll_eq_failEach]
    rcases p'.failEach rest with ⟨after, _ | _⟩ <;> rfl
  have hknows' : p'.Knows (rest.map Prod.fst) := by
    rw [map_fst_map_misfit]
    exact hhalts.progresses.knows hknows
  have hdistinct' : (rest.map fun x => x.1.serial).Nodup := by
    rwa [map_serial_map_misfit]
  rw [hcollapse]
  have hbatch (x : FailedTicket) (hx : x ∈ p'.undone rest) : x.1 ∈ worker.batch := by
    obtain ⟨other, hother, rfl⟩ := List.mem_map.1 (mem_undone.1 hx).1
    exact hother
  rcases failEach_cases hknows' hdistinct' with ⟨hraised, hfails⟩ |
    ⟨hraised, before, other, otherFailure, others, hagain, hhalts'⟩
  · rw [hraised]
    exact .recovers hsplit hhalts hfails rfl
  · rw [hraised]
    rw [hagain] at hbatch
    exact .dies hsplit hhalts (hbatch (other, otherFailure) (by simp))
      (fun x hx => hbatch x (List.mem_append_left _ hx)) hhalts' rfl

/-- How a worker goes on when no monitor has raised an error at a verdict. -/
lemma answered_proceed {batch acknowledged group succeeded : List Ticket}
    {rest : List (List Ticket)} {failing : List FailedTicket} (hfails : p.Fails failing p')
    (hdistinct : ((acknowledged ++ group ++ rest.flatten).map Ticket.serial).Nodup)
    (hfailing : (failing.map Prod.fst).Sublist group) (hsucceeded : succeeded.Sublist group)
    (hdisjoint : ∀ x ∈ failing, ∀ t ∈ succeeded, x.1.serial ≠ t.serial)
    (hjudged : ∀ t ∈ group, t ∈ failing.map Prod.fst ∨ t ∈ succeeded) :
    p.Answered i (.sending batch acknowledged group rest) failing
      (p'.proceed i batch (acknowledged ++ succeeded) rest) := by
  have hwithin : (acknowledged ++ succeeded ++ rest.flatten).Sublist
      (acknowledged ++ group ++ rest.flatten) :=
    (hsucceeded.append_left acknowledged).append_right _
  have hall (t : Ticket) (ht : t ∈ acknowledged ++ group ++ rest.flatten) :
      t ∈ failing.map Prod.fst ∨ t ∈ acknowledged ++ succeeded ++ rest.flatten := by
    simp only [List.mem_append] at ht ⊢
    rcases ht with (ht | ht) | ht
    · exact Or.inr (Or.inl (Or.inl ht))
    · exact (hjudged t ht).imp_right fun h => Or.inl (Or.inr h)
    · exact Or.inr (Or.inr ht)
  have hfresh (x : FailedTicket) (hx : x ∈ failing) (t : Ticket)
      (ht : t ∈ acknowledged ++ succeeded ++ rest.flatten) : x.1.serial ≠ t.serial := by
    -- the group has no number in common with what comes before and after it
    have hgroup : x.1.serial ∈ group.map Ticket.serial :=
      List.mem_map_of_mem (hfailing.subset (List.mem_map_of_mem hx))
    rw [List.map_append, List.map_append] at hdistinct
    obtain ⟨hfront, -, hback⟩ := List.nodup_append.1 hdistinct
    obtain ⟨-, -, hfront⟩ := List.nodup_append.1 hfront
    rcases List.mem_append.1 ht with ht | ht
    · rcases List.mem_append.1 ht with ht | ht
      · exact (hfront _ (List.mem_map_of_mem ht) _ hgroup).symm
      · exact hdisjoint x hx t ht
    · exact hback _ (List.mem_append_right _ hgroup) _ (List.mem_map_of_mem ht)
  cases rest with
  | cons next rest =>
    let worker' : Worker := .sending batch (acknowledged ++ succeeded) next rest
    have hbatch : worker'.batch = batch := rfl
    have hundecided : worker'.undecided = acknowledged ++ succeeded ++ (next :: rest).flatten := by
      simp [worker', Worker.undecided]
    rw [← hundecided] at hwithin hall hfresh
    exact .moves hfails hbatch hwithin hfresh hall rfl rfl
  | nil =>
    rw [List.flatten_nil, List.append_nil (acknowledged ++ succeeded)] at hwithin hall hfresh
    rw [proceed]
    by_cases hrefresh : (batchIndexes (acknowledged ++ succeeded)).isEmpty = true
    · rw [if_pos hrefresh]
      exact .ends hfails hwithin hall rfl
    · rw [if_neg hrefresh]
      have hbatch : (Worker.refreshing batch (acknowledged ++ succeeded)).batch = batch := rfl
      exact .moves hfails hbatch hwithin hfresh hall rfl rfl

/-- The tickets that an answer fails fail for good, unless a monitor raises an error at one. -/
lemma failEach_failing_cases (horderly : worker.IsOrderly p) (hknows : p.Knows worker.batch)
    (hdistinct : (worker.batch.map Ticket.serial).Nodup) (answer : Answer) :
    ((p.failEach (worker.failing answer)).2 = false ∧
      p.Fails (worker.failing answer) (p.failEach (worker.failing answer)).1) ∨
    ((p.failEach (worker.failing answer)).2 = true ∧ ∃ before t failure later,
      worker.failing answer = before ++ (t, failure) :: later ∧
      p.Halts before t failure (p.failEach (worker.failing answer)).1) := by
  -- the tickets that the answer fails are not done, so nothing is left out
  have hsublist := Worker.sublist_failing answer worker
  have hundone : p.undone (worker.failing answer) = worker.failing answer :=
    undone_eq_self fun x hx => horderly.undone _ (hsublist.subset (List.mem_map_of_mem hx))
  have hknows' : p.Knows ((worker.failing answer).map Prod.fst) :=
    fun t ht => hknows t (horderly.within.subset (hsublist.subset ht))
  have hdistinct' : ((worker.failing answer).map fun x => x.1.serial).Nodup := by
    have hmap := hdistinct.sublist ((hsublist.trans horderly.within).map Ticket.serial)
    rwa [List.map_map] at hmap
  have hcases := failEach_cases hknows' hdistinct'
  rwa [hundone] at hcases

/-- A worker goes on with its batch after the call of a group, unless a monitor raises an error. -/
lemma onAnswer_sending {batch acknowledged group : List Ticket} {rest : List (List Ticket)}
    {failures : List (Option Failure)}
    (hi : p.workers[i]? = some (.sending batch acknowledged group rest)) (answer : Answer)
    (hjudge : (judgeGroup (group.map Ticket.request) answer).failures (group.map Ticket.request) =
      failures) :
    p.onAnswer i answer =
      if (p.failEach (failedBy group failures)).2 then
        (p.failEach (failedBy group failures)).1.collapse i batch
      else (p.failEach (failedBy group failures)).1.proceed i batch
        (acknowledged ++ succeededBy group failures) rest := by
  rw [onAnswer, hi]
  dsimp only
  rw [hjudge, applyVerdict_eq_failEach]
  cases (p.failEach (failedBy group failures)).2 <;> rfl

/-- What comes of the answer that a worker waits for. -/
lemma onAnswer_cases (hi : p.workers[i]? = some worker) (hcall : (awaitedCall? worker).isSome)
    (horderly : worker.IsOrderly p) (hknows : p.Knows worker.batch)
    (hdistinct : (worker.batch.map Ticket.serial).Nodup) (answer : Answer) :
    p.Answered i worker (worker.failing answer) (p.onAnswer i answer) := by
  have hcases := failEach_failing_cases horderly hknows hdistinct answer
  cases worker with
  | idle => cases hcall
  | dead => cases hcall
  | sending batch acknowledged group rest =>
    let failures :=
      (judgeGroup (group.map Ticket.request) answer).failures (group.map Ticket.request)
    have hlength : failures.length = group.length := by
      rw [length_failures_judgeGroup, List.length_map]
    have hundecided : ((acknowledged ++ group ++ rest.flatten).map Ticket.serial).Nodup :=
      hdistinct.sublist (horderly.within.map Ticket.serial)
    have hgroup : (group.map Ticket.serial).Nodup := by
      rw [List.map_append, List.map_append] at hundecided
      exact hundecided.of_append_left.of_append_right
    have honAnswer := onAnswer_sending hi answer rfl
    rw [Worker.failing] at hcases ⊢
    rcases hcases with ⟨hraised, hfails⟩ | ⟨hraised, failed, t, failure, later, hsplit, hhalts⟩
    · rw [honAnswer, hraised, if_neg Bool.false_ne_true]
      refine answered_proceed hfails hundecided (sublist_failedBy _ _) (sublist_succeededBy _ _)
        (disjoint_failedBy_succeededBy hgroup) fun t ht => ?_
      refine (mem_failedBy_or_mem_succeededBy hlength ht).imp_left fun hfailed => ?_
      obtain ⟨failure, hfailed⟩ := hfailed
      exact List.mem_map.2 ⟨_, hfailed, rfl⟩
    · rw [honAnswer, if_pos hraised]
      exact answered_collapse hknows hdistinct hsplit hhalts
  | refreshing batch acknowledged =>
    cases hjudge : answer.judge (refreshCall (batchIndexes acknowledged)).method
        (refreshCall (batchIndexes acknowledged)).path [] with
    | ok response =>
      have honAnswer : p.onAnswer i answer =
          (p.acknowledge acknowledged).finish i batch .idle := by
        simp only [onAnswer, hi, hjudge]
      have hnone : Worker.failing answer (.refreshing batch acknowledged) = [] := by
        simp only [Worker.failing, hjudge]
      rw [honAnswer, hnone]
      exact .ends (.refl p) (.refl acknowledged) (fun t ht => Or.inr ht) rfl
    | error failure =>
      have hfailing : Worker.failing answer (.refreshing batch acknowledged) =
          acknowledged.map (·, failure) := by
        simp only [Worker.failing, hjudge]
      have honAnswer : p.onAnswer i answer =
          if (p.failEach (acknowledged.map (·, failure))).2 then
            (p.failEach (acknowledged.map (·, failure))).1.collapse i batch
          else (p.failEach (acknowledged.map (·, failure))).1.finish i batch .idle := by
        simp only [onAnswer, hi, hjudge, failAll_eq_failEach]
        rcases p.failEach (acknowledged.map (·, failure)) with ⟨after, _ | _⟩ <;> rfl
      rw [hfailing] at hcases ⊢
      rcases hcases with ⟨hraised, hfails⟩ | ⟨hraised, failed, t, other, later, hsplit, hhalts⟩
      · rw [honAnswer, hraised, if_neg Bool.false_ne_true]
        have hnone : [].Sublist (Worker.refreshing batch acknowledged).undecided :=
          List.nil_sublist _
        refine .ends hfails hnone (fun t ht => Or.inl ?_) rfl
        rwa [map_fst_map_misfit]
      · rw [honAnswer, if_pos hraised]
        exact answered_collapse hknows hdistinct hsplit hhalts

/-- With quiet monitors the tickets that an answer fails have failed for good. -/
lemma Answered.not_halts {failed : List FailedTicket} {t : Ticket} {failure : Failure}
    (hquiet : p.HasQuietMonitors) : ¬ p.Halts failed t failure p' :=
  fun h => h.not_calm (hquiet.isCalmUntil p')

/-! ## Tickets in order -/

/-- Each ticket is in one place, and none that is to be decided about is done. -/
structure IsOrderly (p : Processor) (putting : List Ticket) : Prop where
  knows : p.Knows (putting ++ p.queued ++ p.taken)
  distinct : ((putting ++ p.queued ++ p.taken).map Ticket.serial).Nodup
  undone : ∀ t ∈ putting ++ p.queued, ¬ p.IsDone t.serial
  workers : ∀ worker ∈ p.workers, worker.IsOrderly p

namespace IsOrderly

variable {putting : List Ticket}

lemma knows_batch (h : p.IsOrderly putting) (hworker : worker ∈ p.workers) :
    p.Knows worker.batch :=
  fun t ht => h.knows t (List.mem_append_right _ (List.mem_flatMap.2 ⟨worker, hworker, ht⟩))

/-- The tickets that a worker acknowledges are known. -/
lemma knows_acknowledged {failed : List FailedTicket} {acknowledged : List Ticket}
    (h : p.IsOrderly putting) (hi : p.workers[i]? = some worker) (hfails : p.Fails failed p')
    (hwithin : acknowledged.Sublist worker.undecided) : p'.Knows acknowledged := by
  have hworker := List.mem_of_getElem? hi
  have hbatch := hwithin.trans (h.workers worker hworker).within
  exact hfails.progresses.knows fun t ht => h.knows_batch hworker t (hbatch.subset ht)

lemma distinct_batch (h : p.IsOrderly putting) (hi : p.workers[i]? = some worker) :
    (worker.batch.map Ticket.serial).Nodup := by
  obtain ⟨before, after, hworkers, -⟩ := exists_setWorker hi
  have hdistinct := h.distinct
  rw [taken, hworkers, List.flatMap_append, List.flatMap_cons] at hdistinct
  simp only [List.map_append] at hdistinct
  exact hdistinct.of_append_right.of_append_right.of_append_left

/-- The batches of two workers have no number in common. -/
lemma serial_ne_of_mem_batch (h : p.IsOrderly putting) {j : Nat} {other : Worker} (hij : i ≠ j)
    (hi : p.workers[i]? = some worker) (hj : p.workers[j]? = some other) :
    ∀ t ∈ worker.batch, ∀ t' ∈ other.batch, t.serial ≠ t'.serial := by
  have hdistinct := h.distinct
  rw [List.map_append, taken, List.map_flatMap] at hdistinct
  obtain ⟨-, hpairwise⟩ := List.nodup_flatMap.1 hdistinct.of_append_right
  obtain ⟨hilt, rfl⟩ := List.getElem?_eq_some_iff.1 hi
  obtain ⟨hjlt, rfl⟩ := List.getElem?_eq_some_iff.1 hj
  have hdisjoint : List.Disjoint (p.workers[i].batch.map Ticket.serial)
      (p.workers[j].batch.map Ticket.serial) := by
    rcases Nat.lt_or_gt_of_ne hij with hlt | hgt
    · exact List.pairwise_iff_getElem.1 hpairwise i j hilt hjlt hlt
    · exact (List.pairwise_iff_getElem.1 hpairwise j i hjlt hilt hgt).symm
  intro t ht t' ht' heq
  exact hdisjoint (List.mem_map_of_mem ht) (heq ▸ List.mem_map_of_mem ht')

/-- What comes of the answer that a worker waits for. -/
lemma answered_cases (h : p.IsOrderly putting) (hi : p.workers[i]? = some worker)
    (hcall : (awaitedCall? worker).isSome) (answer : Answer) :
    p.Answered i worker (worker.failing answer) (p.onAnswer i answer) :=
  have hworker := List.mem_of_getElem? hi
  onAnswer_cases hi hcall (h.workers worker hworker) (h.knows_batch hworker) (h.distinct_batch hi)
    answer

/-- Tickets may change places as long as none gets lost, and nothing is decided about them. -/
lemma of_perm {putting' : List Ticket} (h : p.IsOrderly putting)
    (hdone : ∀ n, p'.IsDone n ↔ p.IsDone n) (hlength : p'.outcomes.length = p.outcomes.length)
    (hperm : (putting ++ p.queued ++ p.taken).Perm (putting' ++ p'.queued ++ p'.taken))
    (hsubset : putting' ++ p'.queued ⊆ putting ++ p.queued)
    (hworkers : ∀ worker ∈ p'.workers, worker.IsOrderly p') : p'.IsOrderly putting' where
  knows t ht := by
    rw [hlength]
    exact h.knows t (hperm.mem_iff.2 ht)
  distinct := (hperm.map _).nodup_iff.1 h.distinct
  undone t ht := mt (hdone t.serial).1 (h.undone t (hsubset ht))
  workers := hworkers

/-- Only the places of tickets and their outcomes matter. -/
lemma of_eq (h : p.IsOrderly putting) (houtcomes : p'.outcomes = p.outcomes)
    (hqueued : p'.queued = p.queued) (hworkers : p'.workers = p.workers) :
    p'.IsOrderly putting := by
  have hdone (n : Nat) : p'.IsDone n ↔ p.IsDone n := by
    rw [IsDone, IsDone, outcome, outcome, houtcomes]
  refine h.of_perm hdone (by rw [houtcomes]) ?_ ?_ fun worker hworker => ?_
  · rw [hqueued, taken, taken, hworkers]
  · rw [hqueued]
    exact List.Subset.refl _
  · exact (h.workers worker (hworkers ▸ hworker)).congr fun t _ => hdone t.serial

lemma perm {others : List Ticket} (h : p.IsOrderly putting) (hperm : putting.Perm others) :
    p.IsOrderly others :=
  h.of_perm (fun _ => Iff.rfl) rfl ((hperm.append_right _).append_right _)
    (fun _ ht => (hperm.append_right p.queued).mem_iff.2 ht) h.workers

lemma clearReported (h : p.IsOrderly putting) (index : Option String) :
    (p.clearReported index).IsOrderly putting := by
  cases index with
  | none => exact h.of_eq rfl rfl rfl
  | some index => exact h.of_eq rfl rfl rfl

lemma start (h : p.IsOrderly putting) : p.start.IsOrderly putting := by
  by_cases hnone : p.workers = []
  · have hstarted : p.start.workers = List.replicate p.limits.workers .idle := by
      simp [Processor.start, hnone]
    have htaken : p.start.taken = p.taken := by
      simp [taken, hstarted, hnone, Worker.batch]
    refine h.of_perm (fun _ => Iff.rfl) rfl ?_ ?_ fun worker hworker => ?_
    · rw [queued_start, htaken]
    · rw [queued_start]
      exact List.Subset.refl _
    · rw [hstarted] at hworker
      obtain rfl := List.eq_of_mem_replicate hworker
      exact Worker.isOrderly_idle
  · exact h.of_eq rfl (queued_start p) (by simp [Processor.start, hnone])

/-- A new ticket has a number greater than those before it. -/
lemma register (h : p.IsOrderly putting) (r : WorkRequest) :
    (p.register r).1.IsOrderly (putting ++ [(p.register r).2]) := by
  let t := (p.register r).2
  have hserial : t.serial = p.outcomes.length := rfl
  have hlength : (p.register r).1.outcomes.length = p.outcomes.length + 1 := by
    simp [Processor.register]
  have hdone (n : Nat) : (p.register r).1.IsDone n ↔ p.IsDone n := by
    rw [IsDone, IsDone, outcome_register]
  have hmiddle : (putting ++ [t] ++ p.queued ++ p.taken).Perm
      (t :: (putting ++ p.queued ++ p.taken)) := by
    simp only [List.append_assoc]
    exact List.perm_middle
  have hnew : ¬ (p.register r).1.IsDone t.serial := by
    rw [hdone, hserial]
    simp [IsDone, outcome, Outcome.isDone]
  refine ⟨fun other hother => ?_, (hmiddle.map _).nodup_iff.2 ?_, fun other hother => ?_,
    fun worker hworker => (h.workers worker hworker).congr fun other _ => hdone other.serial⟩
  · rw [hlength]
    rcases List.mem_cons.1 (hmiddle.mem_iff.1 hother) with rfl | hother
    · omega
    · have hlt := h.knows other hother
      omega
  · refine List.nodup_cons.2 ⟨fun hmem => ?_, h.distinct⟩
    obtain ⟨other, hother, heq⟩ := List.mem_map.1 hmem
    have hlt := h.knows other hother
    omega
  · rw [List.append_assoc] at hother
    rcases List.mem_append.1 hother with hother | hother
    · exact mt (hdone _).1 (h.undone other (List.mem_append_left _ hother))
    · rcases List.mem_cons.1 hother with rfl | hother
      · exact hnew
      · exact mt (hdone _).1 (h.undone other (List.mem_append_right _ hother))

lemma enqueue {t : Ticket} {others : List Ticket} (h : p.IsOrderly putting)
    (hperm : putting.Perm (t :: others)) : (p.enqueue t).IsOrderly others := by
  have hmoved : (putting ++ p.queued).Perm (others ++ (p.enqueue t).queued) := by
    rw [queued_enqueue]
    refine (hperm.append_right _).trans ?_
    rw [← List.append_assoc]
    exact (List.perm_append_comm.trans (.refl ([t] ++ (others ++ p.queued)))).symm
  have hworkers : (p.enqueue t).workers = p.workers := rfl
  refine h.of_perm (fun _ => Iff.rfl) rfl ?_ (fun x hx => hmoved.mem_iff.2 hx) fun worker hworker =>
    (h.workers worker hworker).congr fun _ _ => Iff.rfl
  exact hmoved.append_right _

/-- An idle worker takes tickets from the queue, and has decided about none of them. -/
lemma takeBatch (h : p.IsOrderly putting) (hi : p.workers[i]? = some .idle)
    (hqueue : p.isQueueEmpty = false) : (p.takeBatch i).IsOrderly putting := by
  obtain ⟨q, batch, left, group, rest, hq, htickets, hgroups, htake⟩ := takeBatch_eq i hqueue
  obtain ⟨before, after, hworkers, hset⟩ := exists_setWorker hi
  have hqueued : p.queued = batch ++ left := by simp [queued, hq, htickets]
  have hqueued' : (p.takeBatch i).queued = left := by
    rw [htake]
    rfl
  have hworkers' : (p.takeBatch i).workers = before ++ .sending batch [] group rest :: after := by
    rw [htake]
    exact (hset _ _ rfl).1
  have hdone (n : Nat) : (p.takeBatch i).IsDone n ↔ p.IsDone n := by
    rw [htake]
    rfl
  refine h.of_perm hdone (by rw [htake]; rfl) ?_ ?_ fun worker hworker => ?_
  · rw [hqueued, hqueued', taken, taken, hworkers, hworkers', ← Multiset.coe_eq_coe]
    simp only [List.flatMap_append, List.flatMap_cons, Worker.batch, List.nil_append,
      ← Multiset.coe_add]
    abel
  · rw [hqueued, hqueued']
    exact ((List.sublist_append_right batch left).append_left putting).subset
  · rw [htake] at hworker
    rcases List.mem_or_eq_of_mem_set hworker with hworker | rfl
    · exact (h.workers worker hworker).congr fun t _ => hdone t.serial
    · have hundecided : (Worker.sending batch [] group rest).undecided = batch := hgroups
      refine ⟨hundecided ▸ List.Sublist.refl batch, fun t ht => ?_, fun t ht => Or.inr ?_⟩
      · refine mt (hdone t.serial).1 (h.undone t (List.mem_append_right _ ?_))
        rw [hqueued]
        exact List.mem_append_left _ (hundecided ▸ ht)
      · rw [hundecided]
        exact ht

/-- A worker has decided about some tickets of its batch, and about no others. -/
lemma replaced {after : Processor} {worker' : Worker} (h : p.IsOrderly putting)
    (hi : p.workers[i]? = some worker) (hqueued : after.queued = p.queued)
    (hworkers : after.workers = p.workers.set i worker')
    (hlength : after.outcomes.length = p.outcomes.length)
    (hbatch : worker'.batch.Sublist worker.batch) (horderly : worker'.IsOrderly after)
    (hothers : ∀ n, (∀ t ∈ worker.batch, t.serial ≠ n) → (after.IsDone n ↔ p.IsDone n)) :
    after.IsOrderly putting := by
  obtain ⟨before, later, hsplit, hset⟩ := exists_around hi
  rw [hset] at hworkers
  have htaken : p.taken = before.flatMap Worker.batch ++
      (worker.batch ++ later.flatMap Worker.batch) := by
    rw [taken, hsplit, List.flatMap_append, List.flatMap_cons]
  have htaken' : after.taken = before.flatMap Worker.batch ++
      (worker'.batch ++ later.flatMap Worker.batch) := by
    rw [taken, hworkers, List.flatMap_append, List.flatMap_cons]
  have hsublist : (putting ++ after.queued ++ after.taken).Sublist
      (putting ++ p.queued ++ p.taken) := by
    rw [hqueued, htaken, htaken']
    exact ((hbatch.append_right _).append_left _).append_left _
  -- the numbers of all other tickets are different from those of the batch
  have hdistinct := h.distinct
  rw [htaken] at hdistinct
  have hfront : ∀ t ∈ putting ++ p.queued ++ before.flatMap Worker.batch,
      ∀ other ∈ worker.batch, other.serial ≠ t.serial := by
    rw [← List.append_assoc, List.map_append] at hdistinct
    intro t ht other hother heq
    refine (List.nodup_append.1 hdistinct).2.2 _ (List.mem_map_of_mem ht) _ ?_ heq.symm
    exact List.mem_map_of_mem (List.mem_append_left _ hother)
  have hback : ∀ t ∈ later.flatMap Worker.batch, ∀ other ∈ worker.batch,
      other.serial ≠ t.serial := by
    rw [← List.append_assoc, List.map_append] at hdistinct
    have htail := hdistinct.of_append_right
    rw [List.map_append] at htail
    intro t ht other hother
    exact (List.nodup_append.1 htail).2.2 _ (List.mem_map_of_mem hother) _
      (List.mem_map_of_mem ht)
  refine ⟨fun t ht => ?_, h.distinct.sublist (hsublist.map _), fun t ht => ?_,
    fun other hother => ?_⟩
  · rw [hlength]
    exact h.knows t (hsublist.subset ht)
  · rw [hqueued] at ht
    exact mt (hothers t.serial (hfront t (List.mem_append_left _ ht))).1 (h.undone t ht)
  · rw [hworkers] at hother
    rcases List.mem_append.1 hother with hother | hother
    · refine (h.workers other (hsplit ▸ List.mem_append_left _ hother)).congr fun t ht => ?_
      refine hothers t.serial (hfront t (List.mem_append_right _ ?_))
      exact List.mem_flatMap.2 ⟨other, hother, ht⟩
    · rcases List.mem_cons.1 hother with rfl | hother
      · exact horderly
      · refine (h.workers other (hsplit ▸ List.mem_append_right _
          (List.mem_cons_of_mem _ hother))).congr fun t ht => ?_
        exact hothers t.serial (hback t (List.mem_flatMap.2 ⟨other, hother, ht⟩))

/-- A worker that receives an answer decides about tickets of its own batch. -/
lemma answered (h : p.IsOrderly putting) (hi : p.workers[i]? = some worker)
    (hcall : (awaitedCall? worker).isSome) (answer : Answer) :
    (p.answered i answer).IsOrderly putting := by
  have hworker := List.mem_of_getElem? hi
  have horderly := h.workers worker hworker
  have hfailing (x : FailedTicket) (hx : x ∈ worker.failing answer) : x.1 ∈ worker.batch :=
    ((Worker.sublist_failing answer worker).trans horderly.within).subset (List.mem_map_of_mem hx)
  have hidle {q : Processor} {n : Nat} : (q.finish i worker.batch .idle).IsDone n ↔ q.IsDone n :=
    Iff.rfl
  have hnone {worker' : Worker} (hempty : worker'.batch = []) :
      worker'.batch.Sublist worker.batch := hempty ▸ List.nil_sublist _
  suffices hafter : (p.onAnswer i answer).IsOrderly putting from hafter.of_eq rfl rfl rfl
  cases h.answered_cases hi hcall answer with
  | @moves p' worker' hfails hbatch hwithin hfresh hall hbusy hafter =>
    rw [hafter]
    have hworkers : (p'.setWorker i worker').workers = p.workers.set i worker' := by
      rw [setWorker, hfails.progresses.workers_eq]
    refine h.replaced hi hfails.progresses.queued_eq hworkers hfails.progresses.length_eq
      (hbatch ▸ .refl _) ⟨?_, fun t ht => ?_, fun t ht => ?_⟩ fun n hn => ?_
    · rw [hbatch]
      exact hwithin.trans horderly.within
    · intro hdone
      rcases (hfails.isDone_iff t.serial).1 hdone with hdone | hfailed
      · exact horderly.undone t (hwithin.subset ht) hdone
      · obtain ⟨x, hx, heq⟩ := hfailed
        exact hfresh x hx t ht heq
    · rw [hbatch] at ht
      rcases horderly.decided t ht with hdone | hundecided
      · exact Or.inl (hfails.progresses.isDone _ hdone)
      · refine (hall t hundecided).imp_left fun hmem => ?_
        obtain ⟨x, hx, rfl⟩ := List.mem_map.1 hmem
        exact (hfails.isDone_iff x.1.serial).2 (Or.inr ⟨x, hx, rfl⟩)
    · refine (hfails.isDone_iff n).trans (or_iff_left ?_)
      rintro ⟨x, hx, heq⟩
      exact hn x.1 (hfailing x hx) heq
  | @ends p' acknowledged hfails hwithin hall hafter =>
    rw [hafter]
    have hknows := h.knows_acknowledged hi hfails hwithin
    obtain ⟨hprogress, -⟩ := acknowledge_spec hknows
    have htrans := hfails.progresses.trans hprogress
    refine h.replaced hi ?_ (congrArg (·.set i .idle) htrans.workers_eq) htrans.length_eq
      (hnone rfl) Worker.isOrderly_idle fun n hn => ?_
    · rw [queued_finish, htrans.queued_eq]
    · rw [hidle, isDone_acknowledge hknows, hfails.isDone_iff, or_assoc]
      refine or_iff_left ?_
      rintro (⟨x, hx, heq⟩ | ⟨t, ht, heq⟩)
      · exact hn x.1 (hfailing x hx) heq
      · exact hn t ((hwithin.trans horderly.within).subset ht) heq
  | @recovers p' p'' failed later t failure hsplit hhalts hfails hafter =>
    rw [hafter]
    have htrans := hhalts.progresses.trans hfails.progresses
    refine h.replaced hi ?_ (congrArg (·.set i .idle) htrans.workers_eq) htrans.length_eq
      (hnone rfl) Worker.isOrderly_idle fun n hn => ?_
    · rw [queued_finish, htrans.queued_eq]
    · rw [hidle, hfails.isDone_iff, hhalts.isDone_iff, or_assoc]
      refine or_iff_left ?_
      rintro (⟨x, hx, heq⟩ | ⟨x, hx, heq⟩)
      · exact hn x.1 (hfailing x (hsplit ▸ List.mem_append_left _ hx)) heq
      · obtain ⟨other, hother, rfl⟩ := List.mem_map.1 (mem_undone.1 hx).1
        exact hn other hother heq
  | @dies p' p'' failed later others t other failure otherFailure hsplit hhalts hmem hothers hagain
      hafter =>
    rw [hafter]
    have htrans := hhalts.progresses.trans hagain.progresses
    refine h.replaced hi ?_ (congrArg (·.set i .dead) htrans.workers_eq) htrans.length_eq
      (hnone rfl) Worker.isOrderly_dead fun n hn => ?_
    · rw [queued_finish, htrans.queued_eq]
    · change p''.IsDone n ↔ p.IsDone n
      rw [hagain.isDone_iff, hhalts.isDone_iff, or_assoc]
      refine or_iff_left ?_
      rintro (⟨x, hx, heq⟩ | ⟨x, hx, heq⟩)
      · exact hn x.1 (hfailing x (hsplit ▸ List.mem_append_left _ hx)) heq
      · exact hn x.1 (hothers x hx) heq

/-- An answer lets one worker go on and leaves the others where they stand.  If the worker waits for
another answer then, the tickets that the answer fails have failed for good. -/
lemma exists_workers_answered (h : p.IsOrderly putting) (hi : p.workers[i]? = some worker)
    (hcall : (awaitedCall? worker).isSome) (answer : Answer) :
    ∃ next, (p.answered i answer).workers = p.workers.set i next ∧
      ((awaitedCall? next).isSome → ∃ p', p.Fails (worker.failing answer) p' ∧
        next.batch = worker.batch ∧ p.onAnswer i answer = p'.setWorker i next) := by
  have hset {p' : Processor} (hprogress : p.Progresses p') (next : Worker) :
      p'.workers.set i next = p.workers.set i next := by rw [hprogress.workers_eq]
  have hanswered : (p.answered i answer).workers = (p.onAnswer i answer).workers := rfl
  rw [hanswered]
  cases h.answered_cases hi hcall answer with
  | moves hfails hbatch hwithin hfresh hall hbusy hafter =>
    rw [hafter]
    exact ⟨_, hset hfails.progresses _, fun _ => ⟨_, hfails, hbatch, rfl⟩⟩
  | @ends p' acknowledged hfails hwithin hall hafter =>
    have hknows := h.knows_acknowledged hi hfails hwithin
    rw [hafter]
    refine ⟨_, hset (hfails.progresses.trans (acknowledge_spec hknows).1) .idle, fun hbusy => ?_⟩
    cases hbusy
  | recovers hsplit hhalts hfails hafter =>
    rw [hafter]
    refine ⟨_, hset (hhalts.progresses.trans hfails.progresses) .idle, fun hbusy => ?_⟩
    cases hbusy
  | dies hsplit hhalts hmem hothers hagain hafter =>
    rw [hafter]
    refine ⟨_, hset (hhalts.progresses.trans hagain.progresses) .dead, fun hbusy => ?_⟩
    cases hbusy

/-- Nothing becomes of tickets that are not in the batch. -/
lemma outcome_answered_of_ne (h : p.IsOrderly putting) (hi : p.workers[i]? = some worker)
    (hcall : (awaitedCall? worker).isSome) (answer : Answer) {n : Nat}
    (hn : ∀ t ∈ worker.batch, t.serial ≠ n) : (p.answered i answer).outcome n = p.outcome n := by
  have hworker := List.mem_of_getElem? hi
  have horderly := h.workers worker hworker
  have hfailing (x : FailedTicket) (hx : x ∈ worker.failing answer) : x.1.serial ≠ n :=
    hn x.1 (((Worker.sublist_failing answer worker).trans horderly.within).subset
      (List.mem_map_of_mem hx))
  change (p.onAnswer i answer).outcome n = p.outcome n
  cases h.answered_cases hi hcall answer with
  | moves hfails hbatch hwithin hfresh hall hbusy hafter =>
    rw [hafter]
    exact hfails.outcome_of_ne n hfailing
  | @ends p' acknowledged hfails hwithin hall hafter =>
    have hbatch : acknowledged ⊆ worker.batch := (hwithin.trans horderly.within).subset
    have hknows := h.knows_acknowledged hi hfails hwithin
    rw [hafter]
    exact (outcome_acknowledge_of_ne hknows fun t ht => hn t (hbatch ht)).trans
      (hfails.outcome_of_ne n hfailing)
  | @recovers p' p'' failed later t failure hsplit hhalts hfails hafter =>
    rw [hafter]
    refine (hfails.outcome_of_ne n fun x hx => ?_).trans
      (hhalts.outcome_of_ne n fun x hx => hfailing x (hsplit ▸ List.mem_append_left _ hx))
    obtain ⟨other, hother, rfl⟩ := List.mem_map.1 (mem_undone.1 hx).1
    exact hn other hother
  | @dies p' p'' failed later others t other failure otherFailure hsplit hhalts hmem hothers hagain
      hafter =>
    rw [hafter]
    exact (hagain.outcome_of_ne n fun x hx => hn x.1 (hothers x hx)).trans
      (hhalts.outcome_of_ne n fun x hx => hfailing x (hsplit ▸ List.mem_append_left _ hx))

/-- What is done stays so. -/
lemma isDone_answered (h : p.IsOrderly putting) (hi : p.workers[i]? = some worker)
    (hcall : (awaitedCall? worker).isSome) (answer : Answer) {n : Nat} (hdone : p.IsDone n) :
    (p.answered i answer).IsDone n := by
  change (p.onAnswer i answer).IsDone n
  cases h.answered_cases hi hcall answer with
  | moves hfails hbatch hwithin hfresh hall hbusy hafter =>
    rw [hafter]
    exact hfails.progresses.isDone n hdone
  | @ends p' acknowledged hfails hwithin hall hafter =>
    have hknows := h.knows_acknowledged hi hfails hwithin
    rw [hafter]
    exact (isDone_acknowledge hknows n).2 (Or.inl (hfails.progresses.isDone n hdone))
  | recovers hsplit hhalts hfails hafter =>
    rw [hafter]
    exact hfails.progresses.isDone n (hhalts.progresses.isDone n hdone)
  | dies hsplit hhalts hmem hothers hagain hafter =>
    rw [hafter]
    exact hagain.progresses.isDone n (hhalts.progresses.isDone n hdone)

end IsOrderly

end Processor

end SearchIndex
