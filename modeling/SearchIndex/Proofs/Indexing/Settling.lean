/-
# What settles the fate of a ticket

A ticket is settled once: it is acknowledged, or it fails and its failure is recorded for its index.
`Processor.Settles` says which tickets may have been settled between two states of a processor, and
how.  Unlike what is known of a batch in good order, this holds of every processor and of monitors
of every kind, since it says nothing about tickets that are left as they are.

A worker acknowledges tickets when it lets go of its batch, and only there: once its refresh has
been accepted, or without one if no ticket that it has sent asks for one.  `Worker.Turns` lists the
ways in which an answer lets a worker go on, and `Processor.exists_turns` says that there are no
others.
-/
import SearchIndex.Proofs.Indexing.Answering

namespace SearchIndex

/-- The answer is one that the client takes for a success of the call. -/
def Answer.Accepts (answer : Answer) (call : Call) : Prop :=
  ∃ response, answer.judge call.method call.path [] = .ok response

namespace Processor

variable {p p' p'' : Processor} {batch others acknowledged more : List Ticket} {t : Ticket}

/-! ## Settling -/

/-- Tickets have been settled: only some have been acknowledged, and only some have failed, with
their failures recorded. -/
structure Settles (p : Processor) (batch acknowledged : List Ticket) (p' : Processor) : Prop where
  length_eq : p'.outcomes.length = p.outcomes.length
  outcome_eq : ∀ n, p.IsDone n → p'.outcome n = p.outcome n
  acknowledged_of : ∀ n, p'.outcome n = .acknowledged →
    p.outcome n = .acknowledged ∨ ∃ t ∈ acknowledged, t.serial = n
  failed_of : ∀ n failure, p'.outcome n = .failed failure →
    p.outcome n = .failed failure ∨
      ∃ t ∈ batch, t.serial = n ∧ failure ∈ p'.recorded t.request.index
  recorded_subset : ∀ index, p.recorded index ⊆ p'.recorded index

namespace Settles

/-- Nothing has been settled if outcomes and recorded failures are the same. -/
lemma of_eq (houtcomes : p'.outcomes = p.outcomes) (hfailures : p'.failures = p.failures) :
    p.Settles batch acknowledged p' := by
  have houtcome (n : Nat) : p'.outcome n = p.outcome n := by rw [outcome, outcome, houtcomes]
  have hrecorded (index : String) : p'.recorded index = p.recorded index := by
    rw [recorded, recorded, unreported, unreported, hfailures]
  exact ⟨by rw [houtcomes], fun n _ => houtcome n, fun n h => Or.inl (houtcome n ▸ h),
    fun n failure h => Or.inl (houtcome n ▸ h), fun index => hrecorded index ▸ List.Subset.refl _⟩

lemma refl (p : Processor) : p.Settles batch acknowledged p := of_eq rfl rfl

lemma isDone (h : p.Settles batch acknowledged p') {n : Nat} (hdone : p.IsDone n) :
    p'.IsDone n := by
  rw [IsDone, h.outcome_eq n hdone]
  exact hdone

lemma mono (h : p.Settles batch acknowledged p') (hbatch : batch ⊆ others)
    (hacknowledged : acknowledged ⊆ more) : p.Settles others more p' where
  length_eq := h.length_eq
  outcome_eq := h.outcome_eq
  acknowledged_of n hn := (h.acknowledged_of n hn).imp_right fun ⟨t, ht, hserial⟩ =>
    ⟨t, hacknowledged ht, hserial⟩
  failed_of n failure hn := (h.failed_of n failure hn).imp_right fun ⟨t, ht, hrecorded⟩ =>
    ⟨t, hbatch ht, hrecorded⟩
  recorded_subset := h.recorded_subset

lemma trans (h : p.Settles batch acknowledged p') (h' : p'.Settles batch acknowledged p'') :
    p.Settles batch acknowledged p'' where
  length_eq := h'.length_eq.trans h.length_eq
  outcome_eq n hdone := (h'.outcome_eq n (h.isDone hdone)).trans (h.outcome_eq n hdone)
  acknowledged_of n hn := (h'.acknowledged_of n hn).elim (h.acknowledged_of n) Or.inr
  failed_of n failure hn := by
    rcases h'.failed_of n failure hn with hn | hn
    · refine (h.failed_of n failure hn).imp_right fun ⟨t, ht, hserial, hrecorded⟩ => ?_
      exact ⟨t, ht, hserial, h'.recorded_subset _ hrecorded⟩
    · exact Or.inr hn
  recorded_subset index := List.Subset.trans (h.recorded_subset index) (h'.recorded_subset index)

/-- What happens later, but not to outcomes and recorded failures, settles nothing. -/
lemma trans_eq (h : p.Settles batch acknowledged p') (houtcomes : p''.outcomes = p'.outcomes)
    (hfailures : p''.failures = p'.failures) : p.Settles batch acknowledged p'' :=
  h.trans (of_eq houtcomes hfailures)

end Settles

/-! ### One ticket -/

/-- Resolving a ticket is nothing to other tickets, and nothing at all if it is unknown. -/
lemma outcome_resolve_cases (p : Processor) (t : Ticket) (outcome : Outcome) (n : Nat) :
    (p.resolve t outcome).outcome n = p.outcome n ∨
      n = t.serial ∧ (p.resolve t outcome).outcome n = outcome := by
  by_cases hlt : t.serial < p.outcomes.length
  · rw [outcome_resolve hlt]
    by_cases hn : n = t.serial
    · exact Or.inr ⟨hn, if_pos hn⟩
    · exact Or.inl (if_neg hn)
  · have hsame : (p.resolve t outcome).outcomes = p.outcomes :=
      List.set_eq_of_length_le (Nat.le_of_not_lt hlt)
    exact Or.inl (by rw [Processor.outcome, hsame, ← Processor.outcome])

/-- What is resolved to an outcome other than the one before was not done. -/
lemma outcome_eq_of_resolve (hnot : ¬ p.IsDone t.serial) {outcome : Outcome} {n : Nat}
    (hdone : p.IsDone n) : (p.resolve t outcome).outcome n = p.outcome n := by
  rcases outcome_resolve_cases p t outcome n with hsame | ⟨rfl, -⟩
  · exact hsame
  · exact absurd hdone hnot

lemma settles_fail (p : Processor) (t : Ticket) (failure : Failure) :
    p.Settles [t] [] (p.fail t failure).1 := by
  by_cases hdone : (p.outcome t.serial).isDone = true
  · rw [fail, if_pos hdone]
    exact .refl p
  · -- the failure is recorded before the monitor is told
    let q := p.record t.request.index failure
    let told := (q.notifyFailed t.request failure).1
    have hfail : (p.fail t failure).1 =
        if (q.notifyFailed t.request failure).2 then told
        else told.resolve t (.failed failure) := by
      rw [fail, if_neg hdone]
      rcases hnotify : q.notifyFailed t.request failure with ⟨after, _ | _⟩ <;>
        simp [q, told, hnotify]
    have hsame : told = { q with monitors := told.monitors } := notifyFailed_eq q _ _
    have houtcome (n : Nat) : told.outcome n = p.outcome n := by
      rw [hsame]
      rfl
    have hrecorded (index : String) : told.recorded index =
        p.recorded index ++ failuresOn index [(t, failure)] := by
      rw [← recorded_record, hsame]
      rfl
    have htold : p.Settles [t] [] told := by
      refine ⟨by rw [hsame]; rfl, fun n _ => houtcome n, fun n h => Or.inl (houtcome n ▸ h),
        fun n failure h => Or.inl (houtcome n ▸ h), fun index => ?_⟩
      rw [hrecorded]
      exact List.subset_append_left _ _
    rw [hfail]
    split
    · exact htold
    · have hnot : ¬ told.IsDone t.serial := by rwa [IsDone, houtcome]
      refine htold.trans ⟨by simp [resolve, forget], fun n hdone => outcome_eq_of_resolve hnot hdone,
        fun n hn => ?_, fun n other hn => ?_, fun index => List.Subset.refl _⟩
      · rcases outcome_resolve_cases told t (.failed failure) n with hsame | ⟨-, hself⟩
        · exact Or.inl (hsame ▸ hn)
        · rw [hself] at hn
          cases hn
      · rcases outcome_resolve_cases told t (.failed failure) n with hsame | ⟨rfl, hself⟩
        · exact Or.inl (hsame ▸ hn)
        · rw [hself] at hn
          obtain rfl := Outcome.failed.inj hn
          refine Or.inr ⟨t, List.mem_singleton_self t, rfl, ?_⟩
          change failure ∈ told.recorded t.request.index
          rw [hrecorded]
          simp [failuresOn]

/-! ### Several tickets -/

/-- Failing a ticket leaves the workers and the queue alone. -/
lemma frame_fail (p : Processor) (t : Ticket) (failure : Failure) :
    (p.fail t failure).1.workers = p.workers ∧ (p.fail t failure).1.queue = p.queue := by
  rw [fail]
  split
  · exact ⟨rfl, rfl⟩
  · have hsame := notifyFailed_eq (p.record t.request.index failure) t.request failure
    rcases hnotify : (p.record t.request.index failure).notifyFailed t.request failure with
      ⟨told, _ | _⟩ <;>
    · rw [hnotify] at hsame
      have htold : told = { p.record t.request.index failure with monitors := told.monitors } :=
        hsame
      exact ⟨(congrArg workers htold :), (congrArg queue htold :)⟩

lemma frame_failEach (p : Processor) (failed : List FailedTicket) :
    (p.failEach failed).1.workers = p.workers ∧ (p.failEach failed).1.queue = p.queue := by
  induction failed generalizing p with
  | nil => exact ⟨rfl, rfl⟩
  | cons x rest ih =>
    have hfail := frame_fail p x.1 x.2
    rw [failEach]
    rcases hfailed : p.fail x.1 x.2 with ⟨after, _ | _⟩
    · rw [hfailed] at hfail
      exact ⟨(ih after).1.trans hfail.1, (ih after).2.trans hfail.2⟩
    · rw [hfailed] at hfail
      exact hfail

lemma settles_failEach (p : Processor) (failed : List FailedTicket) :
    p.Settles (failed.map Prod.fst) [] (p.failEach failed).1 := by
  induction failed generalizing p with
  | nil => exact .refl p
  | cons x rest ih =>
    have hfail := settles_fail p x.1 x.2
    have hhead : [x.1] ⊆ (x :: rest).map Prod.fst := by simp
    have htail : rest.map Prod.fst ⊆ (x :: rest).map Prod.fst := by simp
    rw [failEach]
    rcases hfailed : p.fail x.1 x.2 with ⟨after, _ | _⟩
    · rw [hfailed] at hfail
      exact (hfail.mono hhead (List.Subset.refl _)).trans
        ((ih after).mono htail (List.Subset.refl _))
    · rw [hfailed] at hfail
      exact hfail.mono hhead (List.Subset.refl _)

lemma settles_acknowledge (p : Processor) (acknowledged : List Ticket) :
    p.Settles [] acknowledged (p.acknowledge acknowledged) := by
  induction acknowledged generalizing p with
  | nil => exact .refl p
  | cons t rest ih =>
    have htail : rest ⊆ t :: rest := List.subset_cons_self t rest
    rw [acknowledge]
    by_cases hdone : (p.outcome t.serial).isDone = true
    · rw [if_pos hdone]
      exact (ih p).mono (List.Subset.refl _) htail
    · rw [if_neg hdone]
      refine Settles.trans ?_ ((ih _).mono (List.Subset.refl _) htail)
      refine ⟨by simp [resolve, forget], fun n hn => outcome_eq_of_resolve hdone hn, fun n hn => ?_,
        fun n failure hn => ?_, fun index => List.Subset.refl _⟩
      · rcases outcome_resolve_cases p t .acknowledged n with hsame | ⟨rfl, -⟩
        · exact Or.inl (hsame ▸ hn)
        · exact Or.inr ⟨t, List.mem_cons_self, rfl⟩
      · rcases outcome_resolve_cases p t .acknowledged n with hsame | ⟨-, hself⟩
        · exact Or.inl (hsame ▸ hn)
        · rw [hself] at hn
          cases hn

end Processor

/-! ## Turns of a worker -/

open Processor

/-- Where a worker stands after an answer, and which tickets it has acknowledged by then. -/
inductive Worker.Turns (answer : Answer) : Worker → Worker → List Ticket → Prop where
  /-- It sends its next group. -/
  | sends {batch acknowledged group next succeeded : List Ticket} {rest : List (List Ticket)}
      (hgroup : succeeded ⊆ group) :
      Turns answer (.sending batch acknowledged group (next :: rest))
        (.sending batch (acknowledged ++ succeeded) next rest) []
  /-- It has sent all of its groups, and asks for a refresh. -/
  | asks {batch acknowledged group succeeded : List Ticket} (hgroup : succeeded ⊆ group) :
      Turns answer (.sending batch acknowledged group [])
        (.refreshing batch (acknowledged ++ succeeded)) []
  /-- It has sent all of its groups, and no ticket asks for a refresh. -/
  | skips {batch acknowledged group succeeded : List Ticket} (hgroup : succeeded ⊆ group)
      (hnone : batchIndexes (acknowledged ++ succeeded) = []) :
      Turns answer (.sending batch acknowledged group []) .idle (acknowledged ++ succeeded)
  /-- Its refresh has been accepted. -/
  | refreshed {batch acknowledged : List Ticket}
      (haccepts : answer.Accepts (refreshCall (batchIndexes acknowledged))) :
      Turns answer (.refreshing batch acknowledged) .idle acknowledged
  /-- It lets go of a batch that it has not acknowledged. -/
  | fails {worker next : Worker} (hnext : next = .idle ∨ next = .dead) :
      Turns answer worker next []

/-- A worker acknowledges tickets that it had taken over as succeeded, or those of its last
group. -/
lemma Worker.Turns.batch_subset {answer : Answer} {worker next : Worker}
    {acknowledged : List Ticket} (h : worker.Turns answer next acknowledged) :
    next.batch ++ next.undecided ⊆ worker.batch ++ worker.undecided := by
  cases h with
  | sends hgroup =>
    simp only [Worker.batch, Worker.undecided, List.flatten_cons]
    intro t ht
    simp only [List.mem_append] at ht ⊢
    have hsent : t ∈ _ → t ∈ _ := fun h => hgroup h
    tauto
  | asks hgroup =>
    simp only [Worker.batch, Worker.undecided, List.flatten_nil, List.append_nil]
    intro t ht
    simp only [List.mem_append] at ht ⊢
    have hsent : t ∈ _ → t ∈ _ := fun h => hgroup h
    tauto
  | skips hgroup hnone => exact List.nil_subset _
  | refreshed haccepts => exact List.nil_subset _
  | fails hnext => rcases hnext with rfl | rfl <;> exact List.nil_subset _

/-- The tickets that a worker acknowledges are undecided before. -/
lemma Worker.Turns.acknowledged_subset {answer : Answer} {worker next : Worker}
    {acknowledged : List Ticket} (h : worker.Turns answer next acknowledged) :
    acknowledged ⊆ worker.undecided := by
  cases h with
  | sends hgroup => exact List.nil_subset _
  | asks hgroup => exact List.nil_subset _
  | skips hgroup hnone =>
    simp only [Worker.undecided, List.flatten_nil, List.append_nil]
    exact List.append_subset.2 ⟨List.subset_append_left _ _,
      List.Subset.trans hgroup (List.subset_append_right _ _)⟩
  | refreshed haccepts => exact List.Subset.refl _
  | fails hnext => exact List.nil_subset _

namespace Processor

variable {p p' : Processor} {i : Nat} {worker : Worker} {answer : Answer}

/-- What an answer has made of a processor: one worker has gone on, and tickets of its batch have
been settled. -/
structure HasTurned (p : Processor) (i : Nat) (worker : Worker) (answer : Answer) (next : Worker)
    (acknowledged : List Ticket) (after : Processor) : Prop where
  turns : worker.Turns answer next acknowledged
  settles : p.Settles (worker.batch ++ worker.undecided) acknowledged after
  workers_eq : after.workers = p.workers.set i next
  queued_eq : after.queued = p.queued

/-- A worker that lets go of its batch, after some of it has been failed. -/
lemma hasTurned_finish {next : Worker} {acknowledged : List Ticket}
    (hturns : worker.Turns answer next acknowledged)
    (hsettles : p.Settles (worker.batch ++ worker.undecided) acknowledged p')
    (hworkers : p'.workers = p.workers) (hqueue : p'.queue = p.queue) (batch : List Ticket) :
    p.HasTurned i worker answer next acknowledged (p'.finish i batch next) where
  turns := hturns
  settles := hsettles.trans_eq rfl rfl
  workers_eq := by rw [finish, setWorker, hworkers]
  queued_eq := by rw [queued_finish, queued, queued, hqueue]

lemma hasTurned_collapse (worker : Worker) (answer : Answer)
    (hsettles : p.Settles (worker.batch ++ worker.undecided) [] p')
    (hworkers : p'.workers = p.workers) (hqueue : p'.queue = p.queue) :
    ∃ next, p.HasTurned i worker answer next [] (p'.collapse i worker.batch) := by
  let rest : List FailedTicket := worker.batch.map (·, .misfit .monitorFailed)
  have hcollapse : p'.collapse i worker.batch =
      (p'.failEach rest).1.finish i worker.batch
        (if (p'.failEach rest).2 then .dead else .idle) := by
    rw [collapse, failAll_eq_failEach]
    rcases p'.failEach rest with ⟨after, _ | _⟩ <;> rfl
  have hframe := frame_failEach p' rest
  have hfailed : p'.Settles (worker.batch ++ worker.undecided) [] (p'.failEach rest).1 := by
    have hrest := settles_failEach p' rest
    rw [map_fst_map_misfit] at hrest
    exact hrest.mono (List.subset_append_left _ _) (List.Subset.refl _)
  rw [hcollapse]
  refine ⟨_, hasTurned_finish (.fails ?_) (hsettles.trans hfailed) (hframe.1.trans hworkers)
    (hframe.2.trans hqueue) _⟩
  split
  · exact Or.inr rfl
  · exact Or.inl rfl

/-- The answer to a request for a group of writes. -/
lemma exists_turns_sending {batch acknowledged group : List Ticket} {rest : List (List Ticket)}
    (hi : p.workers[i]? = some (.sending batch acknowledged group rest)) (answer : Answer) :
    ∃ next done, p.HasTurned i (.sending batch acknowledged group rest) answer next done
      (p.onAnswer i answer) := by
  let failures :=
    (judgeGroup (group.map Ticket.request) answer).failures (group.map Ticket.request)
  let failed := failedBy group failures
  let succeeded := succeededBy group failures
  have honAnswer : p.onAnswer i answer =
      if (p.failEach failed).2 then (p.failEach failed).1.collapse i batch
      else (p.failEach failed).1.proceed i batch (acknowledged ++ succeeded) rest := by
    rw [onAnswer, hi]
    dsimp only
    rw [applyVerdict_eq_failEach]
    cases (p.failEach failed).2 <;> rfl
  obtain ⟨hworkers, hqueue⟩ := frame_failEach p failed
  have hgroup : succeeded ⊆ group := (sublist_succeededBy group failures).subset
  have hsettles : p.Settles (batch ++ (acknowledged ++ group ++ rest.flatten)) []
      (p.failEach failed).1 := by
    refine (settles_failEach p failed).mono (fun t ht => ?_) (List.Subset.refl _)
    have ht' := (sublist_failedBy group failures).subset ht
    simp only [List.mem_append]
    exact Or.inr (Or.inl (Or.inr ht'))
  rw [honAnswer]
  split
  · obtain ⟨next, hturned⟩ := hasTurned_collapse (i := i)
      (.sending batch acknowledged group rest) answer hsettles hworkers hqueue
    exact ⟨next, [], hturned⟩
  · cases rest with
    | cons group' rest =>
      exact ⟨_, [], .sends hgroup, hsettles.trans_eq rfl rfl, by rw [← hworkers]; rfl,
        by rw [queued, queued, ← hqueue]; rfl⟩
    | nil =>
      rw [proceed]
      by_cases hrefresh : (batchIndexes (acknowledged ++ succeeded)).isEmpty = true
      · rw [if_pos hrefresh]
        have hnone := List.isEmpty_iff.1 hrefresh
        have hsame := acknowledge_eq (p.failEach failed).1 (acknowledged ++ succeeded)
        refine ⟨_, _, hasTurned_finish (.skips hgroup hnone) ?_ ?_ ?_ _⟩
        · exact (hsettles.mono (List.Subset.refl _) (List.nil_subset _)).trans
            ((settles_acknowledge _ _).mono (List.nil_subset _) (List.Subset.refl _))
        · rw [hsame]
          exact hworkers
        · rw [hsame]
          exact hqueue
      · rw [if_neg hrefresh]
        exact ⟨_, [], .asks hgroup, hsettles.trans_eq rfl rfl, by rw [← hworkers]; rfl,
          by rw [queued, queued, ← hqueue]; rfl⟩

/-- The answer to a request to refresh. -/
lemma exists_turns_refreshing {batch acknowledged : List Ticket}
    (hi : p.workers[i]? = some (.refreshing batch acknowledged)) (answer : Answer) :
    ∃ next done, p.HasTurned i (.refreshing batch acknowledged) answer next done
      (p.onAnswer i answer) := by
  cases hjudge : answer.judge (refreshCall (batchIndexes acknowledged)).method
      (refreshCall (batchIndexes acknowledged)).path [] with
  | ok response =>
    have honAnswer : p.onAnswer i answer =
        (p.acknowledge acknowledged).finish i batch .idle := by
      simp only [onAnswer, hi, hjudge]
    have hsame := acknowledge_eq p acknowledged
    rw [honAnswer]
    refine ⟨_, _, hasTurned_finish (.refreshed ⟨response, hjudge⟩) ?_ ?_ ?_ _⟩
    · exact (settles_acknowledge p acknowledged).mono (List.nil_subset _) (List.Subset.refl _)
    · rw [hsame]
    · rw [hsame]
  | error failure =>
    let failed : List FailedTicket := acknowledged.map (·, failure)
    have honAnswer : p.onAnswer i answer =
        if (p.failEach failed).2 then (p.failEach failed).1.collapse i batch
        else (p.failEach failed).1.finish i batch .idle := by
      simp only [onAnswer, hi, hjudge, failAll_eq_failEach]
      rcases p.failEach (acknowledged.map (·, failure)) with ⟨after, _ | _⟩ <;> rfl
    obtain ⟨hworkers, hqueue⟩ := frame_failEach p failed
    have hsettles : p.Settles (batch ++ acknowledged) [] (p.failEach failed).1 := by
      have hfailed := settles_failEach p failed
      rw [map_fst_map_misfit] at hfailed
      exact hfailed.mono (List.subset_append_right _ _) (List.Subset.refl _)
    rw [honAnswer]
    split
    · obtain ⟨next, hturned⟩ := hasTurned_collapse (i := i)
        (.refreshing batch acknowledged) answer hsettles hworkers hqueue
      exact ⟨next, [], hturned⟩
    · exact ⟨_, [], hasTurned_finish (.fails (Or.inl rfl)) hsettles hworkers hqueue _⟩

/-- There is no other way for a worker to go on when the answer comes that it waits for. -/
lemma exists_turns (hi : p.workers[i]? = some worker) (hcall : (awaitedCall? worker).isSome)
    (answer : Answer) :
    ∃ next acknowledged, p.HasTurned i worker answer next acknowledged (p.onAnswer i answer) := by
  cases worker with
  | idle => cases hcall
  | dead => cases hcall
  | sending batch acknowledged group rest => exact exists_turns_sending hi answer
  | refreshing batch acknowledged => exact exists_turns_refreshing hi answer

end Processor

end SearchIndex
