/-
# Failures that are owed

What is recorded for an index are the failures of requests that nobody has been told of.  Other
requests for the index may have failed as well, with failures that have been taken out of the record
before.  `Processor.Owes` keeps books of both by the numbers of the requests: each request for the
index that has failed is in one of two lists, and there once, and the record is what the requests of
the second list have come to.

Workers add to the second list, whatever spares the tickets leaves both alone, and a report of the
index moves all of the second list to the first.  The books are kept while the tickets are in hand
(`Processor.IsInHand`) and no monitor raises an error of its own.
-/
import SearchIndex.Proofs.Indexing.Sparing

namespace SearchIndex

namespace Processor

variable {p p' p'' : Processor} {putting : List Ticket} {accepted : List WorkRequest}
  {index : String} {told still more : List Nat}

/-! ## Outcomes are final -/

/-- What is done stays as it is. -/
def Preserves (p p' : Processor) : Prop := ∀ n, p.IsDone n → p'.outcome n = p.outcome n

namespace Preserves

lemma refl (p : Processor) : p.Preserves p := fun _ _ => rfl

lemma of_eq (h : ∀ n, p'.outcome n = p.outcome n) : p.Preserves p' := fun n _ => h n

lemma isDone (h : p.Preserves p') {n : Nat} (hdone : p.IsDone n) : p'.IsDone n := by
  rw [IsDone, h n hdone]
  exact hdone

lemma trans (h : p.Preserves p') (h' : p'.Preserves p'') : p.Preserves p'' :=
  fun n hdone => (h' n (h.isDone hdone)).trans (h n hdone)

lemma failed (h : p.Preserves p') {n : Nat} {failure : Failure}
    (hn : p.outcome n = .failed failure) : p'.outcome n = .failed failure := by
  rw [h n (by rw [IsDone, hn]; rfl), hn]

end Preserves

lemma WorkersStep.preserves (h : p.WorkersStep p') : p.Preserves p' := by
  cases h with
  | take hi hqueue =>
    obtain ⟨q, batch, left, group, rest, -, -, -, htake⟩ := takeBatch_eq _ hqueue
    rw [htake]
    exact .of_eq fun _ => rfl
  | answer hi hcall answer =>
    obtain ⟨next, acknowledged, hturned⟩ := exists_turns hi hcall answer
    exact hturned.settles.outcome_eq
  | forget hdone => exact .of_eq fun _ => rfl

/-! ## Tickets in hand -/

/-- Workers may have been stopped, and the queue dropped. -/
lemma IsOrderly.of_spares (h : p.IsOrderly putting) (hspares : p.Spares p') :
    p'.IsOrderly putting := by
  have htaken : p'.taken.Sublist p.taken := by
    rw [taken, taken]
    rcases hspares.workers with hsame | hdead | hnone
    · rw [hsame]
    · have hbatches : (p.workers.map fun _ => Worker.dead).flatMap Worker.batch = [] :=
        List.flatMap_eq_nil_iff.2 fun worker hworker => by
          obtain ⟨_, -, rfl⟩ := List.mem_map.1 hworker
          rfl
      rw [hdead, hbatches]
      exact List.nil_sublist _
    · rw [hnone]
      exact List.nil_sublist _
  have hqueued : (putting ++ p'.queued).Sublist (putting ++ p.queued) :=
    hspares.queued.append_left putting
  have hall := hqueued.append htaken
  refine ⟨fun t ht => ?_, h.distinct.sublist (hall.map _), fun t ht => ?_, fun worker hworker => ?_⟩
  · rw [hspares.outcomes_eq]
    exact h.knows t (hall.subset ht)
  · exact mt (hspares.isDone_iff t.serial).1 (h.undone t (hqueued.subset ht))
  · obtain ⟨i, hi⟩ := List.mem_iff_getElem?.1 hworker
    rcases hspares.getElem?_workers hi with hi | rfl
    · exact (h.workers worker (List.mem_of_getElem? hi)).congr fun t _ =>
        hspares.isDone_iff t.serial
    · exact Worker.isOrderly_dead

/-- The tickets are in order and in good hands, and monitors are quiet. -/
structure IsInHand (p : Processor) (putting : List Ticket) (accepted : List WorkRequest) :
    Prop where
  faithful : p.IsFaithful accepted
  orderly : p.IsOrderly putting
  quiet : p.HasQuietMonitors
  distinct : Table.IsDistinct p.failures

namespace IsInHand

lemma of_spares (h : p.IsInHand putting accepted) (hspares : p.Spares p') :
    p'.IsInHand putting accepted where
  faithful := h.faithful.of_spares hspares
  orderly := h.orderly.of_spares hspares
  quiet := hspares.quiet h.quiet
  distinct := hspares.failures_eq ▸ h.distinct

lemma of_workersStep (h : p.IsInHand putting accepted) (hstep : p.WorkersStep p') :
    p'.IsInHand putting accepted := by
  cases hstep with
  | @take i hi hqueue =>
    have hfaithful := h.faithful.takeBatch i hqueue
    have horderly := h.orderly.takeBatch hi hqueue
    obtain ⟨q, batch, left, group, rest, -, -, -, htake⟩ := takeBatch_eq _ hqueue
    rw [htake] at hfaithful horderly ⊢
    exact ⟨hfaithful, horderly, h.quiet, h.distinct⟩
  | answer hi hcall answer =>
    have hadds := h.orderly.adds h.quiet hi hcall answer
    refine ⟨h.faithful.answered hi hcall answer, h.orderly.answered hi hcall answer,
      fun name n => ?_, hadds.distinct h.distinct⟩
    rw [hadds.monitor_eq, Monitor.raises_hear]
    exact h.quiet name n
  | forget hdone =>
    exact ⟨h.faithful.forget hdone, h.orderly.of_eq rfl rfl rfl, h.quiet, h.distinct⟩

lemma clearReported (h : p.IsInHand putting accepted) (scope : Option String) :
    (p.clearReported scope).IsInHand putting accepted where
  faithful := h.faithful.clearReported scope
  orderly := h.orderly.clearReported scope
  quiet name n := by
    rw [monitor_clearReported]
    exact h.quiet name n
  distinct := isDistinct_clearReported h.distinct scope

/-- A request is entered, and its ticket waits if the queue is full. -/
lemma accept {s : Shared} (h : s.processor.IsInHand [] accepted) (r : WorkRequest) :
    (Execution.accept r s).1.processor.IsInHand
      (if (Execution.accept r s).2.2 then [] else [(Execution.accept r s).2.1])
      (accepted ++ [r]) := by
  obtain ⟨hfaithful, -⟩ := h.faithful.accept r
  have hregister := h.orderly.start.register r
  rw [Execution.accept] at hfaithful ⊢
  dsimp only at hfaithful ⊢
  split
  · rename_i hfull
    rw [if_pos hfull] at hfaithful
    exact ⟨hfaithful, hregister, h.quiet, h.distinct⟩
  · rename_i hroom
    rw [if_neg hroom] at hfaithful
    exact ⟨hfaithful, hregister.enqueue (.refl _), h.quiet, h.distinct⟩

/-- A ticket that has waited is queued. -/
lemma enqueue {t : Ticket} (h : p.IsInHand [t] accepted) (hgenuine : t.IsGenuine accepted) :
    (p.enqueue t).IsInHand [] accepted where
  faithful := h.faithful.enqueue hgenuine
  orderly := h.orderly.enqueue (.refl _)
  quiet := h.quiet
  distinct := h.distinct

end IsInHand

/-! ## Books -/

/-- The request of the number was accepted for the index and has failed. -/
def HasFailed (p : Processor) (accepted : List WorkRequest) (index : String) (n : Nat) : Prop :=
  (∃ r, accepted[n]? = some r ∧ r.index = index) ∧ ∃ failure, p.outcome n = .failed failure

/-- Each request for the index that has failed is in one of two lists, and the failures of those in
the second one are recorded. -/
structure Owes (p : Processor) (accepted : List WorkRequest) (index : String)
    (told still : List Nat) : Prop where
  recorded_eq : still.map p.outcome = (p.recorded index).map .failed
  once : (told ++ still).Nodup
  mem_iff : ∀ n, n ∈ told ++ still ↔ p.HasFailed accepted index n

namespace Owes

/-- Only outcomes and recorded failures matter. -/
lemma of_eq (h : p.Owes accepted index told still) (houtcome : ∀ n, p'.outcome n = p.outcome n)
    (hfailures : p'.failures = p.failures) : p'.Owes accepted index told still where
  recorded_eq := by
    have hrecorded : p'.recorded index = p.recorded index := by
      rw [recorded, recorded, unreported, unreported, hfailures]
    rw [hrecorded, ← h.recorded_eq]
    exact List.map_congr_left fun n _ => houtcome n
  once := h.once
  mem_iff n := by rw [h.mem_iff, HasFailed, HasFailed, houtcome]

lemma of_spares (h : p.Owes accepted index told still) (hspares : p.Spares p') :
    p'.Owes accepted index told still := h.of_eq hspares.outcome_eq hspares.failures_eq

/-- The order of what has been told does not matter. -/
lemma perm {others : List Nat} (h : p.Owes accepted index told still) (hperm : told.Perm others) :
    p.Owes accepted index others still where
  recorded_eq := h.recorded_eq
  once := (hperm.append_right still).nodup_iff.1 h.once
  mem_iff n := by rw [← h.mem_iff, (hperm.append_right still).mem_iff]

/-- Tickets that fail add to what is recorded. -/
lemma adds {failed : List FailedTicket} (h : p.Owes accepted index told still)
    (hadds : p.Adds failed p') (hgenuine : ∀ x ∈ failed, x.1.IsGenuine accepted)
    (hundone : ∀ x ∈ failed, ¬ p.IsDone x.1.serial)
    (hdistinct : (failed.map fun x => x.1.serial).Nodup) :
    p'.Owes accepted index told
      (still ++ (failed.filter fun x => x.1.request.index = index).map fun x => x.1.serial) := by
  let own : List FailedTicket := failed.filter fun x => x.1.request.index = index
  have hown {x : FailedTicket} : x ∈ own ↔ x ∈ failed ∧ x.1.request.index = index := by
    simp [own]
  have hbefore (n : Nat) (hn : n ∈ told ++ still) : ∃ failure, p.outcome n = .failed failure :=
    ((h.mem_iff n).1 hn).2
  have hfailed (x : FailedTicket) (hx : x ∈ failed) : p'.outcome x.1.serial = .failed x.2 :=
    (hadds.failed_iff _ _).2 (Or.inr ⟨x.1, hx, rfl⟩)
  refine ⟨?_, ?_, fun n => ?_⟩
  · have hstill : still.map p'.outcome = still.map p.outcome := by
      refine List.map_congr_left fun n hn => ?_
      obtain ⟨failure, hfailure⟩ := hbefore n (List.mem_append_right told hn)
      rw [hfailure]
      exact (hadds.failed_iff _ _).2 (Or.inl hfailure)
    have hmore : (own.map fun x => x.1.serial).map p'.outcome =
        (failuresOn index failed).map .failed := by
      rw [failuresOn, List.map_map, List.map_map]
      exact List.map_congr_left fun x hx => hfailed x (hown.1 hx).1
    rw [hadds.recorded_eq, List.map_append, List.map_append, hstill, h.recorded_eq, hmore]
  · -- what failed before is done, and what fails now is not
    rw [← List.append_assoc]
    refine List.nodup_append.2 ⟨h.once, hdistinct.sublist ?_, ?_⟩
    · exact List.filter_sublist.map _
    · rintro n hn m hm rfl
      obtain ⟨x, hx, rfl⟩ := List.mem_map.1 hm
      obtain ⟨failure, hfailure⟩ := hbefore _ hn
      refine hundone x (hown.1 hx).1 ?_
      rw [IsDone, hfailure]
      rfl
  · rw [← List.append_assoc, List.mem_append, h.mem_iff, HasFailed, HasFailed]
    constructor
    · rintro (⟨haccepted, failure, hfailure⟩ | hn)
      · exact ⟨haccepted, failure, (hadds.failed_iff _ _).2 (Or.inl hfailure)⟩
      · obtain ⟨x, hx, rfl⟩ := List.mem_map.1 hn
        obtain ⟨hmem, hindex⟩ := hown.1 hx
        exact ⟨⟨x.1.request, hgenuine x hmem, hindex⟩, x.2, hfailed x hmem⟩
    · rintro ⟨⟨r, hr, hindex⟩, failure, hfailure⟩
      rcases (hadds.failed_iff _ _).1 hfailure with hfailure | ⟨t, ht, rfl⟩
      · exact Or.inl ⟨⟨r, hr, hindex⟩, failure, hfailure⟩
      · obtain rfl : t.request = r := Option.some.inj ((hgenuine _ ht).symm.trans hr)
        exact Or.inr (List.mem_map.2 ⟨(t, failure), hown.2 ⟨ht, hindex⟩, rfl⟩)

/-- Workers only add to what is recorded. -/
lemma of_workersStep (h : p.Owes accepted index told still) (hhand : p.IsInHand putting accepted)
    (hstep : p.WorkersStep p') : ∃ more, p'.Owes accepted index told (still ++ more) := by
  have hsame (houtcome : ∀ n, p'.outcome n = p.outcome n) (hfailures : p'.failures = p.failures) :
      ∃ more, p'.Owes accepted index told (still ++ more) :=
    ⟨[], by rw [List.append_nil]; exact h.of_eq houtcome hfailures⟩
  cases hstep with
  | take hi hqueue =>
    obtain ⟨q, batch, left, group, rest, -, -, -, htake⟩ := takeBatch_eq _ hqueue
    rw [htake] at hsame ⊢
    exact hsame (fun _ => rfl) rfl
  | @answer i worker hi hcall answer =>
    have hworker := List.mem_of_getElem? hi
    have horderly := hhand.orderly.workers worker hworker
    have hundecided := Worker.sublist_failing answer worker
    refine ⟨_, h.adds (hhand.orderly.adds hhand.quiet hi hcall answer) (fun x hx => ?_)
      (fun x hx => horderly.undone _ (hundecided.subset (List.mem_map_of_mem hx))) ?_⟩
    · have hmem := hundecided.subset (List.mem_map_of_mem hx)
      exact hhand.faithful.working worker hworker _ (List.mem_append_right _ hmem)
    · have hnodup := (hhand.orderly.distinct_batch hi).sublist
        ((hundecided.trans horderly.within).map Ticket.serial)
      rwa [List.map_map] at hnodup
  | forget hdone => exact hsame (fun _ => rfl) rfl

/-- A request that is accepted has not failed. -/
lemma append (h : p.Owes accepted index told still) (hnumbered : p.outcomes.length = accepted.length)
    (r : WorkRequest) : p.Owes (accepted ++ [r]) index told still where
  recorded_eq := h.recorded_eq
  once := h.once
  mem_iff n := by
    rw [h.mem_iff, HasFailed, HasFailed]
    refine and_congr_left fun ⟨failure, hfailure⟩ => ?_
    have hlt : n < accepted.length := by
      by_contra hge
      rw [← hnumbered] at hge
      rw [outcome, List.getD_eq_getElem?_getD, List.getElem?_eq_none (Nat.le_of_not_lt hge)]
        at hfailure
      cases hfailure
    rw [List.getElem?_append_left hlt]

lemma accept {s : Shared} (h : s.processor.Owes accepted index told still)
    (hnumbered : s.processor.outcomes.length = accepted.length) (r : WorkRequest) :
    (Execution.accept r s).1.processor.Owes (accepted ++ [r]) index told still :=
  (h.append hnumbered r).of_eq (outcome_accept r s) (failures_accept r s)

/-- A report of the index moves all that is recorded to what has been told. -/
lemma clearReported (h : p.Owes accepted index told still)
    (hdistinct : Table.IsDistinct p.failures) :
    (p.clearReported (some index)).Owes accepted index (told ++ still) [] where
  recorded_eq := by
    rw [recorded_clearReported hdistinct, covers]
    simp
  once := by
    rw [List.append_nil]
    exact h.once
  mem_iff n := by
    rw [List.append_nil, h.mem_iff, HasFailed, HasFailed, outcome_clearReported]

/-- A report of another index is nothing to the books. -/
lemma clearReported_of_ne {other : String} (h : p.Owes accepted index told still)
    (hdistinct : Table.IsDistinct p.failures) (hother : other ≠ index) :
    (p.clearReported (some other)).Owes accepted index told still where
  recorded_eq := by
    have hcovers : covers (some other) index = false := by simpa [covers] using hother
    have hsame : (p.clearReported (some other)).outcome = p.outcome :=
      funext (outcome_clearReported p _)
    rw [recorded_clearReported hdistinct, hcovers, if_neg Bool.false_ne_true, hsame]
    exact h.recorded_eq
  once := h.once
  mem_iff n := by rw [h.mem_iff, HasFailed, HasFailed, outcome_clearReported]

/-- A request that is done is not added. -/
lemma not_mem_of_isDone {requests : List WorkRequest} {n : Nat}
    (h' : p'.Owes requests index told (still ++ more)) (h : p.Owes accepted index told still)
    (haccepted : ∃ r, accepted[n]? = some r ∧ r.index = index) (hdone : p.IsDone n)
    (hpreserves : p.Preserves p') : n ∉ more := by
  intro hn
  obtain ⟨-, failure, hfailure⟩ :=
    (h'.mem_iff n).1 (List.mem_append_right _ (List.mem_append_right _ hn))
  rw [hpreserves n hdone] at hfailure
  have hknown : n ∈ told ++ still := (h.mem_iff n).2 ⟨haccepted, failure, hfailure⟩
  have honce := h'.once
  rw [← List.append_assoc] at honce
  exact (List.nodup_append.1 honce).2.2 n hknown n hn rfl

/-- Where all requests for the index are done, nothing is added. -/
lemma eq_nil_of_isDone (h : p.Owes accepted index told still)
    (hdone : ∀ n r, accepted[n]? = some r → r.index = index → p.IsDone n)
    (hpreserves : p.Preserves p') (h' : p'.Owes accepted index told (still ++ more)) :
    more = [] := by
  refine List.eq_nil_iff_forall_not_mem.2 fun n hn => ?_
  obtain ⟨⟨r, hr, hindex⟩, -⟩ :=
    (h'.mem_iff n).1 (List.mem_append_right _ (List.mem_append_right _ hn))
  exact h'.not_mem_of_isDone h ⟨r, hr, hindex⟩ (hdone n r hr hindex) hpreserves hn

end Owes

/-! ## Drifting -/

/-- While the processor drifts, its tickets stay in hand, outcomes are final, and more may be
recorded. -/
lemma Owes.drifts (h : p.Owes accepted index told still) (hhand : p.IsInHand putting accepted)
    (hdrifts : p.Drifts p') : p'.IsInHand putting accepted ∧ p.Preserves p' ∧
      ∃ more, p'.Owes accepted index told (still ++ more) := by
  let I (q : Processor) : Prop := q.IsInHand putting accepted ∧ p.Preserves q ∧
    ∃ more, q.Owes accepted index told (still ++ more)
  have hbefore : I p := ⟨hhand, .refl p, [], by rwa [List.append_nil]⟩
  refine hdrifts.keeps hbefore ?_ ?_
  · rintro q q' ⟨hhand, hpreserves, more, howes⟩ hstep
    obtain ⟨others, hothers⟩ := howes.of_workersStep hhand hstep
    rw [List.append_assoc] at hothers
    exact ⟨hhand.of_workersStep hstep, hpreserves.trans hstep.preserves, _, hothers⟩
  · rintro q q' ⟨hhand, hpreserves, more, howes⟩ hspares
    exact ⟨hhand.of_spares hspares, hpreserves.trans (.of_eq hspares.outcome_eq), more,
      howes.of_spares hspares⟩

/-! ## The start -/

/-- A processor that has not worked has no tickets and owes nothing. -/
lemma isInHand_fresh (limits : ProcessorLimits) : (fresh limits).IsInHand [] [] where
  faithful := ⟨rfl, fun t ht => absurd ht List.not_mem_nil,
    fun worker hworker => absurd hworker List.not_mem_nil, fun n r hr => by cases hr⟩
  orderly := ⟨fun t ht => absurd ht List.not_mem_nil, List.nodup_nil,
    fun t ht => absurd ht List.not_mem_nil, fun worker hworker => absurd hworker List.not_mem_nil⟩
  quiet _ _ := rfl
  distinct := List.nodup_nil

lemma owes_fresh (limits : ProcessorLimits) (index : String) :
    (fresh limits).Owes [] index [] [] where
  recorded_eq := rfl
  once := List.nodup_nil
  mem_iff n := by simp [HasFailed]

end Processor

end SearchIndex
