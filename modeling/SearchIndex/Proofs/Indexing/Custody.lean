/-
# The custody of accepted requests

An accepted request is known by its number, which is that of its ticket.  Two things are kept in all
circumstances, with monitors of every kind and even when the workers are stopped in the middle of
their work: each ticket that somebody has is that of the request which was accepted under its
number, and a request that is not done is in the pending set of its index, so that whoever awaits
that index waits for it (`Processor.IsFaithful`).

What tasks do besides submitting and awaiting requests is not about tickets.  It may change monitors
and users, stop the workers and drop the queue, and it spares everything else
(`Processor.Spares`).
-/
import SearchIndex.Proofs.Indexing.Settling
import SearchIndex.Proofs.Indexing.Tally

namespace SearchIndex

/-- The ticket is that of the request which was accepted under its number. -/
def Ticket.IsGenuine (accepted : List WorkRequest) (t : Ticket) : Prop :=
  accepted[t.serial]? = some t.request

lemma Ticket.IsGenuine.append {accepted : List WorkRequest} {t : Ticket}
    (h : t.IsGenuine accepted) (more : List WorkRequest) : t.IsGenuine (accepted ++ more) := by
  obtain ⟨hlt, -⟩ := List.getElem?_eq_some_iff.1 h
  rw [IsGenuine, List.getElem?_append_left hlt]
  exact h

namespace Processor

variable {p p' p'' : Processor} {accepted : List WorkRequest}

/-! ## What is spared -/

/-- Monitors and users may have changed, workers may have been stopped and the queue dropped. -/
structure Spares (p p' : Processor) : Prop where
  outcomes_eq : p'.outcomes = p.outcomes
  pending_eq : p'.pending = p.pending
  failures_eq : p'.failures = p.failures
  queued : p'.queued.Sublist p.queued
  workers : p'.workers = p.workers ∨ p'.workers = p.workers.map (fun _ => .dead) ∨
    p'.workers = []
  quiet : p.HasQuietMonitors → p'.HasQuietMonitors

namespace Spares

lemma refl (p : Processor) : p.Spares p := ⟨rfl, rfl, rfl, .refl _, Or.inl rfl, fun h => h⟩

lemma trans (h : p.Spares p') (h' : p'.Spares p'') : p.Spares p'' where
  outcomes_eq := h'.outcomes_eq.trans h.outcomes_eq
  pending_eq := h'.pending_eq.trans h.pending_eq
  failures_eq := h'.failures_eq.trans h.failures_eq
  queued := h'.queued.trans h.queued
  workers := by
    rcases h'.workers with hsame | hdead | hnone
    · rw [hsame]
      exact h.workers
    · rw [hdead]
      rcases h.workers with hsame | hdead | hnone
      · exact Or.inr (Or.inl (by rw [hsame]))
      · exact Or.inr (Or.inl (by rw [hdead, List.map_map]; rfl))
      · exact Or.inr (Or.inr (by rw [hnone, List.map_nil]))
    · exact Or.inr (Or.inr hnone)
  quiet hquiet := h'.quiet (h.quiet hquiet)

/-- Each worker stands where it stood, or has been stopped. -/
lemma getElem?_workers (h : p.Spares p') {i : Nat} {worker : Worker}
    (hi : p'.workers[i]? = some worker) : p.workers[i]? = some worker ∨ worker = .dead := by
  rcases h.workers with hsame | hdead | hnone
  · rw [hsame] at hi
    exact Or.inl hi
  · rw [hdead, List.getElem?_map] at hi
    obtain ⟨_, -, rfl⟩ := Option.map_eq_some_iff.1 hi
    exact Or.inr rfl
  · rw [hnone] at hi
    cases hi

lemma outcome_eq (h : p.Spares p') (n : Nat) : p'.outcome n = p.outcome n := by
  rw [outcome, outcome, h.outcomes_eq]

lemma isDone_iff (h : p.Spares p') (n : Nat) : p'.IsDone n ↔ p.IsDone n := by
  rw [IsDone, IsDone, h.outcome_eq]

end Spares

/-- A monitor may be replaced by one that raises exactly if it does. -/
lemma hasQuietMonitors_set (h : p.HasQuietMonitors) {name : String} {m : Monitor}
    (hm : m.raises = (p.monitor name).raises) :
    { p with monitors := Table.set p.monitors name m }.HasQuietMonitors := by
  intro other n
  by_cases hother : name = other
  · subst hother
    have hself : { p with monitors := Table.set p.monitors name m }.monitor name = m := by
      simp [monitor, Table.get?_set_self]
    rw [hself, hm]
    exact h name n
  · have hsame : { p with monitors := Table.set p.monitors name m }.monitor other =
        p.monitor other := by
      simp [monitor, Table.get?_set_of_ne _ _ hother]
    rw [hsame]
    exact h other n

lemma raises_onFailed (m : Monitor) (failure : Failure) :
    (m.onFailed failure).1.raises = m.raises := by
  rw [Monitor.onFailed]
  split <;> rfl

lemma spares_notifyProduced (p : Processor) (r : WorkRequest) : p.Spares (p.notifyProduced r) := by
  rw [notifyProduced]
  split
  · exact .refl p
  · exact ⟨rfl, rfl, rfl, .refl _, Or.inl rfl, fun h => hasQuietMonitors_set h rfl⟩

lemma spares_notifyFailed (p : Processor) (r : WorkRequest) (failure : Failure) :
    p.Spares (p.notifyFailed r failure).1 := by
  rw [notifyFailed]
  split
  · exact .refl p
  · exact ⟨rfl, rfl, rfl, .refl _, Or.inl rfl,
      fun h => hasQuietMonitors_set h (raises_onFailed _ failure)⟩

lemma spares_notifyAll (p : Processor) (failures : List (WorkRequest × Raised)) :
    p.Spares (Execution.notifyAll p failures).1 := by
  induction failures generalizing p with
  | nil => exact .refl p
  | cons entry rest ih =>
    obtain ⟨r, error⟩ := entry
    have hnotify := spares_notifyFailed p r error.failure
    rw [Execution.notifyAll]
    rcases hnotified : p.notifyFailed r error.failure with ⟨after, _ | _⟩
    · rw [hnotified] at hnotify
      exact hnotify.trans (ih after)
    · rw [hnotified] at hnotify
      exact hnotify

lemma spares_users (p : Processor) (users : Nat) : p.Spares { p with users } :=
  ⟨rfl, rfl, rfl, .refl _, Or.inl rfl, fun h => h⟩

lemma spares_cancel (p : Processor) : p.Spares p.cancel :=
  ⟨rfl, rfl, rfl, .refl _, Or.inr (Or.inl rfl), fun h => h⟩

lemma spares_stop (p : Processor) : p.Spares p.stop :=
  ⟨rfl, rfl, rfl, List.nil_sublist _, Or.inr (Or.inr rfl), fun h => h⟩

/-! ## Pending sets -/

lemma mem_pendingOf_iff {index : String} {n : Nat} :
    n ∈ p.pendingOf index ↔ ∃ home, p.Keeps index home n := by
  constructor
  · intro hn
    rw [pendingOf] at hn
    cases hset : Table.get? p.pending index with
    | none => simp [hset] at hn
    | some set => exact ⟨set.serial, set, hset, rfl, by simpa [hset] using hn⟩
  · rintro ⟨home, hkeeps⟩
    exact hkeeps.mem_pendingOf

lemma mem_pendingOf_forget {index : String} {n : Nat} {t : Ticket} (hn : n ∈ p.pendingOf index)
    (hne : n ≠ t.serial) : n ∈ (p.forget t).pendingOf index := by
  obtain ⟨home, hkeeps⟩ := mem_pendingOf_iff.1 hn
  exact mem_pendingOf_iff.2 ⟨home, hkeeps.forget hne⟩

lemma mem_pendingOf_register {index : String} {n : Nat} (hn : n ∈ p.pendingOf index)
    (r : WorkRequest) : n ∈ (p.register r).1.pendingOf index := by
  obtain ⟨home, hkeeps⟩ := mem_pendingOf_iff.1 hn
  exact mem_pendingOf_iff.2 ⟨home, keeps_register r hkeeps⟩

/-- A pending set is dropped only if it is empty. -/
lemma mem_pendingOf_clearReported {index : String} {n : Nat} (hn : n ∈ p.pendingOf index)
    (scope : Option String) : n ∈ (p.clearReported scope).pendingOf index := by
  cases scope with
  | none => exact hn
  | some own =>
    by_cases hempty : (p.pendingOf own).isEmpty = true
    · have hne : own ≠ index := by
        rintro rfl
        rw [List.isEmpty_iff.1 hempty] at hn
        exact List.not_mem_nil hn
      rw [pendingOf, clearReported]
      simp only [hempty, if_true]
      rwa [Table.get?_erase_of_ne _ hne, ← pendingOf]
    · rw [pendingOf, clearReported]
      simp only [hempty, Bool.false_eq_true, if_false]
      exact hn

/-! ## Entering requests -/

lemma outcome_accept (r : WorkRequest) (s : Shared) (n : Nat) :
    (Execution.accept r s).1.processor.outcome n = s.processor.outcome n := by
  rw [Execution.accept]
  dsimp only
  split <;> exact outcome_register s.processor.start r n

lemma failures_accept (r : WorkRequest) (s : Shared) :
    (Execution.accept r s).1.processor.failures = s.processor.failures := by
  rw [Execution.accept]
  dsimp only
  split <;> rfl

lemma workers_accept (r : WorkRequest) (s : Shared) :
    (Execution.accept r s).1.processor.workers = s.processor.start.workers := by
  rw [Execution.accept]
  dsimp only
  split <;> rfl

/-! ## Faithful processors -/

/-- Each ticket in the queue and with a worker is genuine, and what is not done is pending. -/
structure IsFaithful (p : Processor) (accepted : List WorkRequest) : Prop where
  numbered : p.outcomes.length = accepted.length
  waiting : ∀ t ∈ p.queued, t.IsGenuine accepted
  working : ∀ worker ∈ p.workers, ∀ t ∈ worker.batch ++ worker.undecided, t.IsGenuine accepted
  pending : ∀ n r, accepted[n]? = some r → ¬ p.IsDone n → n ∈ p.pendingOf r.index

namespace IsFaithful

lemma of_spares (h : p.IsFaithful accepted) (hspares : p.Spares p') : p'.IsFaithful accepted where
  numbered := by rw [hspares.outcomes_eq, h.numbered]
  waiting t ht := h.waiting t (hspares.queued.subset ht)
  working worker hworker := by
    obtain ⟨i, hi⟩ := List.mem_iff_getElem?.1 hworker
    rcases hspares.getElem?_workers hi with hi | rfl
    · exact h.working worker (List.mem_of_getElem? hi)
    · exact fun t ht => absurd ht List.not_mem_nil
  pending n r hr hnot := by
    rw [pendingOf, hspares.pending_eq]
    exact h.pending n r hr (mt (hspares.isDone_iff n).2 hnot)

lemma start (h : p.IsFaithful accepted) : p.start.IsFaithful accepted where
  numbered := h.numbered
  waiting t ht := by
    rw [queued_start] at ht
    exact h.waiting t ht
  working worker hworker := by
    rw [Processor.start] at hworker
    dsimp only at hworker
    split at hworker
    · obtain rfl := List.eq_of_mem_replicate hworker
      exact fun t ht => absurd ht List.not_mem_nil
    · exact h.working worker hworker
  pending := h.pending

/-- A request that is accepted gets a genuine ticket. -/
lemma isGenuine_register (h : p.IsFaithful accepted) (r : WorkRequest) :
    (p.register r).2.IsGenuine (accepted ++ [r]) := by
  have hserial : (p.register r).2.serial = accepted.length := h.numbered
  have hrequest : (p.register r).2.request = r := rfl
  rw [Ticket.IsGenuine, hserial, hrequest, List.getElem?_concat_length]

/-- A request that is accepted is pending. -/
lemma register (h : p.IsFaithful accepted) (r : WorkRequest) :
    (p.register r).1.IsFaithful (accepted ++ [r]) where
  numbered := by simp [Processor.register, h.numbered]
  waiting t ht := (h.waiting t ht).append _
  working worker hworker t ht := (h.working worker hworker t ht).append _
  pending n other hother hnot := by
    rw [IsDone, outcome_register] at hnot
    by_cases hn : n < accepted.length
    · rw [List.getElem?_append_left hn] at hother
      exact mem_pendingOf_register (h.pending n other hother hnot) r
    · have hlast : n = accepted.length := by
        have hlt := (List.getElem?_eq_some_iff.1 hother).1
        rw [List.length_append, List.length_singleton] at hlt
        omega
      rw [hlast, List.getElem?_concat_length] at hother
      obtain rfl := Option.some.inj hother
      have hself := (keeps_register_self (p := p) r).mem_pendingOf
      rwa [hlast, ← h.numbered]

/-- A genuine ticket is queued. -/
lemma enqueue {t : Ticket} (h : p.IsFaithful accepted) (ht : t.IsGenuine accepted) :
    (p.enqueue t).IsFaithful accepted where
  numbered := h.numbered
  waiting other hother := by
    rw [queued_enqueue] at hother
    rcases List.mem_append.1 hother with hother | hother
    · exact h.waiting other hother
    · rwa [List.mem_singleton.1 hother]
  working := h.working
  pending := h.pending

/-- Entering a request gives it a genuine ticket, whether or not there is room in the queue. -/
lemma accept {s : Shared} (h : s.processor.IsFaithful accepted) (r : WorkRequest) :
    (Execution.accept r s).1.processor.IsFaithful (accepted ++ [r]) ∧
      (Execution.accept r s).2.1.IsGenuine (accepted ++ [r]) := by
  have hregister := h.start.register r
  have hgenuine := h.start.isGenuine_register r
  rw [Execution.accept]
  dsimp only
  split
  · exact ⟨hregister, hgenuine⟩
  · exact ⟨hregister.enqueue hgenuine, hgenuine⟩

lemma takeBatch (h : p.IsFaithful accepted) (i : Nat) (hqueue : p.isQueueEmpty = false) :
    (p.takeBatch i).IsFaithful accepted := by
  obtain ⟨q, batch, left, group, rest, hq, htickets, hgroups, htake⟩ := takeBatch_eq i hqueue
  have hqueued : p.queued = batch ++ left := by simp [queued, hq, htickets]
  have hbatch (t : Ticket) (ht : t ∈ batch) : t.IsGenuine accepted :=
    h.waiting t (hqueued ▸ List.mem_append_left left ht)
  rw [htake]
  refine ⟨h.numbered, fun t ht => h.waiting t ?_, fun worker hworker t ht => ?_, h.pending⟩
  · rw [hqueued]
    exact List.mem_append_right batch ht
  · rcases List.mem_or_eq_of_mem_set hworker with hworker | rfl
    · exact h.working worker hworker t ht
    · have hundecided : (Worker.sending batch [] group rest).undecided = batch := hgroups
      rw [hundecided] at ht
      exact (List.mem_append.1 ht).elim (hbatch t) (hbatch t)

/-- An answer lets one worker go on with tickets of its batch. -/
lemma answered {i : Nat} {worker : Worker} (h : p.IsFaithful accepted)
    (hi : p.workers[i]? = some worker) (hcall : (awaitedCall? worker).isSome) (answer : Answer) :
    (p.answered i answer).IsFaithful accepted := by
  obtain ⟨next, acknowledged, hturned⟩ := exists_turns hi hcall answer
  have hworkers : (p.answered i answer).workers = p.workers.set i next := hturned.workers_eq
  have hqueued : (p.answered i answer).queued = p.queued := hturned.queued_eq
  refine ⟨hturned.settles.length_eq.trans h.numbered, fun t ht => h.waiting t (hqueued ▸ ht),
    fun other hother t ht => ?_, fun n r hr hnot => ?_⟩
  · rw [hworkers] at hother
    rcases List.mem_or_eq_of_mem_set hother with hother | rfl
    · exact h.working other hother t ht
    · exact h.working worker (List.mem_of_getElem? hi) t (hturned.turns.batch_subset ht)
  · exact h.pending n r hr (mt (hturned.settles.isDone (n := n)) hnot)

/-- A ticket that is done leaves its pending set. -/
lemma forget {t : Ticket} (h : p.IsFaithful accepted) (hdone : p.IsDone t.serial) :
    (p.forget t).IsFaithful accepted where
  numbered := h.numbered
  waiting := h.waiting
  working := h.working
  pending n r hr hnot := by
    refine mem_pendingOf_forget (h.pending n r hr hnot) ?_
    rintro rfl
    exact hnot hdone

lemma clearReported (h : p.IsFaithful accepted) (scope : Option String) :
    (p.clearReported scope).IsFaithful accepted := by
  have hpending (n : Nat) (r : WorkRequest) (hr : accepted[n]? = some r)
      (hnot : ¬ (p.clearReported scope).IsDone n) :
      n ∈ (p.clearReported scope).pendingOf r.index := by
    rw [IsDone, outcome_clearReported] at hnot
    exact mem_pendingOf_clearReported (h.pending n r hr hnot) scope
  cases scope <;> exact ⟨h.numbered, h.waiting, h.working, hpending⟩

/-- Nothing that is not done is missed by whoever awaits its index. -/
lemma mem_waitingTickets (h : p.IsFaithful accepted) {n : Nat} {r : WorkRequest}
    (hr : accepted[n]? = some r) (hnot : ¬ p.IsDone n) {scope : Option String}
    (hcovers : covers scope r.index = true) : n ∈ p.waitingTickets scope :=
  Processor.mem_waitingTickets (h.pending n r hr hnot) hcovers

end IsFaithful

end Processor

end SearchIndex
