/-
# What becomes of tickets

Resolving, failing and acknowledging tickets are all that happens to a processor between two points
where a worker stands.  They leave the queue and the workers alone, and a ticket that is not done
stays in the pending set where it was (`Processor.Progresses`).  On top of that, each of them says
which tickets are done afterwards.

With monitors that raise no error of their own, a worker never ends: the answer that it waits for
lets it send its next group, refresh, or get through with its batch, every ticket of which is done
then (`onAnswer_advances`).
-/
import SearchIndex.Proofs.Indexing.Notification
import SearchIndex.Proofs.Indexing.Outcome
import SearchIndex.Proofs.Table

namespace SearchIndex

namespace Processor

variable {p p' p'' : Processor}

/-- The ticket is done. -/
def IsDone (p : Processor) (serial : Nat) : Prop := (p.outcome serial).isDone = true

/-- The pending set that is stored under an index has the given number, and the ticket in it. -/
def Keeps (p : Processor) (index : String) (home serial : Nat) : Prop :=
  ∃ set, Table.get? p.pending index = some set ∧ set.serial = home ∧ serial ∈ set.tickets

lemma Keeps.mem_pendingOf {index : String} {home serial : Nat} (h : p.Keeps index home serial) :
    serial ∈ p.pendingOf index := by
  obtain ⟨set, hset, -, hmem⟩ := h
  simpa [pendingOf, hset] using hmem

/-! ## Callbacks -/

variable {tickets : List Ticket}

/-- The callbacks of tickets take them out of their pending sets. -/
def forgetAll (p : Processor) (tickets : List Ticket) : Processor := tickets.foldl forget p

lemma forgetAll_append (p : Processor) (tickets others : List Ticket) :
    p.forgetAll (tickets ++ others) = (p.forgetAll tickets).forgetAll others := List.foldl_append

/-- Callbacks depend on the pending sets and on nothing else. -/
lemma forgetAll_with_pending (p q : Processor) (tickets : List Ticket) :
    { q with pending := p.pending }.forgetAll tickets =
      { q with pending := (p.forgetAll tickets).pending } := by
  induction tickets generalizing p with
  | nil => rfl
  | cons t rest ih => exact ih (p.forget t)

/-- A callback leaves other tickets in their pending sets. -/
lemma Keeps.forget {t : Ticket} {index : String} {home serial : Nat}
    (h : p.Keeps index home serial) (hne : serial ≠ t.serial) :
    (p.forget t).Keeps index home serial := by
  obtain ⟨set, hset, hhome, hmem⟩ := h
  have hget : Table.get? (p.forget t).pending index =
      some (if set.serial = t.home then { set with tickets := set.tickets.erase t.serial }
        else set) := by
    simp [Processor.forget, Table.get?_mapValues, hset]
  refine ⟨_, hget, ?_⟩
  by_cases hserial : set.serial = t.home
  · rw [if_pos hserial]
    exact ⟨hhome, (List.mem_erase_of_ne hne).2 hmem⟩
  · rw [if_neg hserial]
    exact ⟨hhome, hmem⟩

lemma Keeps.forgetAll {index : String} {home serial : Nat} (h : p.Keeps index home serial)
    (hne : ∀ t ∈ tickets, serial ≠ t.serial) : (p.forgetAll tickets).Keeps index home serial := by
  induction tickets generalizing p with
  | nil => exact h
  | cons t rest ih =>
    obtain ⟨hfirst, hrest⟩ := List.forall_mem_cons.1 hne
    exact ih (h.forget hfirst) hrest

/-! ## Progress -/

/-- Some tickets have become done, and nothing has happened but that the callbacks of such tickets
have run. -/
structure Progresses (p p' : Processor) : Prop where
  queue_eq : p'.queue = p.queue
  workers_eq : p'.workers = p.workers
  length_eq : p'.outcomes.length = p.outcomes.length
  isDone : ∀ serial, p.IsDone serial → p'.IsDone serial
  callbacks : ∃ tickets, (∀ t ∈ tickets, p'.IsDone t.serial) ∧
    p'.pending = (p.forgetAll tickets).pending
  quiet : p.HasQuietMonitors → p'.HasQuietMonitors

lemma Progresses.refl (p : Processor) : p.Progresses p :=
  ⟨rfl, rfl, rfl, fun _ h => h, ⟨[], by simp, rfl⟩, fun h => h⟩

lemma Progresses.trans (h : p.Progresses p') (h' : p'.Progresses p'') : p.Progresses p'' where
  queue_eq := h'.queue_eq.trans h.queue_eq
  workers_eq := h'.workers_eq.trans h.workers_eq
  length_eq := h'.length_eq.trans h.length_eq
  isDone serial hdone := h'.isDone serial (h.isDone serial hdone)
  callbacks := by
    obtain ⟨tickets, hdone, hpending⟩ := h.callbacks
    obtain ⟨others, hothers, hpending'⟩ := h'.callbacks
    refine ⟨tickets ++ others, List.forall_mem_append.2
      ⟨fun t ht => h'.isDone t.serial (hdone t ht), hothers⟩, ?_⟩
    have hsame := congrArg Processor.pending
      (forgetAll_with_pending (p.forgetAll tickets) p' others)
    rw [← hpending] at hsame
    calc p''.pending = (p'.forgetAll others).pending := hpending'
      _ = ((p.forgetAll tickets).forgetAll others).pending := hsame
      _ = (p.forgetAll (tickets ++ others)).pending := by rw [forgetAll_append]
  quiet hquiet := h'.quiet (h.quiet hquiet)

/-- A ticket that is not done stays in its pending set. -/
lemma Progresses.keeps (h : p.Progresses p') {index : String} {home serial : Nat}
    (hnot : ¬ p'.IsDone serial) (hkeeps : p.Keeps index home serial) :
    p'.Keeps index home serial := by
  obtain ⟨tickets, hdone, hpending⟩ := h.callbacks
  have hforgotten : (p.forgetAll tickets).Keeps index home serial :=
    hkeeps.forgetAll fun t ht heq => hnot (heq ▸ hdone t ht)
  rwa [Keeps, hpending]

/-- The callbacks may as well run later. -/
lemma Progresses.with_pending (h : p.Progresses p') :
    p.Progresses { p' with pending := p.pending } :=
  ⟨h.queue_eq, h.workers_eq, h.length_eq, h.isDone, ⟨[], by simp, rfl⟩, h.quiet⟩

/-- A callback of a ticket that is done. -/
lemma progresses_forget {t : Ticket} (hdone : p.IsDone t.serial) : p.Progresses (p.forget t) :=
  ⟨rfl, rfl, rfl, fun _ h => h, ⟨[t], List.forall_mem_singleton.2 hdone, rfl⟩, fun h => h⟩

/-! ## Single tickets -/

variable {t : Ticket}

lemma outcome_resolve (hlt : t.serial < p.outcomes.length) (outcome : Outcome) (serial : Nat) :
    (p.resolve t outcome).outcome serial =
      if serial = t.serial then outcome else p.outcome serial := by
  by_cases h : serial = t.serial
  · subst h
    simp [Processor.outcome, resolve, forget, hlt]
  · have hne : t.serial ≠ serial := Ne.symm h
    simp [Processor.outcome, resolve, forget, h, hne]

lemma progresses_resolve (hlt : t.serial < p.outcomes.length) {outcome : Outcome}
    (hdone : outcome.isDone = true) :
    p.Progresses (p.resolve t outcome) ∧ (p.resolve t outcome).IsDone t.serial := by
  have hself : (p.resolve t outcome).IsDone t.serial := by
    rw [IsDone, outcome_resolve hlt, if_pos rfl]
    exact hdone
  refine ⟨⟨rfl, rfl, by simp [resolve, forget], fun serial hserial => ?_,
    ⟨[t], List.forall_mem_singleton.2 hself, rfl⟩, fun h => h⟩, hself⟩
  by_cases h : serial = t.serial
  · rw [h]
    exact hself
  · rwa [IsDone, outcome_resolve hlt, if_neg h]

/-- Recording a failure and telling a monitor of it leaves all tickets as they are. -/
lemma progresses_told (p : Processor) (r : WorkRequest) (index : String) (failure : Failure) :
    p.Progresses ((p.record index failure).notifyFailed r failure).1 := by
  have htell := tell_eq (p.record index failure) [(r, failure)]
  rw [tell, tell] at htell
  refine ⟨?_, ?_, ?_, ?_, ⟨[], by simp, ?_⟩, fun hquiet => ?_⟩
  · rw [htell]; rfl
  · rw [htell]; rfl
  · rw [htell]; rfl
  · intro serial hdone
    rw [htell]; exact hdone
  · rw [htell]; rfl
  · have hrecord : (p.record index failure).HasQuietMonitors := hquiet
    exact hrecord.notifyFailed r failure

/-- A ticket that fails is done. -/
lemma fail_spec (hquiet : p.HasQuietMonitors) (hlt : t.serial < p.outcomes.length)
    (failure : Failure) :
    (p.fail t failure).2 = false ∧ p.Progresses (p.fail t failure).1 ∧
      (p.fail t failure).1.IsDone t.serial := by
  rw [fail]
  by_cases hdone : (p.outcome t.serial).isDone = true
  · rw [if_pos hdone]
    exact ⟨rfl, .refl p, hdone⟩
  · rw [if_neg hdone]
    have htold := progresses_told p t.request t.request.index failure
    have hrecord : (p.record t.request.index failure).HasQuietMonitors := hquiet
    have hraised := notifyFailed_snd hrecord t.request failure
    rcases h : (p.record t.request.index failure).notifyFailed t.request failure with ⟨told, raised⟩
    rw [h] at htold hraised
    obtain rfl : raised = false := hraised
    obtain ⟨hresolved, hself⟩ := progresses_resolve (p := told) (t := t)
      (by rw [htold.length_eq]; exact hlt) (rfl : (Outcome.failed failure).isDone = true)
    exact ⟨rfl, htold.trans hresolved, hself⟩

/-! ## Several tickets -/

variable {batch : List Ticket}

/-- Every ticket has a number that has been given out. -/
def Knows (p : Processor) (batch : List Ticket) : Prop :=
  ∀ t ∈ batch, t.serial < p.outcomes.length

lemma Progresses.knows (h : p.Progresses p') (hknows : p.Knows batch) : p'.Knows batch :=
  fun t ht => by rw [h.length_eq]; exact hknows t ht

/-- Tickets that fail are done. -/
lemma failAll_spec (hquiet : p.HasQuietMonitors) (hknows : p.Knows batch) (failure : Failure) :
    (p.failAll failure batch).2 = false ∧ p.Progresses (p.failAll failure batch).1 ∧
      ∀ t ∈ batch, (p.failAll failure batch).1.IsDone t.serial := by
  induction batch generalizing p with
  | nil => exact ⟨rfl, .refl p, fun t ht => absurd ht List.not_mem_nil⟩
  | cons t rest ih =>
    obtain ⟨hlt, hrest⟩ := List.forall_mem_cons.1 hknows
    obtain ⟨hraised, hprogress, hdone⟩ := fail_spec hquiet hlt failure
    rw [failAll]
    rcases h : p.fail t failure with ⟨after, raised⟩
    rw [h] at hraised hprogress hdone
    obtain rfl : raised = false := hraised
    obtain ⟨hraised', hprogress', hdone'⟩ := ih (hprogress.quiet hquiet) (hprogress.knows hrest)
    refine ⟨hraised', hprogress.trans hprogress', List.forall_mem_cons.2 ⟨?_, hdone'⟩⟩
    exact hprogress'.isDone _ hdone

/-- Tickets that are acknowledged are done. -/
lemma acknowledge_spec (hknows : p.Knows batch) :
    p.Progresses (p.acknowledge batch) ∧ ∀ t ∈ batch, (p.acknowledge batch).IsDone t.serial := by
  induction batch generalizing p with
  | nil => exact ⟨.refl p, fun t ht => absurd ht List.not_mem_nil⟩
  | cons t rest ih =>
    obtain ⟨hlt, hrest⟩ := List.forall_mem_cons.1 hknows
    rw [acknowledge]
    by_cases hdone : (p.outcome t.serial).isDone = true
    · rw [if_pos hdone]
      obtain ⟨hprogress, hdone'⟩ := ih hrest
      exact ⟨hprogress, List.forall_mem_cons.2 ⟨hprogress.isDone _ hdone, hdone'⟩⟩
    · rw [if_neg hdone]
      obtain ⟨hresolved, hself⟩ := progresses_resolve hlt (rfl : Outcome.acknowledged.isDone = true)
      obtain ⟨hprogress, hdone'⟩ := ih (hresolved.knows hrest)
      exact ⟨hresolved.trans hprogress,
        List.forall_mem_cons.2 ⟨hprogress.isDone _ hself, hdone'⟩⟩

/-- Once the verdict on a group is applied, each of its tickets is done or has succeeded. -/
lemma applyVerdict_spec {failures : List (Option Failure)} (hquiet : p.HasQuietMonitors)
    (hknows : p.Knows batch) (hlength : failures.length = batch.length) :
    ∃ succeeded, (p.applyVerdict batch failures).2 = some succeeded ∧
      p.Progresses (p.applyVerdict batch failures).1 ∧ succeeded.Sublist batch ∧
      ∀ t ∈ batch, (p.applyVerdict batch failures).1.IsDone t.serial ∨ t ∈ succeeded := by
  induction batch generalizing p failures with
  | nil =>
    obtain rfl := List.eq_nil_of_length_eq_zero hlength
    exact ⟨[], rfl, .refl p, .slnil, fun t ht => absurd ht List.not_mem_nil⟩
  | cons t rest ih =>
    obtain ⟨hlt, hrest⟩ := List.forall_mem_cons.1 hknows
    obtain ⟨verdict, others, rfl⟩ := List.exists_cons_of_length_eq_add_one hlength
    have hothers : others.length = rest.length := by simpa using hlength
    cases verdict with
    | none =>
      obtain ⟨succeeded, hsome, hprogress, hsublist, hdone⟩ := ih hquiet hrest hothers
      rw [applyVerdict]
      rcases h : p.applyVerdict rest others with ⟨after, result⟩
      rw [h] at hsome hprogress hdone
      obtain rfl : result = some succeeded := hsome
      refine ⟨t :: succeeded, rfl, hprogress, hsublist.cons_cons t,
        List.forall_mem_cons.2 ⟨Or.inr List.mem_cons_self, fun other hother => ?_⟩⟩
      exact (hdone other hother).imp_right (List.mem_cons_of_mem t)
    | some failure =>
      obtain ⟨hraised, hfailed, hself⟩ := fail_spec hquiet hlt failure
      rw [applyVerdict]
      rcases h : p.fail t failure with ⟨after, raised⟩
      rw [h] at hraised hfailed hself
      obtain rfl : raised = false := hraised
      obtain ⟨succeeded, hsome, hprogress, hsublist, hdone⟩ :=
        ih (hfailed.quiet hquiet) (hfailed.knows hrest) hothers
      exact ⟨succeeded, hsome, hfailed.trans hprogress, hsublist.cons t,
        List.forall_mem_cons.2 ⟨Or.inl (hprogress.isDone _ hself), hdone⟩⟩

/-- A verdict on a group says something about each of its requests. -/
lemma length_failures_judgeGroup (group : List WorkRequest) (answer : Answer) :
    ((judgeGroup group answer).failures group).length = group.length := by
  rcases judgeGroup_cases group answer with ⟨failure, h, -⟩ | ⟨r, response, h, hsingle, -⟩ |
    ⟨items, h, hlisted⟩
  · simp [h, Verdict.failures, Verdict.errors]
  · obtain ⟨rfl, -⟩ := single?_eq_some_iff.1 hsingle
    simp [h, Verdict.failures, Verdict.errors]
  · simp [h, Verdict.failures, Verdict.errors, hlisted.length_eq]

end Processor

/-! ## Workers -/

/-- The tickets of a worker's batch that it has not sent yet. -/
def Worker.unsent : Worker → List Ticket
  | sending _ _ _ rest => rest.flatten
  | _ => []

/-- The tickets whose call a worker has made and waits for. -/
def Worker.inCall : Worker → List Ticket
  | sending _ _ group _ => group
  | _ => []

/-- Where a worker stands is right: it has not ended, it sends and acknowledges only what it has
taken, and what it has taken is done, acknowledged or still to be judged. -/
def Worker.IsSound (p : Processor) : Worker → Prop
  | idle => True
  | sending batch acknowledged group rest =>
    (acknowledged ++ group ++ rest.flatten) ⊆ batch ∧
      ∀ t ∈ batch, p.IsDone t.serial ∨ t ∈ acknowledged ++ group ++ rest.flatten
  | refreshing batch acknowledged =>
    acknowledged ⊆ batch ∧ ∀ t ∈ batch, p.IsDone t.serial ∨ t ∈ acknowledged
  | dead => False

/-- A worker still stands right when more is done. -/
lemma Worker.IsSound.mono {p p' : Processor} {worker : Worker} (h : worker.IsSound p)
    (hdone : ∀ serial, p.IsDone serial → p'.IsDone serial) : worker.IsSound p' := by
  cases worker with
  | idle => trivial
  | dead => exact h
  | sending batch acknowledged group rest =>
    exact ⟨h.1, fun t ht => (h.2 t ht).imp_left (hdone t.serial)⟩
  | refreshing batch acknowledged =>
    exact ⟨h.1, fun t ht => (h.2 t ht).imp_left (hdone t.serial)⟩

namespace Processor

variable {p p' : Processor} {i : Nat}

/-- What the answer that a worker waits for makes of it: it stands elsewhere with the same batch, or
it is through with the batch, all of which is done. -/
inductive Advances (p : Processor) (i : Nat) (worker : Worker) (after : Processor) : Prop where
  | moved {p' : Processor} {worker' : Worker} (hprogress : p.Progresses p')
      (hsound : worker'.IsSound p') (hbatch : worker'.batch = worker.batch)
      (hunsent : worker'.inCall ++ worker'.unsent = worker.unsent)
      (hafter : after = p'.setWorker i worker')
  | finished {p' : Processor} (hprogress : p.Progresses p')
      (hdone : ∀ t ∈ worker.batch, p'.IsDone t.serial) (hunsent : worker.unsent = [])
      (hafter : after = p'.finish i worker.batch .idle)

/-- The callbacks of the tickets that are done then may as well run later. -/
lemma Advances.with_pending {worker : Worker} {after : Processor} (h : p.Advances i worker after) :
    p.Advances i worker { after with pending := p.pending } := by
  cases h with
  | moved hprogress hsound hbatch hunsent hafter =>
    subst hafter
    exact .moved hprogress.with_pending (hsound.mono fun _ hdone => hdone) hbatch hunsent rfl
  | finished hprogress hdone hunsent hafter =>
    subst hafter
    exact .finished hprogress.with_pending hdone hunsent rfl

/-- What a worker advances by is that, followed by callbacks of tickets that are done. -/
lemma Advances.eq_forgetAll {worker : Worker} {after : Processor} (h : p.Advances i worker after) :
    ∃ tickets, (∀ t ∈ tickets, after.IsDone t.serial) ∧
      after = { after with pending := p.pending }.forgetAll tickets := by
  have hprogress : ∃ tickets, (∀ t ∈ tickets, after.IsDone t.serial) ∧
      after.pending = (p.forgetAll tickets).pending := by
    cases h with
    | moved hprogress _ _ _ hafter => exact hafter ▸ hprogress.callbacks
    | finished hprogress _ _ hafter => exact hafter ▸ hprogress.callbacks
  obtain ⟨tickets, hdone, hpending⟩ := hprogress
  exact ⟨tickets, hdone, by rw [forgetAll_with_pending, ← hpending]⟩

/-- The tickets that a worker acknowledges at the end make its whole batch done. -/
lemma advances_of_acknowledge {worker : Worker} {acknowledged : List Ticket}
    (hprogress : p.Progresses p') (hknows : p.Knows worker.batch) (hunsent : worker.unsent = [])
    (hsubset : acknowledged ⊆ worker.batch)
    (hdone : ∀ t ∈ worker.batch, p'.IsDone t.serial ∨ t ∈ acknowledged) :
    p.Advances i worker ((p'.acknowledge acknowledged).finish i worker.batch .idle) := by
  obtain ⟨hacknowledge, hself⟩ := acknowledge_spec
    (fun t ht => hprogress.knows hknows t (hsubset ht) : p'.Knows acknowledged)
  refine .finished (hprogress.trans hacknowledge) (fun t ht => ?_) hunsent rfl
  exact (hdone t ht).elim (hacknowledge.isDone t.serial) (hself t)

/-- How a worker goes on after the verdict on a group. -/
lemma advances_proceed {batch acknowledged group succeeded : List Ticket}
    {rest : List (List Ticket)}
    (hprogress : p.Progresses p') (hknows : p.Knows batch)
    (hsubset : acknowledged ++ succeeded ++ rest.flatten ⊆ batch)
    (hdone : ∀ t ∈ batch, p'.IsDone t.serial ∨ t ∈ acknowledged ++ succeeded ++ rest.flatten) :
    p.Advances i (.sending batch acknowledged group rest)
      (p'.proceed i batch (acknowledged ++ succeeded) rest) := by
  cases rest with
  | cons next rest =>
    have hsound : Worker.IsSound p' (.sending batch (acknowledged ++ succeeded) next rest) :=
      ⟨by simpa using hsubset, by simpa using hdone⟩
    exact .moved hprogress hsound rfl rfl rfl
  | nil =>
    simp only [List.flatten_nil, List.append_nil] at hsubset hdone
    rw [proceed]
    by_cases hrefresh : (batchIndexes (acknowledged ++ succeeded)).isEmpty = true
    · rw [if_pos hrefresh]
      exact advances_of_acknowledge hprogress hknows rfl hsubset hdone
    · -- the batch has to wait for the refresh of its indexes
      rw [if_neg hrefresh]
      have hsound : Worker.IsSound p' (.refreshing batch (acknowledged ++ succeeded)) :=
        ⟨hsubset, hdone⟩
      exact .moved hprogress hsound rfl rfl rfl

/-- A worker that receives the answer that it waits for advances. -/
lemma onAnswer_advances {worker : Worker} (hi : p.workers[i]? = some worker)
    (hcall : (awaitedCall? worker).isSome) (hquiet : p.HasQuietMonitors)
    (hsound : worker.IsSound p) (hknows : p.Knows worker.batch) (answer : Answer) :
    p.Advances i worker (p.onAnswer i answer) := by
  cases worker with
  | idle => cases hcall
  | dead => cases hcall
  | sending batch acknowledged group rest =>
    obtain ⟨hsubset, hdone⟩ := hsound
    simp only [List.append_subset] at hsubset
    obtain ⟨⟨hacknowledged, hgroup⟩, hrest⟩ := hsubset
    obtain ⟨succeeded, hsome, hprogress, hsublist, hjudged⟩ := applyVerdict_spec hquiet
      (fun t ht => hknows t (hgroup ht)) (by
        rw [length_failures_judgeGroup (group.map Ticket.request) answer, List.length_map])
    rw [onAnswer, hi]
    dsimp only
    rcases h : p.applyVerdict group ((judgeGroup (group.map Ticket.request) answer).failures
      (group.map Ticket.request)) with ⟨after, result⟩
    rw [h] at hsome hprogress hjudged
    obtain rfl : result = some succeeded := hsome
    refine advances_proceed hprogress hknows ?_ fun t ht => ?_
    · simp only [List.append_subset]
      exact ⟨⟨hacknowledged, fun t ht => hgroup (hsublist.subset ht)⟩, hrest⟩
    · rcases hdone t ht with hdone | hmem
      · exact Or.inl (hprogress.isDone _ hdone)
      · simp only [List.mem_append] at hmem ⊢
        rcases hmem with (hmem | hmem) | hmem
        · exact Or.inr (Or.inl (Or.inl hmem))
        · exact (hjudged t hmem).imp_right fun h => Or.inl (Or.inr h)
        · exact Or.inr (Or.inr hmem)
  | refreshing batch acknowledged =>
    obtain ⟨hsubset, hdone⟩ := hsound
    rw [onAnswer, hi]
    dsimp only
    split
    · exact advances_of_acknowledge (.refl p) hknows rfl hsubset hdone
    · rename_i failure _
      obtain ⟨hraised, hprogress, hself⟩ :=
        failAll_spec hquiet (fun t ht => hknows t (hsubset ht)) failure
      rcases h : p.failAll failure acknowledged with ⟨after, raised⟩
      rw [h] at hraised hprogress hself
      obtain rfl : raised = false := hraised
      refine .finished hprogress (fun t ht => ?_) rfl rfl
      exact (hdone t ht).elim (hprogress.isDone t.serial) (hself t)

end Processor

end SearchIndex
