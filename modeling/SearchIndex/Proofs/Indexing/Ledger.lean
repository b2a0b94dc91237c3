/-
# The ledger of asynchronous requests

A ticket is somewhere: it waits to be put in the queue, is queued, or is in the batch of a worker.
The ledger says that the numbers of those tickets are distinct, that every accepted request that is
not done has one of them, entered in the pending set that is stored under its index, and that no
ticket is sent twice (`Accounts`).  A processor is accurate if this holds of where its tickets are,
its workers stand right and its queue counts them right (`IsAccurate`).

What a processor does keeps it accurate: each of its transitions moves tickets from one place to
another, takes in a new one, or lets go of those that are done.
-/
import SearchIndex.Proofs.Concurrency.Interleaving
import SearchIndex.Proofs.Indexing.Resolution

namespace SearchIndex

/-- A list around one of its members, which may be replaced. -/
lemma exists_around {α : Type} {l : List α} {i : Nat} {a : α} (hi : l[i]? = some a) :
    ∃ before after, l = before ++ a :: after ∧ ∀ b, l.set i b = before ++ b :: after := by
  obtain ⟨hlt, rfl⟩ := List.getElem?_eq_some_iff.1 hi
  have hset (b : α) : l.set i b = l.take i ++ b :: l.drop (i + 1) := by
    rw [List.set_eq_take_append_cons_drop, if_pos hlt]
  exact ⟨l.take i, l.drop (i + 1), by rw [← hset, List.set_getElem_self], hset⟩

namespace Processor

variable {p p' : Processor} {accepted : List WorkRequest} {putting held sent unsent : List Ticket}

/-! ## Entering a ticket -/

/-- A ticket that has been entered only is not done. -/
lemma outcome_register (p : Processor) (r : WorkRequest) (serial : Nat) :
    (p.register r).1.outcome serial = p.outcome serial := by
  have houtcomes : (p.register r).1.outcomes = p.outcomes ++ [.waiting] := rfl
  rw [outcome, outcome, houtcomes, List.getD_eq_getElem?_getD, List.getD_eq_getElem?_getD]
  rcases lt_trichotomy serial p.outcomes.length with hlt | rfl | hgt
  · rw [List.getElem?_append_left hlt]
  · simp
  · rw [List.getElem?_eq_none (by simpa using hgt), List.getElem?_eq_none hgt.le]

/-- The pending set of the index of a request, once the request is entered. -/
lemma get?_pending_register (p : Processor) (r : WorkRequest) :
    ∃ set, Table.get? (p.register r).1.pending r.index = some set ∧
      set.serial = (p.register r).2.home ∧ (p.register r).2.serial ∈ set.tickets ∧
      ∀ before, Table.get? p.pending r.index = some before →
        set.serial = before.serial ∧ before.tickets ⊆ set.tickets := by
  cases hbefore : Table.get? p.pending r.index with
  | none =>
    refine ⟨⟨p.pendingSets, [] ++ [p.outcomes.length]⟩, ?_, ?_, ?_, fun before h => nomatch h⟩
    · simp [register, hbefore, Table.get?_set_self]
    · simp [register, hbefore]
    · simp [register]
  | some before =>
    refine ⟨{ before with tickets := before.tickets ++ [p.outcomes.length] }, ?_, ?_, ?_, ?_⟩
    · simp [register, hbefore, Table.get?_set_self]
    · simp [register, hbefore]
    · simp [register]
    · rintro _ ⟨⟩
      exact ⟨rfl, List.subset_append_left _ _⟩

/-- The ticket that is entered is in the pending set that is stored under its index. -/
lemma keeps_register_self (r : WorkRequest) :
    (p.register r).1.Keeps (p.register r).2.request.index (p.register r).2.home
      (p.register r).2.serial := by
  obtain ⟨set, hset, hhome, hmem, -⟩ := p.get?_pending_register r
  exact ⟨set, hset, hhome, hmem⟩

/-- The tickets that have been entered before stay in their pending sets. -/
lemma keeps_register (r : WorkRequest) {index : String} {home serial : Nat}
    (h : p.Keeps index home serial) : (p.register r).1.Keeps index home serial := by
  obtain ⟨before, hbefore, rfl, hmem⟩ := h
  by_cases hindex : r.index = index
  · subst hindex
    obtain ⟨set, hset, -, -, hgrows⟩ := p.get?_pending_register r
    obtain ⟨hsame, hsubset⟩ := hgrows before hbefore
    exact ⟨set, hset, hsame, hsubset hmem⟩
  · refine ⟨before, ?_, rfl, hmem⟩
    rw [register, Table.get?_set_of_ne _ _ hindex, hbefore]

/-! ## Accounts -/

/-- The accounts of a processor that has accepted some requests: `held` are the tickets that are
somewhere, `sent` those whose call has been made, `unsent` those whose call may still be made. -/
structure Accounts (p : Processor) (accepted : List WorkRequest) (held sent unsent : List Ticket) :
    Prop where
  numbered : p.outcomes.length = accepted.length
  distinct : (held.map Ticket.serial).Nodup
  genuine : ∀ t ∈ held, accepted[t.serial]? = some t.request
  complete : ∀ serial < accepted.length, ¬ p.IsDone serial → ∃ t ∈ held, t.serial = serial
  keeps : ∀ t ∈ held, ¬ p.IsDone t.serial → p.Keeps t.request.index t.home t.serial
  sentOnce : ((sent ++ unsent).map Ticket.serial).Nodup
  sentKnown : ∀ t ∈ sent ++ unsent, t.serial < accepted.length

namespace Accounts

lemma knows (h : p.Accounts accepted held sent unsent) : p.Knows held := by
  intro t ht
  rw [h.numbered]
  exact (List.getElem?_eq_some_iff.1 (h.genuine t ht)).1

/-- Accounts do not depend on the order of tickets. -/
lemma perm {held' sent' unsent' : List Ticket} (h : p.Accounts accepted held sent unsent)
    (hheld : held.Perm held') (hsent : (sent ++ unsent).Perm (sent' ++ unsent')) :
    p.Accounts accepted held' sent' unsent' where
  numbered := h.numbered
  distinct := (hheld.map _).nodup_iff.1 h.distinct
  genuine t ht := h.genuine t (hheld.mem_iff.2 ht)
  complete serial hlt hnot := by
    obtain ⟨t, ht, hserial⟩ := h.complete serial hlt hnot
    exact ⟨t, hheld.mem_iff.1 ht, hserial⟩
  keeps t ht := h.keeps t (hheld.mem_iff.2 ht)
  sentOnce := (hsent.map _).nodup_iff.1 h.sentOnce
  sentKnown t ht := h.sentKnown t (hsent.mem_iff.2 ht)

/-- Only the pending sets and the outcomes matter. -/
lemma of_eq (h : p.Accounts accepted held sent unsent) (hpending : p'.pending = p.pending)
    (houtcomes : p'.outcomes = p.outcomes) : p'.Accounts accepted held sent unsent := by
  have hdone (serial : Nat) : p'.IsDone serial ↔ p.IsDone serial := by
    rw [IsDone, IsDone, outcome, outcome, houtcomes]
  have hkeeps (index : String) (home serial : Nat) :
      p'.Keeps index home serial ↔ p.Keeps index home serial := by
    rw [Keeps, Keeps, hpending]
  exact ⟨by rw [houtcomes]; exact h.numbered, h.distinct, h.genuine,
    fun serial hlt hnot => h.complete serial hlt (mt (hdone serial).2 hnot),
    fun t ht hnot => (hkeeps _ _ _).2 (h.keeps t ht (mt (hdone t.serial).2 hnot)),
    h.sentOnce, h.sentKnown⟩

/-- Progress keeps the accounts. -/
lemma progress (h : p.Accounts accepted held sent unsent) (hprogress : p.Progresses p') :
    p'.Accounts accepted held sent unsent where
  numbered := hprogress.length_eq.trans h.numbered
  distinct := h.distinct
  genuine := h.genuine
  complete serial hlt hnot := h.complete serial hlt (mt (hprogress.isDone serial) hnot)
  keeps t ht hnot := hprogress.keeps hnot (h.keeps t ht (mt (hprogress.isDone t.serial) hnot))
  sentOnce := h.sentOnce
  sentKnown := h.sentKnown

/-- Tickets that are done need not be anywhere. -/
lemma release {batch : List Ticket} (h : p.Accounts accepted (batch ++ held) sent unsent)
    (hdone : ∀ t ∈ batch, p.IsDone t.serial) : p.Accounts accepted held sent unsent where
  numbered := h.numbered
  distinct := by
    have hdistinct := h.distinct
    rw [List.map_append] at hdistinct
    exact hdistinct.of_append_right
  genuine t ht := h.genuine t (List.mem_append_right batch ht)
  complete serial hlt hnot := by
    obtain ⟨t, ht, rfl⟩ := h.complete serial hlt hnot
    exact ⟨t, (List.mem_append.1 ht).resolve_left fun hbatch => hnot (hdone t hbatch), rfl⟩
  keeps t ht := h.keeps t (List.mem_append_right batch ht)
  sentOnce := h.sentOnce
  sentKnown := h.sentKnown

/-- A pending set is dropped only if it is empty, so all that is not done stays in the accounts. -/
lemma clearReported (h : p.Accounts accepted held sent unsent) (index : Option String) :
    (p.clearReported index).Accounts accepted held sent unsent := by
  cases index with
  | none => exact h.of_eq rfl rfl
  | some index =>
    by_cases hempty : (p.pendingOf index).isEmpty = true
    · have hkeeps {other : String} {home serial : Nat} (hkept : p.Keeps other home serial) :
          (p.clearReported (some index)).Keeps other home serial := by
        -- the set that is dropped is not the one that has the ticket
        have hne : index ≠ other := by
          rintro rfl
          have hmem := hkept.mem_pendingOf
          rw [List.isEmpty_iff.1 hempty] at hmem
          exact absurd hmem List.not_mem_nil
        obtain ⟨set, hset, hrest⟩ := hkept
        refine ⟨set, ?_, hrest⟩
        simp only [Processor.clearReported, hempty, if_true]
        rw [Table.get?_erase_of_ne _ hne, hset]
      exact ⟨h.numbered, h.distinct, h.genuine, h.complete,
        fun t ht hnot => hkeeps (h.keeps t ht hnot), h.sentOnce, h.sentKnown⟩
    · exact h.of_eq (if_neg hempty) rfl

/-- A request that is accepted gets a new ticket. -/
lemma register (h : p.Accounts accepted held sent unsent) (r : WorkRequest) :
    (p.register r).1.Accounts (accepted ++ [r]) ((p.register r).2 :: held) sent
      ((p.register r).2 :: unsent) := by
  -- the number of the new ticket is greater than all numbers before it
  have hserial : (p.register r).2.serial = accepted.length := h.numbered
  have hrequest : (p.register r).2.request = r := rfl
  have hdone (serial : Nat) : (p.register r).1.IsDone serial ↔ p.IsDone serial := by
    rw [IsDone, IsDone, outcome_register]
  have hfresh (ts : List Ticket) (hts : ∀ t ∈ ts, t.serial < accepted.length) :
      (p.register r).2.serial ∉ ts.map Ticket.serial := by
    rintro hmem
    obtain ⟨t, ht, heq⟩ := List.mem_map.1 hmem
    have hlt := hts t ht
    omega
  have hheld (t : Ticket) (ht : t ∈ held) : t.serial < accepted.length :=
    (List.getElem?_eq_some_iff.1 (h.genuine t ht)).1
  refine ⟨?_, ?_, ?_, ?_, ?_, ?_, ?_⟩
  · simp [Processor.register, h.numbered]
  · exact List.nodup_cons.2 ⟨hfresh held hheld, h.distinct⟩
  · refine List.forall_mem_cons.2 ⟨?_, fun t ht => ?_⟩
    · rw [hserial, hrequest, List.getElem?_concat_length]
    · rw [List.getElem?_append_left (hheld t ht), h.genuine t ht]
  · intro serial hlt hnot
    rw [List.length_append, List.length_singleton] at hlt
    by_cases hlast : serial = accepted.length
    · exact ⟨_, List.mem_cons_self, hserial.trans hlast.symm⟩
    · obtain ⟨t, ht, heq⟩ := h.complete serial (by omega) (mt (hdone serial).2 hnot)
      exact ⟨t, List.mem_cons_of_mem _ ht, heq⟩
  · refine List.forall_mem_cons.2 ⟨fun _ => keeps_register_self r, fun t ht hnot => ?_⟩
    exact keeps_register r (h.keeps t ht (mt (hdone t.serial).2 hnot))
  · have hperm : (sent ++ (p.register r).2 :: unsent).Perm ((p.register r).2 :: (sent ++ unsent)) :=
      List.perm_middle
    exact (hperm.map _).nodup_iff.2 (List.nodup_cons.2 ⟨hfresh _ h.sentKnown, h.sentOnce⟩)
  · intro t ht
    rw [List.length_append, List.length_singleton]
    rcases List.mem_cons.1 (List.perm_middle.mem_iff.1 ht) with rfl | ht
    · omega
    · have hlt := h.sentKnown t ht
      omega

end Accounts

/-! ## Where tickets are -/

/-- The tickets in the queue. -/
def queued (p : Processor) : List Ticket := (p.queue.map Queue.tickets).getD []

/-- The tickets that workers have taken, batch by batch. -/
def taken (p : Processor) : List Ticket := p.workers.flatMap Worker.batch

/-- The number of unfinished tickets that the queue counts. -/
def unfinished (p : Processor) : Nat := (p.queue.map Queue.unfinished).getD 0

/-- The tickets whose call a worker has made and waits for. -/
def inCall (p : Processor) (i : Nat) : List Ticket := ((p.workers[i]?).map Worker.inCall).getD []

/-! ### The queue -/

lemma queued_start (p : Processor) : p.start.queued = p.queued := by
  cases hq : p.queue <;> simp [start, queued, hq, Queue.empty]

lemma unfinished_start (p : Processor) : p.start.unfinished = p.unfinished := by
  cases hq : p.queue <;> simp [start, unfinished, hq, Queue.empty]

lemma queued_enqueue (p : Processor) (t : Ticket) : (p.enqueue t).queued = p.queued ++ [t] := by
  cases hq : p.queue <;> simp [enqueue, queued, hq, Queue.empty]

lemma unfinished_enqueue (p : Processor) (t : Ticket) :
    (p.enqueue t).unfinished = p.unfinished + 1 := by
  cases hq : p.queue <;> simp [enqueue, unfinished, hq, Queue.empty]

lemma queued_finish (p : Processor) (i : Nat) (batch : List Ticket) (next : Worker) :
    (p.finish i batch next).queued = p.queued := by
  cases hq : p.queue <;> simp [finish, queued, hq, Queue.empty]

lemma unfinished_finish (p : Processor) (i : Nat) (batch : List Ticket) (next : Worker) :
    (p.finish i batch next).unfinished = p.unfinished - batch.length := by
  cases hq : p.queue <;> simp [finish, unfinished, hq, Queue.empty]

lemma Progresses.queued_eq (h : p.Progresses p') : p'.queued = p.queued := by
  rw [queued, queued, h.queue_eq]

lemma Progresses.unfinished_eq (h : p.Progresses p') : p'.unfinished = p.unfinished := by
  rw [unfinished, unfinished, h.queue_eq]

/-! ### Accuracy -/

/-- The accounts are right for where the tickets are; those of `putting` wait to be queued. -/
structure IsAccurate (p : Processor) (accepted : List WorkRequest) (putting sent : List Ticket) :
    Prop where
  quiet : p.HasQuietMonitors
  accounts : p.Accounts accepted (putting ++ p.queued ++ p.taken) sent
    (putting ++ p.queued ++ p.workers.flatMap Worker.unsent)
  sound : ∀ worker ∈ p.workers, worker.IsSound p
  counted : p.unfinished = p.queued.length + p.taken.length

/-- The workers around one of them, which may go on to stand elsewhere. -/
lemma exists_setWorker {i : Nat} {worker : Worker} (hi : p.workers[i]? = some worker) :
    ∃ before after, p.workers = before ++ worker :: after ∧
      ∀ (q : Processor) (worker' : Worker), q.workers = p.workers →
        (q.setWorker i worker').workers = before ++ worker' :: after ∧
          (q.setWorker i worker').inCall i = worker'.inCall := by
  obtain ⟨before, after, hworkers, hset⟩ := exists_around hi
  have hlt : i < p.workers.length := (List.getElem?_eq_some_iff.1 hi).1
  refine ⟨before, after, hworkers, fun q worker' hq => ⟨?_, ?_⟩⟩
  · rw [setWorker, hq]
    exact hset worker'
  · simp [inCall, setWorker, hq, hlt]

/-- What an idle worker takes when something is queued: a batch from the front of the queue, cut into
groups. -/
lemma takeBatch_eq_groups (i : Nat) (hqueue : p.isQueueEmpty = false) :
    ∃ q batch left group rest, p.queue = some q ∧ q.tickets = batch ++ left ∧
      groups (fun t : Ticket => t.request.isBulkable) p.limits.maxBulkSize batch = group :: rest ∧
      p.takeBatch i = { p with queue := some { q with tickets := left } }.setWorker i
        (.sending batch [] group rest) := by
  cases hq : p.queue with
  | none => simp [isQueueEmpty, hq] at hqueue
  | some q =>
    let size := max 1 p.limits.maxBulkSize
    rw [takeBatch, hq]
    dsimp only
    cases hgroups : groups (fun t : Ticket => t.request.isBulkable) p.limits.maxBulkSize
        (q.tickets.take size) with
    | nil =>
      -- nothing would be queued
      have hflatten := flatten_groups (fun t : Ticket => t.request.isBulkable)
        p.limits.maxBulkSize (q.tickets.take size)
      rw [hgroups] at hflatten
      have hpos : size ≠ 0 := by simp [size]
      simp_all [isQueueEmpty]
    | cons group rest =>
      exact ⟨q, _, _, group, rest, rfl, (List.take_append_drop size q.tickets).symm, hgroups, rfl⟩

/-- The groups of the batch that an idle worker takes are the batch. -/
lemma takeBatch_eq (i : Nat) (hqueue : p.isQueueEmpty = false) :
    ∃ q batch left group rest, p.queue = some q ∧ q.tickets = batch ++ left ∧
      (group :: rest).flatten = batch ∧ p.takeBatch i =
        { p with queue := some { q with tickets := left } }.setWorker i
          (.sending batch [] group rest) := by
  obtain ⟨q, batch, left, group, rest, hq, htickets, hgroups, htake⟩ := takeBatch_eq_groups i hqueue
  refine ⟨q, batch, left, group, rest, hq, htickets, ?_, htake⟩
  rw [← hgroups, flatten_groups]

namespace IsAccurate

/-- Tickets may wait to be put in any order. -/
lemma perm {others : List Ticket} (h : p.IsAccurate accepted putting sent)
    (hperm : putting.Perm others) : p.IsAccurate accepted others sent := by
  have happend (rest : List Ticket) :
      (putting ++ p.queued ++ rest).Perm (others ++ p.queued ++ rest) :=
    (hperm.append_right _).append_right rest
  exact ⟨h.quiet, h.accounts.perm (happend _) ((happend _).append_left sent), h.sound, h.counted⟩

/-- Starting the queue and the workers moves no ticket. -/
lemma start (h : p.IsAccurate accepted putting sent) :
    p.start.IsAccurate accepted putting sent := by
  have hworkers : p.start.workers = p.workers ∨
      p.workers = [] ∧ p.start.workers = List.replicate p.limits.workers .idle := by
    by_cases hw : p.workers = [] <;> simp [Processor.start, hw]
  have htaken : p.start.taken = p.taken := by
    rcases hworkers with hw | ⟨hempty, hw⟩
    · rw [taken, taken, hw]
    · simp [taken, hw, hempty, Worker.batch]
  have hunsent : p.start.workers.flatMap Worker.unsent = p.workers.flatMap Worker.unsent := by
    rcases hworkers with hw | ⟨hempty, hw⟩
    · rw [hw]
    · simp [hw, hempty, Worker.unsent]
  refine ⟨h.quiet, ?_, fun worker hworker => ?_, ?_⟩
  · rw [queued_start, htaken, hunsent]
    exact h.accounts.of_eq rfl rfl
  · rcases hworkers with hw | ⟨-, hw⟩
    · exact (h.sound worker (hw ▸ hworker)).mono fun _ hdone => hdone
    · rw [hw] at hworker
      obtain rfl := List.eq_of_mem_replicate hworker
      trivial
  · rw [unfinished_start, queued_start, htaken]
    exact h.counted

/-- A request that is accepted has a ticket that waits to be put. -/
lemma register (h : p.IsAccurate accepted putting sent) (r : WorkRequest) :
    (p.register r).1.IsAccurate (accepted ++ [r]) (putting ++ [(p.register r).2]) sent := by
  have hmiddle (rest : List Ticket) : ((p.register r).2 :: (putting ++ p.queued ++ rest)).Perm
      (putting ++ [(p.register r).2] ++ (p.register r).1.queued ++ rest) := by
    change List.Perm _ (putting ++ [(p.register r).2] ++ p.queued ++ rest)
    simp only [List.append_assoc]
    exact List.perm_middle.symm
  refine ⟨h.quiet, (h.accounts.register r).perm (hmiddle p.taken)
    ((hmiddle _).append_left sent), fun worker hworker =>
      (h.sound worker hworker).mono fun serial hdone => ?_, h.counted⟩
  rwa [IsDone, outcome_register]

/-- A ticket that waited is put at the end of the queue. -/
lemma enqueue {t : Ticket} {others : List Ticket} (h : p.IsAccurate accepted putting sent)
    (hperm : putting.Perm (t :: others)) : (p.enqueue t).IsAccurate accepted others sent := by
  have hmoved (rest : List Ticket) : (putting ++ p.queued ++ rest).Perm
      (others ++ (p.enqueue t).queued ++ rest) := by
    rw [queued_enqueue]
    refine ((hperm.append_right _).append_right _).trans ?_
    rw [← Multiset.coe_eq_coe]
    simp only [List.cons_append, ← Multiset.cons_coe, ← Multiset.coe_add, ← Multiset.singleton_add,
      Multiset.coe_nil]
    abel
  have haccounts : (p.enqueue t).Accounts accepted (putting ++ p.queued ++ p.taken) sent
      (putting ++ p.queued ++ p.workers.flatMap Worker.unsent) := h.accounts.of_eq rfl rfl
  refine ⟨h.quiet, haccounts.perm (hmoved _) ((hmoved _).append_left sent),
    fun worker hworker => (h.sound worker hworker).mono fun _ hdone => hdone, ?_⟩
  rw [unfinished_enqueue, queued_enqueue, List.length_append, List.length_singleton, h.counted]
  change _ = p.queued.length + 1 + p.taken.length
  omega

/-- Reporting failures moves no ticket. -/
lemma clearReported (h : p.IsAccurate accepted putting sent) (index : Option String) :
    (p.clearReported index).IsAccurate accepted putting sent := by
  have haccounts := h.accounts.clearReported index
  cases index with
  | none => exact ⟨h.quiet, haccounts, h.sound, h.counted⟩
  | some index =>
    exact ⟨h.quiet, haccounts, fun worker hworker => (h.sound worker hworker).mono fun _ h => h,
      h.counted⟩

/-- An idle worker takes what is at the front of the queue and makes the call of its first group. -/
lemma takeBatch {i : Nat} (h : p.IsAccurate accepted putting sent)
    (hi : p.workers[i]? = some .idle) (hqueue : p.isQueueEmpty = false) :
    (p.takeBatch i).IsAccurate accepted putting (sent ++ (p.takeBatch i).inCall i) := by
  obtain ⟨q, batch, left, group, rest, hq, htickets, hgroups, htake⟩ := takeBatch_eq i hqueue
  obtain ⟨before, after, hworkers, hset⟩ := exists_setWorker hi
  have hqueued : p.queued = batch ++ left := by simp [queued, hq, htickets]
  obtain ⟨hworkers', hcall⟩ : (p.takeBatch i).workers =
      before ++ .sending batch [] group rest :: after ∧ (p.takeBatch i).inCall i = group := by
    rw [htake]
    exact hset _ _ rfl
  have hqueue' : (p.takeBatch i).queue = some { q with tickets := left } := by rw [htake]; rfl
  have hqueued' : (p.takeBatch i).queued = left := by simp [queued, hqueue']
  have haccounts : (p.takeBatch i).Accounts accepted (putting ++ p.queued ++ p.taken) sent
      (putting ++ p.queued ++ p.workers.flatMap Worker.unsent) :=
    h.accounts.of_eq (by rw [htake]; rfl) (by rw [htake]; rfl)
  have hdone (serial : Nat) (hdone : p.IsDone serial) : (p.takeBatch i).IsDone serial := by
    rw [htake]
    exact hdone
  refine ⟨?_, haccounts.perm ?_ ?_, fun worker hworker => ?_, ?_⟩
  · rw [htake]
    exact h.quiet
  · -- the batch goes from the queue to the worker
    rw [hqueued, hqueued', taken, taken, hworkers, hworkers', ← Multiset.coe_eq_coe]
    simp only [List.flatMap_append, List.flatMap_cons, Worker.batch, List.nil_append,
      ← Multiset.coe_add]
    abel
  · -- its first group is sent, and the other groups are not
    rw [hcall, hqueued, hqueued', hworkers, hworkers', ← hgroups, ← Multiset.coe_eq_coe]
    simp only [List.flatMap_append, List.flatMap_cons, Worker.unsent, List.nil_append,
      List.flatten_cons, ← Multiset.coe_add]
    abel
  · rw [htake] at hworker
    rcases List.mem_or_eq_of_mem_set hworker with hworker | rfl
    · exact (h.sound worker hworker).mono hdone
    · have hall : [] ++ group ++ rest.flatten = batch := hgroups
      rw [Worker.IsSound, hall]
      exact ⟨List.Subset.refl batch, fun t ht => Or.inr ht⟩
  · have hcounted := h.counted
    rw [hqueued, taken, hworkers] at hcounted
    rw [hqueued', taken, hworkers']
    have hunfinished : (p.takeBatch i).unfinished = p.unfinished := by
      simp [unfinished, hqueue', hq]
    simp only [List.flatMap_append, List.flatMap_cons, Worker.batch, List.length_append,
      List.nil_append] at hcounted ⊢
    omega

/-- A worker that stands elsewhere with the same batch may have made another call. -/
lemma moved {i : Nat} {worker worker' : Worker} (h : p.IsAccurate accepted putting sent)
    (hi : p.workers[i]? = some worker) (hprogress : p.Progresses p') (hsound : worker'.IsSound p')
    (hbatch : worker'.batch = worker.batch)
    (hunsent : worker'.inCall ++ worker'.unsent = worker.unsent) :
    (p'.setWorker i worker').IsAccurate accepted putting
      (sent ++ (p'.setWorker i worker').inCall i) := by
  obtain ⟨before, after, hworkers, hset⟩ := exists_setWorker hi
  obtain ⟨hworkers', hcall⟩ := hset p' worker' hprogress.workers_eq
  have hqueued : (p'.setWorker i worker').queued = p.queued := hprogress.queued_eq
  have htaken : (p'.setWorker i worker').taken = p.taken := by
    rw [taken, taken, hworkers, hworkers']
    simp only [List.flatMap_append, List.flatMap_cons, hbatch]
  have haccounts : (p'.setWorker i worker').Accounts accepted (putting ++ p.queued ++ p.taken) sent
      (putting ++ p.queued ++ p.workers.flatMap Worker.unsent) :=
    (h.accounts.progress hprogress).of_eq rfl rfl
  refine ⟨hprogress.quiet h.quiet, haccounts.perm ?_ ?_, fun other hother => ?_, ?_⟩
  · rw [hqueued, htaken]
  · -- a group that was unsent may be in call now
    rw [hcall, hqueued, hworkers, hworkers', ← Multiset.coe_eq_coe]
    simp only [List.flatMap_append, List.flatMap_cons, ← hunsent, ← Multiset.coe_add]
    abel
  · rcases List.mem_or_eq_of_mem_set hother with hother | rfl
    · rw [hprogress.workers_eq] at hother
      exact (h.sound other hother).mono hprogress.isDone
    · exact hsound.mono fun _ hdone => hdone
  · rw [hqueued, htaken, ← h.counted]
    exact hprogress.unfinished_eq

/-- A worker whose batch is done lets go of it. -/
lemma finished {i : Nat} {worker : Worker} (h : p.IsAccurate accepted putting sent)
    (hi : p.workers[i]? = some worker) (hprogress : p.Progresses p')
    (hdone : ∀ t ∈ worker.batch, p'.IsDone t.serial) (hunsent : worker.unsent = []) :
    (p'.finish i worker.batch .idle).IsAccurate accepted putting
      (sent ++ (p'.finish i worker.batch .idle).inCall i) := by
  obtain ⟨before, after, hworkers, hset⟩ := exists_setWorker hi
  obtain ⟨hworkers', hcall⟩ : (p'.finish i worker.batch .idle).workers =
      before ++ .idle :: after ∧ (p'.finish i worker.batch .idle).inCall i = [] :=
    hset p' .idle hprogress.workers_eq
  have hqueued : (p'.finish i worker.batch .idle).queued = p.queued := by
    rw [queued_finish, hprogress.queued_eq]
  have haccounts : (p'.finish i worker.batch .idle).Accounts accepted
      (putting ++ p.queued ++ p.taken) sent
      (putting ++ p.queued ++ p.workers.flatMap Worker.unsent) :=
    (h.accounts.progress hprogress).of_eq rfl rfl
  have hlet : (p'.finish i worker.batch .idle).Accounts accepted
      (worker.batch ++ (putting ++ p.queued ++ (p'.finish i worker.batch .idle).taken)) sent
      (putting ++ p.queued ++ p.workers.flatMap Worker.unsent) := by
    -- the batch is brought to the front, from where it can be released
    refine haccounts.perm ?_ (.refl _)
    rw [taken, taken, hworkers, hworkers', ← Multiset.coe_eq_coe]
    simp only [List.flatMap_append, List.flatMap_cons, Worker.batch, List.nil_append,
      ← Multiset.coe_add]
    abel
  refine ⟨hprogress.quiet h.quiet, ?_, fun other hother => ?_, ?_⟩
  · rw [hcall, List.append_nil, hqueued]
    have hsame : (p'.finish i worker.batch .idle).workers.flatMap Worker.unsent =
        p.workers.flatMap Worker.unsent := by
      have hidle : Worker.idle.unsent = [] := rfl
      rw [hworkers, hworkers']
      simp only [List.flatMap_append, List.flatMap_cons, hunsent, hidle]
    rw [hsame]
    exact hlet.release hdone
  · rcases List.mem_or_eq_of_mem_set hother with hother | rfl
    · rw [hprogress.workers_eq] at hother
      exact (h.sound other hother).mono hprogress.isDone
    · trivial
  · have hcounted := h.counted
    rw [taken, hworkers] at hcounted
    rw [unfinished_finish, hprogress.unfinished_eq, hqueued, taken, hworkers']
    simp only [List.flatMap_append, List.flatMap_cons, Worker.batch, List.length_append,
      List.nil_append] at hcounted ⊢
    omega

/-- What a worker whose call is answered advances by. -/
lemma advances {i : Nat} {worker : Worker} (h : p.IsAccurate accepted putting sent)
    (hi : p.workers[i]? = some worker) (hcall : (awaitedCall? worker).isSome) (answer : Answer) :
    p.Advances i worker (p.onAnswer i answer) := by
  have hworker : worker ∈ p.workers := List.mem_of_getElem? hi
  have hknows : p.Knows worker.batch := fun t ht => h.accounts.knows t
    (List.mem_append_right _ (List.mem_flatMap.2 ⟨worker, hworker, ht⟩))
  exact onAnswer_advances hi hcall h.quiet (h.sound worker hworker) hknows answer

/-- A worker that receives an answer makes the call of its next group, refreshes, or lets go of its
batch. -/
lemma answered {i : Nat} {worker : Worker} (h : p.IsAccurate accepted putting sent)
    (hi : p.workers[i]? = some worker) (hcall : (awaitedCall? worker).isSome) (answer : Answer) :
    (p.answered i answer).IsAccurate accepted putting
      (sent ++ (p.answered i answer).inCall i) := by
  rcases (h.advances hi hcall answer).with_pending with
    ⟨hprogress, hsound, hbatch, hunsent, hafter⟩ | ⟨hprogress, hdone, hunsent, hafter⟩
  · rw [Processor.answered, hafter]
    exact h.moved hi hprogress hsound hbatch hunsent
  · rw [Processor.answered, hafter]
    exact h.finished hi hprogress hdone hunsent

/-- A callback of a ticket that is done takes nothing out of a pending set that is to stay there. -/
lemma forget {t : Ticket} (h : p.IsAccurate accepted putting sent) (hdone : p.IsDone t.serial) :
    (p.forget t).IsAccurate accepted putting sent :=
  ⟨h.quiet, h.accounts.progress (progresses_forget hdone),
    fun worker hworker => (h.sound worker hworker).mono fun _ hdone => hdone, h.counted⟩

end IsAccurate

end Processor

end SearchIndex
