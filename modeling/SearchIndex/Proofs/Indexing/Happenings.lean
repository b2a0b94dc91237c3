/-
# What happens in a world of errands

A task that submits or awaits requests waits at one of two places only, so each event makes one of
nine things of the world: `World.Happens` lists them, with the world that comes of each.

Whatever the monitors do, tickets stay in order along a run (`World.Run.isInOrder`): each is in one
place, and none is done before a worker has decided about it.
-/
import SearchIndex.Proofs.Indexing.Answering
import SearchIndex.Proofs.Indexing.Whereabouts

namespace SearchIndex

namespace Errand

/-- How awaiting requests ends, given the failures that are reported. -/
def reported (index : Option String) : List Failure → Except Failure (Option Ticket)
  | [] => .ok none
  | first :: others => .error (.asynchronous index first others)

lemma untilWait_reporting_eq (index : Option String) (s : Shared) :
    (reporting index).untilWait s =
      (.done (reported index (s.processor.unreported index)),
        s.mapProcessor (·.clearReported index)) := by
  have htask : reporting index = .atomic (fun s => s.mapProcessor (·.clearReported index)) fun s =>
      Task.bind (ExceptT.run (match s.processor.unreported index with
        | [] => pure ()
        | first :: others => throw (.asynchronous index first others) : Activity Unit))
        (ExceptT.bindCont fun _ => pure none) := rfl
  rw [htask, Task.untilWait]
  cases s.processor.unreported index with
  | nil => rfl
  | cons first others => rfl

end Errand

namespace World

/-- What an event makes of a world of errands. -/
inductive Happens (w : OfErrands) : Event Errand → OfErrands → Prop where
  /-- A request is queued at once. -/
  | queues (r : WorkRequest) : Happens w (.start (.submit r))
      ⟨w.shared.mapProcessor fun p => (p.start.register r).1.enqueue (p.start.register r).2,
        w.tasks ++ [.done (.ok (some (w.shared.processor.start.register r).2))]⟩
  /-- A request waits to be queued. -/
  | lingers (r : WorkRequest) : Happens w (.start (.submit r))
      ⟨w.shared.mapProcessor fun p => (p.start.register r).1,
        w.tasks ++ [Errand.putting (w.shared.processor.start.register r).2]⟩
  /-- Requests are waited for. -/
  | awaits (index : Option String) : Happens w (.start (.await index))
      ⟨w.shared, w.tasks ++ [Errand.awaiting index (w.shared.processor.waitingTickets index)]⟩
  /-- No request has to be waited for, and failures are reported at once. -/
  | reports (index : Option String) (hnone : w.shared.processor.waitingTickets index = []) :
      Happens w (.start (.await index))
        ⟨w.shared.mapProcessor (·.clearReported index),
          w.tasks ++ [.done (Errand.reported index (w.shared.processor.unreported index))]⟩
  /-- A request that waited is queued. -/
  | puts {k : Nat} {t : Ticket} (hk : w.tasks[k]? = some (Errand.putting t)) :
      Happens w (.resume k)
        ⟨w.shared.mapProcessor (·.enqueue t), w.tasks.set k (.done (.ok (some t)))⟩
  /-- What was waited for is done, and failures are reported. -/
  | goesOn {k : Nat} {index : Option String} {waiting : List Nat}
      (hk : w.tasks[k]? = some (Errand.awaiting index waiting))
      (hdone : ∀ n ∈ waiting, w.shared.processor.IsDone n) :
      Happens w (.resume k)
        ⟨w.shared.mapProcessor (·.clearReported index),
          w.tasks.set k (.done (Errand.reported index (w.shared.processor.unreported index)))⟩
  /-- A worker takes a batch. -/
  | takes {i : Nat} (hi : w.shared.processor.workers[i]? = some .idle)
      (hqueue : w.shared.processor.isQueueEmpty = false) :
      Happens w (.take i) (w.worked (w.shared.processor.takeBatch i))
  /-- A worker receives an answer. -/
  | answers {i : Nat} {worker : Worker} (hi : w.shared.processor.workers[i]? = some worker)
      (hcall : (Processor.awaitedCall? worker).isSome) (answer : Answer) :
      Happens w (.answer i answer) (w.worked (w.shared.processor.answered i answer))
  /-- A ticket that is done leaves its pending set. -/
  | forgets {t : Ticket} (hdone : w.shared.processor.IsDone t.serial) :
      Happens w (.forget t) (w.worked (w.shared.processor.forget t))

variable {history : History} {w w' : OfErrands} {event : Event Errand}

/-- Nothing else happens where all tasks stand at places of errands. -/
lemma Step.happens (hplaces : ∀ t ∈ w.tasks, Errand.IsPlace t)
    (hstep : Step Errand.task w event w') : Happens w event w' := by
  cases hstep with
  | start errand =>
    cases errand with
    | submit r =>
      let p := (w.shared.processor.start.register r).1
      let t := (w.shared.processor.start.register r).2
      have haccept : Execution.accept r w.shared =
          if p.isFull then ({ w.shared with processor := p }, t, false)
          else ({ w.shared with processor := p.enqueue t }, t, true) := rfl
      rw [started_submit, haccept]
      by_cases hfull : p.isFull = true
      · rw [if_pos hfull]
        exact .lingers r
      · rw [if_neg hfull]
        exact .queues r
    | await index =>
      rw [started, Errand.untilWait_await]
      by_cases hempty : (w.shared.processor.waitingTickets index).isEmpty = true
      · rw [if_pos hempty, Errand.untilWait_reporting_eq]
        exact .reports index (List.isEmpty_iff.1 hempty)
      · rw [if_neg hempty]
        exact .awaits index
  | @resume k ready next hk hready =>
    have hplace := hplaces _ (List.mem_of_getElem? hk)
    -- the task is a variable here, so that its place can be split into cases
    generalize htask : Task.wait ready next = task at hplace hk
    cases hplace with
    | done result => cases htask
    | putting t =>
      obtain ⟨-, rfl⟩ := Task.wait.inj htask
      exact .puts hk
    | awaiting index waiting =>
      obtain ⟨rfl, rfl⟩ := Task.wait.inj htask
      rw [continued, Errand.untilWait_reporting_eq]
      exact .goesOn hk fun n hn => List.all_eq_true.1 hready n hn
  | reply hk answer => cases hplaces _ (List.mem_of_getElem? hk)
  | take hi hqueue => exact .takes hi hqueue
  | answer hi hcall answer => exact .answers hi hcall answer
  | forget hdone => exact .forgets hdone

/-- A task that awaits requests waits if some of them are pending. -/
lemma Step.start_await (scope : Option String)
    (hpending : (w.shared.processor.waitingTickets scope).isEmpty = false) :
    Step Errand.task w (.start (.await scope))
      ⟨w.shared, w.tasks ++ [Errand.awaiting scope (w.shared.processor.waitingTickets scope)]⟩ := by
  have hstep : Step Errand.task w (.start (.await scope)) _ := .start (Errand.await scope)
  rwa [started, Errand.untilWait_await, if_neg (by simp [hpending])] at hstep

/-- A task that awaits requests goes on once they are done. -/
lemma Step.resume_awaiting {k : Nat} {scope : Option String} {waiting : List Nat}
    (hk : w.tasks[k]? = some (Errand.awaiting scope waiting))
    (hdone : Execution.areDone waiting w.shared = true) :
    Step Errand.task w (.resume k)
      ⟨w.shared.mapProcessor (·.clearReported scope),
        w.tasks.set k (.done (Errand.reported scope (w.shared.processor.unreported scope)))⟩ := by
  have hstep : Step Errand.task w (.resume k) _ := .resume hk hdone
  rwa [continued, Errand.untilWait_reporting_eq] at hstep

/-! ## Tickets in order -/

/-- Every task stands at a place of errands, and tickets are in order. -/
structure IsInOrder (w : OfErrands) : Prop where
  places : ∀ t ∈ w.tasks, Errand.IsPlace t
  orderly : w.shared.processor.IsOrderly w.putting

lemma forall_mem_snoc_place (hplaces : ∀ t ∈ w.tasks, Errand.IsPlace t) {task : Errand.Rest}
    (hplace : Errand.IsPlace task) : ∀ t ∈ w.tasks ++ [task], Errand.IsPlace t :=
  List.forall_mem_append.2 ⟨hplaces, List.forall_mem_singleton.2 hplace⟩

lemma Happens.places (hplaces : ∀ t ∈ w.tasks, Errand.IsPlace t) (h : Happens w event w') :
    ∀ t ∈ w'.tasks, Errand.IsPlace t := by
  cases h with
  | queues r => exact forall_mem_snoc_place hplaces (.done _)
  | lingers r => exact forall_mem_snoc_place hplaces (.putting _)
  | awaits index => exact forall_mem_snoc_place hplaces (.awaiting index _)
  | reports index hnone => exact forall_mem_snoc_place hplaces (.done _)
  | puts hk => exact forall_mem_set_done hplaces
  | goesOn hk hdone => exact forall_mem_set_done hplaces
  | takes hi hqueue => exact hplaces
  | answers hi hcall answer => exact hplaces
  | forgets hdone => exact hplaces

lemma Happens.isOrderly (horderly : w.shared.processor.IsOrderly w.putting)
    (h : Happens w event w') : w'.shared.processor.IsOrderly w'.putting := by
  cases h with
  | queues r =>
    rw [putting, filterMap_snoc, Errand.ticketToPut?_done, Option.toList_none, List.append_nil]
    exact (horderly.start.register r).enqueue List.perm_append_comm
  | lingers r =>
    rw [putting, filterMap_snoc]
    exact horderly.start.register r
  | awaits index =>
    rw [putting, filterMap_snoc, Errand.ticketToPut?_awaiting, Option.toList_none, List.append_nil]
    exact horderly
  | reports index hnone =>
    rw [putting, filterMap_snoc, Errand.ticketToPut?_done, Option.toList_none, List.append_nil]
    exact horderly.clearReported index
  | puts hk => exact horderly.enqueue (perm_putting_of_set hk _)
  | @goesOn k index waiting hk hdone =>
    have hperm := perm_putting_of_set hk
      (Errand.reported index (w.shared.processor.unreported index))
    rw [Errand.ticketToPut?_awaiting, Option.toList_none, List.nil_append] at hperm
    exact (horderly.perm hperm).clearReported index
  | takes hi hqueue => exact horderly.takeBatch hi hqueue
  | answers hi hcall answer => exact horderly.answered hi hcall answer
  | forgets hdone => exact horderly.of_eq rfl rfl rfl

lemma IsInOrder.happens (h : w.IsInOrder) (hstep : Step Errand.task w event w') :
    Happens w event w' :=
  hstep.happens h.places

/-- Along a run tickets stay in order, whatever the monitors do. -/
lemma Run.isInOrder {s : Shared} (hunused : s.processor.IsUnused)
    (hrun : Run Errand.task s history w) : w.IsInOrder := by
  induction hrun with
  | begin =>
    obtain ⟨hqueue, hworkers, -, -⟩ := hunused
    have hnone : ([] : List Ticket) ++ s.processor.queued ++ s.processor.taken = [] := by
      simp [Processor.queued, Processor.taken, hqueue, hworkers]
    refine ⟨by simp, fun t ht => ?_, ?_, fun t ht => ?_, by simp [hworkers]⟩
    · exact absurd (hnone ▸ ht) List.not_mem_nil
    · change ((([] : List Ticket) ++ s.processor.queued ++ s.processor.taken).map _).Nodup
      rw [hnone]
      exact List.nodup_nil
    · have hmem : t ∈ ([] : List Ticket) ++ s.processor.queued ++ s.processor.taken :=
        List.mem_append_left _ ht
      exact absurd (hnone ▸ hmem) List.not_mem_nil
  | snoc _ hstep ih =>
    have hhappens := ih.happens hstep
    exact ⟨hhappens.places ih.places, hhappens.isOrderly ih.orderly⟩

/-! ## Reading a history -/

/-- The events of a history, each with the worlds before and after it. -/
def transitions (w : OfErrands) : History → List (OfErrands × Event Errand × OfErrands)
  | [] => []
  | (event, w') :: rest => (w, event, w') :: transitions w' rest

/-- The world that a history leads to. -/
def last (w : OfErrands) : History → OfErrands
  | [] => w
  | (_, w') :: rest => last w' rest

lemma transitions_snoc (start : OfErrands) :
    transitions start (history ++ [(event, w')]) =
      transitions start history ++ [(last start history, event, w')] := by
  induction history generalizing start with
  | nil => rfl
  | cons x rest ih => rw [List.cons_append, transitions, ih, transitions, last, List.cons_append]

lemma last_snoc (start : OfErrands) : last start (history ++ [(event, w')]) = w' := by
  induction history generalizing start with
  | nil => rfl
  | cons x rest ih => rw [List.cons_append, last, ih]

lemma Run.last_eq (hrun : Run Errand.task s history w) : last ⟨s, []⟩ history = w := by
  cases hrun with
  | begin => rfl
  | snoc _ _ => exact last_snoc _

end World

end SearchIndex
