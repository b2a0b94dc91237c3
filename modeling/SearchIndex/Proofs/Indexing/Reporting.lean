/-
# Reporting failures

A request that fails asynchronously is reported when somebody awaits the requests of its index, or
of all.  The main result, `failures_reported_once`, says for every interleaving that nothing goes
wrong on the way, provided that no monitor raises an error of its own: each failure is recorded,
told to its monitor and becomes the outcome of its request once, each recorded failure is reported
once or still recorded, and whoever awaits requests learns what is recorded of them, after they are
all done.

Recorded failures do not say which request they come from, and a report of all failures not even
from which index.  So a report is traced back to the tickets whose failures it carries (`Notice`).
-/
import SearchIndex.Proofs.Indexing.Tally

namespace SearchIndex

namespace World

variable {s : Shared} {history : History} {w w' : OfErrands} {event : Event Errand}

/-! ## Each failure in one report -/

/-- The failed tickets whose requests are for an index. -/
def failedOn (index : String) (failed : List FailedTicket) : List FailedTicket :=
  failed.filter fun x => x.1.request.index = index

/-- A report of failures of one index, or of all, with the tickets that it reports. -/
structure Notice where
  /-- The index whose failures are reported, if it is one. -/
  scope : Option String
  /-- The ticket whose failure comes first. -/
  first : FailedTicket
  /-- The other tickets. -/
  others : List FailedTicket

namespace Notice

/-- All tickets that a notice reports. -/
def entries (n : Notice) : List FailedTicket := n.first :: n.others

/-- The failure that is raised. -/
def failure (n : Notice) : Failure :=
  .asynchronous n.scope n.first.2 (n.others.map Prod.snd)

/-- The notice of some tickets, if there is one. -/
def ofEntries (scope : Option String) : List FailedTicket → List Notice
  | [] => []
  | first :: others => [⟨scope, first, others⟩]

lemma flatMap_entries_ofEntries (scope : Option String) (entries : List FailedTicket) :
    (ofEntries scope entries).flatMap Notice.entries = entries := by
  cases entries with
  | nil => rfl
  | cons first others => simp [ofEntries, Notice.entries]

end Notice

/-- Each failure that is raised is that of a notice, and the tickets of an index that have failed
are those of the notices and then those that are still recorded. -/
structure IsCarried (s : Shared) (history : History) (w : OfErrands) (notices : List Notice)
    (still : String → List FailedTicket) : Prop where
  raised_eq : raised history = notices.map Notice.failure
  covered : ∀ n ∈ notices, ∀ x ∈ n.entries, covers n.scope x.1.request.index = true
  recorded_eq : ∀ index, w.shared.processor.recorded index = (still index).map Prod.snd
  failed_eq : ∀ index, failedOn index (failed s history) =
    failedOn index (notices.flatMap Notice.entries) ++ still index

/-- The tickets of one index, or of all, whose failures are still recorded. -/
def stillOf (p : Processor) (still : String → List FailedTicket) :
    Option String → List FailedTicket
  | some index => still index
  | none => (Table.keys p.failures).flatMap still

/-- One list among the empty ones of the other keys. -/
lemma flatMap_ite_eq {α : Type} {keys : List String} (hdistinct : keys.Nodup) (key : String)
    (l : List α) :
    (keys.flatMap fun other => if other = key then l else []) = if key ∈ keys then l else [] := by
  induction keys with
  | nil => rfl
  | cons first rest ih =>
    obtain ⟨hfresh, hrest⟩ := List.nodup_cons.1 hdistinct
    rw [List.flatMap_cons, ih hrest]
    by_cases hfirst : first = key
    · subst hfirst
      simp [hfresh]
    · simp [hfirst, Ne.symm hfirst]

namespace IsCarried

variable {notices : List Notice} {still : String → List FailedTicket}

/-- What is still recorded for an index is of requests for it. -/
lemma index_eq (h : IsCarried s history w notices still) {index : String} :
    ∀ x ∈ still index, x.1.request.index = index := by
  intro x hx
  have hmem : x ∈ failedOn index (failed s history) := by
    rw [h.failed_eq]
    exact List.mem_append_right _ hx
  simpa using (List.mem_filter.1 hmem).2

lemma failedOn_still (h : IsCarried s history w notices still) (index other : String) :
    failedOn index (still other) = if other = index then still index else [] := by
  by_cases hother : other = index
  · subst hother
    rw [if_pos rfl]
    exact List.filter_eq_self.2 fun x hx => by simp [h.index_eq x hx]
  · rw [if_neg hother]
    exact List.filter_eq_nil_iff.2 fun x hx => by simp [h.index_eq x hx, hother]

/-- What is reported are the failures of the tickets that are still recorded. -/
lemma map_stillOf (h : IsCarried s history w notices still)
    (hdistinct : Table.IsDistinct w.shared.processor.failures) (scope : Option String) :
    (stillOf w.shared.processor still scope).map Prod.snd =
      w.shared.processor.unreported scope := by
  cases scope with
  | some index => exact (h.recorded_eq index).symm
  | none =>
    rw [stillOf, List.map_flatMap]
    calc (Table.keys w.shared.processor.failures).flatMap (fun index => (still index).map Prod.snd)
        = (Table.keys w.shared.processor.failures).flatMap fun index =>
            (Table.get? w.shared.processor.failures index).getD [] :=
          List.flatMap_congr fun index _ => (h.recorded_eq index).symm
      _ = w.shared.processor.failures.flatMap Prod.snd := Table.flatMap_keys hdistinct

/-- A report of a scope takes what is recorded for the indexes that it covers, and nothing else. -/
lemma failedOn_stillOf (h : IsCarried s history w notices still)
    (hdistinct : Table.IsDistinct w.shared.processor.failures) (scope : Option String)
    (index : String) :
    failedOn index (stillOf w.shared.processor still scope) =
      if covers scope index then still index else [] := by
  cases scope with
  | some own =>
    rw [stillOf, h.failedOn_still]
    simp [covers]
  | none =>
    have hsplit : failedOn index (stillOf w.shared.processor still none) =
        (Table.keys w.shared.processor.failures).flatMap fun other =>
          if other = index then still index else [] := by
      rw [stillOf, failedOn, List.filter_flatMap]
      exact List.flatMap_congr fun other _ => h.failedOn_still index other
    rw [hsplit, flatMap_ite_eq hdistinct]
    by_cases hkey : index ∈ Table.keys w.shared.processor.failures
    · simp [hkey, covers]
    · -- nothing is recorded for an index that the table does not have
      have hnone : (still index).map Prod.snd = [] := by
        rw [← h.recorded_eq, Processor.recorded, Processor.unreported,
          Table.get?_eq_none_iff.2 hkey, Option.getD_none]
      simp [hkey, List.map_eq_nil_iff.1 hnone]

lemma covers_of_mem_stillOf (h : IsCarried s history w notices still) (scope : Option String) :
    ∀ x ∈ stillOf w.shared.processor still scope, covers scope x.1.request.index = true := by
  intro x hx
  cases scope with
  | some own =>
    rw [h.index_eq x hx]
    simp [covers]
  | none => rfl

/-- Tickets that fail are recorded after those that are still recorded. -/
lemma add (h : IsCarried s history w notices still) (hrun : Run Errand.task s history w)
    (hraised : w'.raisedAt event = [])
    (hadds : w.shared.processor.Adds (w.failedAt event) w'.shared.processor) :
    IsCarried s (history ++ [(event, w')]) w' notices
      fun index => still index ++ failedOn index (w.failedAt event) where
  raised_eq := by rw [raised_snoc, hraised, List.append_nil, h.raised_eq]
  covered := h.covered
  recorded_eq index := by
    rw [hadds.recorded_eq, h.recorded_eq, List.map_append]
    rfl
  failed_eq index := by
    have hfailed := h.failed_eq index
    rw [failedOn] at hfailed ⊢
    rw [failed_snoc hrun, List.filter_append, hfailed, List.append_assoc]
    rfl

/-- A report carries what has been recorded of its scope. -/
lemma report (h : IsCarried s history w notices still) (hrun : Run Errand.task s history w)
    (hdistinct : Table.IsDistinct w.shared.processor.failures) {scope : Option String}
    (hempty : w.failedAt event = [])
    (hraised : w'.raisedAt event = failureOf (some (.done
      (Errand.reported scope (w.shared.processor.unreported scope)))))
    (hclear : w'.shared.processor = w.shared.processor.clearReported scope) :
    IsCarried s (history ++ [(event, w')]) w'
      (notices ++ Notice.ofEntries scope (stillOf w.shared.processor still scope))
      fun index => if covers scope index then [] else still index := by
  have hentries := h.map_stillOf hdistinct scope
  refine ⟨?_, ?_, fun index => ?_, fun index => ?_⟩
  · rw [raised_snoc, hraised, h.raised_eq, List.map_append, ← hentries]
    cases stillOf w.shared.processor still scope <;> rfl
  · refine fun n hn x hx => ?_
    rcases List.mem_append.1 hn with hn | hn
    · exact h.covered n hn x hx
    · have hcovers := h.covers_of_mem_stillOf scope
      cases hstill : stillOf w.shared.processor still scope with
      | nil =>
        rw [hstill] at hn
        exact absurd hn List.not_mem_nil
      | cons first others =>
        rw [hstill] at hn hcovers
        obtain rfl := List.mem_singleton.1 hn
        exact hcovers x hx
  · rw [hclear, Processor.recorded_clearReported hdistinct]
    split
    · rfl
    · exact h.recorded_eq index
  · have hreported := h.failedOn_stillOf hdistinct scope index
    have hfailed := h.failed_eq index
    rw [failedOn] at hreported hfailed ⊢
    rw [failed_snoc hrun, hempty, List.append_nil, hfailed, List.flatMap_append,
      Notice.flatMap_entries_ofEntries, failedOn, failedOn, List.filter_append, hreported]
    split <;> simp

end IsCarried

lemma Run.exists_isCarried (hunused : s.processor.IsUnused) (hnone : s.processor.failures = [])
    (hquiet : s.processor.HasQuietMonitors) (hrun : Run Errand.task s history w) :
    ∃ notices still, IsCarried s history w notices still := by
  induction hrun with
  | begin =>
    refine ⟨[], fun _ => [], rfl, by simp, fun index => ?_, fun index => rfl⟩
    simp [Processor.unreported, hnone]
  | @snoc history w w' event hrun hstep ih =>
    obtain ⟨notices, still, hcarried⟩ := ih
    have horder := hrun.isInOrder hunused
    have hdistinct := (hrun.isTallied hunused hnone hquiet).distinct
    rcases (horder.happens hstep).effect horder.orderly
      (hrun.isSound hunused hquiet).accurate.quiet with ⟨hraised, hadds⟩ |
      ⟨scope, hempty, hraised, hclear⟩
    · exact ⟨_, _, hcarried.add hrun hraised hadds⟩
    · exact ⟨_, _, hcarried.report hrun hdistinct hempty hraised hclear⟩

/-! ## Where errands stand -/

/-- Where the task of an errand can stand, given the requests that were accepted before it.  A task
that awaits requests waits at least for those of them that are not done. -/
inductive IsAt (p : Processor) (before : List WorkRequest) : Errand → Errand.Rest → Prop where
  | submits (r : WorkRequest) (t : Ticket) : IsAt p before (.submit r) (Errand.putting t)
  | awaits (scope : Option String) (waiting : List Nat)
      (hwaits : ∀ n r, before[n]? = some r → covers scope r.index = true → ¬ p.IsDone n →
        n ∈ waiting) : IsAt p before (.await scope) (Errand.awaiting scope waiting)
  | ended (errand : Errand) (result : Except Failure (Option Ticket)) :
      IsAt p before errand (.done result)

lemma IsAt.mono {p p' : Processor} {before : List WorkRequest} {errand : Errand}
    {task : Errand.Rest} (h : IsAt p before errand task)
    (hdone : ∀ n, p.IsDone n → p'.IsDone n) : IsAt p' before errand task := by
  cases h with
  | submits r t => exact .submits r t
  | awaits scope waiting hwaits =>
    exact .awaits scope waiting fun n r hr hcovers hnot =>
      hwaits n r hr hcovers (mt (hdone n) hnot)
  | ended errand result => exact .ended errand result

/-- Each errand has a task, which stands where it can. -/
structure HasTasks (history : History) (w : OfErrands) : Prop where
  length_eq : (errands history).length = w.tasks.length
  stands : ∀ k errand task, (errands history)[k]? = some errand → w.tasks[k]? = some task →
    IsAt w.shared.processor (requested ((errands history).take k)) errand task

namespace HasTasks

/-- A new errand has a new task. -/
lemma start (h : HasTasks history w) {errand : Errand} {task : Errand.Rest} {s' : Shared}
    (hdone : ∀ n, w.shared.processor.IsDone n → s'.processor.IsDone n)
    (hat : IsAt s'.processor (accepted history) errand task) (w'' : OfErrands) :
    HasTasks (history ++ [(.start errand, w'')]) (⟨s', w.tasks ++ [task]⟩ : OfErrands) := by
  have herrands : errands (history ++ [(.start errand, w'')]) = errands history ++ [errand] :=
    errands_snoc history _ _
  refine ⟨by simp [herrands, h.length_eq], fun k other rest hother hrest => ?_⟩
  rw [herrands] at hother ⊢
  have hk : k < w.tasks.length + 1 := by
    simpa using (List.getElem?_eq_some_iff.1 hrest).1
  rw [List.take_append_of_le_length (by rw [h.length_eq]; omega)]
  by_cases hlast : k = w.tasks.length
  · subst hlast
    obtain rfl : errand = other := by simpa [← h.length_eq] using hother
    obtain rfl : task = rest := by simpa using hrest
    rwa [← h.length_eq, List.take_length, requested_errands]
  · have hlt : k < w.tasks.length := by omega
    rw [List.getElem?_append_left (by rwa [h.length_eq])] at hother
    rw [List.getElem?_append_left hlt] at hrest
    exact (h.stands k other rest hother hrest).mono hdone

/-- No errand starts, and tasks stand where they stood or are done. -/
lemma go_on (h : HasTasks history w) (hstart : errand? event = none) {w'' : OfErrands}
    (hdone : ∀ n, w.shared.processor.IsDone n → w''.shared.processor.IsDone n)
    (hlength : w''.tasks.length = w.tasks.length)
    (htasks : ∀ (k : Nat) (task : Errand.Rest), w''.tasks[k]? = some task →
      w.tasks[k]? = some task ∨ ∃ result, task = .done result) :
    HasTasks (history ++ [(event, w'')]) w'' := by
  have herrands : errands (history ++ [(event, w'')]) = errands history := by
    rw [errands_snoc, hstart, Option.toList_none, List.append_nil]
  refine ⟨by rw [herrands, h.length_eq, hlength], fun k errand task herrand htask => ?_⟩
  rw [herrands] at herrand ⊢
  rcases htasks k task htask with htask | ⟨result, rfl⟩
  · exact (h.stands k errand task herrand htask).mono hdone
  · exact .ended errand result

end HasTasks

lemma getElem?_set_done {tasks : List Errand.Rest} {k : Nat}
    {result : Except Failure (Option Ticket)} (j : Nat) (task : Errand.Rest)
    (htask : (tasks.set k (.done result))[j]? = some task) :
    tasks[j]? = some task ∨ ∃ result, task = .done result := by
  by_cases hj : k = j
  · subst hj
    have hlt : k < tasks.length := by simpa using (List.getElem?_eq_some_iff.1 htask).1
    rw [List.getElem?_set_self hlt] at htask
    exact Or.inr ⟨result, (Option.some.inj htask).symm⟩
  · rw [List.getElem?_set_ne hj] at htask
    exact Or.inl htask

/-- Requests of a scope that are not done are waited for. -/
lemma IsSound.mem_waitingTickets (h : IsSound history w) {scope : Option String} {n : Nat}
    {r : WorkRequest} (hr : (accepted history)[n]? = some r)
    (hcovers : covers scope r.index = true) (hnot : ¬ w.shared.processor.IsDone n) :
    n ∈ w.shared.processor.waitingTickets scope :=
  Processor.mem_waitingTickets (h.mem_pendingOf hr hnot) hcovers

lemma Run.hasTasks (hunused : s.processor.IsUnused) (hquiet : s.processor.HasQuietMonitors)
    (hrun : Run Errand.task s history w) : HasTasks history w := by
  induction hrun with
  | begin => exact ⟨rfl, by simp [errands]⟩
  | @snoc history w w' event hrun hstep ih =>
    have horder := hrun.isInOrder hunused
    have hhappens := horder.happens hstep
    have hdone (n : Nat) (hn : w.shared.processor.IsDone n) : w'.shared.processor.IsDone n :=
      hhappens.isDone horder.orderly hn
    cases hhappens with
    | queues r => exact ih.start hdone (.ended _ _) _
    | lingers r => exact ih.start hdone (.submits r _) _
    | awaits scope =>
      exact ih.start hdone (.awaits scope _ fun n r hr hcovers hnot =>
        (hrun.isSound hunused hquiet).mem_waitingTickets hr hcovers hnot) _
    | reports scope hnone => exact ih.start hdone (.ended _ _) _
    | puts hk => exact ih.go_on rfl hdone List.length_set getElem?_set_done
    | goesOn hk hall => exact ih.go_on rfl hdone List.length_set getElem?_set_done
    | takes hi hqueue => exact ih.go_on rfl hdone rfl fun k task htask => Or.inl htask
    | answers hi hcall answer => exact ih.go_on rfl hdone rfl fun k task htask => Or.inl htask
    | forgets hall => exact ih.go_on rfl hdone rfl fun k task htask => Or.inl htask

/-! ## The end of an await -/

/-- How awaiting the requests of one index, or of all, ends. -/
structure AwaitEnds (history : History) (w w' : OfErrands) (k : Nat) (scope : Option String)
    (result : Except Failure (Option Ticket)) : Prop where
  /-- It raises what is recorded of its scope, if anything is. -/
  result_eq : result = Errand.reported scope (w.shared.processor.unreported scope)
  /-- What it has reported is not recorded any longer, and what is recorded of other indexes is. -/
  recorded_eq : ∀ index, w'.shared.processor.recorded index =
    if covers scope index then [] else w.shared.processor.recorded index
  /-- All requests of its scope that were accepted before it are done. -/
  done : ∀ n r, (requested ((errands history).take k))[n]? = some r →
    covers scope r.index = true → w'.shared.processor.IsDone n

lemma Happens.awaitEnds (hsound : IsSound history w) (htasks : HasTasks history w)
    (hdistinct : Table.IsDistinct w.shared.processor.failures) (h : Happens w event w') {k : Nat}
    {scope : Option String} {result : Except Failure (Option Ticket)}
    (herrand : (errands (history ++ [(event, w')]))[k]? = some (.await scope))
    (hbefore : ∀ other, w.tasks[k]? ≠ some (.done other))
    (hafter : w'.tasks[k]? = some (.done result)) :
    AwaitEnds (history ++ [(event, w')]) w w' k scope result := by
  have hcleared := Processor.recorded_clearReported hdistinct
  have hdoneCleared (n : Nat) (scope : Option String) :
      (w.shared.processor.clearReported scope).IsDone n ↔ w.shared.processor.IsDone n := by
    rw [Processor.IsDone, Processor.outcome_clearReported]
    rfl
  -- only the last task can be done that was not done before a start
  have hlast {task : Errand.Rest} (hk : (w.tasks ++ [task])[k]? = some (.done result)) :
      k = (errands history).length ∧ task = .done result := by
    rw [htasks.length_eq]
    by_cases hlt : k < w.tasks.length
    · rw [List.getElem?_append_left hlt] at hk
      exact absurd hk (hbefore result)
    · have hlength : k < w.tasks.length + 1 := by
        simpa using (List.getElem?_eq_some_iff.1 hk).1
      obtain rfl : k = w.tasks.length := by omega
      exact ⟨rfl, by simpa using hk⟩
  rw [errands_snoc] at herrand
  cases h with
  | queues r =>
    obtain ⟨rfl, -⟩ := hlast hafter
    simp [errand?] at herrand
  | lingers r =>
    obtain ⟨-, htask⟩ := hlast hafter
    cases htask
  | awaits other =>
    obtain ⟨-, htask⟩ := hlast hafter
    cases htask
  | reports other hnone =>
    obtain ⟨rfl, htask⟩ := hlast hafter
    obtain rfl : other = scope := by simpa [errand?] using herrand
    refine ⟨(Task.done.inj htask).symm, hcleared other, fun n r hr hcovers => ?_⟩
    rw [errands_snoc, List.take_left, requested_errands] at hr
    by_contra hnot
    have hmem := hsound.mem_waitingTickets hr hcovers (mt (hdoneCleared n other).2 hnot)
    rw [hnone] at hmem
    exact List.not_mem_nil hmem
  | @puts j t hk =>
    have hj : j = k := by
      by_contra hne
      rw [List.getElem?_set_ne hne] at hafter
      exact hbefore result hafter
    subst hj
    rw [errand?, Option.toList_none, List.append_nil] at herrand
    have hat := htasks.stands j _ _ herrand hk
    generalize htask : Errand.putting t = task at hat
    cases hat with
    | ended errand result => cases htask
    | awaits scope waiting hwaits =>
      have hput := congrArg Errand.ticketToPut? htask
      simp at hput
  | @goesOn j other waiting hk hdone =>
    have hj : j = k := by
      by_contra hne
      rw [List.getElem?_set_ne hne] at hafter
      exact hbefore result hafter
    subst hj
    have hlt : j < w.tasks.length := (List.getElem?_eq_some_iff.1 hk).1
    rw [List.getElem?_set_self hlt] at hafter
    rw [errand?, Option.toList_none, List.append_nil] at herrand
    have hat := htasks.stands j _ _ herrand hk
    generalize htask : Errand.awaiting other waiting = task at hat
    cases hat with
    | ended errand result => cases htask
    | awaits scope waiting' hwaits =>
      -- both await the same tickets, and then report the same
      obtain ⟨hready, hreporting⟩ := Task.wait.inj htask
      have hsame := congrArg (Task.untilWait · w.shared) hreporting
      simp only [Errand.untilWait_reporting_eq, Prod.mk.injEq, Task.done.injEq] at hsame
      obtain ⟨hresult, hshared⟩ := hsame
      have hdone' : ∀ n ∈ waiting', w.shared.processor.IsDone n := by
        have hall : Execution.areDone waiting w.shared = true :=
          List.all_eq_true.2 fun n hn => hdone n hn
        rw [hready] at hall
        exact fun n hn => List.all_eq_true.1 hall n hn
      refine ⟨(Task.done.inj (Option.some.inj hafter)).symm.trans hresult, fun index => ?_,
        fun n r hr hcovers => ?_⟩
      · rw [hshared]
        exact hcleared scope index
      · rw [errands_snoc, errand?, Option.toList_none, List.append_nil] at hr
        refine (hdoneCleared n other).2 ?_
        by_contra hnot
        exact hnot (hdone' n (hwaits n r hr hcovers hnot))
  | takes hi hqueue => exact absurd hafter (hbefore result)
  | answers hi hcall answer => exact absurd hafter (hbefore result)
  | forgets hall => exact absurd hafter (hbefore result)

/-- **Each failure is reported once.**  Whatever the interleaving of tasks that submit and await
requests, of the workers, of the answers of the service and of callbacks: a request that fails is
recorded under its index, told to its monitor and failed itself, each once (`IsTallied`).  Each
recorded failure is in one of the failures that tasks end with, or is still recorded (`IsCarried`).
A task that awaits requests ends with what is recorded of them, touches nothing else, and leaves
none behind that was accepted before it (`AwaitEnds`). -/
theorem failures_reported_once (hunused : s.processor.IsUnused)
    (hnone : s.processor.failures = []) (hquiet : s.processor.HasQuietMonitors)
    (hrun : Run Errand.task s history w) :
    IsTallied s history w ∧ (∃ notices still, IsCarried s history w notices still) ∧
      ∀ event w' k scope result, Step Errand.task w event w' →
        (errands (history ++ [(event, w')]))[k]? = some (.await scope) →
        (∀ other, w.tasks[k]? ≠ some (.done other)) → w'.tasks[k]? = some (.done result) →
        AwaitEnds (history ++ [(event, w')]) w w' k scope result := by
  have htallied := hrun.isTallied hunused hnone hquiet
  refine ⟨htallied, hrun.exists_isCarried hunused hnone hquiet,
    fun event w' k scope result hstep herrand hbefore hafter => ?_⟩
  exact ((hrun.isInOrder hunused).happens hstep).awaitEnds (hrun.isSound hunused hquiet)
    (hrun.hasTasks hunused hquiet) htallied.distinct herrand hbefore hafter

/-- A write that cannot be sent, and a task that awaits it and goes on before its callback runs. -/
theorem failures_reported_once_unsent :
    let s := Shared.fresh ⟨1, 100, 0⟩ default
    let request := Operation.write "books" false none ⟨"book", "1", none⟩ []
    let failure := Failure.misfit .connectionClosed
    let raised : Except Failure (Option Ticket) :=
      .error (.asynchronous (some "books") failure [])
    ∃ history w w', Run Errand.task s history w ∧ Step Errand.task w (.resume 1) w' ∧
      failed s history = [(⟨0, 0, request⟩, failure)] ∧ w'.tasks[1]? = some (.done raised) ∧
      IsTallied s history w ∧
      AwaitEnds (history ++ [(.resume 1, w')]) w w' 1 (some "books") raised := by
  intro s request failure raised
  have hbegin : Run Errand.task s [] ⟨s, []⟩ := .begin
  have hsubmitted := hbegin.snoc (.start (.submit request))
  simp only [started_submit, List.nil_append] at hsubmitted
  have htaken := hsubmitted.snoc (.take (i := 0) rfl rfl)
  have hanswered := htaken.snoc (.answer (i := 0) rfl rfl (.unsent .connectionClosed))
  have hawaited := hanswered.snoc (.start_await (some "books") rfl)
  have hreported := failures_reported_once ⟨rfl, rfl, rfl, rfl⟩ rfl (fun _ _ => rfl) hawaited
  refine ⟨_, _, _, hawaited, .resume_awaiting rfl rfl, rfl, rfl, hreported.1,
    hreported.2.2 _ _ _ _ _ (.resume_awaiting rfl rfl) rfl (fun other h => ?_) rfl⟩
  cases h

end World

end SearchIndex
