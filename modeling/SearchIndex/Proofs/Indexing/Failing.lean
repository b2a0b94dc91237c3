/-
# What happens when tickets fail

A ticket that fails has its failure recorded for its index, then its monitor is told, and then the
ticket is done.  Only the monitor can get in the way: it may raise an error of its own, and then the
ticket is left as it is, with the failure recorded already.

So failing tickets one after another ends in one of two ways.  Either no monitor raises an error,
and each ticket has failed for good (`Processor.Fails`), or some have failed and one has been left
(`Processor.Halts`).  The lemmas here say so of failing a batch and of applying the verdict on a
group, for monitors of any kind.
-/
import SearchIndex.Proofs.Indexing.Ledger

namespace SearchIndex

/-- A ticket with the failure that it has come to. -/
abbrev FailedTicket := Ticket × Failure

/-- The failures that requests for an index have come to, in order. -/
def failuresOn (index : String) (failed : List FailedTicket) : List Failure :=
  (failed.filter fun x => x.1.request.index = index).map Prod.snd

/-- What monitors hear of failed tickets. -/
def toldTo (failed : List FailedTicket) : List (WorkRequest × Failure) :=
  failed.map fun x => (x.1.request, x.2)

section Lists

variable {index : String} {failed others : List FailedTicket}

@[simp] lemma failuresOn_nil : failuresOn index [] = [] := rfl

@[simp] lemma failuresOn_append :
    failuresOn index (failed ++ others) = failuresOn index failed ++ failuresOn index others := by
  simp [failuresOn]

@[simp] lemma toldTo_append : toldTo (failed ++ others) = toldTo failed ++ toldTo others := by
  simp [toldTo]

@[simp] lemma heardBy_append (name : String) (told more : List (WorkRequest × Failure)) :
    Processor.heardBy name (told ++ more) =
      Processor.heardBy name told ++ Processor.heardBy name more := by
  simp [Processor.heardBy]

end Lists

namespace Processor

variable {p p' p'' : Processor} {t : Ticket} {failure : Failure} {failed : List FailedTicket}

/-- The failures that are recorded for an index and have not been reported. -/
abbrev recorded (p : Processor) (index : String) : List Failure := p.unreported (some index)

/-! ## Monitors -/

/-- No monitor has raised an error at what it has heard since. -/
def IsCalmUntil (p p' : Processor) : Prop :=
  ∀ name n, (p.monitor name).heard ≤ n → n < (p'.monitor name).heard →
    (p.monitor name).raises n = false

lemma IsCalmUntil.refl (p : Processor) : p.IsCalmUntil p :=
  fun _ _ hle hlt => absurd hlt (Nat.not_lt.2 hle)

lemma HasQuietMonitors.isCalmUntil (h : p.HasQuietMonitors) (p' : Processor) : p.IsCalmUntil p' :=
  fun name n _ _ => h name n

/-- A monitor that has been told a failure, and whether it has raised an error at that. -/
lemma monitor_notifyFailed_cases (p : Processor) (r : WorkRequest) (failure : Failure) :
    ((p.notifyFailed r failure).2 = false ∧ p.IsCalmUntil (p.notifyFailed r failure).1 ∧
      ∀ name, (p.notifyFailed r failure).1.monitor name =
        (p.monitor name).hear (heardBy name [(r, failure)])) ∨
    ((p.notifyFailed r failure).2 = true ∧ ¬ p.IsCalmUntil (p.notifyFailed r failure).1 ∧
      ∀ name, (p.monitor name).heard ≤ ((p.notifyFailed r failure).1.monitor name).heard) := by
  cases hr : r.monitor with
  | none =>
    have hsame : p.notifyFailed r failure = (p, false) := by simp [notifyFailed, hr]
    rw [hsame]
    exact Or.inl ⟨rfl, .refl p, fun name => by simp [heardBy, hr]⟩
  | some own =>
    let m := p.monitor own
    have htold : p.notifyFailed r failure =
        ({ p with monitors := Table.set p.monitors own (m.onFailed failure).1 },
          (m.onFailed failure).2) := by
      simp only [notifyFailed, hr]
      rfl
    have hself : (p.notifyFailed r failure).1.monitor own = (m.onFailed failure).1 := by
      simp [htold, monitor, Table.get?_set_self]
    have hother (name : String) (hne : own ≠ name) :
        (p.notifyFailed r failure).1.monitor name = p.monitor name := by
      simp [htold, monitor, Table.get?_set_of_ne _ _ hne]
    cases hraises : m.raises m.heard with
    | true =>
      have honFailed : m.onFailed failure = ({ m with heard := m.heard + 1 }, true) := by
        simp [Monitor.onFailed, hraises]
      refine Or.inr ⟨by rw [htold, honFailed], fun hcalm => ?_, fun name => ?_⟩
      · -- the failure is the one that the monitor has heard of since, and it raised an error at it
        have hheard := hcalm own m.heard le_rfl (by simp [hself, honFailed])
        exact absurd hraises (by rw [hheard]; simp)
      · by_cases hne : own = name
        · subst hne
          rw [hself, honFailed]
          exact Nat.le_succ _
        · rw [hother name hne]
    | false =>
      have honFailed := Monitor.onFailed_of_quiet hraises failure
      refine Or.inl ⟨by rw [htold, honFailed], fun name n hle hlt => ?_, fun name => ?_⟩
      · by_cases hne : own = name
        · subst hne
          rw [hself, honFailed] at hlt
          simp only [Monitor.hear, List.length_singleton] at hlt
          obtain rfl : n = (p.monitor own).heard := by
            have hlt' : n < (p.monitor own).heard + 1 := hlt
            omega
          exact hraises
        · rw [hother name hne] at hlt
          omega
      · by_cases hne : own = name
        · subst hne
          rw [hself, honFailed]
          simp [heardBy, hr, m]
        · rw [hother name hne]
          simp [heardBy, hr, hne]

/-! ## Failing for good -/

/-- Tickets have failed, each with its failure, and nothing else has happened but callbacks. -/
structure Fails (p : Processor) (failed : List FailedTicket) (p' : Processor) : Prop where
  progresses : p.Progresses p'
  recorded_eq : ∀ index, p'.recorded index = p.recorded index ++ failuresOn index failed
  monitor_eq : ∀ name, p'.monitor name = (p.monitor name).hear (heardBy name (toldTo failed))
  calm : p.IsCalmUntil p'
  outcome_eq : ∀ x ∈ failed, p'.outcome x.1.serial = .failed x.2
  outcome_of_ne : ∀ n, (∀ x ∈ failed, x.1.serial ≠ n) → p'.outcome n = p.outcome n
  distinct : Table.IsDistinct p.failures → Table.IsDistinct p'.failures

lemma Fails.refl (p : Processor) : p.Fails [] p :=
  ⟨.refl p, by simp, by simp [toldTo, heardBy], .refl p, by simp, fun _ _ => rfl, fun h => h⟩

lemma Fails.trans {others : List FailedTicket} (h : p.Fails failed p') (h' : p'.Fails others p'')
    (hnot : ∀ x ∈ others, ¬ p'.IsDone x.1.serial) : p.Fails (failed ++ others) p'' where
  progresses := h.progresses.trans h'.progresses
  recorded_eq index := by rw [h'.recorded_eq, h.recorded_eq, failuresOn_append, List.append_assoc]
  monitor_eq name := by
    rw [h'.monitor_eq, h.monitor_eq, Monitor.hear_hear, toldTo_append, heardBy_append]
  calm name n hle hlt := by
    -- what the monitor heard is what it heard first and what it heard later
    by_cases hfirst : n < (p'.monitor name).heard
    · exact h.calm name n hle hfirst
    · have hlater := h'.calm name n (Nat.not_lt.1 hfirst) hlt
      rwa [h.monitor_eq, Monitor.raises_hear] at hlater
  outcome_eq x hx := by
    rcases List.mem_append.1 hx with hx | hx
    · have hne (y : FailedTicket) (hy : y ∈ others) : y.1.serial ≠ x.1.serial := by
        intro heq
        refine hnot y hy ?_
        rw [heq, IsDone, h.outcome_eq x hx]
        rfl
      rw [h'.outcome_of_ne _ hne, h.outcome_eq x hx]
    · exact h'.outcome_eq x hx
  outcome_of_ne n hn := by
    obtain ⟨hfailed, hothers⟩ := List.forall_mem_append.1 hn
    rw [h'.outcome_of_ne n hothers, h.outcome_of_ne n hfailed]
  distinct hdistinct := h'.distinct (h.distinct hdistinct)

lemma isDone_iff_of_outcome_eq (hprogress : p.Progresses p')
    (houtcome : ∀ x ∈ failed, p'.outcome x.1.serial = .failed x.2)
    (hothers : ∀ n, (∀ x ∈ failed, x.1.serial ≠ n) → p'.outcome n = p.outcome n) (n : Nat) :
    p'.IsDone n ↔ p.IsDone n ∨ ∃ x ∈ failed, x.1.serial = n := by
  constructor
  · intro hdone
    by_contra hnot
    push Not at hnot
    rw [IsDone, hothers n hnot.2] at hdone
    exact hnot.1 hdone
  · rintro (hdone | ⟨x, hx, rfl⟩)
    · exact hprogress.isDone n hdone
    · rw [IsDone, houtcome x hx]
      rfl

/-- A ticket is done afterwards if it was before, or has failed. -/
lemma Fails.isDone_iff (h : p.Fails failed p') (n : Nat) :
    p'.IsDone n ↔ p.IsDone n ∨ ∃ x ∈ failed, x.1.serial = n :=
  isDone_iff_of_outcome_eq h.progresses h.outcome_eq h.outcome_of_ne n

lemma Fails.heard_le (h : p.Fails failed p') (name : String) :
    (p.monitor name).heard ≤ (p'.monitor name).heard := by
  rw [h.monitor_eq]
  exact Nat.le_add_right _ _

/-! ## A ticket that is left -/

/-- Tickets have failed, and the monitor of one more has raised an error when it was told of its
failure.  The failure is recorded by then, but the ticket is not done. -/
structure Halts (p : Processor) (failed : List FailedTicket) (t : Ticket) (failure : Failure)
    (p' : Processor) : Prop where
  progresses : p.Progresses p'
  recorded_eq : ∀ index, p'.recorded index =
    p.recorded index ++ failuresOn index failed ++ failuresOn index [(t, failure)]
  not_calm : ¬ p.IsCalmUntil p'
  heard_le : ∀ name, (p.monitor name).heard ≤ (p'.monitor name).heard
  outcome_eq : ∀ x ∈ failed, p'.outcome x.1.serial = .failed x.2
  outcome_of_ne : ∀ n, (∀ x ∈ failed, x.1.serial ≠ n) → p'.outcome n = p.outcome n
  not_isDone : ¬ p'.IsDone t.serial

/-- Tickets that fail before one is left. -/
lemma Fails.halts {others : List FailedTicket} (h : p.Fails failed p')
    (h' : p'.Halts others t failure p'') (hnot : ∀ x ∈ others, ¬ p'.IsDone x.1.serial) :
    p.Halts (failed ++ others) t failure p'' where
  progresses := h.progresses.trans h'.progresses
  recorded_eq index := by
    rw [h'.recorded_eq, h.recorded_eq, failuresOn_append, List.append_assoc (p.recorded index)]
  not_calm hcalm := by
    refine h'.not_calm fun name n hle hlt => ?_
    rw [h.monitor_eq] at hle ⊢
    exact hcalm name n (Nat.le_trans (Nat.le_add_right _ _) hle) hlt
  heard_le name := (h.heard_le name).trans (h'.heard_le name)
  outcome_eq x hx := by
    rcases List.mem_append.1 hx with hx | hx
    · have hne (y : FailedTicket) (hy : y ∈ others) : y.1.serial ≠ x.1.serial := by
        intro heq
        refine hnot y hy ?_
        rw [heq, IsDone, h.outcome_eq x hx]
        rfl
      rw [h'.outcome_of_ne _ hne, h.outcome_eq x hx]
    · exact h'.outcome_eq x hx
  outcome_of_ne n hn := by
    obtain ⟨hfailed, hothers⟩ := List.forall_mem_append.1 hn
    rw [h'.outcome_of_ne n hothers, h.outcome_of_ne n hfailed]
  not_isDone := h'.not_isDone

/-- What a monitor hears later does not take back the error that it has raised. -/
lemma Halts.not_calm_of_le (h : p.Halts failed t failure p')
    (hle : ∀ name, (p'.monitor name).heard ≤ (p''.monitor name).heard) : ¬ p.IsCalmUntil p'' :=
  fun hcalm => h.not_calm fun name n hfrom hto => hcalm name n hfrom (hto.trans_le (hle name))

/-- A ticket is done afterwards if it was before, or has failed. -/
lemma Halts.isDone_iff (h : p.Halts failed t failure p') (n : Nat) :
    p'.IsDone n ↔ p.IsDone n ∨ ∃ x ∈ failed, x.1.serial = n :=
  isDone_iff_of_outcome_eq h.progresses h.outcome_eq h.outcome_of_ne n

/-! ## One ticket -/

lemma recorded_record (p : Processor) (t : Ticket) (failure : Failure) (index : String) :
    (p.record t.request.index failure).recorded index =
      p.recorded index ++ failuresOn index [(t, failure)] := by
  by_cases hindex : t.request.index = index
  · subst hindex
    simp [record, unreported, Table.get?_set_self, failuresOn]
  · simp [record, unreported, Table.get?_set_of_ne _ _ hindex, failuresOn, hindex]

/-- Telling a monitor changes nothing but monitors. -/
lemma notifyFailed_eq (p : Processor) (r : WorkRequest) (failure : Failure) :
    (p.notifyFailed r failure).1 =
      { p with monitors := (p.notifyFailed r failure).1.monitors } := by
  have htell := tell_eq p [(r, failure)]
  rwa [tell, tell] at htell

/-- A ticket that is not done fails for good, or is left. -/
lemma fail_cases (hlt : t.serial < p.outcomes.length) (hnot : ¬ p.IsDone t.serial)
    (failure : Failure) :
    ((p.fail t failure).2 = false ∧ p.Fails [(t, failure)] (p.fail t failure).1) ∨
    ((p.fail t failure).2 = true ∧ p.Halts [] t failure (p.fail t failure).1) := by
  let q := p.record t.request.index failure
  let told := (q.notifyFailed t.request failure).1
  have hfail : p.fail t failure =
      if (q.notifyFailed t.request failure).2 then (told, true)
      else (told.resolve t (.failed failure), false) := by
    have hnot' : ¬ (p.outcome t.serial).isDone = true := hnot
    rw [fail, if_neg hnot']
    rcases hnotify : q.notifyFailed t.request failure with ⟨after, _ | _⟩ <;>
      simp [q, told, hnotify]
  have htold : p.Progresses told := progresses_told p t.request t.request.index failure
  have hsame : told = { q with monitors := told.monitors } := notifyFailed_eq q _ _
  have hrecorded (index : String) : told.recorded index =
      p.recorded index ++ failuresOn index [(t, failure)] := by
    rw [← recorded_record, hsame]
    rfl
  have houtcome (n : Nat) : told.outcome n = p.outcome n := by
    rw [hsame]
    rfl
  rcases monitor_notifyFailed_cases q t.request failure with ⟨hraised, hcalm, hmonitor⟩ |
    ⟨hraised, hcalm, hheard⟩
  · rw [hfail, hraised, if_neg (by simp)]
    have hlt' : t.serial < told.outcomes.length := by
      rw [htold.length_eq]
      exact hlt
    refine Or.inl ⟨rfl, htold.trans (progresses_resolve hlt' rfl).1, hrecorded, hmonitor, hcalm,
      ?_, fun n hn => ?_, fun hdistinct => ?_⟩
    · refine List.forall_mem_singleton.2 ?_
      rw [outcome_resolve hlt', if_pos rfl]
    · have hne : n ≠ t.serial := (List.forall_mem_singleton.1 hn).symm
      rw [outcome_resolve hlt', if_neg hne, houtcome]
    · have hfailures : told.failures = q.failures := by rw [hsame]
      change Table.IsDistinct told.failures
      rw [hfailures]
      exact Table.isDistinct_set hdistinct _ _
  · rw [hfail, hraised, if_pos rfl]
    refine Or.inr ⟨rfl, htold, fun index => ?_, hcalm, hheard, by simp, fun n _ => houtcome n, ?_⟩
    · rw [hrecorded, failuresOn_nil, List.append_nil]
    · rwa [IsDone, houtcome]

/-! ## Several tickets -/

/-- Fails tickets in order, up to the first one whose monitor raises an error. -/
def failEach (p : Processor) : List FailedTicket → Processor × Bool
  | [] => (p, false)
  | x :: rest =>
    match p.fail x.1 x.2 with
    | (p, true) => (p, true)
    | (p, false) => p.failEach rest

/-- The tickets among these that are not done. -/
def undone (p : Processor) (failed : List FailedTicket) : List FailedTicket :=
  failed.filter fun x => !(p.outcome x.1.serial).isDone

lemma mem_undone {x : FailedTicket} :
    x ∈ p.undone failed ↔ x ∈ failed ∧ ¬ p.IsDone x.1.serial := by
  simp [undone, IsDone]

lemma undone_eq_self (h : ∀ x ∈ failed, ¬ p.IsDone x.1.serial) : p.undone failed = failed :=
  List.filter_eq_self.2 fun x hx => by simpa [IsDone] using h x hx

/-- All tickets that are not done fail for good, or one of them is left when those before it have
failed. -/
lemma failEach_cases (hknows : p.Knows (failed.map Prod.fst))
    (hdistinct : (failed.map fun x => x.1.serial).Nodup) :
    ((p.failEach failed).2 = false ∧ p.Fails (p.undone failed) (p.failEach failed).1) ∨
    ((p.failEach failed).2 = true ∧ ∃ before t failure later,
      p.undone failed = before ++ (t, failure) :: later ∧
      p.Halts before t failure (p.failEach failed).1) := by
  induction failed generalizing p with
  | nil => exact Or.inl ⟨rfl, .refl p⟩
  | cons x rest ih =>
    obtain ⟨t, failure⟩ := x
    rw [List.map_cons] at hknows hdistinct
    obtain ⟨hlt, hrest⟩ := List.forall_mem_cons.1 hknows
    obtain ⟨hfresh, hdistinct⟩ := List.nodup_cons.1 hdistinct
    rw [failEach]
    by_cases hdone : (p.outcome t.serial).isDone = true
    · -- nothing happens to a ticket that is done
      have hskip : p.fail t failure = (p, false) := by rw [fail, if_pos hdone]
      have hundone : p.undone ((t, failure) :: rest) = p.undone rest :=
        List.filter_cons_of_neg (by simp [hdone])
      rw [hskip, hundone]
      exact ih hrest hdistinct
    · rcases hfail : p.fail t failure with ⟨after, raised⟩
      have hcases := fail_cases hlt hdone failure
      rw [hfail] at hcases
      have hself : p.undone ((t, failure) :: rest) = (t, failure) :: p.undone rest :=
        List.filter_cons_of_pos (by simp [hdone])
      rw [hself]
      rcases hcases with ⟨hraised, hfails⟩ | ⟨hraised, hhalts⟩
      · obtain rfl : raised = false := hraised
        have hrestUndone : after.undone rest = p.undone rest := by
          refine List.filter_congr fun x hx => ?_
          rw [hfails.outcome_of_ne x.1.serial]
          refine List.forall_mem_singleton.2 fun heq => hfresh ?_
          exact List.mem_map.2 ⟨x, hx, heq.symm⟩
        have hnot : ∀ x ∈ after.undone rest, ¬ after.IsDone x.1.serial :=
          fun x hx => (mem_undone.1 hx).2
        rcases ih (hfails.progresses.knows hrest) hdistinct with ⟨hraised, hall⟩ |
          ⟨hraised, before, other, otherFailure, later, hsplit, hhalts⟩
        · exact Or.inl ⟨hraised, hrestUndone ▸ hfails.trans hall hnot⟩
        · refine Or.inr ⟨hraised, (t, failure) :: before, other, otherFailure, later, ?_,
            hfails.halts hhalts fun x hx => hnot x ?_⟩
          · rw [← hrestUndone, hsplit, List.cons_append]
          · rw [hsplit]
            exact List.mem_append_left _ hx
      · obtain rfl : raised = true := hraised
        exact Or.inr ⟨rfl, [], t, failure, _, rfl, hhalts⟩

lemma failAll_eq_failEach (failure : Failure) (batch : List Ticket) :
    p.failAll failure batch = p.failEach (batch.map (·, failure)) := by
  induction batch generalizing p with
  | nil => rfl
  | cons t rest ih =>
    rw [failAll, List.map_cons, failEach]
    rcases p.fail t failure with ⟨after, _ | _⟩
    · exact ih
    · rfl

/-! ## The verdict on a group -/

/-- The tickets of a group that fail by a verdict, each with its failure. -/
def failedBy (group : List Ticket) (failures : List (Option Failure)) : List FailedTicket :=
  (group.zip failures).filterMap fun x => x.2.map (x.1, ·)

/-- The tickets of a group that succeed by a verdict. -/
def succeededBy (group : List Ticket) (failures : List (Option Failure)) : List Ticket :=
  (group.zip failures).filterMap fun x => if x.2.isNone then some x.1 else none

lemma applyVerdict_eq_failEach (group : List Ticket) (failures : List (Option Failure)) :
    p.applyVerdict group failures =
      ((p.failEach (failedBy group failures)).1,
        if (p.failEach (failedBy group failures)).2 then none
        else some (succeededBy group failures)) := by
  induction group generalizing p failures with
  | nil => rfl
  | cons t rest ih =>
    cases failures with
    | nil => rfl
    | cons verdict others =>
      cases verdict with
      | none =>
        have hfailed : failedBy (t :: rest) (none :: others) = failedBy rest others := rfl
        have hsucceeded : succeededBy (t :: rest) (none :: others) =
            t :: succeededBy rest others := rfl
        rw [applyVerdict, ih, hfailed, hsucceeded]
        cases (p.failEach (failedBy rest others)).2 <;> rfl
      | some failure =>
        have hfailed : failedBy (t :: rest) (some failure :: others) =
            (t, failure) :: failedBy rest others := rfl
        have hsucceeded : succeededBy (t :: rest) (some failure :: others) =
            succeededBy rest others := rfl
        rw [applyVerdict, hfailed, hsucceeded, failEach]
        rcases p.fail t failure with ⟨after, _ | _⟩
        · exact ih others
        · rfl

lemma sublist_failedBy (group : List Ticket) (failures : List (Option Failure)) :
    ((failedBy group failures).map Prod.fst).Sublist group := by
  induction group generalizing failures with
  | nil => exact List.nil_sublist _
  | cons t rest ih =>
    cases failures with
    | nil => exact List.nil_sublist _
    | cons verdict others =>
      cases verdict with
      | none => exact (ih others).cons t
      | some failure => exact (ih others).cons_cons t

lemma sublist_succeededBy (group : List Ticket) (failures : List (Option Failure)) :
    (succeededBy group failures).Sublist group := by
  induction group generalizing failures with
  | nil => exact List.nil_sublist _
  | cons t rest ih =>
    cases failures with
    | nil => exact List.nil_sublist _
    | cons verdict others =>
      cases verdict with
      | none => exact (ih others).cons_cons t
      | some failure => exact (ih others).cons t

/-- Each ticket of a group fails or succeeds. -/
lemma mem_failedBy_or_mem_succeededBy {group : List Ticket} {failures : List (Option Failure)}
    (hlength : failures.length = group.length) {t : Ticket} (ht : t ∈ group) :
    (∃ failure, (t, failure) ∈ failedBy group failures) ∨ t ∈ succeededBy group failures := by
  induction group generalizing failures with
  | nil => exact absurd ht List.not_mem_nil
  | cons first rest ih =>
    obtain ⟨verdict, others, rfl⟩ := List.exists_cons_of_length_eq_add_one hlength
    have hothers : others.length = rest.length := by simpa using hlength
    rcases List.mem_cons.1 ht with rfl | ht
    · cases verdict with
      | none => exact Or.inr List.mem_cons_self
      | some failure => exact Or.inl ⟨failure, List.mem_cons_self⟩
    · cases verdict with
      | none => exact (ih hothers ht).imp_right (List.mem_cons_of_mem first)
      | some failure =>
        exact (ih hothers ht).imp_left fun ⟨f, hf⟩ => ⟨f, List.mem_cons_of_mem _ hf⟩

/-- No ticket both fails and succeeds. -/
lemma disjoint_failedBy_succeededBy {group : List Ticket} {failures : List (Option Failure)}
    (hdistinct : (group.map Ticket.serial).Nodup) :
    ∀ x ∈ failedBy group failures, ∀ t ∈ succeededBy group failures, x.1.serial ≠ t.serial := by
  induction group generalizing failures with
  | nil => exact fun x hx => absurd hx List.not_mem_nil
  | cons first rest ih =>
    cases failures with
    | nil => exact fun x hx => absurd hx List.not_mem_nil
    | cons verdict others =>
      rw [List.map_cons, List.nodup_cons] at hdistinct
      obtain ⟨hfirst, hrest⟩ := hdistinct
      cases verdict with
      | none =>
        intro x hx t ht
        rcases List.mem_cons.1 ht with rfl | ht
        · rintro heq
          refine hfirst (heq ▸ List.mem_map_of_mem ((sublist_failedBy rest others).subset ?_))
          exact List.mem_map_of_mem hx
        · exact ih hrest x hx t ht
      | some failure =>
        intro x hx t ht
        rcases List.mem_cons.1 hx with rfl | hx
        · rintro heq
          exact hfirst (heq ▸ List.mem_map_of_mem ((sublist_succeededBy rest others).subset ht))
        · exact ih hrest x hx t ht

end Processor

end SearchIndex
