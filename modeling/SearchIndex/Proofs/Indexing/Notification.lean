/-
# What monitors hear

A monitor that never raises an error of its own hears every failure that it is told, in the order in
which it is told.  So telling failures to the monitors of a processor changes each monitor by the
failures of its own requests (`monitor_tell`), and no other monitor at all.
-/
import Mathlib.Tactic
import SearchIndex.Indexing.Execution

namespace SearchIndex

namespace Monitor

/-- A monitor after it has heard of failures and counted each. -/
def hear (m : Monitor) (failures : List Failure) : Monitor :=
  { m with heard := m.heard + failures.length, failures := m.failures ++ failures }

@[simp] lemma hear_nil (m : Monitor) : m.hear [] = m := by simp [hear]

@[simp] lemma hear_hear (m : Monitor) (fs gs : List Failure) :
    (m.hear fs).hear gs = m.hear (fs ++ gs) := by
  simp [hear, Nat.add_assoc]

@[simp] lemma raises_hear (m : Monitor) (fs : List Failure) : (m.hear fs).raises = m.raises := rfl

lemma onFailed_of_quiet {m : Monitor} (h : m.raises m.heard = false) (failure : Failure) :
    m.onFailed failure = (m.hear [failure], false) := by
  simp [onFailed, hear, h]

end Monitor

namespace Processor

/-- The monitor of a name; one that is not there yet has heard nothing. -/
def monitor (p : Processor) (name : String) : Monitor :=
  (Table.get? p.monitors name).getD .counting

/-- No monitor ever raises an error of its own. -/
def HasQuietMonitors (p : Processor) : Prop := ∀ name n, (p.monitor name).raises n = false

/-- The failures that the monitor of a name hears of when failures are told. -/
def heardBy (name : String) (told : List (WorkRequest × Failure)) : List Failure :=
  (told.filter fun x => x.1.monitor = some name).map (·.2)

/-- A processor after failures have been told to the monitors of their requests, in order. -/
def tell (p : Processor) : List (WorkRequest × Failure) → Processor
  | [] => p
  | (r, failure) :: rest => (p.notifyFailed r failure).1.tell rest

variable {p : Processor}

lemma notifyFailed_snd (h : p.HasQuietMonitors) (r : WorkRequest) (failure : Failure) :
    (p.notifyFailed r failure).2 = false := by
  unfold notifyFailed
  split
  · rfl
  · rename_i name _
    exact congrArg Prod.snd (Monitor.onFailed_of_quiet (h name _) failure)

/-- Telling one failure changes the monitor of its request only. -/
lemma monitor_notifyFailed (h : p.HasQuietMonitors) (r : WorkRequest) (failure : Failure)
    (name : String) :
    (p.notifyFailed r failure).1.monitor name =
      (p.monitor name).hear (heardBy name [(r, failure)]) := by
  unfold notifyFailed
  split
  · rename_i hr
    simp [heardBy, hr]
  · rename_i other hr
    have hquiet := Monitor.onFailed_of_quiet (h other _) failure
    rw [monitor] at hquiet
    by_cases hname : other = name
    · subst hname
      simp [hquiet, monitor, Table.get?_set_self, heardBy, hr]
    · simp [monitor, Table.get?_set_of_ne _ _ hname, heardBy, hr, hname]

lemma HasQuietMonitors.notifyFailed (h : p.HasQuietMonitors) (r : WorkRequest)
    (failure : Failure) : (p.notifyFailed r failure).1.HasQuietMonitors := by
  intro name n
  rw [monitor_notifyFailed h, Monitor.raises_hear]
  exact h name n

/-- Telling failures changes nothing but monitors. -/
lemma tell_eq (p : Processor) (told : List (WorkRequest × Failure)) :
    p.tell told = { p with monitors := (p.tell told).monitors } := by
  induction told generalizing p with
  | nil => rfl
  | cons x rest ih =>
    obtain ⟨r, failure⟩ := x
    rw [tell, ih]
    unfold Processor.notifyFailed
    split <;> rfl

end Processor

/-- What is told of failed requests. -/
def toldOf (failures : List (WorkRequest × Raised)) : List (WorkRequest × Failure) :=
  failures.map fun f => (f.1, f.2.failure)

/-- With quiet monitors every failure is told. -/
lemma Execution.notifyAll_eq {p : Processor} (h : p.HasQuietMonitors)
    (failures : List (WorkRequest × Raised)) :
    notifyAll p failures = (p.tell (toldOf failures), false) := by
  induction failures generalizing p with
  | nil => rfl
  | cons f rest ih =>
    obtain ⟨r, error⟩ := f
    have hsnd := Processor.notifyFailed_snd h r error.failure
    have hrest := ih (h.notifyFailed r error.failure)
    simp only [toldOf, List.map_cons, Processor.tell] at hrest ⊢
    rw [notifyAll]
    split
    · rename_i heq
      rw [heq] at hsnd
      exact absurd hsnd (by simp)
    · rename_i heq
      rw [heq] at hrest
      rw [hrest, heq]

end SearchIndex
