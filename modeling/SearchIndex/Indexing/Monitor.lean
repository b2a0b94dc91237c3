/-
# Monitors

A monitor hears of every request that is produced for it and of every one that fails.  It counts
what it hears.  A monitor may be touchy: then it raises an error of its own on some of the failures
that it hears of, and does not count those.
-/
import SearchIndex.Failure

namespace SearchIndex

/-- A monitor with what it has heard. -/
structure Monitor where
  /-- How many requests were produced. -/
  produced : Nat
  /-- How many failures it has heard of, counted or not. -/
  heard : Nat
  /-- The failures that it counted, in order. -/
  failures : List Failure
  /-- Whether it raises an error on the failure of this number. -/
  raises : Nat → Bool

namespace Monitor

/-- A monitor that counts everything. -/
def counting : Monitor := ⟨0, 0, [], fun _ => false⟩

/-- A monitor that raises an error on the first failure and counts the others. -/
def flaky : Monitor := { counting with raises := fun n => n = 0 }

instance : Inhabited Monitor := ⟨counting⟩

/-- How many failures it counted. -/
def failed (m : Monitor) : Nat := m.failures.length

/-- The monitor hears of a produced request. -/
def onProduced (m : Monitor) : Monitor := { m with produced := m.produced + 1 }

/-- The monitor hears of a failed request; the second part tells whether it raises an error. -/
def onFailed (m : Monitor) (failure : Failure) : Monitor × Bool :=
  if m.raises m.heard then ({ m with heard := m.heard + 1 }, true)
  else ({ m with heard := m.heard + 1, failures := m.failures ++ [failure] }, false)

end Monitor

end SearchIndex
