/-
# Rounding to the nearest double

The double nearest to a quotient depends on the quotient alone, not on how it is written
(`Double.nearest_congr`), and a double is the one nearest to itself (`Double.nearest_self`).  Both
follow from what the exponent is: the least one with which the mantissa is below `2^53`.
-/
import Mathlib.Tactic
import SearchIndex.Number.Shortest

namespace SearchIndex

lemma tenTo_eq (n : Nat) : tenTo n = 10 ^ n := rfl

lemma twoTo_pos (n : Nat) : 0 < twoTo n := Nat.two_pow_pos n

lemma tenTo_pos (n : Nat) : 0 < tenTo n := Nat.pow_pos (by decide)

lemma twoTo_add (m n : Nat) : twoTo (m + n) = twoTo m * twoTo n := pow_add 2 m n

lemma tenTo_add (m n : Nat) : tenTo (m + n) = tenTo m * tenTo n := pow_add 10 m n

lemma twoTo_le {m n : Nat} (h : m ≤ n) : twoTo m ≤ twoTo n := Nat.pow_le_pow_right (by decide) h

namespace Double

variable {n d n' d' : Nat}

/-! ## The exponent -/

/-- With this exponent the quotient has a mantissa below `2^53`. -/
def Suffices (n d exponent : Nat) : Prop := n * twoTo 1074 < d * twoTo exponent * twoTo 53

lemma Suffices.mono {e f : Nat} (h : Suffices n d e) (hef : e ≤ f) : Suffices n d f := by
  have hle : d * twoTo e * twoTo 53 ≤ d * twoTo f * twoTo 53 :=
    Nat.mul_le_mul_right _ (Nat.mul_le_mul_left _ (twoTo_le hef))
  exact lt_of_lt_of_le h hle

/-- The guess of the exponent, with one more, always suffices. -/
lemma suffices_guess (hd : d ≠ 0) : Suffices n d (n.log2 + 1021 - d.log2 + 1) := by
  have hn : n < twoTo (n.log2 + 1) := Nat.lt_log2_self
  have hd : twoTo d.log2 ≤ d := Nat.log2_self_le hd
  calc n * twoTo 1074
      < twoTo (n.log2 + 1) * twoTo 1074 := Nat.mul_lt_mul_of_pos_right hn (twoTo_pos _)
    _ = twoTo (n.log2 + 1 + 1074) := (twoTo_add _ _).symm
    _ ≤ twoTo (d.log2 + (n.log2 + 1021 - d.log2 + 1) + 53) := twoTo_le (by omega)
    _ = twoTo d.log2 * twoTo (n.log2 + 1021 - d.log2 + 1) * twoTo 53 := by
        rw [twoTo_add, twoTo_add]
    _ ≤ d * twoTo (n.log2 + 1021 - d.log2 + 1) * twoTo 53 :=
        Nat.mul_le_mul_right _ (Nat.mul_le_mul_right _ hd)

/-- Nothing below the guess of the exponent suffices. -/
lemma le_of_suffices (hn : n ≠ 0) {e : Nat} (h : Suffices n d e) :
    n.log2 + 1021 - d.log2 ≤ e := by
  by_contra hlt
  have hn : twoTo n.log2 ≤ n := Nat.log2_self_le hn
  have hd : d < twoTo (d.log2 + 1) := Nat.lt_log2_self
  have hover : d * twoTo e * twoTo 53 ≤ n * twoTo 1074 :=
    calc d * twoTo e * twoTo 53
        ≤ twoTo (d.log2 + 1) * twoTo e * twoTo 53 :=
          Nat.mul_le_mul_right _ (Nat.mul_le_mul_right _ hd.le)
      _ = twoTo (d.log2 + 1 + e + 53) := by
          rw [← twoTo_add, ← twoTo_add]
      _ ≤ twoTo (n.log2 + 1074) := twoTo_le (by omega)
      _ = twoTo n.log2 * twoTo 1074 := twoTo_add _ _
      _ ≤ n * twoTo 1074 := Nat.mul_le_mul_right _ hn
  exact absurd h (Nat.not_lt.2 hover)

/-- The exponent is the least one that suffices. -/
lemma unitExponent_le_iff (hn : n ≠ 0) (hd : d ≠ 0) {e : Nat} :
    unitExponent n d ≤ e ↔ Suffices n d e := by
  have hleast : ∀ {f : Nat}, Suffices n d f → n.log2 + 1021 - d.log2 ≤ f := le_of_suffices hn
  by_cases hguess : d * twoTo (n.log2 + 1021 - d.log2) * twoTo 53 ≤ n * twoTo 1074
  · -- the guess does not suffice, so the next one is the least
    have hexponent : unitExponent n d = n.log2 + 1021 - d.log2 + 1 := if_pos hguess
    rw [hexponent]
    constructor
    · exact (suffices_guess hd).mono
    · intro h
      refine lt_of_le_of_ne (hleast h) ?_
      rintro rfl
      exact absurd h (Nat.not_lt.2 hguess)
  · have hexponent : unitExponent n d = n.log2 + 1021 - d.log2 := if_neg hguess
    rw [hexponent]
    exact ⟨(show Suffices n d _ from Nat.not_le.1 hguess).mono, hleast⟩

lemma unitExponent_congr (hn : n ≠ 0) (hd : d ≠ 0) (hn' : n' ≠ 0) (hd' : d' ≠ 0)
    (h : ∀ e, Suffices n d e ↔ Suffices n' d' e) : unitExponent n d = unitExponent n' d' := by
  refine le_antisymm ?_ ?_
  · rw [unitExponent_le_iff hn hd, h, ← unitExponent_le_iff hn' hd']
  · rw [unitExponent_le_iff hn' hd', ← h, ← unitExponent_le_iff hn hd]

/-! ## Quotients -/

lemma roundHalfEven_mul_right {c : Nat} (hc : 0 < c) (n d : Nat) :
    roundHalfEven (n * c) (d * c) = roundHalfEven n d := by
  have hrest : 2 * (n % d * c) = 2 * (n % d) * c := (Nat.mul_assoc _ _ _).symm
  have hlt : d * c < 2 * (n % d) * c ↔ d < 2 * (n % d) := Nat.mul_lt_mul_right hc
  have heq : 2 * (n % d) * c = d * c ↔ 2 * (n % d) = d := Nat.mul_left_inj hc.ne'
  simp only [roundHalfEven, Nat.mul_div_mul_right _ _ hc, Nat.mul_mod_mul_right, hrest, hlt, heq]

/-- A whole number is rounded to itself. -/
lemma roundHalfEven_mul_self (hd : 0 < d) (m : Nat) : roundHalfEven (m * d) d = m := by
  have hne : ¬ d < 2 * 0 := by omega
  have hhalf : ¬ (2 * 0 = d ∧ m % 2 = 1) := by omega
  simp only [roundHalfEven, Nat.mul_div_cancel _ hd, Nat.mul_mod_left, hne, hhalf, or_self,
    if_false]

lemma nearest_mul_right {c : Nat} (hc : 0 < c) (hd : d ≠ 0) (negative : Bool) :
    nearest negative (n * c) (d * c) = nearest negative n d := by
  by_cases hn : n = 0
  · simp [nearest, hn]
  have hexponent : unitExponent (n * c) (d * c) = unitExponent n d := by
    refine unitExponent_congr (Nat.mul_ne_zero hn hc.ne') (Nat.mul_ne_zero hd hc.ne') hn hd
      fun e => ?_
    have hleft : n * c * twoTo 1074 = n * twoTo 1074 * c := by ring
    have hright : d * c * twoTo e * twoTo 53 = d * twoTo e * twoTo 53 * c := by ring
    rw [Suffices, Suffices, hleft, hright, Nat.mul_lt_mul_right hc]
  have hmantissa (e : Nat) : roundHalfEven (n * c * twoTo 1074) (d * c * twoTo e) =
      roundHalfEven (n * twoTo 1074) (d * twoTo e) := by
    rw [Nat.mul_right_comm n c, Nat.mul_right_comm d c, roundHalfEven_mul_right hc]
  simp only [nearest, Nat.mul_ne_zero hn hc.ne', hn, if_false, hexponent, hmantissa]

/-- The double nearest to a quotient depends on the quotient alone. -/
theorem nearest_congr (hd : 0 < d) (hd' : 0 < d') (h : n * d' = n' * d) (negative : Bool) :
    nearest negative n d = nearest negative n' d' :=
  calc nearest negative n d
      = nearest negative (n * d') (d * d') := (nearest_mul_right hd' hd.ne' negative).symm
    _ = nearest negative (n' * d) (d' * d) := by rw [h, Nat.mul_comm d d']
    _ = nearest negative n' d' := nearest_mul_right hd hd'.ne' negative

/-! ## Doubles -/

/-- The exponent of a double is found again from its value. -/
lemma unitExponent_scaled {m e : Nat} (hm : m ≠ 0) (h : IsCanonical m e) :
    unitExponent (scaled m e) (twoTo 1074) = e := by
  have hscaled : scaled m e ≠ 0 := Nat.mul_ne_zero hm (twoTo_pos e).ne'
  have hden : twoTo 1074 ≠ 0 := (twoTo_pos 1074).ne'
  obtain ⟨hbelow, -, habove⟩ := h
  refine le_antisymm ?_ ?_
  · rw [unitExponent_le_iff hscaled hden]
    calc m * twoTo e * twoTo 1074
        = m * (twoTo 1074 * twoTo e) := by ring
      _ < twoTo 53 * (twoTo 1074 * twoTo e) :=
          Nat.mul_lt_mul_of_pos_right hbelow (Nat.mul_pos (twoTo_pos _) (twoTo_pos _))
      _ = twoTo 1074 * twoTo e * twoTo 53 := Nat.mul_comm _ _
  · -- no smaller exponent suffices, as the mantissa has all its bits
    by_contra hlt
    obtain ⟨f, hf⟩ : ∃ f, e = unitExponent (scaled m e) (twoTo 1074) + f + 1 :=
      Nat.exists_eq_add_of_lt (Nat.not_le.1 hlt)
    have hsuffices := (unitExponent_le_iff hscaled hden).1 le_rfl
    have hmantissa : twoTo 52 ≤ m := habove.resolve_left (by omega)
    refine absurd hsuffices (Nat.not_lt.2 ?_)
    generalize unitExponent (scaled m e) (twoTo 1074) = u at hf
    have hsplit : twoTo (u + 53) = twoTo u * twoTo 53 := twoTo_add u 53
    calc twoTo 1074 * twoTo u * twoTo 53
        = twoTo (u + 53) * twoTo 1074 := by rw [hsplit]; ring
      _ ≤ twoTo (e + 52) * twoTo 1074 := Nat.mul_le_mul_right _ (twoTo_le (by omega))
      _ = twoTo 52 * twoTo e * twoTo 1074 := by rw [twoTo_add, Nat.mul_comm (twoTo e)]
      _ ≤ m * twoTo e * twoTo 1074 :=
          Nat.mul_le_mul_right _ (Nat.mul_le_mul_right _ hmantissa)

lemma ofParts_of_isCanonical {m e : Nat} (h : IsCanonical m e) (negative : Bool) :
    ofParts negative m e = finite negative m e h := dif_pos h

/-- A double is the one nearest to its own value. -/
theorem nearest_self {m e : Nat} (h : IsCanonical m e) (negative : Bool) :
    nearest negative (scaled m e) (twoTo 1074) = finite negative m e h := by
  by_cases hm : m = 0
  · subst hm
    obtain rfl : e = 0 := h.2.2.resolve_right (Nat.not_le.2 (twoTo_pos 52))
    rw [scaled, Nat.zero_mul, nearest, if_pos rfl, signedZero]
  have hscaled : scaled m e ≠ 0 := Nat.mul_ne_zero hm (twoTo_pos e).ne'
  have hmantissa : roundHalfEven (scaled m e * twoTo 1074) (twoTo 1074 * twoTo e) = m := by
    rw [scaled, Nat.mul_assoc, Nat.mul_comm (twoTo e)]
    exact roundHalfEven_mul_self (Nat.mul_pos (twoTo_pos _) (twoTo_pos _)) m
  have hne : m ≠ twoTo 53 := h.1.ne
  simp only [nearest, hscaled, if_false, unitExponent_scaled hm h, hmantissa, hne,
    ofParts_of_isCanonical h]

end Double

end SearchIndex
