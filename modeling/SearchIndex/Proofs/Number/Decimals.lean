/-
# Doubles as decimals

A decimal is read as the double nearest to it, whatever zeros it is written with
(`Double.ofDecimal_shift`).  The shortest decimal of a double is read as that double again
(`Double.ofDecimal_shortest`), be it one of the short candidates or, where none of them will do, all
digits of the number.
-/
import SearchIndex.Proofs.Number.Rounding

namespace SearchIndex.Double

variable {negative : Bool} {digits : Nat} {exponent : Int}

/-! ## Digits -/

lemma digitCount_le_iff {n k : Nat} (hk : 0 < k) : digitCount n ≤ k ↔ n < tenTo k :=
  Nat.length_toDigits_le_iff (by decide) hk

/-- A zero at the end is one more digit. -/
lemma digitCount_mul_tenTo {n : Nat} (hn : 0 < n) (k : Nat) :
    digitCount (n * tenTo k) = digitCount n + k := by
  induction k with
  | zero => rw [tenTo_eq, pow_zero, Nat.mul_one, Nat.add_zero]
  | succ k ih =>
    have hmul : n * tenTo (k + 1) = 10 * (n * tenTo k) + 0 := by
      rw [tenTo_add, tenTo_eq 1]
      ring
    have happend := Nat.toDigits_append_toDigits (b := 10) (d := 0) (by decide)
      (Nat.mul_pos hn (tenTo_pos k)) (by decide)
    rw [hmul, digitCount, ← happend, List.length_append]
    change digitCount (n * tenTo k) + 1 = _
    rw [ih, Nat.add_assoc]

/-! ## Reading -/

/-- Within the range in which the digits count, a decimal is rounded as a quotient. -/
lemma ofDecimal_eq_nearest (hdigits : digits ≠ 0) (hlow : -400 ≤ exponent + digitCount digits)
    (hhigh : exponent + digitCount digits ≤ 400) :
    ofDecimal negative digits exponent =
      nearest negative (digits * tenTo exponent.toNat) (tenTo (-exponent).toNat) := by
  have hzero : ¬ (digits = 0 ∨ exponent + digitCount digits < -400) := by omega
  have hinfinite : ¬ 400 < exponent + digitCount digits := by omega
  simp only [ofDecimal, hzero, hinfinite, if_false]
  split
  · have hnone : (-exponent).toNat = 0 := by omega
    rw [hnone]
    rfl
  · have hnone : exponent.toNat = 0 := by omega
    rw [hnone, tenTo_eq 0, pow_zero, Nat.mul_one]

lemma ofDecimal_zero (negative : Bool) (exponent : Int) :
    ofDecimal negative 0 exponent = signedZero negative := by simp [ofDecimal]

/-- Zeros at the end of the digits change nothing if the exponent makes up for them. -/
theorem ofDecimal_shift (hdigits : digits ≠ 0) (k : Nat) :
    ofDecimal negative (digits * tenTo k) (exponent - k) = ofDecimal negative digits exponent := by
  have hpos : 0 < digits := Nat.pos_of_ne_zero hdigits
  have hshifted : digits * tenTo k ≠ 0 := Nat.mul_ne_zero hdigits (tenTo_pos k).ne'
  have hcount : exponent - k + digitCount (digits * tenTo k) =
      exponent + digitCount digits := by
    rw [digitCount_mul_tenTo hpos]
    omega
  by_cases hlow : exponent + digitCount digits < -400
  · simp only [ofDecimal, hcount, hlow, or_true, if_true]
  by_cases hhigh : 400 < exponent + digitCount digits
  · simp only [ofDecimal, hcount, hdigits, hshifted, hlow, hhigh, or_self, if_true, if_false]
  rw [ofDecimal_eq_nearest hdigits (by omega) (by omega),
    ofDecimal_eq_nearest hshifted (by omega) (by omega)]
  refine nearest_congr (tenTo_pos _) (tenTo_pos _) ?_ negative
  calc digits * tenTo k * tenTo (exponent - k).toNat * tenTo (-exponent).toNat
      = digits * tenTo (k + (exponent - k).toNat + (-exponent).toNat) := by
        rw [tenTo_add, tenTo_add]
        ring
    _ = digits * tenTo (exponent.toNat + (-(exponent - k)).toNat) := by
        rw [show k + (exponent - k).toNat + (-exponent).toNat =
          exponent.toNat + (-(exponent - k)).toNat by omega]
    _ = digits * tenTo exponent.toNat * tenTo (-(exponent - k)).toNat := by
        rw [tenTo_add, Nat.mul_assoc]

lemma ofDecimal_dropZeros (fuel : Nat) (d : Decimal) :
    ofDecimal negative (dropZeros fuel d).digits (dropZeros fuel d).exponent =
      ofDecimal negative d.digits d.exponent := by
  induction fuel generalizing d with
  | zero => rfl
  | succ fuel ih =>
    rw [dropZeros]
    split
    · rename_i hzero
      obtain ⟨hdigits, hmod⟩ := hzero
      have hquotient : d.digits / 10 ≠ 0 := by omega
      have hdigit : d.digits = d.digits / 10 * tenTo 1 := by
        rw [tenTo_eq, pow_one]
        omega
      have hshift : ofDecimal negative (d.digits / 10 * tenTo 1) (d.exponent + 1 - (1 : Nat)) =
          ofDecimal negative (d.digits / 10) (d.exponent + 1) := ofDecimal_shift hquotient 1
      rw [← hdigit, Nat.cast_one, Int.add_sub_cancel] at hshift
      rw [ih, hshift]
    · rfl

/-! ## Signs -/

/-- A double with a sign. -/
def withSign (negative : Bool) : Double → Double
  | nan => nan
  | infinite _ => infinite negative
  | finite _ mantissa exponent canonical => finite negative mantissa exponent canonical

lemma ofParts_eq_withSign (mantissa exponent : Nat) :
    ofParts negative mantissa exponent = (ofParts false mantissa exponent).withSign negative := by
  rw [ofParts, ofParts]
  split <;> rfl

lemma nearest_eq_withSign (n d : Nat) :
    nearest negative n d = (nearest false n d).withSign negative := by
  rw [nearest, nearest]
  split
  · rfl
  · dsimp only
    split
    · exact ofParts_eq_withSign _ _
    · exact ofParts_eq_withSign _ _

/-- The sign of what is read is the one that is given. -/
lemma ofDecimal_eq_withSign :
    ofDecimal negative digits exponent = (ofDecimal false digits exponent).withSign negative := by
  simp only [ofDecimal]
  split
  · rfl
  · split
    · rfl
    · split
      · exact nearest_eq_withSign _ _
      · exact nearest_eq_withSign _ _

/-! ## Writing -/

variable {m e : Nat}

/-- Five to a power. -/
def fiveTo (n : Nat) : Nat := Nat.pow 5 n

lemma fiveTo_eq (n : Nat) : fiveTo n = Nat.pow 5 n := rfl

lemma fiveTo_ne_zero (n : Nat) : fiveTo n ≠ 0 := (Nat.pow_pos (by decide)).ne'

lemma twoTo_mul_fiveTo (n : Nat) : twoTo n * fiveTo n = tenTo n := (Nat.mul_pow 2 5 n).symm

/-- All digits of a number stand where they count. -/
lemma position_exact (hm : m ≠ 0) (h : IsCanonical m e) :
    -400 ≤ (-1074 : Int) + digitCount (scaled m e * fiveTo 1074) ∧
      (-1074 : Int) + digitCount (scaled m e * fiveTo 1074) ≤ 400 := by
  have hlow : ¬ scaled m e * fiveTo 1074 < tenTo 674 := by
    have hscaled : 1 ≤ scaled m e := Nat.mul_pos (Nat.pos_of_ne_zero hm) (twoTo_pos e)
    have hpower : tenTo 674 ≤ fiveTo 1074 := by decide +kernel
    exact Nat.not_lt.2 (hpower.trans (Nat.le_mul_of_pos_left _ hscaled))
  have hhigh : scaled m e * fiveTo 1074 < tenTo 1474 := by
    have hscaled : scaled m e ≤ twoTo 53 * twoTo 2045 :=
      Nat.mul_le_mul h.1.le (twoTo_le h.2.1)
    have hpower : twoTo 53 * twoTo 2045 * fiveTo 1074 < tenTo 1474 := by decide +kernel
    exact lt_of_le_of_lt (Nat.mul_le_mul_right _ hscaled) hpower
  rw [← digitCount_le_iff (by decide)] at hlow hhigh
  omega

/-- All digits of a double are read as that double. -/
lemma ofDecimal_exact (hm : m ≠ 0) (h : IsCanonical m e) :
    ofDecimal negative (scaled m e * fiveTo 1074) (-1074) = finite negative m e h := by
  have hscaled : scaled m e ≠ 0 := Nat.mul_ne_zero hm (twoTo_pos e).ne'
  have hdigits : scaled m e * fiveTo 1074 ≠ 0 := Nat.mul_ne_zero hscaled (fiveTo_ne_zero 1074)
  obtain ⟨hlow, hhigh⟩ := position_exact hm h
  rw [ofDecimal_eq_nearest hdigits hlow hhigh, ← nearest_self h negative]
  refine nearest_congr (tenTo_pos _) (twoTo_pos _) ?_ negative
  have hpositive : (-1074 : Int).toNat = 0 := rfl
  have hnegative : (- -1074 : Int).toNat = 1074 := rfl
  rw [hpositive, hnegative, tenTo_eq 0, pow_zero, ← twoTo_mul_fiveTo]
  ring

/-- **The shortest decimal of a double is read as that double.** -/
theorem ofDecimal_shortest (h : IsCanonical m e) (negative : Bool) :
    ofDecimal negative (shortest m e).digits (shortest m e).exponent = finite negative m e h := by
  by_cases hm : m = 0
  · subst hm
    obtain rfl : e = 0 := h.2.2.resolve_right (Nat.not_le.2 (twoTo_pos 52))
    rfl
  rw [ofDecimal_eq_withSign]
  suffices hread : ofDecimal false (shortest m e).digits (shortest m e).exponent =
      finite false m e h by
    rw [hread]
    rfl
  rw [shortest]
  simp only [if_neg hm, ofDecimal_dropZeros]
  -- either a candidate reads back, which is what it was chosen for, or all digits are given
  generalize hhit : List.find? _ _ = hit
  cases hit with
  | none =>
    simp only [Option.getD_none, ← fiveTo_eq]
    exact ofDecimal_exact hm h
  | some candidate =>
    have hchosen := List.find?_some hhit
    rw [ofParts_of_isCanonical h, decide_eq_true_eq] at hchosen
    exact hchosen

end SearchIndex.Double
