/-
# Numerals that are read back

A numeral is taken apart as it was put together: the whole part, the fraction and the exponent, each
up to the first character that does not belong to it.  So a whole number is read back from its
numeral (`Numeral.scan_ofInt`), and a finite double from its own (`Numeral.scan_ofDouble`), whatever
follows that does not go on with the number.
-/
import SearchIndex.Number.Numeral
import SearchIndex.Proofs.Number.Decimals

namespace SearchIndex.Numeral

variable {ds whole fraction rest after : List Char} {c : Char}

/-! ## Digits -/

/-- No digit comes next. -/
def NoDigit (rest : List Char) : Prop := ∀ c ∈ rest.head?, c.isDigit = false

/-- Nothing comes next that a number could go on with. -/
def EndsNumber (rest : List Char) : Prop :=
  ∀ c ∈ rest.head?, c.isDigit = false ∧ c ≠ '.' ∧ c ≠ 'e' ∧ c ≠ 'E'

lemma EndsNumber.noDigit (h : EndsNumber rest) : NoDigit rest := fun c hc => (h c hc).1

lemma noDigit_cons (h : c.isDigit = false) (rest : List Char) : NoDigit (c :: rest) := by
  rintro _ ⟨⟩
  exact h

/-- Digits are taken up to what is none. -/
lemma digits_append (hds : ∀ c ∈ ds, c.isDigit = true) (hrest : NoDigit rest) :
    digits (ds ++ rest) = (ds, rest) := by
  have htake : rest.takeWhile Char.isDigit = [] ∧ rest.dropWhile Char.isDigit = rest := by
    cases rest with
    | nil => exact ⟨rfl, rfl⟩
    | cons c rest =>
      have hc : ¬ c.isDigit = true := by simp [hrest c rfl]
      exact ⟨List.takeWhile_cons_of_neg hc, List.dropWhile_cons_of_neg hc⟩
  rw [digits, List.takeWhile_append_of_pos hds, List.dropWhile_append_of_pos hds, htake.1, htake.2,
    List.append_nil]

lemma isDigit_of_mem_ofNat {n : Nat} (h : c ∈ ofNat n) : c.isDigit = true :=
  Nat.isDigit_of_mem_toDigits (by decide) (by decide) h

lemma ofNat_ne_nil (n : Nat) : ofNat n ≠ [] := Nat.toDigits_ne_nil

@[simp] lemma value_ofNat (n : Nat) : value (ofNat n) = n := Nat.ofDigitChars_ten_toDigits

/-- Zeros before digits count nothing. -/
lemma value_zeros_append (k : Nat) (ds : List Char) :
    value (List.replicate k '0' ++ ds) = value ds := by
  have happend := Nat.ofDigitChars_append (b := 10) (l := List.replicate k '0') (m := ds) 0
  rw [Nat.ofDigitChars_replicate_zero, Nat.mul_zero] at happend
  exact happend

/-- Zeros after digits count tens. -/
lemma value_append_zeros (ds : List Char) (k : Nat) :
    value (ds ++ List.replicate k '0') = value ds * tenTo k := by
  have happend := Nat.ofDigitChars_append (b := 10) (l := ds) (m := List.replicate k '0') 0
  rw [Nat.ofDigitChars_replicate_zero, Nat.mul_comm] at happend
  exact happend

/-- Only the numeral of zero starts with a zero. -/
lemma head?_ofNat_ne {n : Nat} (hn : n ≠ 0) : (ofNat n).head? ≠ some '0' := by
  induction n using Nat.strong_induction_on with
  | _ n ih =>
    rcases Nat.lt_or_ge n 10 with hlt | hge
    · rw [ofNat, Nat.toDigits_of_lt_base hlt]
      interval_cases n <;> simp_all [Nat.digitChar]
    · rw [ofNat, Nat.toDigits_of_base_le (by decide) hge,
        List.head?_append_of_ne_nil _ Nat.toDigits_ne_nil]
      exact ih (n / 10) (by omega) (by omega)

/-! ## The parts of a numeral -/

/-- The whole part of a number: a zero alone, or digits that do not start with zero. -/
structure IsWhole (ds : List Char) : Prop where
  ne_nil : ds ≠ []
  isDigit : ∀ c ∈ ds, c.isDigit = true
  zero : ds.head? = some '0' → ds = ['0']

lemma isWhole_ofNat (n : Nat) : IsWhole (ofNat n) where
  ne_nil := ofNat_ne_nil n
  isDigit _ := isDigit_of_mem_ofNat
  zero h := by
    by_cases hn : n = 0
    · subst hn
      rfl
    · exact absurd h (head?_ofNat_ne hn)

/-- The digits of a number other than zero may go on. -/
lemma isWhole_of_prefix {n : Nat} (hn : n ≠ 0) (hne : ds ≠ []) (hds : ∀ c ∈ ds, c.isDigit = true)
    (hhead : ds.head? = (ofNat n).head?) : IsWhole ds :=
  ⟨hne, hds, fun h => absurd (hhead ▸ h) (head?_ofNat_ne hn)⟩

lemma scanWhole_append (h : IsWhole whole) (hrest : NoDigit rest) :
    scanWhole (whole ++ rest) = some (whole, rest) := by
  obtain ⟨d, ds, rfl⟩ := List.exists_cons_of_ne_nil h.ne_nil
  by_cases hd : d = '0'
  · subst hd
    rw [h.zero rfl]
    rfl
  · have hdigits := digits_append h.isDigit hrest
    rw [scanWhole, hdigits]
    intro _ heq
    exact hd (List.cons.inj heq).1

/-- A fraction is taken up to what is no digit. -/
lemma scanFraction_point (hne : fraction ≠ []) (hfraction : ∀ c ∈ fraction, c.isDigit = true)
    (hrest : NoDigit rest) : scanFraction ('.' :: (fraction ++ rest)) = (fraction, rest) := by
  obtain ⟨d, ds, rfl⟩ := List.exists_cons_of_ne_nil hne
  have hdigits := digits_append hfraction hrest
  simp only [scanFraction, hdigits]

lemma scanFraction_of_ne (h : ∀ c ∈ rest.head?, c ≠ '.') : scanFraction rest = ([], rest) := by
  cases rest with
  | nil => rfl
  | cons c rest =>
    have hc := h c rfl
    rw [scanFraction]
    intro _ heq
    exact hc (List.cons.inj heq).1

lemma scanExponent_of_ne (h : ∀ c ∈ rest.head?, c ≠ 'e' ∧ c ≠ 'E') :
    scanExponent rest = (none, rest) := by
  cases rest with
  | nil => rfl
  | cons c rest =>
    obtain ⟨hlower, hupper⟩ := h c rfl
    simp [scanExponent, hlower, hupper]

/-- The digits of an exponent, at least two. -/
lemma digits_exponent (n : Nat) (hrest : NoDigit rest) :
    ∃ d ds, (if (ofNat n).length < 2 then '0' :: ofNat n else ofNat n) = d :: ds ∧
      digits (d :: ds ++ rest) = (d :: ds, rest) ∧ value (d :: ds) = n := by
  have hofNat : ∀ c ∈ ofNat n, c.isDigit = true := fun c => isDigit_of_mem_ofNat
  split
  · have hpadded : ∀ c ∈ '0' :: ofNat n, c.isDigit = true :=
      List.forall_mem_cons.2 ⟨rfl, hofNat⟩
    have hvalue := value_zeros_append 1 (ofNat n)
    rw [value_ofNat] at hvalue
    exact ⟨'0', ofNat n, rfl, digits_append hpadded hrest, hvalue⟩
  · obtain ⟨d, ds, hds⟩ := List.exists_cons_of_ne_nil (ofNat_ne_nil n)
    have hvalue := value_ofNat n
    rw [hds] at hofNat hvalue
    exact ⟨d, ds, hds, digits_append hofNat hrest, hvalue⟩

/-- An exponent is read back. -/
lemma scanExponent_exponentPart (power : Int) (hrest : NoDigit rest) :
    scanExponent (exponentPart power ++ rest) = (some power, rest) := by
  obtain ⟨d, ds, hpart, hdigits, hvalue⟩ := digits_exponent power.natAbs hrest
  rw [exponentPart, hpart]
  by_cases hnegative : power < 0
  · have habs : -(power.natAbs : Int) = power := by omega
    simp only [hnegative, if_true, List.cons_append, scanExponent, true_or]
    rw [← List.cons_append, hdigits]
    simp only [hvalue, habs]
  · have habs : (power.natAbs : Int) = power := by omega
    simp only [hnegative, if_false, List.cons_append, scanExponent, true_or, if_true]
    rw [← List.cons_append, hdigits]
    simp only [hvalue, habs]
    rfl

/-! ## Numerals -/

/-- Reads a number whose sign has been passed. -/
def scanUnsigned (negative : Bool) (cs : List Char) : Option (Scanned × List Char) :=
  match scanWhole cs with
  | none => none
  | some (whole, afterWhole) =>
    let (fraction, afterFraction) := scanFraction afterWhole
    let (exponent, rest) := scanExponent afterFraction
    if fraction.isEmpty && exponent.isNone then
      let n : Int := value whole
      some (.whole (if negative then -n else n), rest)
    else
      let mantissa := value (whole ++ fraction)
      let power := exponent.getD 0 - fraction.length
      some (.double (Double.ofDecimal negative mantissa power), rest)

lemma scan_minus (cs : List Char) : scan ('-' :: cs) = scanUnsigned true cs := rfl

lemma scan_of_ne {cs : List Char} (h : ∀ tail, cs ≠ '-' :: tail) :
    scan cs = scanUnsigned false cs := by
  unfold scan
  split
  rename_i hsign
  split at hsign
  · exact absurd rfl (h _)
  · cases hsign
    rfl

/-- A sign. -/
def signOf (negative : Bool) : List Char := if negative then ['-'] else []

lemma scan_signOf (h : IsWhole whole) (negative : Bool) (rest : List Char) :
    scan (signOf negative ++ (whole ++ rest)) = scanUnsigned negative (whole ++ rest) := by
  cases negative with
  | true => exact scan_minus _
  | false =>
    refine scan_of_ne fun tail heq => ?_
    obtain ⟨d, ds, rfl⟩ := List.exists_cons_of_ne_nil h.ne_nil
    have hdigit := h.isDigit d List.mem_cons_self
    rw [(List.cons.inj heq).1] at hdigit
    exact absurd hdigit (by decide)

section Signed

variable (negative : Bool)

section Parts

variable {afterWhole afterFraction : List Char} (hwhole : IsWhole whole)
  (hnext : NoDigit afterWhole)
include hwhole hnext

/-- A number without fraction and exponent is whole. -/
lemma scan_whole (hfraction : scanFraction afterWhole = ([], afterFraction))
    (hexponent : scanExponent afterFraction = (none, rest)) :
    scan (signOf negative ++ (whole ++ afterWhole)) =
      some (.whole (if negative then -(value whole : Int) else value whole), rest) := by
  simp only [scan_signOf hwhole, scanUnsigned, scanWhole_append hwhole hnext, hfraction, hexponent]
  rfl

/-- A number with a fraction is a double. -/
lemma scan_fraction {exponent : Option Int} (hne : fraction ≠ [])
    (hfraction : scanFraction afterWhole = (fraction, afterFraction))
    (hexponent : scanExponent afterFraction = (exponent, rest)) :
    scan (signOf negative ++ (whole ++ afterWhole)) =
      some (.double (Double.ofDecimal negative (value (whole ++ fraction))
        (exponent.getD 0 - fraction.length)), rest) := by
  obtain ⟨d, ds, rfl⟩ := List.exists_cons_of_ne_nil hne
  simp only [scan_signOf hwhole, scanUnsigned, scanWhole_append hwhole hnext, hfraction, hexponent]
  rfl

/-- A number with an exponent is a double. -/
lemma scan_exponent {power : Int} (hfraction : scanFraction afterWhole = ([], afterFraction))
    (hexponent : scanExponent afterFraction = (some power, rest)) :
    scan (signOf negative ++ (whole ++ afterWhole)) =
      some (.double (Double.ofDecimal negative (value whole) power), rest) := by
  simp only [scan_signOf hwhole, scanUnsigned, scanWhole_append hwhole hnext, hfraction, hexponent,
    List.append_nil, Option.getD_some, List.length_nil, Nat.cast_zero, sub_zero]
  rfl

end Parts

/-- A whole number is read back from its numeral. -/
theorem scan_ofInt (n : Int) (hrest : EndsNumber rest) :
    scan (ofInt n ++ rest) = some (.whole n, rest) := by
  have hfraction := scanFraction_of_ne fun c hc => (hrest c hc).2.1
  have hexponent := scanExponent_of_ne fun c hc => (hrest c hc).2.2
  have hscan := scan_whole (decide (n < 0)) (isWhole_ofNat n.natAbs) hrest.noDigit hfraction
    hexponent
  have hofInt : ofInt n ++ rest = signOf (decide (n < 0)) ++ (ofNat n.natAbs ++ rest) := by
    by_cases hn : n < 0 <;> simp [ofInt, signOf, hn]
  have habs : (if decide (n < 0) then -(n.natAbs : Int) else n.natAbs) = n := by
    by_cases hn : n < 0
    · simp only [hn, decide_true, if_true]
      omega
    · simp only [hn, decide_false, Bool.false_eq_true, if_false]
      omega
  rw [hofInt, hscan, value_ofNat, habs]

/-- A number with a point, and what its digits on both sides are read as. -/
lemma scan_point (hwhole : IsWhole whole) (hne : fraction ≠ [])
    (hfraction : ∀ c ∈ fraction, c.isDigit = true) (hrest : EndsNumber rest) :
    scan (signOf negative ++ (whole ++ '.' :: (fraction ++ rest))) =
      some (.double (Double.ofDecimal negative (value (whole ++ fraction)) (-fraction.length)),
        rest) := by
  have hexponent := scanExponent_of_ne fun c hc => (hrest c hc).2.2
  have hscan := scan_fraction negative hwhole (noDigit_cons (by decide) _) hne
    (scanFraction_point hne hfraction hrest.noDigit) hexponent
  rw [hscan, Option.getD_none, zero_sub]

lemma isDigit_of_mem_zeros {k : Nat} (h : c ∈ List.replicate k '0') : c.isDigit = true := by
  rw [List.eq_of_mem_replicate h]
  decide

section Decimals

variable {n : Nat} (hrest : EndsNumber rest)
include hrest

/-- The point stands before all digits, with zeros between. -/
lemma scan_pointBefore (n k : Nat) :
    scan (signOf negative ++ (['0'] ++ '.' :: ((List.replicate k '0' ++ ofNat n) ++ rest))) =
      some (.double (Double.ofDecimal negative n (-(k + (ofNat n).length : Nat))), rest) := by
  have hfraction : ∀ c ∈ List.replicate k '0' ++ ofNat n, c.isDigit = true := by
    intro c hc
    exact (List.mem_append.1 hc).elim isDigit_of_mem_zeros isDigit_of_mem_ofNat
  have hne : List.replicate k '0' ++ ofNat n ≠ [] := by simp [ofNat_ne_nil]
  have hwhole : IsWhole ['0'] := isWhole_ofNat 0
  have hvalue : value (['0'] ++ (List.replicate k '0' ++ ofNat n)) = n := by
    refine (value_zeros_append 1 _).trans ?_
    rw [value_zeros_append, value_ofNat]
  rw [scan_point negative hwhole hne hfraction hrest, hvalue, List.length_append,
    List.length_replicate]

/-- The point stands after all digits, with zeros between. -/
lemma scan_pointAfter (zeros : Nat) (hzero : n = 0 → zeros = 0) :
    scan (signOf negative ++
        ((ofNat n ++ List.replicate zeros '0') ++ '.' :: (['0'] ++ rest))) =
      some (.double (Double.ofDecimal negative n zeros), rest) := by
  have hwhole : IsWhole (ofNat n ++ List.replicate zeros '0') := by
    by_cases hn : n = 0
    · rw [hzero hn, List.replicate_zero, List.append_nil]
      exact isWhole_ofNat n
    · refine isWhole_of_prefix hn (by simp [ofNat_ne_nil]) (fun c hc => ?_) ?_
      · exact (List.mem_append.1 hc).elim isDigit_of_mem_ofNat isDigit_of_mem_zeros
      · exact List.head?_append_of_ne_nil _ (ofNat_ne_nil n)
  have hfraction : ∀ c ∈ ['0'], c.isDigit = true := List.forall_mem_singleton.2 rfl
  have hvalue : value ((ofNat n ++ List.replicate zeros '0') ++ ['0']) = n * tenTo (zeros + 1) := by
    rw [List.append_assoc, ← List.replicate_succ', value_append_zeros, value_ofNat]
  rw [scan_point negative hwhole (List.cons_ne_nil _ _) hfraction hrest, hvalue]
  by_cases hn : n = 0
  · rw [hn, Nat.zero_mul, Double.ofDecimal_zero, Double.ofDecimal_zero]
  · have hexponent : -(['0'].length : Int) = (zeros : Int) - (zeros + 1 : Nat) := by simp
    rw [hexponent, Double.ofDecimal_shift hn]

/-- The point stands between two digits. -/
lemma scan_pointWithin {before : Nat} (hpos : 0 < before) (hlt : before < (ofNat n).length) :
    scan (signOf negative ++ ((ofNat n).take before ++ '.' :: ((ofNat n).drop before ++ rest))) =
      some (.double (Double.ofDecimal negative n (before - (ofNat n).length : Int)), rest) := by
  have hn : n ≠ 0 := by
    rintro rfl
    exact absurd hlt (Nat.not_lt.2 hpos)
  have hwhole : IsWhole ((ofNat n).take before) := by
    refine isWhole_of_prefix hn ?_ (fun c hc => ?_) ?_
    · exact List.ne_nil_of_length_pos (by rw [List.length_take]; omega)
    · exact isDigit_of_mem_ofNat (List.mem_of_mem_take hc)
    · rw [List.head?_take, if_neg hpos.ne']
  have hne : (ofNat n).drop before ≠ [] :=
    List.ne_nil_of_length_pos (by rw [List.length_drop]; omega)
  have hfraction : ∀ c ∈ (ofNat n).drop before, c.isDigit = true :=
    fun c hc => isDigit_of_mem_ofNat (List.mem_of_mem_drop hc)
  have hexponent : -((((ofNat n).length - before : Nat)) : Int) = before - (ofNat n).length := by
    omega
  rw [scan_point negative hwhole hne hfraction hrest, List.take_append_drop, value_ofNat,
    List.length_drop, hexponent]

/-- A decimal with its point is read back. -/
lemma scan_positional {exponent : Int} (hzero : n = 0 → exponent = 0) :
    scan (signOf negative ++
        (positional (ofNat n) (exponent + (ofNat n).length) ++ rest)) =
      some (.double (Double.ofDecimal negative n exponent), rest) := by
  rw [positional]
  split
  · have hscan := scan_pointBefore negative hrest n
      (-(exponent + (ofNat n).length)).toNat
    have hexponent : -(((-(exponent + (ofNat n).length)).toNat + (ofNat n).length : Nat) : Int) =
        exponent := by omega
    rw [hexponent] at hscan
    simpa using hscan
  split
  · have hnone : n = 0 → (exponent + (ofNat n).length).toNat - (ofNat n).length = 0 := by
      intro hn
      rw [hzero hn]
      omega
    have hscan := scan_pointAfter negative hrest _ hnone
    have hexponent :
        (((exponent + (ofNat n).length).toNat - (ofNat n).length : Nat) : Int) = exponent := by
      omega
    rw [hexponent] at hscan
    simpa using hscan
  · have hpos : 0 < (exponent + (ofNat n).length).toNat := by omega
    have hlt : (exponent + (ofNat n).length).toNat < (ofNat n).length := by omega
    have hscan := scan_pointWithin negative hrest hpos hlt
    have hexponent : ((exponent + (ofNat n).length).toNat : Int) - (ofNat n).length =
        exponent := by omega
    rw [hexponent] at hscan
    simpa using hscan

/-- A decimal with an exponent is read back. -/
lemma scan_scientific {exponent : Int} :
    scan (signOf negative ++
        (scientific (ofNat n) (exponent + (ofNat n).length - 1) ++ rest)) =
      some (.double (Double.ofDecimal negative n exponent), rest) := by
  have hdigits : ∀ c ∈ ofNat n, c.isDigit = true := fun c => isDigit_of_mem_ofNat
  have hwhole := isWhole_ofNat n
  have hvalue := value_ofNat n
  have hexponent := scanExponent_exponentPart (exponent + (ofNat n).length - 1) hrest.noDigit
  have hnext : NoDigit (exponentPart (exponent + (ofNat n).length - 1) ++ rest) :=
    noDigit_cons (by decide) _
  cases hds : ofNat n with
  | nil => exact absurd hds (ofNat_ne_nil n)
  | cons d ds =>
    rw [hds] at hdigits hwhole hvalue hexponent hnext
    cases ds with
    | nil =>
      -- there is one digit, and no point
      have hpoint : ∀ c ∈ (exponentPart (exponent + [d].length - 1) ++ rest).head?, c ≠ '.' := by
        rintro _ ⟨⟩
        decide
      have hfraction := scanFraction_of_ne hpoint
      have hpower : exponent + ([d].length : Int) - 1 = exponent := by simp
      have hscan := scan_exponent negative hwhole hnext hfraction hexponent
      rw [hvalue, hpower] at hscan
      rw [hpower]
      exact hscan
    | cons d' ds =>
      have hone : IsWhole [d] :=
        ⟨List.cons_ne_nil _ _, fun c hc => hdigits c (by simp_all), fun h => by simpa using h⟩
      have hfraction := scanFraction_point (List.cons_ne_nil d' ds)
        (fun c hc => hdigits c (List.mem_cons_of_mem d hc)) hnext
      have hscan := scan_fraction negative hone (noDigit_cons (by decide) _)
        (List.cons_ne_nil d' ds) hfraction hexponent
      have hpower :
          exponent + ((d :: d' :: ds).length : Int) - 1 - (d' :: ds).length = exponent := by
        simp only [List.length_cons]
        omega
      have hall : value ([d] ++ d' :: ds) = n := hvalue
      rw [hall, Option.getD_some, hpower] at hscan
      simpa only [scientific, List.cons_append, List.nil_append, List.append_assoc] using hscan

end Decimals

/-- A decimal is read back from its numeral. -/
lemma scan_ofDecimal {d : Decimal} (hzero : d.digits = 0 → d.exponent = 0)
    (hrest : EndsNumber rest) :
    scan (signOf negative ++ (ofDecimal d ++ rest)) =
      some (.double (Double.ofDecimal negative d.digits d.exponent), rest) := by
  rw [ofDecimal]
  split
  · exact scan_positional negative hrest hzero
  · exact scan_scientific negative hrest

end Signed

/-- **A finite double is read back from its numeral.** -/
theorem scan_ofDouble (names : Names) {negative : Bool} {m e : Nat} (h : Double.IsCanonical m e)
    (hrest : EndsNumber rest) :
    scan (ofDouble names (.finite negative m e h) ++ rest) =
      some (.double (.finite negative m e h), rest) := by
  have hzero : (Double.shortest m e).digits = 0 → (Double.shortest m e).exponent = 0 := by
    intro hdigits
    have hread := Double.ofDecimal_shortest h false
    rw [hdigits, Double.ofDecimal_zero] at hread
    obtain ⟨rfl, rfl⟩ : 0 = m ∧ 0 = e := by simpa [Double.signedZero] using hread
    rfl
  have hnumeral : ofDouble names (.finite negative m e h) ++ rest =
      signOf negative ++ (ofDecimal (Double.shortest m e) ++ rest) := List.append_assoc _ _ _
  rw [hnumeral, scan_ofDecimal negative hzero hrest, Double.ofDecimal_shortest h negative]

/-! ## Line breaks -/

lemma not_mem_ofNat (n : Nat) : '\n' ∉ ofNat n :=
  fun h => absurd (isDigit_of_mem_ofNat h) (by decide)

lemma not_mem_ofInt (n : Int) : '\n' ∉ ofInt n := by
  rw [ofInt]
  split <;> simp [not_mem_ofNat]

lemma not_mem_exponentPart (power : Int) : '\n' ∉ exponentPart power := by
  rw [exponentPart]
  split <;> split <;> simp [not_mem_ofNat]

lemma not_mem_positional (n : Nat) (before : Int) : '\n' ∉ positional (ofNat n) before := by
  have hdigits := not_mem_ofNat n
  rw [positional]
  split
  · simp [hdigits]
  split
  · simp [hdigits]
  · have htake : '\n' ∉ (ofNat n).take before.toNat := fun h => hdigits (List.mem_of_mem_take h)
    have hdrop : '\n' ∉ (ofNat n).drop before.toNat := fun h => hdigits (List.mem_of_mem_drop h)
    simp [htake, hdrop]

lemma not_mem_scientific (n : Nat) (power : Int) : '\n' ∉ scientific (ofNat n) power := by
  have hdigits := not_mem_ofNat n
  have hexponent := not_mem_exponentPart power
  rw [scientific.eq_def]
  split
  · exact hexponent
  · rename_i d hd
    rw [hd] at hdigits
    exact fun h => (List.mem_append (s := [d])).1 h |>.elim hdigits hexponent
  · rename_i d ds _ hd
    rw [hd, List.mem_cons, not_or] at hdigits
    simp [hdigits, hexponent]

/-- No numeral has a line break. -/
lemma not_mem_ofDouble {names : Names}
    (hnames : '\n' ∉ names.nan.toList ∧ '\n' ∉ names.infinity.toList) (x : Double) :
    '\n' ∉ ofDouble names x := by
  have hsign (negative : Bool) : '\n' ∉ signOf negative := by cases negative <;> decide
  cases x with
  | nan => exact hnames.1
  | infinite negative =>
    exact fun h => (List.mem_append.1 h).elim (hsign negative) hnames.2
  | finite negative m e h =>
    have hdecimal : '\n' ∉ ofDecimal (Double.shortest m e) := by
      rw [ofDecimal]
      split
      · exact not_mem_positional _ _
      · exact not_mem_scientific _ _
    exact fun h => (List.mem_append.1 h).elim (hsign negative) hdecimal

end SearchIndex.Numeral
