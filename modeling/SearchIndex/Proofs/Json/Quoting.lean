/-
# Texts within quotes

A text that is written within quotes is read back as it was, in either layout and whatever
characters it has (`Json.readText_quoted`): a character is written as itself, as a short escape or
as the escapes of its UTF-16 units, and the units of one character never join with those of the
next.  No line break stands within the quotes (`Json.not_mem_quoted`).
-/
import Mathlib.Tactic
import SearchIndex.Json.Reader

namespace SearchIndex.Json

variable {c : Char} {rest : List Char} {asciiOnly : Bool}

/-! ## Escapes -/

/-- The value of a digit is read back. -/
lemma hexValue?_hexDigit (n : Nat) : hexValue? (hexDigit n) = some (n % 16) := by
  have hdigits : ∀ d < 16, hexValue? (Nat.digitChar d) = some d := by decide
  exact hdigits (n % 16) (Nat.mod_lt n (by decide))

lemma unit?_hexDigits {unit : Nat} (h : unit < 0x10000) :
    unit? (hexDigit (unit / 4096)) (hexDigit (unit / 256)) (hexDigit (unit / 16)) (hexDigit unit) =
      some unit := by
  simp only [unit?, hexValue?_hexDigit, Option.bind_eq_bind, Option.bind_some, Option.pure_def,
    Option.some.injEq]
  omega

lemma readUnits_unitEscape {unit : Nat} (h : unit < 0x10000) (rest : List Char) :
    readUnits (unitEscape unit ++ rest) =
      (readUnits rest).map fun (units, after) => (unit :: units, after) := by
  simp only [unitEscape, List.cons_append, List.nil_append, readUnits, unit?_hexDigits h]
  cases readUnits rest <;> rfl

/-! ## Characters -/

/-- What a quoted character is read as: its code point, or two surrogates. -/
def unitsOf (asciiOnly : Bool) (c : Char) : List Nat :=
  if asciiOnly && 0x10000 ≤ c.toNat then
    [0xD800 + (c.toNat - 0x10000) / 1024, 0xDC00 + (c.toNat - 0x10000) % 1024]
  else [c.toNat]

lemma toNat_lt (c : Char) : c.toNat < 0x110000 := by
  have h := c.valid
  simp only [UInt32.isValidChar, Nat.isValidChar] at h
  have htoNat : c.toNat = c.val.toNat := rfl
  omega

/-- No character is half of a surrogate pair. -/
lemma not_surrogate (c : Char) : ¬ (0xD800 ≤ c.toNat ∧ c.toNat ≤ 0xDFFF) := by
  have h := c.valid
  simp only [UInt32.isValidChar, Nat.isValidChar] at h
  have htoNat : c.toNat = c.val.toNat := rfl
  omega

lemma readUnits_charEscape (hascii : asciiOnly = true ∨ c.toNat < 0x10000) (rest : List Char) :
    readUnits (charEscape c ++ rest) =
      (readUnits rest).map fun (units, after) => (unitsOf asciiOnly c ++ units, after) := by
  have hlt := toNat_lt c
  by_cases hplane : c.toNat < 0x10000
  · have hunits : unitsOf asciiOnly c = [c.toNat] := by
      have hnot : ¬ 0x10000 ≤ c.toNat := Nat.not_le.2 hplane
      simp [unitsOf, hnot]
    rw [charEscape, if_pos hplane, readUnits_unitEscape hplane, hunits]
    rfl
  · have hunits : unitsOf asciiOnly c =
        [0xD800 + (c.toNat - 0x10000) / 1024, 0xDC00 + (c.toNat - 0x10000) % 1024] := by
      simp [unitsOf, hascii.resolve_right hplane, Nat.not_lt.1 hplane]
    rw [charEscape, if_neg hplane, List.append_assoc, readUnits_unitEscape (by omega),
      readUnits_unitEscape (by omega), hunits]
    cases readUnits rest <;> rfl

/-- The ways in which a character is quoted. -/
inductive Quotes (asciiOnly : Bool) (c : Char) : List Char → Prop where
  /-- With a backslash and a letter. -/
  | short {letter : Char} (hletter : letter ≠ 'u' ∧ letter ≠ '\n')
      (hshort : shortEscape? letter = some c) (hplane : c.toNat < 0x10000) :
      Quotes asciiOnly c ['\\', letter]
  /-- By its units. -/
  | escape (hascii : asciiOnly = true ∨ c.toNat < 0x10000) : Quotes asciiOnly c (charEscape c)
  /-- As it is. -/
  | plain (hquote : c ≠ '"') (hbackslash : c ≠ '\\') (hcontrol : 0x20 ≤ c.toNat)
      (hascii : asciiOnly = true → c.toNat < 0x7F) : Quotes asciiOnly c [c]

lemma quotes_quotedChar (asciiOnly : Bool) (c : Char) :
    Quotes asciiOnly c (quotedChar asciiOnly c) := by
  rw [quotedChar]
  split_ifs with hquote hbackslash hline hreturn htab hback hfeed hcontrol hascii
  · subst hquote
    exact .short (by decide) rfl (by decide)
  · subst hbackslash
    exact .short (by decide) rfl (by decide)
  · subst hline
    exact .short (by decide) rfl (by decide)
  · subst hreturn
    exact .short (by decide) rfl (by decide)
  · subst htab
    exact .short (by decide) rfl (by decide)
  · subst hback
    exact .short (by decide) rfl (by decide)
  · subst hfeed
    exact .short (by decide) rfl (by decide)
  · exact .escape (Or.inr (by omega))
  · exact .escape (Or.inl (Bool.and_eq_true_iff.1 hascii).1)
  · refine .plain hquote hbackslash (Nat.not_lt.1 hcontrol) fun h => ?_
    simpa [h] using hascii

lemma unitsOf_of_lt (asciiOnly : Bool) (h : c.toNat < 0x10000) :
    unitsOf asciiOnly c = [c.toNat] := by
  have hnot : ¬ 0x10000 ≤ c.toNat := Nat.not_le.2 h
  simp [unitsOf, hnot]

lemma readUnits_short {letter : Char} (hletter : letter ≠ 'u')
    (hshort : shortEscape? letter = some c) (rest : List Char) :
    readUnits ('\\' :: letter :: rest) =
      (readUnits rest).map fun (units, after) => (c.toNat :: units, after) := by
  rw [readUnits, hshort]
  · cases readUnits rest <;> rfl
  · intro _ _ _ _ _ h _
    exact hletter h

lemma readUnits_plain (hquote : c ≠ '"') (hbackslash : c ≠ '\\') (hcontrol : 0x20 ≤ c.toNat)
    (rest : List Char) :
    readUnits (c :: rest) =
      (readUnits rest).map fun (units, after) => (c.toNat :: units, after) := by
  have hallowed : ¬ (c = '\\' ∨ c.toNat < 0x20) := by
    rintro (h | h)
    · exact hbackslash h
    · omega
  rw [readUnits, if_neg hallowed]
  · cases readUnits rest <;> rfl
  · exact hquote
  · intro _ _ _ _ _ h _
    exact hbackslash h
  · intro _ _ h _
    exact hbackslash h

/-- A quoted character is read as its units. -/
lemma readUnits_quotedChar (asciiOnly : Bool) (c : Char) (rest : List Char) :
    readUnits (quotedChar asciiOnly c ++ rest) =
      (readUnits rest).map fun (units, after) => (unitsOf asciiOnly c ++ units, after) := by
  have hquotes := quotes_quotedChar asciiOnly c
  generalize quotedChar asciiOnly c = written at hquotes
  cases hquotes with
  | short hletter hshort hplane =>
    rw [unitsOf_of_lt asciiOnly hplane]
    exact readUnits_short hletter.1 hshort rest
  | escape hascii => exact readUnits_charEscape hascii rest
  | plain hquote hbackslash hcontrol hascii =>
    have hunits : unitsOf asciiOnly c = [c.toNat] := by
      cases asciiOnly with
      | false => rfl
      | true => exact unitsOf_of_lt true ((hascii rfl).trans (by decide))
    rw [hunits]
    exact readUnits_plain hquote hbackslash hcontrol rest

lemma not_mem_unitEscape (unit : Nat) : '\n' ∉ unitEscape unit := by
  have hdigits : ∀ d < 16, '\n' ≠ Nat.digitChar d := by decide
  have hdigit (n : Nat) : '\n' ≠ hexDigit n := hdigits (n % 16) (Nat.mod_lt n (by decide))
  simp [unitEscape, hdigit]

/-- No line break stands within quotes. -/
lemma not_mem_quotedChar (asciiOnly : Bool) (c : Char) : '\n' ∉ quotedChar asciiOnly c := by
  have hquotes := quotes_quotedChar asciiOnly c
  generalize quotedChar asciiOnly c = written at hquotes
  cases hquotes with
  | short hletter hshort hplane => simp [hletter.2.symm]
  | escape hascii =>
    rw [charEscape]
    split
    · exact not_mem_unitEscape _
    · exact fun h => (List.mem_append.1 h).elim (not_mem_unitEscape _) (not_mem_unitEscape _)
  | plain hquote hbackslash hcontrol hascii =>
    rw [List.mem_singleton]
    rintro rfl
    exact absurd hcontrol (by decide)

/-! ## Texts -/

lemma joinUnits_cons {unit : Nat} (h : ¬ (0xD800 ≤ unit ∧ unit ≤ 0xDBFF)) (units : List Nat) :
    joinUnits (unit :: units) = ofUnit unit :: joinUnits units := by
  cases units with
  | nil => simp [joinUnits]
  | cons low units =>
    have hnot : ¬ (0xD800 ≤ unit ∧ unit ≤ 0xDBFF ∧ 0xDC00 ≤ low ∧ low ≤ 0xDFFF) :=
      fun hpair => h ⟨hpair.1, hpair.2.1⟩
    rw [joinUnits, if_neg hnot]

/-- The units of a character are joined to that character again. -/
lemma joinUnits_unitsOf (asciiOnly : Bool) (c : Char) (units : List Nat) :
    joinUnits (unitsOf asciiOnly c ++ units) = c :: joinUnits units := by
  have hlt := toNat_lt c
  have hsurrogate := not_surrogate c
  rw [unitsOf]
  split
  · rename_i hpair
    have hplane : 0x10000 ≤ c.toNat := by simpa using (Bool.and_eq_true_iff.1 hpair).2
    have hunit : 0x10000 + (0xD800 + (c.toNat - 0x10000) / 1024 - 0xD800) * 1024 +
        (0xDC00 + (c.toNat - 0x10000) % 1024 - 0xDC00) = c.toNat := by omega
    rw [List.cons_append, List.singleton_append, joinUnits, if_pos (by omega), hunit,
      Char.ofNat_toNat]
  · rw [List.singleton_append, joinUnits_cons (by omega), ofUnit, if_neg hsurrogate,
      Char.ofNat_toNat]

lemma readUnits_flatMap (asciiOnly : Bool) (cs rest : List Char) :
    readUnits (cs.flatMap (quotedChar asciiOnly) ++ '"' :: rest) =
      some (cs.flatMap (unitsOf asciiOnly), rest) := by
  induction cs with
  | nil => rw [List.flatMap_nil, List.flatMap_nil, List.nil_append, readUnits]
  | cons c cs ih =>
    rw [List.flatMap_cons, List.flatMap_cons, List.append_assoc, readUnits_quotedChar, ih]
    rfl

lemma joinUnits_flatMap (asciiOnly : Bool) (cs : List Char) :
    joinUnits (cs.flatMap (unitsOf asciiOnly)) = cs := by
  induction cs with
  | nil => rfl
  | cons c cs ih => rw [List.flatMap_cons, joinUnits_unitsOf, ih]

/-- What follows the opening quote of a text. -/
def quotedRest (asciiOnly : Bool) (s : String) : List Char :=
  s.toList.flatMap (quotedChar asciiOnly) ++ ['"']

lemma quoted_eq (asciiOnly : Bool) (s : String) :
    quoted asciiOnly s = '"' :: quotedRest asciiOnly s := rfl

/-- **A text is read back from its quotes.** -/
theorem readText_quoted (asciiOnly : Bool) (s : String) (rest : List Char) :
    readText (quotedRest asciiOnly s ++ rest) = some (s, rest) := by
  rw [readText, quotedRest, List.append_assoc, List.singleton_append, readUnits_flatMap,
    Option.map_some]
  dsimp only
  rw [joinUnits_flatMap, String.ofList_toList]

/-- No line break stands within quotes. -/
lemma not_mem_quoted (asciiOnly : Bool) (s : String) : '\n' ∉ quoted asciiOnly s := by
  simp [quoted, not_mem_quotedChar]

end SearchIndex.Json
