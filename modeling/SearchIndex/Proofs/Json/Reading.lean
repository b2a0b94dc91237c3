/-
# Values that are read back

The text of a value is read as that value, in either layout (`Json.read?_spaced`,
`Json.read?_compact`), provided that no object has a name twice: a reader keeps one member of a name
only.  The proof follows the writer.  A value is read up to the character after it, whatever that is
as long as a number does not go on with it; the items and members after the first are read together
with the bracket that closes them.
-/
import SearchIndex.Json.Reader
import SearchIndex.Proofs.Json.Quoting
import SearchIndex.Proofs.Number.Scanning
import SearchIndex.Proofs.Table

namespace SearchIndex

namespace Json

open Numeral

variable {layout : Layout} {rest : List Char} {fuel : Nat}

/-! ## Values that an object can be -/

mutual

/-- No object in a value has a name twice. -/
def IsDistinct : Json → Prop
  | list items => AreDistinct items
  | object members => Table.IsDistinct members ∧ MembersDistinct members
  | _ => True

/-- No object in the items has a name twice. -/
def AreDistinct : List Json → Prop
  | [] => True
  | x :: rest => x.IsDistinct ∧ AreDistinct rest

/-- No object in the values of the members has a name twice. -/
def MembersDistinct : List (String × Json) → Prop
  | [] => True
  | (_, x) :: rest => x.IsDistinct ∧ MembersDistinct rest

end

/-! ## Layouts -/

/-- A comma and a colon with gaps after them. -/
structure Layout.IsReadable (layout : Layout) : Prop where
  comma : ∃ gap, layout.comma = ',' :: gap ∧ ∀ c ∈ gap, isGap c = true
  colon : ∃ gap, layout.colon = ':' :: gap ∧ ∀ c ∈ gap, isGap c = true

lemma Layout.isReadable_spaced : Layout.spaced.IsReadable := by
  have hgap : ∀ c ∈ [' '], isGap c = true := List.forall_mem_singleton.2 rfl
  exact ⟨⟨[' '], rfl, hgap⟩, ⟨[' '], rfl, hgap⟩⟩

lemma Layout.isReadable_compact : Layout.compact.IsReadable := by
  have hgap : ∀ c ∈ [], isGap c = true := List.forall_mem_nil _
  exact ⟨⟨[], rfl, hgap⟩, ⟨[], rfl, hgap⟩⟩

/-- A token begins here: there is a character, and it is no gap. -/
def StartsToken (cs : List Char) : Prop := ∃ c tail, cs = c :: tail ∧ isGap c = false

lemma skipGap_of_startsToken {cs : List Char} (h : StartsToken cs) : skipGap cs = cs := by
  obtain ⟨c, tail, rfl, hc⟩ := h
  exact List.dropWhile_cons_of_neg (by simp [hc])

lemma skipGap_append {gap cs : List Char} (hgap : ∀ c ∈ gap, isGap c = true)
    (hcs : StartsToken cs) : skipGap (gap ++ cs) = cs := by
  rw [skipGap, List.dropWhile_append_of_pos hgap]
  exact skipGap_of_startsToken hcs

lemma StartsToken.append {cs : List Char} (h : StartsToken cs) (rest : List Char) :
    StartsToken (cs ++ rest) := by
  obtain ⟨c, tail, rfl, hc⟩ := h
  exact ⟨c, tail ++ rest, rfl, hc⟩

/-! ## Numbers -/

/-- A numeral begins here: with a digit, or with a minus sign before one. -/
inductive StartsNumeral : List Char → Prop where
  | digit {c : Char} (h : c.isDigit = true) (tail : List Char) : StartsNumeral (c :: tail)
  | minus {c : Char} (h : c.isDigit = true) (tail : List Char) : StartsNumeral ('-' :: c :: tail)

variable {cs : List Char}

lemma StartsNumeral.append (h : StartsNumeral cs) (rest : List Char) :
    StartsNumeral (cs ++ rest) := by
  cases h with
  | digit h tail => exact .digit h _
  | minus h tail => exact .minus h _

lemma isGap_of_isDigit {c : Char} (h : c.isDigit = true) : isGap c = false := by
  by_contra hgap
  simp only [isGap, Bool.not_eq_false, Bool.or_eq_true, decide_eq_true_eq] at hgap
  rcases hgap with ((rfl | rfl) | rfl) | rfl <;> exact absurd h (by decide)

lemma ne_cons_of_isDigit {c d : Char} {tail : List Char} (h : c.isDigit = true)
    (hd : d.isDigit = false) (other : List Char) : c :: tail ≠ d :: other := by
  intro heq
  rw [(List.cons.inj heq).1, hd] at h
  cases h

/-- A numeral is read as a number. -/
lemma readValue_of_startsNumeral (h : StartsNumeral cs) (fuel : Nat) :
    readValue (fuel + 1) cs = readNumber cs := by
  cases h with
  | digit h tail =>
    rw [readValue]
    all_goals
      intro _
      exact ne_cons_of_isDigit h rfl _
  | minus h tail =>
    rw [readValue]
    all_goals
      rintro _ ⟨⟩

/-- A numeral is no name of a value that is no number. -/
lemma readNumber_of_startsNumeral (h : StartsNumeral cs) :
    readNumber cs =
      match scan cs with
      | some (.whole n, rest) => some (int n, rest)
      | some (.double x, rest) => some (double x, rest)
      | none => none := by
  rw [readNumber.eq_def]
  cases h with
  | digit h tail =>
    split
    · rename_i heq
      exact absurd heq (ne_cons_of_isDigit h rfl _)
    · rename_i heq
      exact absurd heq (ne_cons_of_isDigit h rfl _)
    · rename_i heq
      exact absurd heq (ne_cons_of_isDigit h rfl _)
    · rfl
  | minus h tail =>
    split
    · rename_i heq
      exact absurd (List.cons.inj heq).1 (by decide)
    · rename_i heq
      exact absurd (List.cons.inj heq).1 (by decide)
    · rename_i heq
      exact absurd (List.cons.inj heq).2 (ne_cons_of_isDigit h rfl _)
    · rfl

/-- A sign before a digit, or none, starts a numeral. -/
lemma startsNumeral_signOf {c : Char} (h : c.isDigit = true) (negative : Bool) (tail : List Char) :
    StartsNumeral (signOf negative ++ c :: tail) := by
  cases negative with
  | true => exact .minus h tail
  | false => exact .digit h tail

lemma exists_digit_ofNat (n : Nat) : ∃ c tail, ofNat n = c :: tail ∧ c.isDigit = true := by
  obtain ⟨c, tail, hn⟩ := List.exists_cons_of_ne_nil (ofNat_ne_nil n)
  exact ⟨c, tail, hn, isDigit_of_mem_ofNat (hn ▸ List.mem_cons_self)⟩

lemma startsNumeral_ofInt (n : Int) : StartsNumeral (ofInt n) := by
  obtain ⟨c, tail, hn, hc⟩ := exists_digit_ofNat n.natAbs
  rw [ofInt, hn]
  split
  · exact .minus hc tail
  · exact .digit hc tail

/-- The numeral of a decimal starts with a digit. -/
lemma exists_digit_ofDecimal (d : Decimal) :
    ∃ c tail, Numeral.ofDecimal d = c :: tail ∧ c.isDigit = true := by
  obtain ⟨c, tail, hn, hc⟩ := exists_digit_ofNat d.digits
  rw [Numeral.ofDecimal, hn]
  split
  · rename_i hbetween
    rw [positional]
    split
    · exact ⟨'0', _, rfl, rfl⟩
    split
    · exact ⟨c, _, rfl, hc⟩
    · rename_i hpos hlt
      obtain ⟨k, hk⟩ := Nat.exists_eq_succ_of_ne_zero
        (n := (d.exponent + ((c :: tail).length : Int)).toNat) (by omega)
      exact ⟨c, _, by rw [hk]; rfl, hc⟩
  · cases tail with
    | nil => exact ⟨c, _, rfl, hc⟩
    | cons c' tail => exact ⟨c, _, rfl, hc⟩

lemma startsNumeral_ofDouble (names : Names) (negative : Bool) {m e : Nat}
    (h : Double.IsCanonical m e) : StartsNumeral (ofDouble names (.finite negative m e h)) := by
  obtain ⟨c, tail, hd, hc⟩ := exists_digit_ofDecimal (Double.shortest m e)
  rw [ofDouble, hd]
  exact startsNumeral_signOf hc negative tail

/-- A whole number is read back. -/
lemma readValue_ofInt (n : Int) (hrest : EndsNumber rest) (fuel : Nat) :
    readValue (fuel + 1) (ofInt n ++ rest) = some (int n, rest) := by
  have hstart := (startsNumeral_ofInt n).append rest
  rw [readValue_of_startsNumeral hstart, readNumber_of_startsNumeral hstart, scan_ofInt n hrest]

/-- A double is read back, and so are the values that are no numbers. -/
lemma readValue_ofDouble (x : Double) (hrest : EndsNumber rest) (fuel : Nat) :
    readValue (fuel + 1) (ofDouble numberNames x ++ rest) = some (double x, rest) := by
  cases x with
  | nan => rfl
  | infinite negative => cases negative <;> rfl
  | finite negative m e h =>
    have hstart := (startsNumeral_ofDouble numberNames negative h).append rest
    rw [readValue_of_startsNumeral hstart, readNumber_of_startsNumeral hstart,
      scan_ofDouble numberNames h hrest]

/-! ## Values -/

/-- A value begins with a token that closes no list. -/
lemma exists_write (layout : Layout) (j : Json) :
    ∃ c tail, write layout j = c :: tail ∧ isGap c = false ∧ c ≠ ']' := by
  have hnumeral {cs : List Char} (h : StartsNumeral cs) :
      ∃ c tail, cs = c :: tail ∧ isGap c = false ∧ c ≠ ']' := by
    cases h with
    | digit h tail =>
      refine ⟨_, tail, rfl, isGap_of_isDigit h, ?_⟩
      rintro rfl
      cases h
    | minus h tail => exact ⟨'-', _, rfl, rfl, by decide⟩
  cases j with
  | null => exact ⟨'n', _, rfl, rfl, by decide⟩
  | bool value => cases value <;> exact ⟨_, _, rfl, rfl, by decide⟩
  | int n => exact hnumeral (startsNumeral_ofInt n)
  | double x =>
    cases x with
    | nan => exact ⟨'N', _, rfl, rfl, by decide⟩
    | infinite negative => cases negative <;> exact ⟨_, _, rfl, rfl, by decide⟩
    | finite negative m e h => exact hnumeral (startsNumeral_ofDouble numberNames negative h)
  | text s => exact ⟨'"', _, rfl, rfl, by decide⟩
  | list items => cases items <;> exact ⟨'[', _, by rw [write], rfl, by decide⟩
  | object members => cases members <;> exact ⟨'\x7b', _, by rw [write], rfl, by decide⟩

lemma startsToken_write (layout : Layout) (j : Json) : StartsToken (write layout j) := by
  obtain ⟨c, tail, hwrite, hgap, -⟩ := exists_write layout j
  exact ⟨c, tail, hwrite, hgap⟩

/-- What a reader of items does after one: it goes on after a comma and ends at the bracket. -/
def continueItems (fuel : Nat) (before : List Json) (cs : List Char) : Option (Json × List Char) :=
  match skipGap cs with
  | ',' :: after => readItems fuel before (skipGap after)
  | ']' :: after => some (list before.reverse, after)
  | _ => none

lemma readItems_of_readValue {before : List Json} {cs : List Char} {x : Json}
    (h : readValue fuel cs = some (x, rest)) :
    readItems (fuel + 1) before cs = continueItems fuel (x :: before) rest := by
  rw [readItems, h]
  rfl

/-- What a reader of members does after one: it goes on after a comma and ends at the brace. -/
def continueMembers (fuel : Nat) (before : Members) (cs : List Char) :
    Option (Json × List Char) :=
  match skipGap cs with
  | ',' :: after => readMembers fuel before (skipGap after)
  | '\x7d' :: after => some (object before, after)
  | _ => none

lemma readMembers_of_readValue {before : Members} {asciiOnly : Bool} {name : String}
    {gap cs : List Char} {x : Json} (hgap : ∀ c ∈ gap, isGap c = true) (hcs : StartsToken cs)
    (h : readValue fuel cs = some (x, rest)) :
    readMembers (fuel + 1) before (quoted asciiOnly name ++ ':' :: (gap ++ cs)) =
      continueMembers fuel (Table.set before name x) rest := by
  have hcolon : skipGap (':' :: (gap ++ cs)) = ':' :: (gap ++ cs) :=
    skipGap_of_startsToken ⟨':', _, rfl, rfl⟩
  rw [quoted_eq, List.cons_append, readMembers, readText_quoted]
  simp only [hcolon, skipGap_append hgap hcs, h]
  rfl

lemma endsNumber_writeItems (hl : layout.IsReadable) (items : List Json) (rest : List Char) :
    EndsNumber (writeItems layout items ++ rest) := by
  obtain ⟨gap, hcomma, -⟩ := hl.comma
  cases items with
  | nil =>
    rintro _ ⟨⟩
    decide
  | cons x items =>
    rw [writeItems, hcomma]
    rintro _ ⟨⟩
    decide

lemma endsNumber_writeMembers (hl : layout.IsReadable) (members : Members) (rest : List Char) :
    EndsNumber (writeMembers layout members ++ rest) := by
  obtain ⟨gap, hcomma, -⟩ := hl.comma
  cases members with
  | nil =>
    rintro _ ⟨⟩
    decide
  | cons x members =>
    rw [writeMembers, hcomma]
    rintro _ ⟨⟩
    decide

lemma length_writeItems_pos (layout : Layout) (items : List Json) :
    0 < (writeItems layout items).length := by
  cases items with
  | nil => exact Nat.one_pos
  | cons x items =>
    obtain ⟨c, tail, hwrite, -⟩ := exists_write layout x
    simp only [writeItems, hwrite, List.length_append, List.length_cons]
    omega

section Steps

variable {before : List Json} {known : Members} {cs gap : List Char}

/-- A list that is not empty is read from its first item on. -/
lemma readValue_list (layout : Layout) (x : Json) (cs : List Char) :
    readValue (fuel + 1) ('[' :: (write layout x ++ cs)) =
      readItems fuel [] (write layout x ++ cs) := by
  obtain ⟨c, tail, hwrite, hgap, hclose⟩ := exists_write layout x
  rw [hwrite, List.cons_append, readValue, skipGap_of_startsToken ⟨c, _, rfl, hgap⟩]
  split
  · rename_i heq
    exact absurd (List.cons.inj heq).1 hclose
  · rfl

/-- An object that is not empty is read from its first name on. -/
lemma readValue_object (asciiOnly : Bool) (name : String) (cs : List Char) :
    readValue (fuel + 1) ('\x7b' :: (quoted asciiOnly name ++ cs)) =
      readMembers fuel [] (quoted asciiOnly name ++ cs) := by
  rw [quoted_eq, List.cons_append, readValue, skipGap_of_startsToken ⟨'"', _, rfl, rfl⟩]
  rfl

lemma continueItems_comma (hgap : ∀ c ∈ gap, isGap c = true) (hcs : StartsToken cs) :
    continueItems fuel before (',' :: (gap ++ cs)) = readItems fuel before cs := by
  rw [continueItems, skipGap_of_startsToken ⟨',', _, rfl, rfl⟩]
  simp only [skipGap_append hgap hcs]

lemma continueMembers_comma (hgap : ∀ c ∈ gap, isGap c = true) (hcs : StartsToken cs) :
    continueMembers fuel known (',' :: (gap ++ cs)) = readMembers fuel known cs := by
  rw [continueMembers, skipGap_of_startsToken ⟨',', _, rfl, rfl⟩]
  simp only [skipGap_append hgap hcs]

end Steps

mutual

/-- A value is read up to what follows it. -/
theorem readValue_write (hl : layout.IsReadable) : (j : Json) → j.IsDistinct →
    ∀ {fuel : Nat} {rest : List Char}, (write layout j).length ≤ fuel → EndsNumber rest →
      readValue (fuel + 1) (write layout j ++ rest) = some (j, rest)
  | null, _, _, _, _, _ => rfl
  | bool true, _, _, _, _, _ => rfl
  | bool false, _, _, _, _, _ => rfl
  | int n, _, fuel, _, _, hrest => readValue_ofInt n hrest fuel
  | double x, _, fuel, _, _, hrest => readValue_ofDouble x hrest fuel
  | text s, _, fuel, rest, _, _ => by
    rw [write, quoted_eq, List.cons_append, readValue, readText_quoted]
    rfl
  | list [], _, _, _, _, _ => rfl
  | list (x :: items), h, fuel, rest, hfuel, _ => by
    simp only [write, List.length_cons, List.length_append] at hfuel
    have hpos := length_writeItems_pos layout items
    obtain ⟨f, rfl⟩ : ∃ f, fuel = f + 2 := ⟨fuel - 2, by omega⟩
    have hx := readValue_write hl x h.1 (by omega : (write layout x).length ≤ f)
      (endsNumber_writeItems hl items rest)
    rw [write, List.cons_append, List.append_assoc, readValue_list, readItems_of_readValue hx]
    exact continueItems_writeItems hl items h.2 (by omega)
  | object [], _, _, _, _, _ => rfl
  | object ((name, x) :: members), h, fuel, rest, hfuel, _ => by
    obtain ⟨gap, hcolon, hgap⟩ := hl.colon
    simp only [write, hcolon, List.length_cons, List.length_append] at hfuel
    obtain ⟨f, rfl⟩ : ∃ f, fuel = f + 2 := ⟨fuel - 2, by omega⟩
    have hx := readValue_write hl x h.2.1 (by omega : (write layout x).length ≤ f)
      (endsNumber_writeMembers hl members rest)
    have hstart := (startsToken_write layout x).append (writeMembers layout members ++ rest)
    rw [write, hcolon]
    simp only [List.cons_append, List.append_assoc]
    rw [readValue_object, readMembers_of_readValue hgap hstart hx]
    exact continueMembers_writeMembers hl members h.2.2 h.1 (by omega)

/-- The items after one are read with the closing bracket. -/
theorem continueItems_writeItems (hl : layout.IsReadable) : (items : List Json) →
    AreDistinct items → ∀ {fuel : Nat} {before : List Json} {rest : List Char},
      (writeItems layout items).length ≤ fuel →
      continueItems fuel before (writeItems layout items ++ rest) =
        some (list (before.reverse ++ items), rest)
  | [], _, _, before, rest, _ => by
    rw [writeItems, List.append_nil]
    rfl
  | x :: items, h, fuel, before, rest, hfuel => by
    obtain ⟨gap, hcomma, hgap⟩ := hl.comma
    simp only [writeItems, hcomma, List.length_cons, List.length_append] at hfuel
    have hpos := length_writeItems_pos layout items
    obtain ⟨f, rfl⟩ : ∃ f, fuel = f + 2 := ⟨fuel - 2, by omega⟩
    have hx := readValue_write hl x h.1 (by omega : (write layout x).length ≤ f)
      (endsNumber_writeItems hl items rest)
    have hstart := (startsToken_write layout x).append (writeItems layout items ++ rest)
    rw [writeItems, hcomma]
    simp only [List.cons_append, List.append_assoc]
    rw [continueItems_comma hgap hstart, readItems_of_readValue hx,
      continueItems_writeItems hl items h.2 (by omega), List.reverse_cons, List.append_assoc]
    rfl

/-- The members after one are read with the closing brace. -/
theorem continueMembers_writeMembers (hl : layout.IsReadable) : (members : List (String × Json)) →
    MembersDistinct members → ∀ {fuel : Nat} {before : Members} {rest : List Char},
      Table.IsDistinct (before ++ members) → (writeMembers layout members).length ≤ fuel →
      continueMembers fuel before (writeMembers layout members ++ rest) =
        some (object (before ++ members), rest)
  | [], _, _, before, rest, _, _ => by
    rw [writeMembers, List.append_nil]
    rfl
  | (name, x) :: members, h, fuel, before, rest, hnames, hfuel => by
    obtain ⟨commaGap, hcomma, hcommaGap⟩ := hl.comma
    obtain ⟨colonGap, hcolon, hcolonGap⟩ := hl.colon
    simp only [writeMembers, hcomma, hcolon, List.length_cons, List.length_append] at hfuel
    obtain ⟨f, rfl⟩ : ∃ f, fuel = f + 2 := ⟨fuel - 2, by omega⟩
    have hx := readValue_write hl x h.1 (by omega : (write layout x).length ≤ f)
      (endsNumber_writeMembers hl members rest)
    have hstart := (startsToken_write layout x).append (writeMembers layout members ++ rest)
    have hfresh : name ∉ Table.keys before := by
      rw [Table.IsDistinct, Table.keys, List.map_append, List.nodup_append] at hnames
      exact fun hmem => hnames.2.2 name hmem name List.mem_cons_self rfl
    rw [writeMembers, hcomma, hcolon]
    simp only [List.cons_append, List.append_assoc]
    rw [continueMembers_comma hcommaGap, readMembers_of_readValue hcolonGap hstart hx,
      Table.set_of_not_mem hfresh, continueMembers_writeMembers hl members h.2 _ (by omega),
      List.append_assoc]
    · rfl
    · rw [List.append_assoc]
      exact hnames
    · exact ⟨'"', _, rfl, rfl⟩

end

/-- The text of a value is read as that value. -/
theorem read?_write (hl : layout.IsReadable) {j : Json} (h : j.IsDistinct) :
    read? (String.ofList (write layout j)) = some j := by
  have hends : EndsNumber [] := by rintro _ ⟨⟩
  have hread := readValue_write hl j h (le_refl (write layout j).length) hends
  rw [List.append_nil] at hread
  rw [read?, String.toList_ofList]
  simp only [skipGap_of_startsToken (startsToken_write layout j), hread]
  rfl

/-- **Text with spaces is read back.** -/
theorem read?_spaced {j : Json} (h : j.IsDistinct) : read? j.spaced = some j :=
  read?_write Layout.isReadable_spaced h

/-- **Text without spaces is read back.** -/
theorem read?_compact {j : Json} (h : j.IsDistinct) : read? j.compact = some j :=
  read?_write Layout.isReadable_compact h

/-! ## Line breaks -/

mutual

/-- No value has a line break in its text. -/
theorem not_mem_write (hcomma : '\n' ∉ layout.comma) (hcolon : '\n' ∉ layout.colon) :
    (j : Json) → '\n' ∉ write layout j
  | null => by simp [write]
  | bool true => by simp [write]
  | bool false => by simp [write]
  | int n => not_mem_ofInt n
  | double x => not_mem_ofDouble (by decide) x
  | text s => not_mem_quoted layout.asciiOnly s
  | list [] => by simp [write]
  | list (x :: items) => by
    have hx := not_mem_write hcomma hcolon x
    have hitems := not_mem_writeItems hcomma hcolon items
    simp [write, hx, hitems]
  | object [] => by simp [write]
  | object ((name, x) :: members) => by
    have hname := not_mem_quoted layout.asciiOnly name
    have hx := not_mem_write hcomma hcolon x
    have hmembers := not_mem_writeMembers hcomma hcolon members
    simp [write, hname, hcolon, hx, hmembers]

theorem not_mem_writeItems (hcomma : '\n' ∉ layout.comma) (hcolon : '\n' ∉ layout.colon) :
    (items : List Json) → '\n' ∉ writeItems layout items
  | [] => by simp [writeItems]
  | x :: items => by
    have hx := not_mem_write hcomma hcolon x
    have hitems := not_mem_writeItems hcomma hcolon items
    simp [writeItems, hcomma, hx, hitems]

theorem not_mem_writeMembers (hcomma : '\n' ∉ layout.comma) (hcolon : '\n' ∉ layout.colon) :
    (members : List (String × Json)) → '\n' ∉ writeMembers layout members
  | [] => by simp [writeMembers]
  | (name, x) :: members => by
    have hname := not_mem_quoted layout.asciiOnly name
    have hx := not_mem_write hcomma hcolon x
    have hmembers := not_mem_writeMembers hcomma hcolon members
    simp [writeMembers, hcomma, hname, hcolon, hx, hmembers]

end

end Json

end SearchIndex
