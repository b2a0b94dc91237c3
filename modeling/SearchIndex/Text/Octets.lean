/-
# Octets

Texts as UTF-8 octets, and back.  Reading never fails: octets that no character starts or continues
with are replaced, the ones read so far of a broken character together.
-/

namespace SearchIndex.Text

/-- The UTF-8 octets of a character. -/
def octetsOfChar (c : Char) : List Nat :=
  let n := c.toNat
  if n < 0x80 then [n]
  else if n < 0x800 then [0xC0 + n / 0x40, 0x80 + n % 0x40]
  else if n < 0x10000 then [0xE0 + n / 0x1000, 0x80 + n / 0x40 % 0x40, 0x80 + n % 0x40]
  else
    [0xF0 + n / 0x40000, 0x80 + n / 0x1000 % 0x40, 0x80 + n / 0x40 % 0x40, 0x80 + n % 0x40]

/-- The UTF-8 octets of a text. -/
def octets (s : String) : List Nat := s.toList.flatMap octetsOfChar

/-- What a character that has been begun still needs. -/
structure Owed where
  /-- How many octets. -/
  count : Nat
  /-- The value of those read so far. -/
  value : Nat
  /-- The least octet that may come next. -/
  low : Nat
  /-- The greatest octet that may come next. -/
  high : Nat

/-- What the first octet of a character makes: a character, the need for more, or neither. -/
def firstOctet (b : Nat) : Option (Sum Char Owed) :=
  if b < 0x80 then some (.inl (Char.ofNat b))
  else if 0xC2 ≤ b ∧ b ≤ 0xDF then some (.inr ⟨1, b - 0xC0, 0x80, 0xBF⟩)
  else if b = 0xE0 then some (.inr ⟨2, 0, 0xA0, 0xBF⟩)
  else if b = 0xED then some (.inr ⟨2, 0xD, 0x80, 0x9F⟩)
  else if 0xE1 ≤ b ∧ b ≤ 0xEF then some (.inr ⟨2, b - 0xE0, 0x80, 0xBF⟩)
  else if b = 0xF0 then some (.inr ⟨3, 0, 0x90, 0xBF⟩)
  else if 0xF1 ≤ b ∧ b ≤ 0xF3 then some (.inr ⟨3, b - 0xF0, 0x80, 0xBF⟩)
  else if b = 0xF4 then some (.inr ⟨3, 4, 0x80, 0x8F⟩)
  else none

/-- The character that stands for octets that are none. -/
def replacement : Char := '\uFFFD'

/-- What an octet makes that no begun character waits for: the characters that it completes, and
what the one that it begins needs. -/
def beginWith (b : Nat) : List Char × Option Owed :=
  match firstOctet b with
  | some (.inl c) => ([c], none)
  | some (.inr owed) => ([], some owed)
  | none => ([replacement], none)

/-- What an octet makes, given what a begun character needs. -/
def readOctet : Option Owed → Nat → List Char × Option Owed
  | none, b => beginWith b
  | some owed, b =>
    if owed.low ≤ b ∧ b ≤ owed.high then
      let value := owed.value * 0x40 + (b - 0x80)
      if owed.count ≤ 1 then ([Char.ofNat value], none)
      else ([], some ⟨owed.count - 1, value, 0x80, 0xBF⟩)
    else
      let (chars, owed) := beginWith b
      (replacement :: chars, owed)

/-- The characters that octets write, given what a begun character needs. -/
def readOctets : Option Owed → List Nat → List Char
  | none, [] => []
  | some _, [] => [replacement]
  | owed, b :: rest =>
    let (chars, owed) := readOctet owed b
    chars ++ readOctets owed rest

/-! ## Octets in ASCII -/

/-- The digit of a number below 64. -/
def sixBitDigit (n : Nat) : Char :=
  if n < 26 then Char.ofNat ('A'.toNat + n)
  else if n < 52 then Char.ofNat ('a'.toNat + (n - 26))
  else if n < 62 then Char.ofNat ('0'.toNat + (n - 52))
  else if n = 62 then '+'
  else '/'

/-- Three octets as four digits of six bits each; missing octets are marked. -/
def sixBits : List Nat → List Char
  | a :: b :: c :: rest =>
    let n := (a * 256 + b) * 256 + c
    sixBitDigit (n / 0x40000) :: sixBitDigit (n / 0x1000 % 64) :: sixBitDigit (n / 64 % 64) ::
      sixBitDigit (n % 64) :: sixBits rest
  | [a, b] =>
    let n := (a * 256 + b) * 4
    [sixBitDigit (n / 0x1000), sixBitDigit (n / 64 % 64), sixBitDigit (n % 64), '=']
  | [a] =>
    let n := a * 16
    [sixBitDigit (n / 64), sixBitDigit (n % 64), '=', '=']
  | [] => []

/-- The octets of a text in digits of six bits. -/
def base64 (s : String) : String := String.ofList (sixBits (octets s))

end SearchIndex.Text
