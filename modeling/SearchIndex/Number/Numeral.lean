/-
# Numerals

The written forms of numbers.  Whole numbers are written in decimal.  A double is written with its
shortest digits, positionally while its first digit stands between `10^-4` and `10^15`, and
otherwise as a power of ten with an exponent of at least two digits; a positional numeral always has
a point.  `Numeral.scan` reads the number grammar of JSON back.
-/
import SearchIndex.Number.Shortest
import SearchIndex.Text.Digit

namespace SearchIndex

namespace Numeral

/-- The decimal digits of a natural number. -/
def ofNat (n : Nat) : List Char := Nat.toDigits 10 n

/-- A whole number in decimal, with a minus sign when it is negative. -/
def ofInt (n : Int) : List Char :=
  if n < 0 then '-' :: ofNat n.natAbs else ofNat n.natAbs

/-- The exponent part of a numeral: a sign and at least two digits. -/
def exponentPart (power : Int) : List Char :=
  let digits := ofNat power.natAbs
  'e' :: (if power < 0 then '-' else '+') ::
    (if digits.length < 2 then '0' :: digits else digits)

/-- The digits with a point after the first `before` of them, filled up with zeros on either side
where digits are missing. -/
def positional (digits : List Char) (before : Int) : List Char :=
  if before ≤ 0 then '0' :: '.' :: List.replicate (-before).toNat '0' ++ digits
  else if digits.length ≤ before.toNat then
    digits ++ List.replicate (before.toNat - digits.length) '0' ++ ['.', '0']
  else digits.take before.toNat ++ '.' :: digits.drop before.toNat

/-- One digit before the point and the others after it, then the exponent. -/
def scientific (digits : List Char) (power : Int) : List Char :=
  match digits with
  | [] => exponentPart power
  | [d] => d :: exponentPart power
  | d :: rest => d :: '.' :: rest ++ exponentPart power

/-- A decimal as a numeral. -/
def ofDecimal (d : Decimal) : List Char :=
  let digits := ofNat d.digits
  let before := d.exponent + digits.length
  if -4 < before ∧ before ≤ 16 then positional digits before else scientific digits (before - 1)

/-- How the values that are no numbers are spelled. -/
structure Names where
  /-- The name of the undefined value. -/
  nan : String
  /-- The name of the infinity. -/
  infinity : String

/-- A double as a numeral. -/
def ofDouble (names : Names) : Double → List Char
  | .nan => names.nan.toList
  | .infinite negative => (if negative then ['-'] else []) ++ names.infinity.toList
  | .finite negative mantissa exponent _ =>
    (if negative then ['-'] else []) ++ ofDecimal (Double.shortest mantissa exponent)

/-- The digits at the start of the characters, and what follows them. -/
def digits (cs : List Char) : List Char × List Char :=
  (cs.takeWhile Char.isDigit, cs.dropWhile Char.isDigit)

/-- The natural number that ASCII digits write. -/
def value (ds : List Char) : Nat :=
  ds.foldl (fun n c => 10 * n + (c.toNat - '0'.toNat)) 0

/-- A number as its grammar gives it: whole when it has neither a fraction nor an exponent. -/
inductive Scanned where
  | whole (n : Int)
  | double (x : Double)

/-- The exponent part at the start of the characters, zero digits long when there is none. -/
def scanExponent (cs : List Char) : Option Int × List Char :=
  match cs with
  | c :: rest =>
    if c = 'e' ∨ c = 'E' then
      let (negative, rest') :=
        match rest with
        | '-' :: r => (true, r)
        | '+' :: r => (false, r)
        | r => (false, r)
      match digits rest' with
      | ([], _) => (none, cs)
      | (ds, after) =>
        (some (if negative then -(value ds : Int) else (value ds : Int)), after)
    else (none, cs)
  | [] => (none, cs)

/-- The fraction digits at the start of the characters; a point without digits is none. -/
def scanFraction (cs : List Char) : List Char × List Char :=
  match cs with
  | '.' :: rest =>
    match digits rest with
    | ([], _) => ([], cs)
    | found => found
  | _ => ([], cs)

/-- The whole part of a number: a zero alone, or digits that do not start with zero. -/
def scanWhole (cs : List Char) : Option (List Char × List Char) :=
  match cs with
  | '0' :: rest => some (['0'], rest)
  | _ =>
    match digits cs with
    | ([], _) => none
    | found => some found

/-- Reads a number of JSON from the start of the characters. -/
def scan (cs : List Char) : Option (Scanned × List Char) :=
  let (negative, unsigned) :=
    match cs with
    | '-' :: rest => (true, rest)
    | _ => (false, cs)
  match scanWhole unsigned with
  | none => none
  | some (whole, afterWhole) =>
    let (fraction, afterFraction) := scanFraction afterWhole
    let (exponent, rest) := scanExponent afterFraction
    if fraction.isEmpty && exponent.isNone then
      let n : Int := value whole
      some (.whole (if negative then -n else n), rest)
    else
      let mantissa := value (whole ++ fraction)
      let power := exponent.getD 0 - fraction.length
      some (.double (Double.ofDecimal negative mantissa power), rest)

end Numeral

end SearchIndex
