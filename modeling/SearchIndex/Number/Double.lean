/-
# Double precision numbers

A finite double is `± mantissa · 2^(exponent - 1074)`, with a mantissa below `2^53` that is at least
`2^52` unless the exponent is zero.  This form is unique, so equality of the data is equality of
the numbers (the two zeros apart).  `Double.nearest` rounds a quotient of natural numbers; all of it
is exact arithmetic, so that reading and writing of numbers can be reasoned about.
-/

namespace SearchIndex

/-- Two to a power. -/
def twoTo (n : Nat) : Nat := Nat.pow 2 n

/-- Ten to a power. -/
def tenTo (n : Nat) : Nat := Nat.pow 10 n

/-- The mantissa and exponent are those of a finite double. -/
def Double.IsCanonical (mantissa exponent : Nat) : Prop :=
  mantissa < twoTo 53 ∧ exponent ≤ 2045 ∧ (exponent = 0 ∨ twoTo 52 ≤ mantissa)

instance (m e : Nat) : Decidable (Double.IsCanonical m e) := by
  unfold Double.IsCanonical; infer_instance

/-- A number in the double precision format. -/
inductive Double where
  /-- The value of an undefined operation. -/
  | nan
  /-- An infinity. -/
  | infinite (negative : Bool)
  /-- The number `± mantissa · 2^(exponent - 1074)`. -/
  | finite (negative : Bool) (mantissa exponent : Nat)
      (canonical : Double.IsCanonical mantissa exponent)
deriving DecidableEq

namespace Double

/-- The number `± mantissa · 2^(exponent - 1074)`, infinite when it is out of range. -/
def ofParts (negative : Bool) (mantissa exponent : Nat) : Double :=
  if h : IsCanonical mantissa exponent then finite negative mantissa exponent h
  else infinite negative

/-- A zero with its sign. -/
def signedZero (negative : Bool) : Double := finite negative 0 0 (by decide)

instance : Inhabited Double := ⟨signedZero false⟩

/-- The exponent of the unit in which the quotient has a mantissa of 53 bits, or zero for a smaller
quotient. -/
def unitExponent (numerator denominator : Nat) : Nat :=
  let guess := (numerator.log2 + 1021) - denominator.log2
  if denominator * twoTo guess * twoTo 53 ≤ numerator * twoTo 1074 then guess + 1 else guess

/-- The quotient rounded to a whole number, a half to the even neighbour. -/
def roundHalfEven (numerator denominator : Nat) : Nat :=
  let whole := numerator / denominator
  let rest := numerator % denominator
  if denominator < 2 * rest ∨ (2 * rest = denominator ∧ whole % 2 = 1) then whole + 1 else whole

/-- The double nearest to a quotient, with the even mantissa when two are equally near. -/
def nearest (negative : Bool) (numerator denominator : Nat) : Double :=
  if numerator = 0 then signedZero negative
  else
    let exponent := unitExponent numerator denominator
    let mantissa := roundHalfEven (numerator * twoTo 1074) (denominator * twoTo exponent)
    if mantissa = twoTo 53 then ofParts negative (twoTo 52) (exponent + 1)
    else ofParts negative mantissa exponent

/-- The number of decimal digits of a natural number. -/
def digitCount (n : Nat) : Nat := (Nat.toDigits 10 n).length

/-- The double nearest to `± digits · 10^exponent`.  Exponents far out of the range of doubles are
decided by the position of the first digit alone. -/
def ofDecimal (negative : Bool) (digits : Nat) (exponent : Int) : Double :=
  let position := exponent + digitCount digits
  if digits = 0 ∨ position < -400 then signedZero negative
  else if 400 < position then infinite negative
  else if 0 ≤ exponent then nearest negative (digits * tenTo exponent.toNat) 1
  else nearest negative digits (tenTo (-exponent).toNat)

/-- The double nearest to a whole number. -/
def ofInt (n : Int) : Double := nearest (n < 0) n.natAbs 1

/-- The number is zero, of either sign. -/
def isZero : Double → Bool
  | finite _ mantissa _ _ => mantissa == 0
  | _ => false

/-- The numerator of a finite number over `2^1074`, without its sign. -/
def scaled (mantissa exponent : Nat) : Nat := mantissa * twoTo exponent

/-- The whole part of a finite number, cut toward zero. -/
def truncate? : Double → Option Int
  | finite negative mantissa exponent _ =>
    let whole : Int := scaled mantissa exponent / twoTo 1074
    some (if negative then -whole else whole)
  | _ => none

/-- The value of a number without a fraction. -/
def whole? : Double → Option Int
  | x@(finite _ mantissa exponent _) =>
    if scaled mantissa exponent % twoTo 1074 = 0 then x.truncate? else none
  | _ => none

end Double

end SearchIndex
