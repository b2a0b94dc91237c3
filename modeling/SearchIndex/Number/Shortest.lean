/-
# The shortest decimal of a double

A double is written with the fewest digits that read back to it; of the decimals with that many
digits that do, the one nearest to the number is taken.  A decimal grid of a given number of digits
has a point that reads back exactly when one of the two neighbours of the number on that grid does,
so two candidates per grid are enough.
-/
import SearchIndex.Number.Double

namespace SearchIndex

/-- The number `digits · 10^exponent`. -/
structure Decimal where
  /-- The digits, as one natural number. -/
  digits : Nat
  /-- The power of ten of the last digit. -/
  exponent : Int
deriving DecidableEq, Inhabited

namespace Double

/-- The quotient `(numerator / denominator) / 10^exponent` as numerator and denominator. -/
def descaled (numerator denominator : Nat) (exponent : Int) : Nat × Nat :=
  if 0 ≤ exponent then (numerator, denominator * tenTo exponent.toNat)
  else (numerator * tenTo (-exponent).toNat, denominator)

/-- The position of the first digit of a positive quotient: the power of ten it counts. -/
def leadingPower (numerator denominator : Nat) : Int :=
  let guess : Int := (digitCount numerator : Int) - digitCount denominator
  let (n, d) := descaled numerator denominator guess
  if n < d then guess - 1 else guess

/-- The neighbours of a quotient among the multiples of `10^exponent`, the nearer one first, and of
two equally near ones the even one. -/
def neighbours (numerator denominator : Nat) (exponent : Int) : List Decimal :=
  let (n, d) := descaled numerator denominator exponent
  let below : Decimal := ⟨n / d, exponent⟩
  let above : Decimal := ⟨n / d + 1, exponent⟩
  if roundHalfEven n d = n / d then [below, above] else [above, below]

/-- The decimal without zeros at the end of its digits. -/
def dropZeros (fuel : Nat) (d : Decimal) : Decimal :=
  match fuel with
  | 0 => d
  | fuel + 1 =>
    if d.digits ≠ 0 ∧ d.digits % 10 = 0 then dropZeros fuel ⟨d.digits / 10, d.exponent + 1⟩ else d

/-- The shortest decimal that reads back to the finite double, its sign left out.  When no grid of
up to 17 digits has one, all digits of the number are given. -/
def shortest (mantissa exponent : Nat) : Decimal :=
  let numerator := scaled mantissa exponent
  let lead := leadingPower numerator (twoTo 1074)
  let target := ofParts false mantissa exponent
  let candidates := (List.range 17).flatMap fun (places : Nat) =>
    neighbours numerator (twoTo 1074) (lead - places)
  let hit := candidates.find? fun c => ofDecimal false c.digits c.exponent = target
  let exact : Decimal := ⟨numerator * Nat.pow 5 1074, -1074⟩
  if mantissa = 0 then ⟨0, 0⟩ else dropZeros 1100 (hit.getD exact)

end Double

end SearchIndex
