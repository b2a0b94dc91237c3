/-
# Lenient scalars

Texts are taken only from texts.  Truth values and numbers are also read from texts and from each
other as long as nothing is lost: `"yes"` is true, `"1_000"` and `2.0` are whole numbers, `true`
is one.
-/
import SearchIndex.Validation
import SearchIndex.Number.Numeral
import SearchIndex.Text.Blank

namespace SearchIndex

/-- A text. -/
def checkText : Json → Checked String
  | .text s => .valid s
  | _ => .issue .stringType

/-! ## Truth values -/

/-- The truth value that a word stands for, in any case of its ASCII letters. -/
def truthOfWord? (word : String) : Option Bool :=
  let word := String.ofList (word.toList.map Char.toLower)
  if word ∈ ["0", "off", "f", "false", "n", "no"] then some false
  else if word ∈ ["1", "on", "t", "true", "y", "yes"] then some true
  else none

/-- The whole numbers that a 64-bit register holds. -/
def fitsRegister (n : Int) : Bool := -(twoTo 63 : Int) ≤ n && n < twoTo 63

/-- The truth value that a number stands for. -/
def checkTruthNumber (n : Int) : Checked Bool :=
  if n = 0 then .valid false
  else if n = 1 then .valid true
  else .issue .boolParsing

/-- A truth value, or a word or number that stands for one. -/
def checkBool : Json → Checked Bool
  | .bool b => .valid b
  | .text s => match truthOfWord? s with
    | some b => .valid b
    | none => .issue .boolParsing
  | .int n => if fitsRegister n then checkTruthNumber n else .issue .boolType
  | .double x => match x.whole? with
    | some n => if fitsRegister n then checkTruthNumber n else .issue .boolType
    | none => .issue .boolType
  | _ => .issue .boolType

/-! ## Whole numbers -/

/-- Digits in groups that single underscores join. -/
def groupedDigits? (cs : List Char) : Option (List Char) :=
  let groups := cs.splitOn '_'
  if groups.all fun g => !g.isEmpty && g.all Char.isDigit then some groups.flatten else none

/-- The characters without a sign, and whether the sign was a minus. -/
def unsigned (cs : List Char) : Bool × List Char :=
  match cs with
  | '-' :: rest => (true, rest)
  | '+' :: rest => (false, rest)
  | _ => (false, cs)

/-- The whole number that grouped digits with a sign write. -/
def signedWhole? (cs : List Char) : Option Int :=
  let (negative, rest) := unsigned cs
  (groupedDigits? rest).map fun ds =>
    let n : Int := Numeral.value ds
    if negative then -n else n

/-- The characters without a fraction that holds zeros only. -/
def dropZeroFraction (cs : List Char) : List Char :=
  match cs.dropWhile (· ≠ '.') with
  | '.' :: fraction => if fraction.all (· = '0') then cs.takeWhile (· ≠ '.') else cs
  | _ => cs

/-- The whole number that a text writes: white space around it, a sign, digits with single
underscores between them and a fraction of zeros are all allowed. -/
def wholeOfText? (s : String) : Option Int :=
  signedWhole? (dropZeroFraction (Text.trimmed Text.isSpace s.toList))

/-- A whole number, or a value that stands for one. -/
def checkInt : Json → Checked Int
  | .int n => .valid n
  | .bool b => .valid (if b then 1 else 0)
  | .text s => match wholeOfText? s with
    | some n => .valid n
    | none => .issue .intParsing
  | .double x => match x.whole?, x.truncate? with
    | some n, _ => if fitsRegister n then .valid n else .issue .intParsingSize
    | none, some _ => .issue .intFromFloat
    | none, none => .issue .finiteNumber
  | _ => .issue .intType

/-- A whole number that is not below a bound. -/
def checkIntFrom (bound : Int) (j : Json) : Checked Int :=
  (checkInt j).andThen fun n => if n < bound then .issue .greaterThanEqual else .valid n

/-! ## Doubles -/

/-- The double that the digits of an unsigned numeral write: digits with a fraction, either of
which may be empty but not both, and an exponent. -/
def doubleOfNumeral? (negative : Bool) (cs : List Char) : Option Double :=
  let (whole, afterWhole) := Numeral.digits cs
  let (fraction, afterFraction) :=
    match afterWhole with
    | '.' :: rest => Numeral.digits rest
    | _ => ([], afterWhole)
  let (exponent, rest) := Numeral.scanExponent afterFraction
  if (whole.isEmpty && fraction.isEmpty) || !rest.isEmpty then none
  else
    some (Double.ofDecimal negative (Numeral.value (whole ++ fraction))
      (exponent.getD 0 - fraction.length))

/-- The double that characters write, the names of the values that are no numbers included. -/
def doubleOfChars? (cs : List Char) : Option Double :=
  let (negative, rest) := unsigned cs
  let word := String.ofList (rest.map Char.toLower)
  if word = "inf" ∨ word = "infinity" then some (.infinite negative)
  else if word = "nan" then some .nan
  else doubleOfNumeral? negative rest

/-- The characters without underscores, when those are single and stand inside. -/
def joinGroups? (cs : List Char) : Option (List Char) :=
  let groups := cs.splitOn '_'
  if 1 < groups.length ∧ groups.all (fun g => !g.isEmpty) then some groups.flatten else none

/-- The double that a text writes, with white space around it or underscores in it. -/
def doubleOfText? (s : String) : Option Double :=
  match doubleOfChars? (Text.trimmed Text.isSpace s.toList) with
  | some x => some x
  | none => (joinGroups? s.toList).bind doubleOfChars?

/-- A double, or a value that stands for one. -/
def checkDouble : Json → Checked Double
  | .double x => .valid x
  | .int n => match Double.ofInt n with
    | .infinite _ => .issue .floatType
    | x => .valid x
  | .bool b => .valid (Double.ofInt (if b then 1 else 0))
  | .text s => match doubleOfText? s with
    | some x => .valid x
    | none => .issue .floatParsing
  | _ => .issue .floatType

/-! ## Names from a fixed list -/

/-- A text that names a member of an enumeration. -/
def checkMember {α : Type} (ofName? : String → Option α) : Json → Checked α
  | .text s => match ofName? s with
    | some a => .valid a
    | none => .issue .notAMember
  | _ => .issue .notAMember

/-- The distinct whole numbers of a list, in increasing order. -/
def checkIntSet : Json → Checked (List Int)
  | .list items => (checkItems checkInt 0 items).map fun ns =>
    ns.foldr (fun n acc => if n ∈ acc then acc else insertInt n acc) []
  | _ => .issue .setType
where
  /-- Inserts a number before the first greater one. -/
  insertInt (n : Int) : List Int → List Int
    | [] => [n]
    | m :: rest => if m < n then m :: insertInt n rest else n :: m :: rest

end SearchIndex
