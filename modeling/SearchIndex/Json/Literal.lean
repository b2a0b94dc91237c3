/-
# Values inside messages

Messages show a value as a literal: texts in single quotes (in double quotes when they hold a single
quote and no double one), `None`, `True` and `False`, lists in brackets and objects in braces.
`display` shows a text without quotes when it stands alone.
-/
import SearchIndex.Json.Writer
import SearchIndex.Text.Printable

namespace SearchIndex.Json

/-- The given number of hexadecimal digits of a number. -/
def hexDigits : Nat → Nat → List Char
  | 0, _ => []
  | places + 1, n => hexDigit (n / Nat.pow 16 places) :: hexDigits places n

/-- A character as it stands in a literal between the given quotes. -/
def literalChar (quote c : Char) : List Char :=
  if c = quote ∨ c = '\\' then ['\\', c]
  else if c = '\n' then ['\\', 'n']
  else if c = '\r' then ['\\', 'r']
  else if c = '\t' then ['\\', 't']
  else if Text.isPrintable c then [c]
  else if c.toNat < 0x100 then '\\' :: 'x' :: hexDigits 2 c.toNat
  else if c.toNat < 0x10000 then '\\' :: 'u' :: hexDigits 4 c.toNat
  else '\\' :: 'U' :: hexDigits 8 c.toNat

/-- The quote that surrounds the literal of a text. -/
def literalQuote (cs : List Char) : Char :=
  if '\'' ∈ cs ∧ '"' ∉ cs then '"' else '\''

/-- The literal of a text. -/
def textLiteral (s : String) : List Char :=
  let quote := literalQuote s.toList
  quote :: s.toList.flatMap (literalChar quote) ++ [quote]

/-- The names that messages give to the values that are no numbers. -/
def literalNames : Numeral.Names := ⟨"nan", "inf"⟩

mutual

/-- The literal of a value. -/
def literal : Json → List Char
  | null => ['N', 'o', 'n', 'e']
  | bool true => ['T', 'r', 'u', 'e']
  | bool false => ['F', 'a', 'l', 's', 'e']
  | int n => Numeral.ofInt n
  | double x => Numeral.ofDouble literalNames x
  | text s => textLiteral s
  | list [] => ['[', ']']
  | list (x :: rest) => '[' :: (literal x ++ literalItems rest)
  | object [] => ['\x7b', '\x7d']
  | object ((name, x) :: rest) =>
    '\x7b' :: (textLiteral name ++ [':', ' '] ++ literal x ++ literalMembers rest)

/-- The items after the first one, and the closing bracket. -/
def literalItems : List Json → List Char
  | [] => [']']
  | x :: rest => ',' :: ' ' :: (literal x ++ literalItems rest)

/-- The members after the first one, and the closing brace. -/
def literalMembers : List (String × Json) → List Char
  | [] => ['\x7d']
  | (name, x) :: rest =>
    ',' :: ' ' :: (textLiteral name ++ [':', ' '] ++ literal x ++ literalMembers rest)

end

/-- A value as a message shows it: a text as it is, anything else as its literal. -/
def display : Json → String
  | text s => s
  | j => String.ofList (literal j)

/-- A value as a message quotes it. -/
def shown (j : Json) : String := String.ofList (literal j)

end SearchIndex.Json
