/-
# Lower case

The full lower-casing of Unicode.  Almost every character has one lower-case form of its own; the
exceptions are the dotted capital I, whose form is two characters long, and the capital sigma, which
has a special form at the end of a word.
-/
import SearchIndex.Text.Ranges
import SearchIndex.Text.LowerCase.Table

namespace SearchIndex.Text

namespace LowerCase

/-- The lower-case form of a character by itself. -/
def simple (c : Char) : Char :=
  if c.toNat < 0x80 then c.toLower
  else match mappings.find? fun (first, last, step, _) =>
      first ≤ c.toNat && c.toNat ≤ last && (c.toNat - first) % step == 0 with
    | some (_, _, _, offset) => Char.ofNat (c.toNat + offset).toNat
    | none => c

/-- Whether the nearest character of a run that counts has case. -/
def startsCased (run : List Char) : Bool :=
  match run.dropWhile (inRanges ignorable) with
  | c :: _ => inRanges cased c
  | [] => false

/-- A sigma ends a word when a letter stands before it and none after it.  The characters before it
are given from the nearest on. -/
def endsWord (before after : List Char) : Bool :=
  startsCased before && !startsCased after

/-- The lower-case form of a character between its neighbours. -/
def form (before : List Char) (c : Char) (after : List Char) : List Char :=
  if c = 'Σ' then [if endsWord before after then 'ς' else 'σ']
  else if c = 'İ' then ['i', Char.ofNat 0x307]
  else [simple c]

/-- Lower-cases the characters, of which `before` (nearest first) have been passed. -/
def formsFrom (before : List Char) : List Char → List Char
  | [] => []
  | c :: after => form before c after ++ formsFrom (c :: before) after

end LowerCase

/-- The text in lower case. -/
def lowerCase (s : String) : String :=
  String.ofList (LowerCase.formsFrom [] s.toList)

end SearchIndex.Text
