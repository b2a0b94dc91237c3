/-
# Reading JSON text

A reader by recursive descent.  The fuel bounds the nesting together with the length of lists; every
call consumes a character before it makes another, so the length of the text is always enough.  A
name that an object repeats keeps its first place and takes its last value.
-/
import SearchIndex.Json
import SearchIndex.Json.Writer
import SearchIndex.Number.Numeral

namespace SearchIndex.Json

/-- The characters that may stand between the tokens of JSON text. -/
def isGap (c : Char) : Bool := c = ' ' || c = '\t' || c = '\n' || c = '\r'

/-- The characters from the next token on. -/
def skipGap (cs : List Char) : List Char := cs.dropWhile isGap

/-- The value of a hexadecimal digit. -/
def hexValue? (c : Char) : Option Nat :=
  if '0' ≤ c ∧ c ≤ '9' then some (c.toNat - '0'.toNat)
  else if 'a' ≤ c ∧ c ≤ 'f' then some (c.toNat - 'a'.toNat + 10)
  else if 'A' ≤ c ∧ c ≤ 'F' then some (c.toNat - 'A'.toNat + 10)
  else none

/-- The unit that four hexadecimal digits write. -/
def unit? (a b c d : Char) : Option Nat := do
  let a ← hexValue? a
  let b ← hexValue? b
  let c ← hexValue? c
  let d ← hexValue? d
  return ((a * 16 + b) * 16 + c) * 16 + d

/-- The character that a letter after a backslash stands for. -/
def shortEscape? : Char → Option Char
  | '"' => some '"'
  | '\\' => some '\\'
  | '/' => some '/'
  | 'b' => some '\x08'
  | 'f' => some '\x0c'
  | 'n' => some '\n'
  | 'r' => some '\r'
  | 't' => some '\t'
  | _ => none

/-- The code points and UTF-16 units up to the closing quote, and what follows it. -/
def readUnits : List Char → Option (List Nat × List Char)
  | [] => none
  | '"' :: rest => some ([], rest)
  | '\\' :: 'u' :: a :: b :: c :: d :: rest =>
    match unit? a b c d, readUnits rest with
    | some u, some (us, after) => some (u :: us, after)
    | _, _ => none
  | '\\' :: e :: rest =>
    match shortEscape? e, readUnits rest with
    | some c, some (us, after) => some (c.toNat :: us, after)
    | _, _ => none
  | c :: rest =>
    if c = '\\' ∨ c.toNat < 0x20 then none
    else
      match readUnits rest with
      | some (us, after) => some (c.toNat :: us, after)
      | none => none

/-- The character of a code point; half of a surrogate pair is replaced. -/
def ofUnit (u : Nat) : Char := if 0xD800 ≤ u ∧ u ≤ 0xDFFF then '\uFFFD' else Char.ofNat u

/-- The characters that code points and pairs of surrogates stand for. -/
def joinUnits : List Nat → List Char
  | high :: low :: rest =>
    if 0xD800 ≤ high ∧ high ≤ 0xDBFF ∧ 0xDC00 ≤ low ∧ low ≤ 0xDFFF then
      Char.ofNat (0x10000 + (high - 0xD800) * 1024 + (low - 0xDC00)) :: joinUnits rest
    else ofUnit high :: joinUnits (low :: rest)
  | [u] => [ofUnit u]
  | [] => []

/-- Reads a text whose opening quote has been passed. -/
def readText (cs : List Char) : Option (String × List Char) :=
  (readUnits cs).map fun (us, rest) => (String.ofList (joinUnits us), rest)

/-- Reads a number, or one of the names of the values that are no numbers. -/
def readNumber (cs : List Char) : Option (Json × List Char) :=
  match cs with
  | 'N' :: 'a' :: 'N' :: rest => some (double .nan, rest)
  | 'I' :: 'n' :: 'f' :: 'i' :: 'n' :: 'i' :: 't' :: 'y' :: rest =>
    some (double (.infinite false), rest)
  | '-' :: 'I' :: 'n' :: 'f' :: 'i' :: 'n' :: 'i' :: 't' :: 'y' :: rest =>
    some (double (.infinite true), rest)
  | _ =>
    match Numeral.scan cs with
    | some (.whole n, rest) => some (int n, rest)
    | some (.double x, rest) => some (double x, rest)
    | none => none

mutual

/-- Reads a value from the start of the characters. -/
def readValue : Nat → List Char → Option (Json × List Char)
  | 0, _ => none
  | fuel + 1, cs =>
    match cs with
    | '"' :: rest => (readText rest).map fun (s, after) => (text s, after)
    | '[' :: rest =>
      match skipGap rest with
      | ']' :: after => some (list [], after)
      | start => readItems fuel [] start
    | '\x7b' :: rest =>
      match skipGap rest with
      | '\x7d' :: after => some (object [], after)
      | start => readMembers fuel [] start
    | 'n' :: 'u' :: 'l' :: 'l' :: rest => some (null, rest)
    | 't' :: 'r' :: 'u' :: 'e' :: rest => some (bool true, rest)
    | 'f' :: 'a' :: 'l' :: 's' :: 'e' :: rest => some (bool false, rest)
    | _ => readNumber cs

/-- Reads the items of a list up to its closing bracket; those before are given latest first. -/
def readItems : Nat → List Json → List Char → Option (Json × List Char)
  | 0, _, _ => none
  | fuel + 1, before, cs =>
    match readValue fuel cs with
    | none => none
    | some (x, rest) =>
      match skipGap rest with
      | ',' :: after => readItems fuel (x :: before) (skipGap after)
      | ']' :: after => some (list (x :: before).reverse, after)
      | _ => none

/-- Reads the members of an object up to its closing brace. -/
def readMembers : Nat → List (String × Json) → List Char → Option (Json × List Char)
  | 0, _, _ => none
  | fuel + 1, before, cs =>
    match cs with
    | '"' :: rest =>
      match readText rest with
      | none => none
      | some (name, afterName) =>
        match skipGap afterName with
        | ':' :: afterColon =>
          match readValue fuel (skipGap afterColon) with
          | none => none
          | some (x, afterValue) =>
            match skipGap afterValue with
            | ',' :: after => readMembers fuel (Table.set before name x) (skipGap after)
            | '\x7d' :: after => some (object (Table.set before name x), after)
            | _ => none
        | _ => none
    | _ => none

end

/-- The value that a text writes, with gaps allowed around it. -/
def read? (s : String) : Option Json :=
  let cs := skipGap s.toList
  match readValue (cs.length + 1) cs with
  | some (j, rest) => if (skipGap rest).isEmpty then some j else none
  | none => none

end SearchIndex.Json
