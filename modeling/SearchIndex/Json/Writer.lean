/-
# JSON text

Two layouts are in use: `Layout.spaced` puts a space after each comma and colon and escapes
everything outside ASCII, `Layout.compact` has no spaces and keeps such characters as they are.  In
both a quote, a backslash and the controls are escaped, so that the text of a value never holds a
line break.
-/
import SearchIndex.Json
import SearchIndex.Number.Numeral

namespace SearchIndex.Json

/-- How JSON text is laid out. -/
structure Layout where
  /-- What stands between two items or members. -/
  comma : List Char
  /-- What stands between a name and its value. -/
  colon : List Char
  /-- Whether characters outside printable ASCII are escaped. -/
  asciiOnly : Bool

/-- Spaces after commas and colons, ASCII only. -/
def Layout.spaced : Layout := ⟨[',', ' '], [':', ' '], true⟩

/-- No spaces, characters kept. -/
def Layout.compact : Layout := ⟨[','], [':'], false⟩

/-- A lower-case hexadecimal digit. -/
def hexDigit (n : Nat) : Char := Nat.digitChar (n % 16)

/-- The escape of one UTF-16 unit. -/
def unitEscape (unit : Nat) : List Char :=
  ['\\', 'u', hexDigit (unit / 4096), hexDigit (unit / 256), hexDigit (unit / 16), hexDigit unit]

/-- A character as escapes: one, or two for a character beyond U+FFFF. -/
def charEscape (c : Char) : List Char :=
  if c.toNat < 0x10000 then unitEscape c.toNat
  else
    let offset := c.toNat - 0x10000
    unitEscape (0xD800 + offset / 1024) ++ unitEscape (0xDC00 + offset % 1024)

/-- A character as it stands within quotes. -/
def quotedChar (asciiOnly : Bool) (c : Char) : List Char :=
  if c = '"' then ['\\', '"']
  else if c = '\\' then ['\\', '\\']
  else if c = '\n' then ['\\', 'n']
  else if c = '\r' then ['\\', 'r']
  else if c = '\t' then ['\\', 't']
  else if c = '\x08' then ['\\', 'b']
  else if c = '\x0c' then ['\\', 'f']
  else if c.toNat < 0x20 then charEscape c
  else if asciiOnly && 0x7F ≤ c.toNat then charEscape c
  else [c]

/-- A text within quotes. -/
def quoted (asciiOnly : Bool) (s : String) : List Char :=
  '"' :: s.toList.flatMap (quotedChar asciiOnly) ++ ['"']

/-- The names that JSON text gives to the values that are no numbers. -/
def numberNames : Numeral.Names := ⟨"NaN", "Infinity"⟩

mutual

/-- The text of a value. -/
def write (layout : Layout) : Json → List Char
  | null => ['n', 'u', 'l', 'l']
  | bool true => ['t', 'r', 'u', 'e']
  | bool false => ['f', 'a', 'l', 's', 'e']
  | int n => Numeral.ofInt n
  | double x => Numeral.ofDouble numberNames x
  | text s => quoted layout.asciiOnly s
  | list [] => ['[', ']']
  | list (x :: rest) => '[' :: (write layout x ++ writeItems layout rest)
  | object [] => ['\x7b', '\x7d']
  | object ((name, x) :: rest) =>
    '\x7b' :: (quoted layout.asciiOnly name ++ layout.colon ++ write layout x
      ++ writeMembers layout rest)

/-- The items after the first one, and the closing bracket. -/
def writeItems (layout : Layout) : List Json → List Char
  | [] => [']']
  | x :: rest => layout.comma ++ write layout x ++ writeItems layout rest

/-- The members after the first one, and the closing brace. -/
def writeMembers (layout : Layout) : List (String × Json) → List Char
  | [] => ['\x7d']
  | (name, x) :: rest =>
    layout.comma ++ (quoted layout.asciiOnly name ++ layout.colon ++ write layout x
      ++ writeMembers layout rest)

end

/-- The text of a value with spaces, in ASCII. -/
def spaced (j : Json) : String := String.ofList (write .spaced j)

/-- The text of a value without spaces. -/
def compact (j : Json) : String := String.ofList (write .compact j)

end SearchIndex.Json
