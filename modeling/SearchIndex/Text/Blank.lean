/-
# Blank characters

Two sets of blanks are in use.  `isBlank` is the wide one, with the four separator controls
U+001C to U+001F; texts are stripped of it.  `isSpace` leaves those four out; it may surround a
number in a setting.
-/
import SearchIndex.Text.Ranges

namespace SearchIndex.Text

/-- The white space characters of Unicode. -/
def spaces : List (Nat × Nat) :=
  [(0x9, 0xD), (0x20, 0x20), (0x85, 0x85), (0xA0, 0xA0), (0x1680, 0x1680), (0x2000, 0x200A),
   (0x2028, 0x2029), (0x202F, 0x202F), (0x205F, 0x205F), (0x3000, 0x3000)]

/-- White space in the sense of Unicode. -/
def isSpace (c : Char) : Bool := inRanges spaces c

/-- White space, or one of the separator controls. -/
def isBlank (c : Char) : Bool := isSpace c || inRanges [(0x1C, 0x1F)] c

/-- The characters without those of a class at either end. -/
def trimmed (drop : Char → Bool) (cs : List Char) : List Char :=
  ((cs.dropWhile drop).reverse.dropWhile drop).reverse

/-- The text without blanks at its ends. -/
def strip (s : String) : String := String.ofList (trimmed isBlank s.toList)

end SearchIndex.Text
