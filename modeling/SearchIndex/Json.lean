/-
# JSON values

The dynamic values of this library: what a document holds, what a service answers, what a settings
file says.  Members of an object keep their order.  A number written without fraction and exponent
is a whole number of any size; any other is a double.
-/
import SearchIndex.Number.Double
import SearchIndex.Table

namespace SearchIndex

/-- A JSON value. -/
inductive Json where
  | null
  | bool (value : Bool)
  | int (value : Int)
  | double (value : Double)
  | text (value : String)
  | list (items : List Json)
  | object (members : List (String × Json))

namespace Json

instance : Inhabited Json := ⟨null⟩

/-- The members of an object. -/
abbrev Members := List (String × Json)

/-- Null, false, a zero, and empty texts, lists and objects count as nothing where a value is
optional. -/
def isVacant : Json → Bool
  | null => true
  | bool value => !value
  | int value => value == 0
  | double value => value.isZero
  | text value => value.isEmpty
  | list items => items.isEmpty
  | object members => members.isEmpty

/-- A text or null. -/
def ofText? (t : Option String) : Json := t.elim null text

/-- A truth value or null. -/
def ofBool? (b : Option Bool) : Json := b.elim null bool

/-- A list of texts. -/
def ofTexts (ts : List String) : Json := list (ts.map text)

end Json

end SearchIndex
