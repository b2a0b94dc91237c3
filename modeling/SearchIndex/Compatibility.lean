/-
# Compatible types

A policy lists, for an expected field type, the types that may stand in for it on the service.  A
type always stands in for itself.
-/
import SearchIndex.Mapping.FieldType
import SearchIndex.Failure

namespace SearchIndex

/-- A policy: for some expected types, the types accepted in their place. -/
structure Compatibility where
  /-- The accepted types of each listed type. -/
  table : List (DataType × List DataType)
deriving DecidableEq

namespace Compatibility

/-- An integer may be a long, a float a double. -/
def standard : Compatibility := ⟨[(.integer, [.long]), (.float, [.double])]⟩

instance : Inhabited Compatibility := ⟨standard⟩

/-- The types listed for an expected type. -/
def listed (policy : Compatibility) (expected : DataType) : List DataType :=
  ((policy.table.find? fun row => row.1 = expected).map (·.2)).getD []

/-- Whether a field of the actual type will do where the expected type is wanted. -/
def accepts (policy : Compatibility) (expected actual : FieldType) : Bool :=
  expected = actual ||
    match expected.known?, actual.known? with
    | some e, some a => a ∈ policy.listed e
    | _, _ => false

/-- The types that will do for an expected one, itself first and the others by name. -/
def accepted (policy : Compatibility) (expected : DataType) : List DataType :=
  expected :: ((sortTexts ((policy.listed expected).eraseDups.map DataType.name)).filterMap
    DataType.ofName?)

/-- Reads a type name of a policy. -/
def readType (j : Json) : Except Failure DataType :=
  match j with
  | .text s =>
    match DataType.ofName? s with
    | some t => .ok t
    | none => .error (.invalidCompatibility j)
  | _ => .error (.invalidCompatibility j)

/-- The values that a list of accepted types holds; a text counts as the list of its characters and
an object as the list of its names. -/
def itemsOf : Json → Except Failure (List Json)
  | .list items => .ok items
  | .text s => .ok (s.toList.map fun c => .text (String.singleton c))
  | .object members => .ok (members.map fun m => .text m.1)
  | _ => .error (.misfit .wrongKind)

/-- Reads the rows of a policy in order. -/
def readRows : List (String × Json) → Except Failure (List (DataType × List DataType))
  | [] => .ok []
  | (name, j) :: rest => do
    let expected ← readType (.text name)
    let accepted ← (← itemsOf j).mapM readType
    let rows ← readRows rest
    return (expected, accepted) :: rows

/-- Reads a policy; null stands for the standard one. -/
def ofConfig : Json → Except Failure Compatibility
  | .null => .ok standard
  | .object members => do return ⟨← readRows members⟩
  | _ => .error (.misfit .notAnObject)

theorem accepts_self (policy : Compatibility) (t : FieldType) : policy.accepts t t = true := by
  simp [accepts]

end Compatibility

end SearchIndex
