/-
# Validation

Data from outside is checked as a whole: every issue is collected, with the path at which it was
found, in the order in which the fields are declared.  `Checked` is the result of such a check; its
applicative structure joins the issues of the parts.
-/
import SearchIndex.Json

namespace SearchIndex

/-- One step of the path to a value. -/
inductive PathStep where
  | name (name : String)
  | position (index : Nat)
deriving DecidableEq

/-- What is wrong with a value. -/
inductive Issue.Kind where
  | missing
  | stringType
  | boolType
  | boolParsing
  | intType
  | intParsing
  | intParsingSize
  | intFromFloat
  | finiteNumber
  | greaterThanEqual
  | floatType
  | floatParsing
  | listType
  | tableType
  | modelType
  | setType
  | notAMember
  | extraForbidden
  | instanceOf
  /-- A rule of the model itself was broken; the message says which. -/
  | valueError (message : String)
deriving DecidableEq

/-- The name under which an issue is reported. -/
def Issue.Kind.code : Issue.Kind → String
  | missing => "missing"
  | stringType => "string_type"
  | boolType => "bool_type"
  | boolParsing => "bool_parsing"
  | intType => "int_type"
  | intParsing => "int_parsing"
  | intParsingSize => "int_parsing_size"
  | intFromFloat => "int_from_float"
  | finiteNumber => "finite_number"
  | greaterThanEqual => "greater_than_equal"
  | floatType => "float_type"
  | floatParsing => "float_parsing"
  | listType => "list_type"
  | tableType => "dict_type"
  | modelType => "model_type"
  | setType => "frozen_set_type"
  | notAMember => "enum"
  | extraForbidden => "extra_forbidden"
  | instanceOf => "is_instance_of"
  | valueError _ => "value_error"

/-- Something wrong, and where. -/
structure Issue where
  /-- The path from the checked value to the faulty one. -/
  path : List PathStep
  /-- What is wrong there. -/
  kind : Issue.Kind
deriving DecidableEq

/-- The outcome of a check: the value it stands for, or every issue found. -/
inductive Checked (α : Type) where
  | valid (value : α)
  | invalid (issues : List Issue)

namespace Checked

variable {α β : Type}

/-- One issue with the checked value itself. -/
def issue (kind : Issue.Kind) : Checked α := invalid [⟨[], kind⟩]

/-- Applies a function to a valid value. -/
def map (f : α → β) : Checked α → Checked β
  | valid a => valid (f a)
  | invalid issues => invalid issues

/-- Joins two checks; when both fail, the issues of the first come first. -/
def ap (f : Checked (α → β)) (a : Checked α) : Checked β :=
  match f, a with
  | valid f, valid a => valid (f a)
  | valid _, invalid issues => invalid issues
  | invalid issues, valid _ => invalid issues
  | invalid first, invalid second => invalid (first ++ second)

instance : Applicative Checked where
  pure := valid
  map f a := a.map f
  seq f a := f.ap (a ())

/-- A further check of a valid value. -/
def andThen (a : Checked α) (f : α → Checked β) : Checked β :=
  match a with
  | valid a => f a
  | invalid issues => invalid issues

/-- The check of a part, whose issues lie below a step of the path. -/
def below (step : PathStep) : Checked α → Checked α
  | valid a => valid a
  | invalid issues => invalid (issues.map fun i => { i with path := step :: i.path })

/-- The issues found, none for a valid value. -/
def issues : Checked α → List Issue
  | valid _ => []
  | invalid issues => issues

@[simp] theorem map_valid (f : α → β) (a : α) : (valid a).map f = valid (f a) := rfl

@[simp] theorem pure_eq (a : α) : (pure a : Checked α) = valid a := rfl

end Checked

/-! ## Objects -/

/-- Checks an object field by field. -/
def checkModel {α : Type} (fields : Json.Members → Checked α) : Json → Checked α
  | .object members => fields members
  | _ => .issue .modelType

/-- A field that has to be there. -/
def required {α : Type} (members : Json.Members) (name : String) (check : Json → Checked α) :
    Checked α :=
  match Table.get? members name with
  | some j => (check j).below (.name name)
  | none => (Checked.issue .missing).below (.name name)

/-- A field with a default. -/
def optional {α : Type} (members : Json.Members) (name : String) (default : α)
    (check : Json → Checked α) : Checked α :=
  match Table.get? members name with
  | some j => (check j).below (.name name)
  | none => .valid default

/-- Null, or a value that passes the check. -/
def checkNullable {α : Type} (check : Json → Checked α) : Json → Checked (Option α)
  | .null => .valid none
  | j => (check j).map some

/-! ## Lists and tables -/

/-- Checks the items of a list from a position on. -/
def checkItems {α : Type} (check : Json → Checked α) (position : Nat) :
    List Json → Checked (List α)
  | [] => .valid []
  | j :: rest =>
    List.cons <$> (check j).below (.position position) <*> checkItems check (position + 1) rest

/-- A list whose items pass the check. -/
def checkList {α : Type} (check : Json → Checked α) : Json → Checked (List α)
  | .list items => checkItems check 0 items
  | _ => .issue .listType

/-- Checks the values of a table. -/
def checkEntries {α : Type} (check : Json → Checked α) :
    List (String × Json) → Checked (Table α)
  | [] => .valid []
  | (name, j) :: rest =>
    (fun a t => (name, a) :: t) <$> (check j).below (.name name) <*> checkEntries check rest

/-- An object whose values pass the check. -/
def checkTable {α : Type} (check : Json → Checked α) : Json → Checked (Table α)
  | .object members => checkEntries check members
  | _ => .issue .tableType

/-- Any value. -/
def checkAny (j : Json) : Checked Json := .valid j

end SearchIndex
