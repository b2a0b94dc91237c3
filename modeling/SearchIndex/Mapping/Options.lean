/-
# Health and options

The health levels of an index, and the options that all schema actions of one index share.
-/
import SearchIndex.Validation.Scalar

namespace SearchIndex

/-- The health that the service reports for an index. -/
inductive IndexStatus where
  | green
  | yellow
  | red
deriving DecidableEq, Inhabited

namespace IndexStatus

/-- The name of a health level. -/
def name : IndexStatus → String
  | green => "green"
  | yellow => "yellow"
  | red => "red"

/-- The health level of a name. -/
def ofName? : String → Option IndexStatus
  | "green" => some green
  | "yellow" => some yellow
  | "red" => some red
  | _ => none

/-- How bad a health level is. -/
def rank : IndexStatus → Nat
  | green => 0
  | yellow => 1
  | red => 2

theorem ofName?_name (s : IndexStatus) : ofName? s.name = some s := by cases s <;> rfl

end IndexStatus

/-- The options of the schema actions on one index. -/
structure SchemaOptions where
  /-- The health to wait for. -/
  requiredStatus : IndexStatus
  /-- How many milliseconds to wait for it. -/
  timeout : Nat
  /-- Whether documents carry the id of a tenant. -/
  multitenancy : Bool
deriving DecidableEq

namespace SchemaOptions

instance : Inhabited SchemaOptions := ⟨⟨.green, 10000, false⟩⟩

/-- Checks options from outside. -/
def check : Json → Checked SchemaOptions :=
  checkModel fun members => SchemaOptions.mk
    <$> optional members "required_index_status" .green (checkMember IndexStatus.ofName?)
    <*> optional members "index_management_timeout_ms" 10000
      (fun j => (checkIntFrom 0 j).map Int.toNat)
    <*> optional members "multitenancy_enabled" false checkBool

/-- The options as they are written down. -/
def toJson (o : SchemaOptions) : Json :=
  .object [("required_index_status", .text o.requiredStatus.name),
    ("index_management_timeout_ms", .int o.timeout),
    ("multitenancy_enabled", .bool o.multitenancy)]

/-- Options that are written down pass their own check. -/
theorem check_toJson (o : SchemaOptions) : check o.toJson = .valid o := by
  have hstatus : checkMember IndexStatus.ofName? (.text o.requiredStatus.name) =
      .valid o.requiredStatus := by
    rw [checkMember, IndexStatus.ofName?_name]
  have htimeout : (checkIntFrom 0 (.int o.timeout)).map Int.toNat = .valid o.timeout := by
    have hnot : ¬ (o.timeout : Int) < 0 := by omega
    rw [checkIntFrom, checkInt, Checked.andThen, if_neg hnot, Checked.map_valid, Int.toNat_natCast]
  simp [check, toJson, checkModel, optional, Table.get?, hstatus, htimeout, checkBool,
    Checked.below, Seq.seq, Functor.map, Checked.ap]

end SchemaOptions

end SearchIndex
