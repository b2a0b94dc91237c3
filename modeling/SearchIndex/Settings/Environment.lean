/-
# Settings from the environment and from a file

A variable of the environment sets one field of the settings: its name is that of the field in any
case, after a common start, and two underscores lead from a field to one below it.  Fields that are
lists, tables or models take JSON.  What a file says lies on top of what the environment says, field
by field at every depth.
-/
import SearchIndex.Settings
import SearchIndex.Json.Reader

namespace SearchIndex

/-! ## Layers -/

mutual

/-- One value on top of another: objects are joined, any other value hides what lies below it. -/
def Json.onTop (below : Json) : Json → Json
  | .object top =>
    match below with
    | .object members => .object (Json.layered members top)
    | _ => .object top
  | top => top

/-- The members of an object with others on top of them. -/
def Json.layered (below : Json.Members) : List (String × Json) → Json.Members
  | [] => below
  | (name, j) :: rest =>
    let value :=
      match Table.get? below name with
      | some under => Json.onTop under j
      | none => j
    Json.layered (Table.set below name value) rest

end

namespace Environment

/-- What a field of the settings takes from a variable. -/
inductive Shape where
  /-- The text itself. -/
  | plain
  /-- JSON; a text that is none is refused, or taken as it is. -/
  | coded (tolerant : Bool)
  /-- JSON, with fields of its own that have variables too. -/
  | model (fields : List (String × Shape))

namespace Shape

/-- The fields of a model. -/
def fields : Shape → List (String × Shape)
  | model fields => fields
  | _ => []

/-- Fields that take the text itself. -/
def plains (names : List String) : List (String × Shape) := names.map fun name => (name, plain)

end Shape

/-- The start of the name of every variable. -/
def start : String := "indexsync_"

/-- The fields of the settings of an index. -/
def indexFields : List (String × Shape) :=
  Shape.plains ["name", "schema_management_strategy", "required_index_status",
    "index_management_wait_timeout", "refresh_after_write"]

/-- The fields of all settings. -/
def settingsFields : List (String × Shape) :=
  [("app_name", .plain), ("debug", .plain),
    ("service", .model (("hosts", .coded false) ::
      Shape.plains ["username", "password", "api_key", "verify_certs", "request_timeout",
        "max_connections"])),
    ("schema_management", .model
      [("default", .model indexFields), ("indexes", .coded false),
        ("compatible_types", .coded true)]),
    ("processor", .model (Shape.plains ["workers", "max_bulk_size", "queue_size"])),
    ("observability", .model (Shape.plains ["log_level", "log_format"]))]

/-- The field below a shape to which a part of the name of a variable leads. -/
def next? (shape : Shape) (key : String) : Option Shape :=
  (shape.fields.find? fun f => f.1 = key ∨ start ++ f.1 = key).map (·.2)

/-- The parts of a name between double underscores; `part` is the part being read, last first. -/
def levelsFrom (part : List Char) : List Char → List String
  | '_' :: '_' :: rest => String.ofList part.reverse :: levelsFrom [] rest
  | c :: rest => levelsFrom (c :: part) rest
  | [] => [String.ofList part.reverse]

/-- Puts a value where the keys lead, unless a value that is no object stands in the way. -/
def put (value : Json) : List String → Json.Members → Json.Members
  | [], members => members
  | [key], members => Table.set members key value
  | key :: rest, members =>
    match Table.get? members key with
    | some (.object below) => Table.set members key (.object (put value rest below))
    | some _ => members
    | none => Table.set members key (.object (put value rest []))

/-- The JSON that a variable holds. -/
def decode (tolerant : Bool) (value : String) : Except Failure Json :=
  match Json.read? value with
  | some j => .ok j
  | none => if tolerant then .ok (.text value) else .error (.misfit .badEnvironment)

/-- The value of a variable for a field of some shape. -/
def valueFor (shape : Option Shape) (value : String) : Except Failure Json :=
  if value.isEmpty then .ok (.text value)
  else
    match shape with
    | some (.coded tolerant) => decode tolerant value
    | some (.model _) => decode false value
    | _ => .ok (.text value)

/-- The part of a name after a given start. -/
def after? (start name : List Char) : Option (List Char) :=
  match start, name with
  | [], rest => some rest
  | c :: cs, d :: ds => if c = d then after? cs ds else none
  | _ :: _, [] => none

/-- The members that variables with longer names set below a field. -/
def membersBelow (field : String) (shape : Shape) :
    List (String × String) → Json.Members → Except Failure Json.Members
  | [], members => .ok members
  | (name, value) :: rest, members =>
    match after? (start ++ field ++ "__").toList name.toList with
    | none => membersBelow field shape rest members
    | some below => do
      let keys := levelsFrom [] below
      let target := keys.foldl (fun s key => s.bind (next? · key)) (some shape)
      let j ← valueFor target value
      membersBelow field shape rest (put j keys members)

mutual

/-- A value of some shape, the names in it spelled like those of the fields. -/
def respelled (shape : Shape) : Json → Json
  | .object members => .object (respelledMembers shape members [])
  | j => j

/-- Members with their names spelled like those of the fields of a model. -/
def respelledMembers (shape : Shape) :
    List (String × Json) → Json.Members → Json.Members
  | [], done => done
  | (name, j) :: rest, done =>
    match shape.fields.find? fun f => f.1 = Text.lowerCase name with
    | some (field, .model fields) =>
      respelledMembers shape rest (Table.set done field (respelled (.model fields) j))
    | some (field, _) => respelledMembers shape rest (Table.set done field j)
    | none => respelledMembers shape rest (Table.set done name j)

end

/-- What the variables say about one field: its own variable, with those of the fields below it on
top. -/
def fieldValue (vars : Table String) (field : String) (shape : Shape) :
    Except Failure (Option Json) := do
  let own := Table.get? vars (start ++ field)
  match shape, own with
  | .plain, _ => return own.map Json.text
  | _, none =>
    let below ← membersBelow field shape vars []
    return if below.isEmpty then none else some (respelled shape (.object below))
  | _, some value =>
    match ← decode false value with
    | .object members =>
      let below ← membersBelow field shape vars []
      return some (respelled shape (.object (Json.layered members below)))
    | .null => return none
    | j => return some j

/-- The fields that the variables set. -/
def membersOf (vars : Table String) : List (String × Shape) → Except Failure Json.Members
  | [] => .ok []
  | (field, shape) :: rest => do
    let value ← fieldValue vars field shape
    let others ← membersOf vars rest
    return (value.map fun j => (field, j)).toList ++ others

/-- The variables with their names in lower case. -/
def lowered (vars : Table String) : Table String :=
  vars.foldl (fun acc (name, value) => Table.set acc (Text.lowerCase name) value) []

/-- The settings that the variables of an environment make. -/
def members (vars : Table String) : Except Failure Json.Members :=
  membersOf (lowered vars) settingsFields

end Environment

/-! ## Files -/

mutual

/-- A value as a file gives it: a number without a point but with an exponent is no number there,
and neither are the values that are no numbers, so these are texts. -/
def Json.inFile : Json → Json
  | .double x =>
    let written := Json.write .compact (.double x)
    if '.' ∈ written then .double x else .text (String.ofList written)
  | .list items => .list (Json.itemsInFile items)
  | .object members => .object (Json.membersInFile members)
  | j => j

/-- Items as a file gives them. -/
def Json.itemsInFile : List Json → List Json
  | [] => []
  | j :: rest => j.inFile :: Json.itemsInFile rest

/-- Members as a file gives them. -/
def Json.membersInFile : List (String × Json) → Json.Members
  | [] => []
  | (name, j) :: rest => (name, j.inFile) :: Json.membersInFile rest

end

namespace Settings

/-- The settings that an environment and the members of a file make together. -/
def combine (vars : Table String) (file : Json.Members) : Except Failure (Checked Settings) := do
  let members ← Environment.members vars
  check (Json.layered members file)

/-- The settings that an environment and the value in a file make together.  A file with nothing in
it says nothing, and any other value has to be an object. -/
def load (vars : Table String) (data : Json) : Except Failure Settings := do
  let members ←
    if data.isVacant then pure []
    else
      match data.inFile with
      | .object members => pure members
      | _ => throw (.misfit .wrongKind)
  (← combine vars members).orFail "Settings"

end Settings

end SearchIndex
