/-
# Index managers

A manager looks after one index.  It is initialized with the settings of the index, learns which
entity types the index contains, is bound, serves, and is destroyed.  While it is initialized or
bound it holds the shared request processor.
-/
import SearchIndex.Settings

namespace SearchIndex

/-- What a manager knows of its index once it is initialized. -/
structure Configuration where
  /-- The name of the index. -/
  name : String
  /-- The name that it has on the service. -/
  actualName : String
  /-- How its schema is managed. -/
  strategy : Strategy
  /-- Whether it is refreshed after each write. -/
  refresh : Bool
  /-- The options of all schema operations. -/
  options : SchemaOptions
deriving DecidableEq

/-- The name that an index has on the service, which takes lower-case names only. -/
def actualIndexName (name : String) : String := Text.lowerCase name

/-- What settings say about an index that is known under a name unless they give another one. -/
def IndexSettings.configuration (s : IndexSettings) (index : String) (multitenancy : Bool) :
    Configuration :=
  let name :=
    match s.name with
    | some name => if name.isEmpty then index else name
    | none => index
  ⟨name, actualIndexName name, s.strategy, s.refreshAfterWrite,
    ⟨s.requiredStatus, s.waitTimeout, multitenancy⟩⟩

/-- What settings say about an index.  The options are checked once more, as all options are. -/
def IndexSettings.configuration? (s : IndexSettings) (index : String) (multitenancy : Bool) :
    Except Failure Configuration := do
  let c := s.configuration index multitenancy
  let options ← (SchemaOptions.check c.options.toJson).orFail "ExecutionOptions"
  return { c with options }

/-- No settings say anything that the options refuse. -/
theorem IndexSettings.configuration?_eq (s : IndexSettings) (index : String) (multitenancy : Bool) :
    s.configuration? index multitenancy = .ok (s.configuration index multitenancy) := by
  rw [configuration?, SchemaOptions.check_toJson]
  rfl

/-- An index manager. -/
structure Manager where
  /-- Where it is in its life. -/
  state : Lifecycle
  /-- What it knows of its index. -/
  configuration : Option Configuration
  /-- The entity types that the index contains, each once. -/
  contained : List String
  /-- Whether it holds the request processor. -/
  holdsProcessor : Bool
deriving DecidableEq

namespace Manager

/-- A manager that has not been initialized. -/
def fresh : Manager := ⟨.uninitialized, none, [], false⟩

instance : Inhabited Manager := ⟨fresh⟩

/-- The name of the index on the service, if it is known. -/
def actualName? (m : Manager) : Option String := m.configuration.map Configuration.actualName

/-- The index as messages name it. -/
def label (m : Manager) : String :=
  match m.actualName? with
  | some name => if name.isEmpty then "?" else name
  | none => "?"

/-- Fails unless the manager is in the state that an action needs. -/
def require (m : Manager) (state : Lifecycle) (action : String) : Except Failure Unit :=
  if m.state = state then .ok () else .error (.wrongState action m.label m.state state)

/-- What the manager knows of its index, which it has to know by now. -/
def configured (m : Manager) : Except Failure Configuration :=
  match m.configuration with
  | some c => .ok c
  | none => .error (.misfit .unprepared)

/-- The manager with one more entity type. -/
def contain (m : Manager) (entityType : String) : Manager :=
  if entityType ∈ m.contained then m else { m with contained := m.contained ++ [entityType] }

/-- The manager as a debugger shows it. -/
def text (m : Manager) : String :=
  "IndexManager(actual_index_name=" ++ (Json.ofText? m.actualName?).shown ++ ", state=" ++
    (Json.text m.state.name).shown ++ ")"

end Manager

/-! ## Given settings -/

/-- The settings that a manager is initialized with: checked already, or as data. -/
inductive Properties where
  | settled (settings : IndexSettings)
  | raw (data : Json)

/-- The entry that an item of a list stands for: a list or text of two parts, or an object of two
names.  Only texts can name a setting, and lists and objects can name nothing. -/
def entryOf (item : Json) : Except Failure (Option (String × Json)) := do
  let parts ← Compatibility.itemsOf item
  match parts with
  | [key, value] =>
    match key with
    | .text name => return some (name, value)
    | .list _ | .object _ => throw (.misfit .wrongKind)
    | _ => return none
  | _ => throw (.misfit .unreadable)

/-- The members that the items of a list stand for. -/
def entriesOf : List Json → Json.Members → Except Failure Json.Members
  | [], members => .ok members
  | item :: rest, members => do
    match ← entryOf item with
    | some (name, value) => entriesOf rest (Table.set members name value)
    | none => entriesOf rest members

/-- The members that a value stands for: those of an object, or the entries of a list. -/
def membersGiven (data : Json) : Except Failure Json.Members :=
  if data.isVacant then .ok []
  else
    match data with
    | .object members => .ok members
    | .list items => entriesOf items []
    | .text _ => .error (.misfit .unreadable)
    | _ => .error (.misfit .wrongKind)

/-- The settings given for an index. -/
def Properties.settings (p : Properties) (index : String) : Except Failure IndexSettings :=
  match p with
  | settled settings => .ok settings
  | raw data => do
    let members ← membersGiven data
    match IndexSettings.check (.object members) with
    | .valid settings => return settings
    | .invalid issues => throw (.invalidConfiguration index issues)

end SearchIndex
