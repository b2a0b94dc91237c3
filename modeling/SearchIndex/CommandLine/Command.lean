/-
# Commands

`apply` brings the schema of an index in line with the descriptors of a file, `drop` deletes an
index.  Both create a manager for the index and destroy it before they end.  What goes wrong while a
command runs is told in one line; what goes wrong before that, or is of another kind, escapes.
-/
import SearchIndex.CommandLine.Arguments
import SearchIndex.Concurrency.Schedule
import SearchIndex.Manager.Creation
import SearchIndex.Manager.Work
import SearchIndex.Service.Memory
import SearchIndex.Settings.Environment

namespace SearchIndex.CommandLine

/-! ## Files -/

/-- What stands at a path. -/
inductive FileState where
  | missing
  | directory
  | data (value : Json)

/-- What a command finds when it starts. -/
structure Surroundings where
  /-- The files. -/
  files : String → FileState
  /-- The variables of the environment. -/
  environment : Table String

/-- The parts of a path without those that lead nowhere. -/
def pathSegments (cs : List Char) : List (List Char) :=
  (cs.splitOn '/').filter fun part => !part.isEmpty && part ≠ ['.']

/-- A path without needless parts. -/
def normalPath (path : String) : String :=
  let cs := path.toList
  let joined := List.intercalate ['/'] (pathSegments cs)
  match cs with
  | '/' :: _ => String.ofList ('/' :: joined)
  | _ => if joined.isEmpty then "." else String.ofList joined

/-! ## Descriptors -/

/-- The descriptor of an entity type in a file.  It may leave the entity type out. -/
def descriptorOf (entityType : String) (body : Json) : Except Failure EntityDescriptor := do
  let said ←
    if body.isVacant then pure []
    else
      match body with
      | .object members => pure members
      | _ => throw (.misfit .wrongKind)
  let members := Table.overlay [("entity_type", .text entityType)] said
  (EntityDescriptor.check (.object members)).orFail "EntityMappingDescriptor"

/-- The descriptors among the members of a file, in order. -/
def descriptorsOf : List (String × Json) → Except Failure (Table EntityDescriptor)
  | [] => .ok []
  | (entityType, body) :: rest => do
    let descriptor ← descriptorOf entityType body
    let others ← descriptorsOf rest
    return (entityType, descriptor) :: others

/-- The descriptors in a file. -/
def loadDescriptors (files : String → FileState) (path : String) :
    Except Failure (Table EntityDescriptor) :=
  let path := normalPath path
  match files path with
  | .missing => .error (.misfit (.noFile path))
  | .directory => .error (.misfit (.isDirectory path))
  | .data value =>
    if value.isVacant then .ok []
    else
      match value.inFile with
      | .object members => descriptorsOf members
      | _ => .error (.notDescriptors path)

/-! ## What a command does -/

/-- What a command has printed, and how it ended. -/
structure Outcome where
  /-- The lines that it printed. -/
  lines : List String
  /-- The failure that ended it, if one did. -/
  failure : Option Failure

/-- Registers entity types with a manager. -/
def addAll (name : String) : List String → Activity Unit
  | [] => pure ()
  | entityType :: rest => do
    Manager.addContained name entityType
    addAll name rest

/-- What `apply` prints once the index is bound. -/
def appliedText (c : Configuration) (count : Nat) : String :=
  s!"Index '{c.actualName}': strategy {c.strategy.name} applied for {count} type(s)"

/-- Applies descriptors to an index.  The line is printed before the manager is destroyed. -/
def applyDescriptors (schema : SchemaSettings) (index : String)
    (descriptors : Table EntityDescriptor) (multitenancy : Bool) : Activity Outcome := do
  Manager.create index schema index multitenancy
  addAll index (Table.keys descriptors)
  let bound ← Activity.outcome (Manager.bind index descriptors)
  let s ← Activity.look
  let c ← Activity.ofExcept (s.manager index).configured
  let destroyed ← Activity.outcome (Manager.destroy index)
  let lines :=
    match bound with
    | .ok () => [appliedText c descriptors.length]
    | .error _ => []
  match destroyed, bound with
  | .error failure, _ => return ⟨lines, some failure⟩
  | .ok (), .error failure => return ⟨lines, some failure⟩
  | .ok (), .ok () => return ⟨lines, none⟩

/-- What `drop` prints. -/
def droppedText (index : String) (dropped : Bool) : String :=
  s!"Index '{index}' " ++ if dropped then "dropped" else "did not exist"

/-- Drops an index.  The line is printed after the manager is destroyed. -/
def dropIndex (schema : SchemaSettings) (index : String) : Activity Outcome := do
  Manager.create index schema index false
  let s ← Activity.look
  let c ← Activity.ofExcept (s.manager index).configured
  let actual := if c.actualName.isEmpty then index else c.actualName
  let dropped ← Activity.outcome (Activity.ofAction (Schema.dropIfExisting actual c.options))
  let destroyed ← Activity.outcome (Manager.destroy index)
  match destroyed, dropped with
  | .error failure, _ => return ⟨[], some failure⟩
  | .ok (), .error failure => return ⟨[], some failure⟩
  | .ok (), .ok dropped => return ⟨[droppedText c.actualName dropped], none⟩

/-- What a command does once its descriptors are loaded. -/
def activityOf (schema : SchemaSettings) (command : Command)
    (descriptors : Table EntityDescriptor) : Activity Outcome :=
  match command with
  | .apply index _ _ multitenancy => applyDescriptors schema index descriptors multitenancy
  | .drop index => dropIndex schema index

/-! ## A whole run -/

/-- What a run leaves behind. -/
structure Report where
  /-- The exit code. -/
  code : Nat
  /-- The lines that it printed. -/
  lines : List String
  /-- The failure that it told. -/
  failure : Option String
  /-- Its log. -/
  log : List Log.Entry

/-- How a run ends. -/
inductive Ending where
  /-- The arguments end it: with code 2 when they are wrong, else with the lines printed. -/
  | stopped (code : Nat) (lines : List String)
  /-- The command ran. -/
  | finished (report : Report)
  /-- A failure escaped. -/
  | escaped (failure : Failure)

/-- The version of the program. -/
def version : String := "0.1.0"

/-- What the help text of the program says about it. -/
def description : String := "IndexSync — Search index schema synchronization"

/-- The ending of a run whose arguments end it. -/
def Stop.ending : Stop → Ending
  | wrong => .stopped 2 []
  | help true => .stopped 0 []
  | help false => .stopped 0 [description]
  | version => .stopped 0 [s!"IndexSync {CommandLine.version}"]

/-- Whether a failure is told; others escape. -/
def isTold : Failure → Bool
  | .misfit m =>
    match m with
    | .unreadable | .notAscii | .badEnvironment | .noFile _ | .isDirectory _ => true
    | _ => false
  | .overReleased | .unsupportedOperation _ => false
  | _ => true

/-- The lowest rank of the records that a level name lets through; a name that is none counts as
`info`. -/
def threshold (level : String) : Nat :=
  let name := String.ofList (level.toList.map Char.toLower)
  if name = "debug" then Log.Level.debug.rank
  else if name = "warning" ∨ name = "warn" then Log.Level.warning.rank
  else if name = "error" then Log.Level.error.rank
  else if name = "critical" ∨ name = "fatal" then 50
  else if name = "notset" then 0
  else Log.Level.info.rank

/-- The records that are written as settings ask for; the format for a console writes none in this
form. -/
def written (settings : LogSettings) (log : List Log.Entry) : List Log.Entry :=
  if settings.format = "console" then []
  else log.filter fun e => threshold settings.level ≤ e.level.rank

/-- The record about a command that failed. -/
def failedEntry : Log.Entry := ⟨.debug, .command, "Command failed"⟩

/-- The report of a command, or the failure that escapes. -/
def report (settings : LogSettings) (outcome : Outcome) (log : List Log.Entry) : Ending :=
  match outcome.failure with
  | none => .finished ⟨0, outcome.lines, none, written settings log⟩
  | some failure =>
    if isTold failure then
      .finished ⟨1, outcome.lines, some failure.message, written settings (log ++ [failedEntry])⟩
    else .escaped failure

/-- The outcome of an activity that may fail as a whole. -/
def Outcome.ofExcept : Except Failure Outcome → Outcome
  | .ok outcome => outcome
  | .error failure => ⟨[], some failure⟩

/-- Runs an activity on a service, with what it shares and the client built from settings. -/
def runOn (settings : Settings) (service : MemoryService) (activity : Activity Outcome) :
    Outcome × List Log.Entry × List Message × MemoryService :=
  match Client.ofSettings settings.service with
  | .error reason => (⟨[], some (.misfit reason)⟩, [], [], service)
  | .ok client =>
    match Shared.ofSettings settings.processor settings.schema with
    | .error failure => (⟨[], some failure⟩, [], [], service)
    | .ok shared =>
      let (outcome, after, connection) :=
        (closeAfter activity).run Connection.serve shared (.fresh client service)
      (.ofExcept outcome, after.log, connection.sent.reverse, connection.service)

/-- The settings with the strategy of a command. -/
def withStrategy (settings : Settings) : Command → Settings
  | .apply index _ (some strategy) _ =>
    { settings with
      schema := settings.schema.override index "schema_management_strategy" (.text strategy.name) }
  | _ => settings

/-- The descriptors that a command needs. -/
def descriptorsFor (files : String → FileState) : Command → Except Failure (Table EntityDescriptor)
  | .apply _ mappings _ _ => loadDescriptors files mappings
  | .drop _ => .ok []

/-- Runs a command under settings. -/
def runCommand (settings : Settings) (command : Command) (files : String → FileState)
    (service : MemoryService) : Ending × List Message × MemoryService :=
  match descriptorsFor files command with
  | .error failure => (report settings.log ⟨[], some failure⟩ [], [], service)
  | .ok descriptors =>
    let settings := withStrategy settings command
    let (outcome, log, sent, service) :=
      runOn settings service (activityOf settings.schema command descriptors)
    (report settings.log outcome log, sent, service)

/-- What the settings are made from, or how the run ends without them. -/
def settingsData (config : Option String) (files : String → FileState) : Except Ending Json :=
  match config with
  | none => .ok .null
  | some path =>
    if path.isEmpty then .ok .null
    else
      let path := normalPath path
      match files path with
      | .missing => .error (.finished ⟨1, [], some s!"Config file not found: {path}", []⟩)
      | .directory => .error (.escaped (.misfit (.isDirectory path)))
      | .data value => .ok value

/-- The settings with the level that the arguments ask for. -/
def withLevel (settings : Settings) : Option String → Settings
  | some level => { settings with log := { settings.log with level } }
  | none => settings

/-- Runs the program. -/
def run (words : List String) (surroundings : Surroundings) (service : MemoryService) :
    Ending × List Message × MemoryService :=
  match Arguments.read words with
  | .error stop => (stop.ending, [], service)
  | .ok arguments =>
    match settingsData arguments.config surroundings.files with
    | .error ending => (ending, [], service)
    | .ok data =>
      match Settings.load surroundings.environment data with
      | .error failure => (.escaped failure, [], service)
      | .ok settings =>
        runCommand (withLevel settings arguments.logLevel) arguments.command surroundings.files
          service

end SearchIndex.CommandLine
