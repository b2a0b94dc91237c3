/-
# Settings

The settings of the library: how to reach the service, how each index is managed, the limits of the
request processor, and what is logged.  Every part has defaults; data from outside is checked
leniently.
-/
import SearchIndex.Schema.Strategy
import SearchIndex.Text.LowerCase
import SearchIndex.Indexing.Processor

namespace SearchIndex

/-! ## One index -/

/-- The settings of one index. -/
structure IndexSettings where
  /-- The name that the index has on the service, if it is another one. -/
  name : Option String
  /-- How its schema is managed. -/
  strategy : Strategy
  /-- The health to wait for. -/
  requiredStatus : IndexStatus
  /-- How many milliseconds to wait for it. -/
  waitTimeout : Nat
  /-- Whether the index is refreshed after each write. -/
  refreshAfterWrite : Bool
deriving DecidableEq

namespace IndexSettings

instance : Inhabited IndexSettings := ⟨⟨none, .create, .green, 10000, false⟩⟩

/-- A health level, its name in any case. -/
def checkStatus : Json → Checked IndexStatus
  | .text s => checkMember IndexStatus.ofName? (.text (Text.lowerCase s))
  | j => checkMember IndexStatus.ofName? j

/-- A number of milliseconds. -/
def checkTimeout (j : Json) : Checked Nat :=
  (checkInt j).andThen fun n =>
    if n < 0 then
      .issue (.valueError
        s!"Value error, index_management_wait_timeout must be non-negative, got {n}")
    else .valid n.toNat

/-- Checks the settings of an index. -/
def check : Json → Checked IndexSettings :=
  checkModel fun members => IndexSettings.mk
    <$> optional members "name" none (checkNullable checkText)
    <*> optional members "schema_management_strategy" .create (checkMember Strategy.ofName?)
    <*> optional members "required_index_status" .green checkStatus
    <*> optional members "index_management_wait_timeout" 10000 checkTimeout
    <*> optional members "refresh_after_write" false checkBool

/-- The settings that every index shares, without the name. -/
def shared (s : IndexSettings) : Json.Members :=
  [("schema_management_strategy", .text s.strategy.name),
    ("required_index_status", .text s.requiredStatus.name),
    ("index_management_wait_timeout", .int s.waitTimeout),
    ("refresh_after_write", .bool s.refreshAfterWrite)]

/-- The settings as they are written down. -/
def toJson (s : IndexSettings) : Json := .object (("name", .ofText? s.name) :: s.shared)

end IndexSettings

/-! ## The service -/

/-- How to reach the service. -/
structure ServiceSettings where
  /-- The addresses of the hosts. -/
  hosts : List String
  /-- The user, for authentication with a password. -/
  username : Option String
  /-- The password. -/
  password : Option String
  /-- The key, for authentication with a key. -/
  apiKey : Option String
  /-- Whether certificates are verified. -/
  verifyCerts : Bool
  /-- How many seconds a request may take. -/
  requestTimeout : Double
  /-- How many connections are kept at most. -/
  maxConnections : Int

namespace ServiceSettings

/-- The host of a service on the same machine. -/
def defaultHosts : List String := ["http://localhost:9200"]

instance : Inhabited ServiceSettings :=
  ⟨⟨defaultHosts, none, none, none, true, Double.ofInt 60, 20⟩⟩

/-- The hosts that a value lists.  A text may hold a list as JSON, or else is the one host; an
object lists its names. -/
def listHosts : Json → Except Failure Json
  | .text s =>
    match Json.read? s with
    | some (.list items) => .ok (.ofTexts (items.map Json.display))
    | _ => .ok (.ofTexts (if s.isEmpty then [] else [s]))
  | .list items => .ok (.list items)
  | .object members => .ok (.ofTexts (Table.keys members))
  | _ => .error (.misfit .wrongKind)

/-- Checks the settings, of which the hosts have been listed. -/
def checkListed : Json → Checked ServiceSettings :=
  checkModel fun members => ServiceSettings.mk
    <$> optional members "hosts" defaultHosts (checkList checkText)
    <*> optional members "username" none (checkNullable checkText)
    <*> optional members "password" none (checkNullable checkText)
    <*> optional members "api_key" none (checkNullable checkText)
    <*> optional members "verify_certs" true checkBool
    <*> optional members "request_timeout" (Double.ofInt 60) checkDouble
    <*> optional members "max_connections" 20 checkInt

/-- Checks the settings.  Hosts that cannot be listed are no issue but a failure. -/
def check (j : Json) : Except Failure (Checked ServiceSettings) :=
  match j with
  | .object members =>
    match Table.get? members "hosts" with
    | some hosts => do
      let listed ← listHosts hosts
      return checkListed (.object (Table.set members "hosts" listed))
    | none => .ok (checkListed j)
  | _ => .ok (checkListed j)

/-- The settings as they are written down. -/
def toJson (s : ServiceSettings) : Json :=
  .object [("hosts", .ofTexts s.hosts), ("username", .ofText? s.username),
    ("password", .ofText? s.password), ("api_key", .ofText? s.apiKey),
    ("verify_certs", .bool s.verifyCerts), ("request_timeout", .double s.requestTimeout),
    ("max_connections", .int s.maxConnections)]

end ServiceSettings

/-! ## Schemas -/

/-- How the schemas of all indexes are managed. -/
structure SchemaSettings where
  /-- The settings of an index for which nothing else is said. -/
  default : IndexSettings
  /-- What is said about single indexes. -/
  indexes : Table Json.Members
  /-- The policy of compatible types, if it is not the standard one. -/
  compatibleTypes : Option (Table (List String))

namespace SchemaSettings

instance : Inhabited SchemaSettings := ⟨⟨Inhabited.default, [], none⟩⟩

/-- Checks the settings. -/
def check : Json → Checked SchemaSettings :=
  checkModel fun members => SchemaSettings.mk
    <$> optional members "default" Inhabited.default IndexSettings.check
    <*> optional members "indexes" [] (checkTable (checkTable checkAny))
    <*> optional members "compatible_types" none
      (checkNullable (checkTable (checkList checkText)))

/-- The policy of compatible types as data. -/
def compatibleJson (s : SchemaSettings) : Json :=
  s.compatibleTypes.elim .null fun t => .object (Table.mapValues Json.ofTexts t)

/-- The settings as they are written down. -/
def toJson (s : SchemaSettings) : Json :=
  .object [("default", s.default.toJson),
    ("indexes", .object (Table.mapValues Json.object s.indexes)),
    ("compatible_types", s.compatibleJson)]

/-- What is said about one index: the defaults, and on top of them what is said about it alone.  A
name is never taken from the defaults. -/
def propertiesFor (s : SchemaSettings) (index : String) : Json.Members :=
  Table.overlay s.default.shared ((Table.get? s.indexes index).getD [])

/-- The settings with one more thing said about an index. -/
def override (s : SchemaSettings) (index name : String) (value : Json) : SchemaSettings :=
  let said := (Table.get? s.indexes index).getD []
  { s with indexes := Table.set s.indexes index (Table.set said name value) }

end SchemaSettings

/-! ## The processor -/

namespace ProcessorLimits

/-- A natural number that is not below a bound. -/
def checkNatFrom (bound : Nat) (j : Json) : Checked Nat := (checkIntFrom bound j).map Int.toNat

/-- Checks limits; `workers` is the number of workers when none is given. -/
def checkWith (workers : Nat) : Json → Checked ProcessorLimits :=
  checkModel fun members => ProcessorLimits.mk
    <$> optional members "workers" workers (checkNatFrom 1)
    <*> optional members "max_bulk_size" 250 (checkNatFrom 1)
    <*> optional members "queue_size" 1000 (checkNatFrom 0)

/-- Checks limits. -/
def check : Json → Checked ProcessorLimits := checkWith 2

/-- The limits that hold when none are given. -/
def standard : ProcessorLimits := ⟨2, 250, 1000⟩

/-- The limits as they are written down. -/
def toJson (l : ProcessorLimits) : Json :=
  .object [("workers", .int l.workers), ("max_bulk_size", .int l.maxBulkSize),
    ("queue_size", .int l.queueSize)]

end ProcessorLimits

/-! ## Logging -/

/-- What is logged, and how. -/
structure LogSettings where
  /-- The name of the lowest level that is logged. -/
  level : String
  /-- The name of the format. -/
  format : String
deriving DecidableEq

namespace LogSettings

instance : Inhabited LogSettings := ⟨⟨"info", "json"⟩⟩

/-- Checks the settings. -/
def check : Json → Checked LogSettings :=
  checkModel fun members => LogSettings.mk
    <$> optional members "log_level" "info" checkText
    <*> optional members "log_format" "json" checkText

/-- The settings as they are written down. -/
def toJson (s : LogSettings) : Json :=
  .object [("log_level", .text s.level), ("log_format", .text s.format)]

end LogSettings

/-! ## All of them -/

/-- All settings. -/
structure Settings where
  /-- The name of the application. -/
  appName : String
  /-- Whether it is being debugged. -/
  debug : Bool
  /-- How to reach the service. -/
  service : ServiceSettings
  /-- How schemas are managed. -/
  schema : SchemaSettings
  /-- The limits of the processor. -/
  processor : ProcessorLimits
  /-- What is logged. -/
  log : LogSettings

namespace Settings

instance : Inhabited Settings :=
  ⟨⟨"IndexSync", false, default, default, ProcessorLimits.standard, default⟩⟩

/-- The names of the fields, in the order in which they are checked. -/
def fieldNames : List String :=
  ["app_name", "debug", "service", "schema_management", "processor", "observability"]

/-- One issue for each member that is no field. -/
def checkNoOthers (members : Json.Members) : Checked Unit :=
  match members.filter fun m => m.1 ∉ fieldNames with
  | [] => .valid ()
  | others => .invalid (others.map fun m => ⟨[.name m.1], .extraForbidden⟩)

/-- Checks the part about the service. -/
def checkService (members : Json.Members) : Except Failure (Checked ServiceSettings) := do
  match Table.get? members "service" with
  | some j =>
    let service ← ServiceSettings.check j
    return service.below (.name "service")
  | none => return .valid default

/-- Checks all settings.  Names that are no field are issues here. -/
def check (members : Json.Members) : Except Failure (Checked Settings) := do
  let service ← checkService members
  return (fun appName debug service schema processor log _ =>
      ⟨appName, debug, service, schema, processor, log⟩)
    <$> optional members "app_name" "IndexSync" checkText
    <*> optional members "debug" false checkBool
    <*> service
    <*> optional members "schema_management" default SchemaSettings.check
    <*> optional members "processor" ProcessorLimits.standard ProcessorLimits.check
    <*> optional members "observability" default LogSettings.check
    <*> checkNoOthers members

/-- The settings as they are written down. -/
def toJson (s : Settings) : Json :=
  .object [("app_name", .text s.appName), ("debug", .bool s.debug),
    ("service", s.service.toJson), ("schema_management", s.schema.toJson),
    ("processor", s.processor.toJson), ("observability", s.log.toJson)]

end Settings

end SearchIndex
