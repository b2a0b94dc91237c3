/-
# Failures

Everything that can go wrong, as causes; `Failure.message` gives each its wording.
-/
import SearchIndex.Json.Literal
import SearchIndex.Text.Blank
import SearchIndex.Validation

namespace SearchIndex

/-- The states of an index manager, in the order in which it goes through them. -/
inductive Lifecycle where
  | uninitialized
  | initialized
  | bound
  | destroyed
deriving DecidableEq, Repr, Inhabited

/-- The name of a state. -/
def Lifecycle.name : Lifecycle → String
  | uninitialized => "uninitialized"
  | initialized => "initialized"
  | bound => "bound"
  | destroyed => "destroyed"

/-- How far a manager has come in its life. -/
def Lifecycle.rank : Lifecycle → Nat
  | uninitialized => 0
  | initialized => 1
  | bound => 2
  | destroyed => 3

/-- Why a descriptor has no mapping.  A path names a field from the top. -/
inductive MappingProblem where
  | declaredTwice (path : String)
  | noEquivalent (path type : String)
  | embedded (path type : String)
  | sortableText (path : String)
  | reservedName (name : String)
deriving DecidableEq

/-- What a service answered in place of a success. -/
inductive RemoteProblem where
  /-- A call was answered with an error status. -/
  | status (method path : String)
  /-- A bulk call was answered with another number of items than it had requests. -/
  | itemCount (found expected : Nat)
deriving DecidableEq

/-- Ways in which data or the surroundings do not fit what is done with them. -/
inductive Misfit where
  /-- A value that is none is used as an object. -/
  | notAnObject
  /-- A value of a wrong kind is counted, walked through or converted. -/
  | wrongKind
  /-- A text or number has a form that cannot be read. -/
  | unreadable
  /-- The first of no items is asked for. -/
  | nothingThere
  /-- A manager serves without holding what it needs. -/
  | unprepared
  /-- A monitor raised an error of its own. -/
  | monitorFailed
  /-- The connection to the service has been closed. -/
  | connectionClosed
  /-- The address of a call is not well formed. -/
  | badAddress
  /-- A text that has to be ASCII is not. -/
  | notAscii
  /-- A file is not there. -/
  | noFile (path : String)
  /-- A directory stands where a file is needed. -/
  | isDirectory (path : String)
  /-- A value in the environment cannot be read. -/
  | badEnvironment
deriving DecidableEq

/-- Everything that can go wrong. -/
inductive Failure where
  /-- The settings of an index are not valid. -/
  | invalidConfiguration (index : String) (issues : List Issue)
  /-- The table of compatible types names a type that there is not. -/
  | invalidCompatibility (named : Json)
  /-- A contained entity type has no descriptor. -/
  | noDescriptor (index entityType : String)
  /-- A manager is asked for something that its state does not allow. -/
  | wrongState (action index : String) (state expected : Lifecycle)
  /-- A manager cannot be destroyed in its state. -/
  | notDestroyable (state : Lifecycle)
  /-- The service could not be reached. -/
  | transport (text : String)
  /-- The service answered with an error. -/
  | remote (problem : RemoteProblem) (status : Int) (body : Json)
  /-- A descriptor has no mapping. -/
  | noMapping (entityType : String) (problem : MappingProblem)
  /-- An index did not become healthy in time. -/
  | statusTimeout (index : String) (required : String) (timeout : Nat) (current : Json)
  /-- The schema on the service differs from the target. -/
  | schemaDiverges (index : String) (mismatches : List String)
  /-- The target cannot be merged into the schema on the service. -/
  | mergeConflict (index : String) (conflicts : List String)
  /-- Items of a bulk call were rejected; each is told with its request. -/
  | rejected (items : List Json)
  /-- Asynchronous requests have failed, of one index or of all. -/
  | asynchronous (index : Option String) (first : Failure) (others : List Failure)
  /-- Data from outside is not valid. -/
  | invalid (model : String) (issues : List Issue)
  /-- A value names no member of an enumeration. -/
  | noMember (value : Json) (enumeration : String)
  /-- The processor has been released more often than acquired. -/
  | overReleased
  /-- A value is no indexing operation. -/
  | unsupportedOperation (kind : String)
  /-- A descriptors file does not hold an object. -/
  | notDescriptors (path : String)
  /-- Something does not fit. -/
  | misfit (misfit : Misfit)

namespace Failure

instance : Inhabited Failure := ⟨overReleased⟩

/-- The wording of a mapping problem. -/
def mappingText (entityType : String) (problem : MappingProblem) : String :=
  s!"Entity '{entityType}': " ++
    match problem with
    | .declaredTwice path => s!"field '{path}' is declared more than once"
    | .noEquivalent path type =>
      s!"field '{path}' has type '{type}' which has no equivalent in the search service"
    | .embedded path type => s!"field '{path}' of type '{type}' cannot have embedded fields"
    | .sortableText path =>
      s!"analyzed field '{path}' cannot be sortable; declare it as a keyword"
    | .reservedName name => s!"field name '{name}' is reserved for tenant ids"

/-- The first characters of a text. -/
def firstChars (count : Nat) (s : String) : String := String.ofList (s.toList.take count)

/-- The most useful description of an error in the body of an answer. -/
def reason (body : Json) : String :=
  let whole := if body.isVacant then "no response body" else firstChars 500 body.display
  match body with
  | .object members =>
    match Table.get? members "error" with
    | some (.object error) =>
      let type := (Table.get? error "type").getD (.text "error")
      let reason := (Table.get? error "reason").getD (.text "")
      Text.strip (type.display ++ ": " ++ reason.display)
    | some error => if error.isVacant then whole else error.display
    | none => whole
  | _ => whole

/-- The headline of a failed validation. -/
def validationText (model : String) (issues : List Issue) : String :=
  let count := issues.length
  if count = 1 then s!"1 validation error for {model}"
  else s!"{count} validation errors for {model}"

/-- Items of a report, a line each. -/
def bullets (items : List String) : String :=
  "\n".intercalate (items.map fun item => "  - " ++ item)

/-- The wording of a failure.  A misfit has none of its own, apart from those about files. -/
def message : Failure → String
  | invalidConfiguration index issues =>
    s!"Invalid configuration for index '{index}': " ++ validationText "IndexSettings" issues
  | invalidCompatibility named =>
    s!"Invalid compatible_types table: {named.shown} is not a valid DataType"
  | noDescriptor index entityType =>
    s!"Index '{index}': no mapping descriptor for entity type '{entityType}'"
  | wrongState action index state expected =>
    s!"Cannot {action} index manager for '{index}' in state '{state.name}' " ++
      s!"(expected '{expected.name}')"
  | notDestroyable state => s!"Cannot destroy an index manager in state '{state.name}'"
  | transport text => text
  | remote (.status method path) status body =>
    s!"{method} {path} returned {status}: {reason body}"
  | remote (.itemCount found expected) _ _ =>
    s!"Bulk response has {found} item(s) for {expected} request(s)"
  | noMapping entityType problem => mappingText entityType problem
  | statusTimeout index required timeout current =>
    s!"Index '{index}' did not reach status '{required}' within {timeout} ms " ++
      s!"(current status: '{current.display}')"
  | schemaDiverges index mismatches =>
    s!"Schema validation failed for index '{index}' ({mismatches.length} mismatches):\n" ++
      bullets mismatches
  | mergeConflict index conflicts =>
    s!"Cannot merge mappings into index '{index}':\n" ++ bullets conflicts
  | rejected items =>
    s!"{items.length} bulk item(s) failed: {(Json.list (items.take 3)).shown}"
  | asynchronous index first others =>
    let scope :=
      match index with
      | some name => if name.isEmpty then "all indexes" else s!"index '{name}'"
      | none => "all indexes"
    s!"{others.length + 1} asynchronous request(s) failed for {scope}: {first.message}"
  | invalid model issues => validationText model issues
  | noMember value enumeration => s!"{value.shown} is not a valid {enumeration}"
  | overReleased => "BackendRequestProcessor released more often than acquired"
  | unsupportedOperation kind => s!"Unsupported indexing operation: {kind}"
  | notDescriptors path =>
    s!"Mappings file must contain a mapping of entity type -> descriptor: {path}"
  | misfit (.noFile path) => s!"Mappings file not found: {path}"
  | misfit (.isDirectory path) => s!"[Errno 21] Is a directory: {(Json.text path).shown}"
  | misfit _ => ""

/-- Whether a failure tells of rejected items. -/
def isRejection : Failure → Bool
  | rejected _ => true
  | _ => false

end Failure

/-- The value of a check, or the failure that lists its issues. -/
def Checked.orFail {α : Type} (model : String) : Checked α → Except Failure α
  | .valid a => .ok a
  | .invalid issues => .error (.invalid model issues)

end SearchIndex
