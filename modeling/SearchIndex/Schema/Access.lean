/-
# The schema on the service

The calls that read and change the schema of an index: whether it exists, its creation and deletion,
its mappings and its health.
-/
import SearchIndex.Service.Program
import SearchIndex.Mapping.Remote

namespace SearchIndex.Schema

/-- The path of an index. -/
def indexPath (index : String) : String := s!"/{index}"

/-- The members of an answer, none for an answer without a value. -/
def membersOf (body : Json) : Except Failure Json.Members :=
  if body.isVacant then .ok []
  else
    match body with
    | .object members => .ok members
    | _ => .error (.misfit .notAnObject)

/-- Whether the index exists. -/
def exists? (index : String) : Action Bool := do
  let response ← Action.request (.plain "HEAD" (indexPath index)) [404]
  return response.status ≠ 404

/-- The call that creates an index with its full mapping. -/
def creation (target : IndexSchema) : Call :=
  ⟨"PUT", indexPath target.name, none, .json target.toRemote⟩

/-- Creates the index and tells whether this call did it.  When the index may be there already, an
answer that says so is no failure. -/
def create (target : IndexSchema) (mayExist : Bool) : Action Bool := do
  try
    let _ ← Action.request (creation target) []
  catch failure =>
    match failure with
    | .remote _ status body =>
      if mayExist && (← Action.ofExcept (reportsExisting status body)) then
        Action.note .info .access
          s!"Index '{target.name}' was created concurrently, leaving it as is"
        return false
      else throw failure
    | _ => throw failure
  Action.note .info .access
    s!"Created index '{target.name}' with {target.mappings.length} type mapping(s)"
  return true

/-- The call that deletes an index. -/
def deletion (index : String) (options : SchemaOptions) : Call :=
  ⟨"DELETE", indexPath index, some [("timeout", .text s!"{options.timeout}ms")], .none⟩

/-- Deletes the index and tells whether this call did it. -/
def drop (index : String) (options : SchemaOptions) : Action Bool := do
  let response ← Action.request (deletion index options) [404]
  if response.status = 404 then return false
  Action.note .info .access s!"Dropped index '{index}'"
  return true

/-- The mappings in the body of an answer: those under the name of the index, or under the first
name when the answer does not have that one. -/
def mappingsOf (index : String) (body : Json) : Except Failure (Table TypeMapping) := do
  let members ← membersOf body
  let named := (Table.get? members index).getD .null
  let first := ((members.head?).map (·.2)).getD (.object [])
  match if named.isVacant then first else named with
  | .object indexMembers =>
    match (Table.get? indexMembers "mappings").getD (.object []) with
    | .object mappings => mappingsOfRemote mappings
    | _ => .error (.misfit .notAnObject)
  | _ => .error (.misfit .notAnObject)

/-- The mappings of an index, none when it does not exist. -/
def mappings? (index : String) : Action (Option (Table TypeMapping)) := do
  let response ← Action.request (.plain "GET" (indexPath index ++ "/_mapping")) [404]
  if response.status = 404 then return none
  return some (← Action.ofExcept (mappingsOf index response.body))

/-- The call that puts the mapping of an entity type. -/
def mappingUpdate (index entityType : String) (mapping : TypeMapping) : Call :=
  ⟨"PUT", indexPath index ++ s!"/_mapping/{entityType}", none, .json mapping.toRemote⟩

/-- Puts the mapping of an entity type. -/
def putMapping (index entityType : String) (mapping : TypeMapping) : Action Unit := do
  let _ ← Action.request (mappingUpdate index entityType mapping) []
  Action.note .info .access s!"Updated mapping of type '{entityType}' in index '{index}'"

/-- The call that waits for the health of an index. -/
def healthCheck (index : String) (options : SchemaOptions) : Call :=
  ⟨"GET", s!"/_cluster/health/{index}",
    some [("wait_for_status", .text options.requiredStatus.name),
      ("timeout", .text s!"{options.timeout}ms")], .none⟩

/-- Waits until the index is as healthy as required. -/
def awaitHealth (index : String) (options : SchemaOptions) : Action Unit := do
  let response ← Action.request (healthCheck index options) [408]
  let members ← Action.ofExcept (membersOf response.body)
  let timedOut := !((Table.get? members "timed_out").getD .null).isVacant
  if response.status = 408 || timedOut then
    throw (.statusTimeout index options.requiredStatus.name options.timeout
      ((Table.get? members "status").getD (.text "unknown")))
  let reached := (Table.get? members "status").getD (.text options.requiredStatus.name)
  Action.note .debug .access s!"Index '{index}' reached status '{reached.display}'"

end SearchIndex.Schema
