/-
# A service held in memory

A search service that keeps the mappings of its indexes and takes any document.  Rules may answer in
its place, and a bulk call rejects the documents whose ids are listed.
-/
import SearchIndex.Mapping.Options
import SearchIndex.Service.Client
import SearchIndex.Indexing.Bulk

namespace SearchIndex

/-- A rule answers in place of the service. -/
structure Rule where
  /-- The method that it answers, or any. -/
  method : Option String
  /-- The path that it answers, or any. -/
  path : Option String
  /-- How often it answers, or always. -/
  times : Option Nat
  /-- What it answers. -/
  answer : Answer

namespace Rule

/-- Whether the rule answers a message. -/
def applies (r : Rule) (m : Message) : Bool :=
  r.method.all (· = m.method) && r.path.all (· = m.path) && r.times.all (0 < ·)

/-- The rule after it has answered. -/
def used (r : Rule) : Rule := { r with times := r.times.map (· - 1) }

/-- The answer of the first rule that applies, and the rules after that. -/
def first? (m : Message) : List Rule → Option (Answer × List Rule)
  | [] => none
  | r :: rest =>
    if r.applies m then some (r.answer, r.used :: rest)
    else (first? m rest).map fun (answer, rest) => (answer, r :: rest)

end Rule

/-- A service held in memory. -/
structure MemoryService where
  /-- The mappings of each index. -/
  indexes : Table Json
  /-- The health of its indexes. -/
  health : String
  /-- What is said of rejected documents, by id. -/
  reject : Table Json.Members
  /-- The rules that answer in its place. -/
  rules : List Rule

namespace MemoryService

/-- A healthy service without indexes. -/
def empty : MemoryService := ⟨[], "green", [], []⟩

instance : Inhabited MemoryService := ⟨empty⟩

/-- An answer with a JSON body. -/
def reply (status : Int) (body : Json.Members) : Answer := .reply status (.json (.object body))

/-- An error answer. -/
def errorReply (status : Int) (type reason : String) : Answer :=
  reply status [("error", .object [("type", .text type), ("reason", .text reason)]),
    ("status", .int status)]

/-- The answer to a change that was made. -/
def acknowledged : Answer := reply 200 [("acknowledged", .bool true)]

/-- The answer about an index that is not there. -/
def noIndex (index : String) : Answer :=
  errorReply 404 "index_not_found_exception" s!"no such index [{index}]"

/-- The answer about an index that is there already. -/
def indexExists (index : String) : Answer :=
  errorReply 400 "resource_already_exists_exception" s!"index [{index}] already exists"

/-- The parts of a path. -/
def pathParts (path : String) : List String :=
  ((path.toList.splitOn '/').filter fun part => !part.isEmpty).map String.ofList

/-- The value of the first parameter of a name. -/
def parameter? (m : Message) (name : String) : Option String := Table.get? m.query name

/-- The members of the JSON object that a message carries. -/
def bodyMembers (m : Message) : Json.Members :=
  match m.body.bind fun b => Json.read? b.text with
  | some (.object members) => members
  | _ => []

/-! ## Health -/

/-- How bad a health is; an unknown one is as bad as can be. -/
def healthRank (name : String) : Nat := ((IndexStatus.ofName? name).map IndexStatus.rank).getD 2

/-- The answer about the health of an index. -/
def healthAnswer (s : MemoryService) (index : String) (m : Message) : Answer :=
  let wanted := (parameter? m "wait_for_status").getD "red"
  let known := Table.has s.indexes index
  let fine := known && healthRank s.health ≤ healthRank wanted
  reply (if fine then 200 else 408)
    [("status", .text (if known then s.health else "red")), ("timed_out", .bool !fine)]

/-! ## Bulk calls -/

/-- The actions of a bulk call: all but a deletion have a source line, which is passed over. -/
def bulkActions : List Json → List (String × Json)
  | .object (("delete", address) :: _) :: rest => ("delete", address) :: bulkActions rest
  | .object ((action, address) :: _) :: _ :: rest => (action, address) :: bulkActions rest
  | [.object ((action, address) :: _)] => [(action, address)]
  | _ :: rest => bulkActions rest
  | [] => []

/-- The id that an action names. -/
def actionId : Json → Json
  | .object address => (Table.get? address "_id").getD .null
  | _ => .null

/-- The item that answers an action: done, unless the document is rejected. -/
def bulkItem (s : MemoryService) (action : String) (address : Json) : Json :=
  let id := actionId address
  let status := if action = "delete" then 200 else 201
  let rejected :=
    match id with
    | .text name => (Table.get? s.reject name).getD []
    | _ => []
  .object [(action, .object (Table.overlay [("_id", id), ("status", .int status)] rejected))]

/-- The answer to a bulk call. -/
def bulkAnswer (s : MemoryService) (m : Message) : Answer :=
  let content := (m.body.map Body.text).getD ""
  let lines := (endedLines content.toList).filterMap fun line => Json.read? (String.ofList line)
  reply 200 [("items", .list ((bulkActions lines).map fun (action, address) =>
    s.bulkItem action address))]

/-! ## Indexes and mappings -/

/-- The answer to a message about an index as a whole. -/
def indexAnswer (s : MemoryService) (index : String) (m : Message) : Answer × MemoryService :=
  let known := Table.has s.indexes index
  if m.method = "HEAD" then (.reply (if known then 200 else 404) .empty, s)
  else if m.method = "PUT" then
    if known then (indexExists index, s)
    else
      let mappings := (Table.get? (bodyMembers m) "mappings").getD (.object [])
      (acknowledged, { s with indexes := Table.set s.indexes index mappings })
  else if m.method = "DELETE" then
    if known then (acknowledged, { s with indexes := Table.erase s.indexes index })
    else (noIndex index, s)
  else (reply 200 [], s)

/-- The members of a value, none if it is no object. -/
def membersIn : Json → Json.Members
  | .object members => members
  | _ => []

/-- A member that holds members. -/
def memberIn (members : Json.Members) (name : String) : Json.Members :=
  membersIn ((Table.get? members name).getD (.object []))

/-- The first table with those entries of the second added that it does not have. -/
def addMissing (t top : Json.Members) : Json.Members :=
  top.foldl (fun acc (k, v) => if Table.has acc k then acc else Table.set acc k v) t

/-- The mapping of a type after a mapping has been put: fields that it does not have are added, and
the policy for unknown fields is taken over. -/
def putType (existing body : Json.Members) : Json.Members :=
  let properties := addMissing (memberIn existing "properties") (memberIn body "properties")
  Table.set (Table.set existing "properties" (.object properties)) "dynamic"
    ((Table.get? body "dynamic").getD .null)

/-- The answer to a message about the mappings of an index. -/
def mappingAnswer (s : MemoryService) (index : String) (rest : List String) (m : Message) :
    Answer × MemoryService :=
  match Table.get? s.indexes index with
  | none => (noIndex index, s)
  | some mappings =>
    if m.method = "GET" then
      (reply 200 [(index, .object [("mappings", mappings)])], s)
    else
      match m.method, rest with
      | "PUT", entityType :: _ =>
        let types := membersIn mappings
        let changed := putType (memberIn types entityType) (bodyMembers m)
        (acknowledged, { s with
          indexes := Table.set s.indexes index
            (.object (Table.set types entityType (.object changed))) })
      | _, _ => (reply 200 [], s)

/-- The answer of the service itself. -/
def ownAnswer (s : MemoryService) (m : Message) : Answer × MemoryService :=
  match pathParts m.path with
  | ["_cluster", "health", index] => (s.healthAnswer index m, s)
  | ["_bulk"] => (s.bulkAnswer m, s)
  | [index] => s.indexAnswer index m
  | index :: "_mapping" :: rest => s.mappingAnswer index rest m
  | _ => (reply 200 [], s)

/-- The answer to a message: that of the first rule that applies, or else that of the service. -/
def answer (s : MemoryService) (m : Message) : Answer × MemoryService :=
  match Rule.first? m s.rules with
  | some (answer, rules) => (answer, { s with rules })
  | none => s.ownAnswer m

end MemoryService

/-! ## Connections -/

/-- A client connected to a service held in memory, with what it has sent. -/
structure Connection where
  /-- The client. -/
  client : Client
  /-- The service. -/
  service : MemoryService
  /-- The messages that were sent, latest first. -/
  sent : List Message

namespace Connection

/-- A connection on which nothing has been sent. -/
def fresh (client : Client) (service : MemoryService) : Connection := ⟨client, service, []⟩

instance : Inhabited Connection := ⟨fresh default default⟩

/-- Makes a call. -/
def serve (c : Connection) (call : Call) : Answer × Connection :=
  let after := { c with client := c.client.afterCall }
  match c.client.message call with
  | .error reason => (.unsent reason, after)
  | .ok message =>
    let (answer, service) := c.service.answer message
    (answer, { after with service, sent := message :: c.sent })

end Connection

end SearchIndex
