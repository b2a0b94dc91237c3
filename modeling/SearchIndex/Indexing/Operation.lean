/-
# Indexing operations and their requests

An operation is a piece of work on one index: documents are added, updated or deleted, all documents
of an entity type are purged, the index is flushed or optimized.  Every operation but a flush
becomes one request to the service.
-/
import SearchIndex.Descriptor.Mapping

namespace SearchIndex

/-- The document that an operation is about. -/
structure DocumentKey where
  /-- The entity type of the document. -/
  entityType : String
  /-- The id of the entity. -/
  id : String
  /-- The tenant that owns the document. -/
  tenant : Option String
deriving DecidableEq

/-- An indexing operation. -/
inductive Operation where
  /-- Indexes a new document. -/
  | add (key : DocumentKey) (document : Json.Members)
  /-- Replaces a document or creates it. -/
  | update (key : DocumentKey) (document : Json.Members)
  /-- Deletes a document. -/
  | delete (key : DocumentKey)
  /-- Deletes all documents of an entity type, of one tenant or of all. -/
  | purgeAll (entityType : String) (tenant : Option String)
  /-- Waits until the asynchronous work on the index is done. -/
  | flush
  /-- Merges the segments of the index. -/
  | optimize

/-- What is handed over to be carried out: an operation, or a value that is none. -/
inductive Offered where
  | operation (operation : Operation)
  /-- A value of some other kind. -/
  | other (kind : String)

/-- A request that carries out work on one index.  A request with a bulk action can be sent with
others in one bulk call. -/
structure WorkRequest where
  /-- The index. -/
  index : String
  /-- The method of the call that sends the request alone. -/
  method : String
  /-- The path of that call. -/
  path : String
  /-- The parameters of that call. -/
  params : Option Json.Members
  /-- The body, or the source line of a bulk call. -/
  body : Option Json.Members
  /-- The action line of a bulk call. -/
  bulkAction : Option Json.Members
  /-- Error statuses that count as success, in increasing order. -/
  ignored : List Int
  /-- Whether the index is refreshed once the request is done. -/
  refresh : Bool
  /-- The monitor that follows the request. -/
  monitor : Option String

namespace WorkRequest

/-- Whether the request can be part of a bulk call. -/
def isBulkable (r : WorkRequest) : Bool := r.bulkAction.isSome

/-- A request as failures name it. -/
def describe (r : WorkRequest) : String := s!"{r.method} {r.path}"

end WorkRequest

/-- The tenant, unless it is missing or empty. -/
def tenant? : Option String → Option String
  | some tenant => if tenant.isEmpty then none else some tenant
  | none => none

/-- The id of a document on the service: the id of the entity, after that of the tenant if there is
one. -/
def documentId (id : String) (tenant : Option String) : String :=
  match tenant? tenant with
  | some tenant => s!"{tenant}_{id}"
  | none => id

namespace DocumentKey

/-- The id of the document on the service. -/
def documentId (key : DocumentKey) : String := SearchIndex.documentId key.id key.tenant

/-- The path of the document in an index. -/
def path (key : DocumentKey) (index : String) : String :=
  s!"/{index}/{key.entityType}/{key.documentId}"

/-- What a bulk action line says about the document. -/
def address (key : DocumentKey) (index : String) : Json :=
  .object [("_index", .text index), ("_type", .text key.entityType),
    ("_id", .text key.documentId)]

end DocumentKey

namespace Operation

/-- The document as it is stored, with its tenant if it has one. -/
def source (key : DocumentKey) (document : Json.Members) : Json.Members :=
  match tenant? key.tenant with
  | some tenant => Table.set document tenantField (.text tenant)
  | none => document

/-- The request that writes a document. -/
def write (index : String) (refresh : Bool) (monitor : Option String) (key : DocumentKey)
    (document : Json.Members) : WorkRequest where
  index := index
  method := "PUT"
  path := key.path index
  params := none
  body := some (source key document)
  bulkAction := some [("index", key.address index)]
  ignored := []
  refresh := refresh
  monitor := monitor

/-- The query that finds the documents of a tenant, or all. -/
def purgeQuery (tenant : Option String) : Json :=
  match tenant? tenant with
  | some tenant => .object [("term", .object [(tenantField, .text tenant)])]
  | none => .object [("match_all", .object [])]

/-- The request of an operation on an index; a flush has none.  Deleting what is not there is no
error, and neither is optimizing on a service that cannot. -/
def request? (index : String) (refresh : Bool) (monitor : Option String) :
    Operation → Option WorkRequest
  | add key document => some (write index refresh monitor key document)
  | update key document => some (write index refresh monitor key document)
  | delete key => some {
      index, refresh, monitor
      method := "DELETE"
      path := key.path index
      params := none
      body := none
      bulkAction := some [("delete", key.address index)]
      ignored := [404] }
  | purgeAll entityType tenant => some {
      index, refresh, monitor
      method := "POST"
      path := s!"/{index}/{entityType}/_delete_by_query"
      params := some [("conflicts", .text "proceed")]
      body := some [("query", purgeQuery tenant)]
      bulkAction := none
      ignored := [404] }
  | flush => none
  | optimize => some {
      index, monitor
      method := "POST"
      path := s!"/{index}/_forcemerge"
      params := none
      body := none
      bulkAction := none
      ignored := [404, 405, 501]
      refresh := false }

end Operation

/-! ## Checks -/

/-- The fields that name a document, before and after the document itself. -/
def checkKey (members : Json.Members) (document : Checked Json.Members) :
    Checked (DocumentKey × Json.Members) :=
  (fun entityType id document tenant => (⟨entityType, id, tenant⟩, document))
    <$> required members "entity_type" checkText
    <*> required members "id" checkText
    <*> document
    <*> optional members "tenant_id" none (checkNullable checkText)

/-- The document among the fields of an operation. -/
def checkDocument (members : Json.Members) : Checked Json.Members :=
  optional members "document" [] (checkTable checkAny)

/-- Names the kind of a value that is no operation. -/
def kindOf : Json → String
  | .null => "NoneType"
  | .bool _ => "bool"
  | .int _ => "int"
  | .double _ => "float"
  | .text _ => "str"
  | .list _ => "list"
  | .object _ => "dict"

/-- Checks an operation of the kind that it names; anything else is taken as it is. -/
def Offered.check (j : Json) : Except Failure Offered :=
  let offered (c : Checked Operation) (model : String) : Except Failure Offered :=
    (c.map Offered.operation).orFail model
  match j with
  | .object members =>
    match Table.get? members "kind" with
    | some (.text "add") =>
      offered ((checkKey members (checkDocument members)).map fun (k, d) => .add k d)
        "AddOperation"
    | some (.text "update") =>
      offered ((checkKey members (checkDocument members)).map fun (k, d) => .update k d)
        "UpdateOperation"
    | some (.text "delete") =>
      offered ((checkKey members (.valid [])).map fun (k, _) => .delete k)
        "DeleteOperation"
    | some (.text "purge_all") =>
      offered ((fun entityType tenant => .purgeAll entityType tenant)
          <$> required members "entity_type" checkText
          <*> optional members "tenant_id" none (checkNullable checkText))
        "PurgeAllOperation"
    | some (.text "flush") => .ok (.operation .flush)
    | some (.text "optimize") => .ok (.operation .optimize)
    | _ => .ok (.other (kindOf j))
  | _ => .ok (.other (kindOf j))

/-- Checks a request given by its own fields. -/
def WorkRequest.check : Json → Checked WorkRequest :=
  checkModel fun members =>
    (fun index method path params body bulkAction ignored refresh _ =>
        { index, method, path, params, body, bulkAction, ignored, refresh, monitor := none })
      <$> required members "index_name" checkText
      <*> required members "method" checkText
      <*> required members "path" checkText
      <*> optional members "params" none (checkNullable (checkTable checkAny))
      <*> optional members "body" none (checkNullable (checkTable checkAny))
      <*> optional members "bulk_action" none (checkNullable (checkTable checkAny))
      <*> optional members "ignored_statuses" [] checkIntSet
      <*> optional members "refresh_after_write" false checkBool
      <*> optional members "monitor" none
        (checkNullable fun _ => (.issue .instanceOf : Checked Unit))

end SearchIndex
