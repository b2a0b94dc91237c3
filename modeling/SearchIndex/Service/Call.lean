/-
# Calls to the service

A call is what the library asks of the search service, an answer what comes back: a status with a
body, or nothing.  `Answer.judge` decides whether an answer is a success.
-/
import SearchIndex.Failure
import SearchIndex.Json.Reader

namespace SearchIndex

/-- What a call carries besides its path. -/
inductive Content where
  /-- Nothing. -/
  | none
  /-- A JSON value. -/
  | json (body : Json)
  /-- JSON values, a line each. -/
  | lines (lines : List Json)

/-- A call to the service. -/
structure Call where
  /-- The method. -/
  method : String
  /-- The path, relative to a host. -/
  path : String
  /-- The parameters of the query, if any are given. -/
  params : Option Json.Members
  /-- What is sent along. -/
  content : Content

/-- A call without parameters that carries nothing. -/
def Call.plain (method path : String) : Call := ⟨method, path, none, .none⟩

/-- The body of an answer. -/
inductive Payload where
  /-- No body. -/
  | empty
  /-- The text of a JSON value. -/
  | json (value : Json)
  /-- Any text. -/
  | text (text : String)

/-- What comes back from a call. -/
inductive Answer where
  /-- The service could not be reached. -/
  | unreachable (reason : String)
  /-- The call could not be sent at all. -/
  | unsent (reason : Misfit)
  /-- The service answered. -/
  | reply (status : Int) (body : Payload)

/-- A text without a byte order mark at its start. -/
def dropMark (s : String) : String :=
  match s.toList with
  | c :: rest => if c = Char.ofNat 0xFEFF then String.ofList rest else s
  | [] => s

/-- The value of a body: null when there is none, and a text that is no JSON by itself. -/
def Payload.decode : Payload → Json
  | empty => .null
  | json value => value
  | text s => if s.isEmpty then .null else (Json.read? (dropMark s)).getD (.text s)

/-- An answer that has been read. -/
structure Response where
  /-- The status. -/
  status : Int
  /-- The value of the body. -/
  body : Json

/-- A status below 400 is a success. -/
def isSuccess (status : Int) : Bool := status < 400

/-- The response of a call, or its failure.  Error statuses that the caller ignores are no
failures. -/
def Answer.judge (method path : String) (ignored : List Int) : Answer → Except Failure Response
  | unreachable reason => .error (.transport s!"{method} {path} failed: {reason}")
  | unsent reason => .error (.misfit reason)
  | reply status body =>
    if isSuccess status || status ∈ ignored then .ok ⟨status, body.decode⟩
    else .error (.remote (.status method path) status body.decode)

/-- Errors that report that an index already exists. -/
def alreadyExistsErrors : List String :=
  ["resource_already_exists_exception", "index_already_exists_exception"]

/-- Whether an error answer reports that the index already exists.  The error type is looked up in a
set, which lists and objects cannot be. -/
def reportsExisting (status : Int) (body : Json) : Except Failure Bool :=
  if status ≠ 400 then .ok false
  else
    match body with
    | .object members =>
      match Table.get? members "error" with
      | some (.object error) =>
        match (Table.get? error "type").getD .null with
        | .text type => .ok (type ∈ alreadyExistsErrors)
        | .list _ | .object _ => .error (.misfit .wrongKind)
        | _ => .ok false
      | _ => .ok false
    | _ => .ok false

theorem Answer.judge_ok {method path : String} {ignored : List Int} {status : Int} {body : Payload}
    (h : isSuccess status = true) :
    (Answer.reply status body).judge method path ignored = .ok ⟨status, body.decode⟩ := by
  simp [judge, h]

end SearchIndex
