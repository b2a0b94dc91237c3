/-
# Bulk calls

Requests are carried out in groups: consecutive requests with a bulk action share a call, up to a
limit, and every other request has a call of its own.  The answer to a call is judged for each
request of its group.

The lines of a bulk call follow a small grammar: an action line, and after it a source line unless
the action is a deletion.  `readBulk` reads that grammar.
-/
import SearchIndex.Indexing.Operation
import SearchIndex.Service.Call

namespace SearchIndex

/-! ## Groups -/

/-- Splits a list into groups of consecutive bulkable items, at most `limit` in each, with every
other item alone.  `current` is the group being filled. -/
def groupsFrom {α : Type} (bulkable : α → Bool) (limit : Nat) (current : List α) :
    List α → List (List α)
  | [] => if current.isEmpty then [] else [current]
  | x :: rest =>
    if bulkable x then
      if limit ≤ current.length + 1 then
        (current ++ [x]) :: groupsFrom bulkable limit [] rest
      else groupsFrom bulkable limit (current ++ [x]) rest
    else
      (if current.isEmpty then [] else [current]) ++ [x] :: groupsFrom bulkable limit [] rest

/-- The groups of a list. -/
def groups {α : Type} (bulkable : α → Bool) (limit : Nat) (items : List α) : List (List α) :=
  groupsFrom bulkable limit [] items

/-- A group that may be sent in one call: an item that is not bulkable, or up to `limit` ones that
are. -/
def IsGroup {α : Type} (bulkable : α → Bool) (limit : Nat) (g : List α) : Prop :=
  g ≠ [] ∧ ((∃ x, g = [x] ∧ bulkable x = false) ∨ (g.all bulkable ∧ g.length ≤ limit))

/-- Grouping loses nothing, adds nothing and keeps the order. -/
theorem flatten_groupsFrom {α : Type} (bulkable : α → Bool) (limit : Nat) (items current : List α) :
    (groupsFrom bulkable limit current items).flatten = current ++ items := by
  induction items generalizing current with
  | nil => by_cases h : current = [] <;> simp [groupsFrom, h]
  | cons x rest ih =>
    unfold groupsFrom
    split
    · split <;> simp [ih]
    · by_cases h : current = [] <;> simp [ih, h]

theorem flatten_groups {α : Type} (bulkable : α → Bool) (limit : Nat) (items : List α) :
    (groups bulkable limit items).flatten = items := by
  simp [groups, flatten_groupsFrom]

/-! ## The call of a group -/

/-- The lines of a bulk call for one request. -/
def WorkRequest.lines (r : WorkRequest) : List Json :=
  match r.bulkAction with
  | some action => .object action :: (r.body.map Json.object).toList
  | none => []

/-- The call that carries out one request alone. -/
def WorkRequest.call (r : WorkRequest) : Call :=
  ⟨r.method, r.path, r.params,
    match r.body with
    | some body => .json (.object body)
    | none => .none⟩

/-- The bulk call of several requests. -/
def bulkCall (group : List WorkRequest) : Call :=
  ⟨"POST", "/_bulk", none, .lines (group.flatMap WorkRequest.lines)⟩

/-- The request of a group that is sent alone. -/
def single? (group : List WorkRequest) : Option WorkRequest :=
  match group with
  | [r] => if r.isBulkable then none else some r
  | _ => none

/-- The call of a group. -/
def groupCall (group : List WorkRequest) : Call :=
  match single? group with
  | some r => r.call
  | none => bulkCall group

/-! ## The answer to a group -/

/-- What an answer says about the requests of a group. -/
inductive Verdict where
  /-- The call failed as a whole, and every request of the group with it. -/
  | callFailed (failure : Failure)
  /-- Each request succeeded, or was rejected with the details given. -/
  | judged (rejections : List (Option Json))

/-- The number that a reported status stands for: numbers are cut to whole ones, and texts are read
as decimals in any script. -/
def statusOf : Json → Except Failure Int
  | .int n => .ok n
  | .bool b => .ok (if b then 1 else 0)
  | .double x =>
    match x.truncate? with
    | some n => .ok n
    | none => .error (.misfit .unreadable)
  | .text s =>
    let digits := (Text.trimmed Text.isBlank s.toList).map fun c =>
      match Text.digitValue? c with
      | some n => Char.ofNat ('0'.toNat + n)
      | none => c
    match signedWhole? digits with
    | some n => .ok n
    | none => .error (.misfit .unreadable)
  | _ => .error (.misfit .wrongKind)

/-- The details of a rejected item: its request and status, and all that the service says. -/
def rejection (r : WorkRequest) (status : Int) (item : Json.Members) : Json :=
  .object (Table.overlay [("request", .text r.describe), ("status", .int status)] item)

/-- Judges the item of one request by its status, 200 when it has none. -/
def judgeItem (r : WorkRequest) : Json → Except Failure (Option Json)
  | .object members =>
    match (members.head?.map (·.2)).getD (.object []) with
    | .object item => do
      let status ← statusOf ((Table.get? item "status").getD (.int 200))
      return if isSuccess status || status ∈ r.ignored then none
        else some (rejection r status item)
    | _ => .error (.misfit .notAnObject)
  | _ => .error (.misfit .notAnObject)

/-- Judges the items of a group in order. -/
def judgeItems : List WorkRequest → List Json → Except Failure (List (Option Json))
  | r :: group, item :: items => do
    let verdict ← judgeItem r item
    let others ← judgeItems group items
    return verdict :: others
  | _, _ => .ok []

/-- The items that an answer lists; a text counts as the list of its characters and an object as the
list of its names. -/
def listedItems (body : Json) : Except Failure (List Json) :=
  if body.isVacant then .ok []
  else
    match body with
    | .object members =>
      match (Table.get? members "items").getD (.list []) with
      | .list items => .ok items
      | .text s => .ok (s.toList.map fun c => .text (String.singleton c))
      | .object items => .ok (items.map fun m => .text m.1)
      | _ => .error (.misfit .wrongKind)
    | _ => .error (.misfit .notAnObject)

/-- Judges the response of a bulk call. -/
def judgeBulk (group : List WorkRequest) (response : Response) :
    Except Failure (List (Option Json)) := do
  let items ← listedItems response.body
  if items.length ≠ group.length then
    throw (.remote (.itemCount items.length group.length) response.status response.body)
  judgeItems group items

/-- What an answer to the call of a group says. -/
def judgeGroup (group : List WorkRequest) (answer : Answer) : Verdict :=
  match single? group with
  | some r =>
    match answer.judge r.method r.path r.ignored with
    | .ok _ => .judged [none]
    | .error failure => .callFailed failure
  | none =>
    match answer.judge "POST" "/_bulk" [] >>= judgeBulk group with
    | .ok rejections => .judged rejections
    | .error failure => .callFailed failure

/-- An error that was raised for requests of a group.  Errors are told apart by their numbers, even
where their failures are alike. -/
structure Raised where
  /-- The number of the error. -/
  number : Nat
  /-- What went wrong. -/
  failure : Failure

/-- The error of each request of a group, none where the request succeeded.  A call that failed as a
whole is one error, which all requests share; each rejection is an error of its own. -/
def Verdict.errors (verdict : Verdict) (group : List WorkRequest) : List (Option Raised) :=
  match verdict with
  | callFailed failure => group.map fun _ => some ⟨0, failure⟩
  | judged rejections =>
    rejections.zipIdx.map fun (details, i) => details.map fun d => ⟨i, .rejected [d]⟩

/-- The failure of each request of a group, none where the request succeeded. -/
def Verdict.failures (verdict : Verdict) (group : List WorkRequest) : List (Option Failure) :=
  (verdict.errors group).map (Option.map Raised.failure)

/-! ## Refreshing -/

/-- The indexes that the requests ask to refresh, each once and in order. -/
def refreshedIndexes (requests : List WorkRequest) : List String :=
  sortTexts ((requests.filter (·.refresh)).map (·.index)).eraseDups

/-- The call that refreshes indexes. -/
def refreshCall (indexes : List String) : Call :=
  .plain "POST" ("/" ++ ",".intercalate indexes ++ "/_refresh")

/-! ## The grammar of bulk lines -/

/-- One item of a bulk call. -/
structure BulkItem where
  /-- What is done. -/
  action : String
  /-- What the action line says about the document. -/
  address : Json
  /-- The document, unless it is deleted. -/
  source : Option Json

/-- Reads the items from the lines of a bulk call: each action line has one name, and all actions
but a deletion have a source line. -/
def readBulkLines : List Json → Option (List BulkItem)
  | [] => some []
  | .object [("delete", address)] :: rest =>
    (readBulkLines rest).map (⟨"delete", address, none⟩ :: ·)
  | .object [(action, address)] :: source :: rest =>
    (readBulkLines rest).map (⟨action, address, some source⟩ :: ·)
  | _ => none

/-- The lines of a text in which every line is ended by a line break. -/
def endedLines (cs : List Char) : List (List Char) :=
  (cs.splitOn '\n').dropLast

/-- Reads the items from the text of a bulk call. -/
def readBulk (content : String) : Option (List BulkItem) := do
  let lines ← (endedLines content.toList).mapM fun line => Json.read? (String.ofList line)
  readBulkLines lines

end SearchIndex
