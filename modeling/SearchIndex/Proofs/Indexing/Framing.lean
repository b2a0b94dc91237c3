/-
# Bulk calls on the wire

The text of a bulk call is its lines, each ended by a line break.  As no line has a break of its own
and every line is read back as the value that it writes, the text is taken apart into the lines
again, and the grammar of bulk lines takes these apart into items: `readBulk_groupCall` says that
what is read from the call of a group of document operations is one item per operation, in order.

What the item of an operation has to say is told by the operation alone (`IndexWork.item?`): index,
entity type, id and document are written out here, and not taken from the request that is made.
-/
import SearchIndex.Service.Client
import SearchIndex.Proofs.Indexing.Delivery
import SearchIndex.Proofs.Json.Reading

namespace SearchIndex

/-! ## Lines -/

/-- Pieces that are each ended by a separator are found again between the separators; nothing stands
after the last one. -/
lemma splitOn_flatMap_ended {α : Type} [DecidableEq α] {sep : α} {pieces : List (List α)}
    (h : ∀ piece ∈ pieces, sep ∉ piece) :
    (pieces.flatMap fun piece => piece ++ [sep]).splitOn sep = pieces ++ [[]] := by
  induction pieces with
  | nil => rfl
  | cons piece rest ih =>
    obtain ⟨hpiece, hrest⟩ := List.forall_mem_cons.1 h
    rw [List.flatMap_cons, List.append_assoc, List.singleton_append,
      List.splitOn_append_cons_self_of_not_mem hpiece, ih hrest]
    rfl

lemma toList_linesText (lines : List Json) :
    (linesText lines).toList =
      (lines.map (Json.write .spaced)).flatMap fun piece => piece ++ ['\n'] := by
  induction lines with
  | nil => rfl
  | cons line rest ih =>
    rw [linesText, List.map_cons, String.join_cons, String.toList_append, List.map_cons,
      List.flatMap_cons, ← ih]
    simp [Json.spaced, linesText]

/-- The lines of a text are those that it was made of. -/
lemma splitOn_linesText (lines : List Json) :
    (linesText lines).toList.splitOn '\n' = lines.map (Json.write .spaced) ++ [[]] := by
  rw [toList_linesText]
  refine splitOn_flatMap_ended fun piece hpiece => ?_
  obtain ⟨line, -, rfl⟩ := List.mem_map.1 hpiece
  exact Json.not_mem_write (by decide) (by decide) line

/-- The last line is ended like all others. -/
lemma exists_linesText_eq {lines : List Json} (h : lines ≠ []) :
    ∃ before, (linesText lines).toList = before ++ ['\n'] := by
  obtain ⟨init, last, rfl⟩ := (List.eq_nil_or_concat lines).resolve_left h
  refine ⟨(linesText init).toList ++ Json.write .spaced last, ?_⟩
  rw [List.concat_eq_append, toList_linesText, toList_linesText, List.map_append,
    List.flatMap_append, List.append_assoc]
  simp

/-- A text of lines is read as the items of the lines. -/
theorem readBulk_linesText {lines : List Json} (h : ∀ line ∈ lines, line.IsDistinct) :
    readBulk (linesText lines) = readBulkLines lines := by
  have hended : endedLines (linesText lines).toList = lines.map (Json.write .spaced) := by
    rw [endedLines, splitOn_linesText, List.dropLast_concat]
  have hread : (lines.map (Json.write .spaced)).mapM (fun line => Json.read? (String.ofList line)) =
      some lines := by
    clear hended
    induction lines with
    | nil => rfl
    | cons line rest ih =>
      obtain ⟨hline, hrest⟩ := List.forall_mem_cons.1 h
      have hfirst : Json.read? (String.ofList (Json.write .spaced line)) = some line :=
        Json.read?_spaced hline
      rw [List.map_cons, List.mapM_cons, hfirst, ih hrest]
      rfl
  rw [readBulk, hended, hread]
  rfl

/-! ## Document operations -/

namespace Json

lemma membersDistinct_set {members : Members} (h : MembersDistinct members) (name : String)
    {x : Json} (hx : x.IsDistinct) : MembersDistinct (Table.set members name x) := by
  induction members with
  | nil => exact ⟨hx, trivial⟩
  | cons member rest ih =>
    obtain ⟨hmember, hrest⟩ := h
    rw [Table.set]
    split
    · exact ⟨hx, hrest⟩
    · exact ⟨hmember, ih hrest⟩

lemma IsDistinct.set {members : Members} (h : (object members).IsDistinct) (name : String)
    {x : Json} (hx : x.IsDistinct) : (object (Table.set members name x)).IsDistinct :=
  ⟨Table.isDistinct_set h.1 name x, membersDistinct_set h.2 name hx⟩

end Json

/-- An operation with the index that it is for, and how its request is made. -/
structure IndexWork where
  /-- The index. -/
  index : String
  /-- Whether the index is refreshed afterwards. -/
  refresh : Bool
  /-- The monitor that follows the request. -/
  monitor : Option String
  /-- The operation. -/
  operation : Operation

namespace IndexWork

/-- The request of the operation. -/
def request? (w : IndexWork) : Option WorkRequest :=
  w.operation.request? w.index w.refresh w.monitor

/-- The id that the service is to know a document by: that of the entity, with its tenant and an
underscore before it if there is a tenant.  The empty tenant is none. -/
def idOf (key : DocumentKey) : String :=
  match key.tenant with
  | some tenant => if tenant = "" then key.id else tenant ++ "_" ++ key.id
  | none => key.id

/-- The document that the service is to keep: it says which tenant it belongs to, if to any. -/
def sourceOf (key : DocumentKey) (document : Json.Members) : Json.Members :=
  match key.tenant with
  | some tenant =>
    if tenant = "" then document else Table.set document "__tenant_id" (.text tenant)
  | none => document

/-- How an action line is to name the document: by its index, its entity type and its id. -/
def addressOf (index : String) (key : DocumentKey) : Json :=
  .object [("_index", .text index), ("_type", .text key.entityType), ("_id", .text (idOf key))]

/-- What a bulk call should say of an operation on a document: what is done, in which index to the
document of which type and id, and the source unless the document is deleted. -/
def item? (w : IndexWork) : Option BulkItem :=
  match w.operation with
  | .add key document | .update key document =>
    some ⟨"index", addressOf w.index key, some (.object (sourceOf key document))⟩
  | .delete key => some ⟨"delete", addressOf w.index key, none⟩
  | _ => none

/-- The operation is about one document, whose names are those of an object at every depth. -/
inductive IsDocumentWork (w : IndexWork) : Prop where
  | add {key : DocumentKey} {document : Json.Members} (h : w.operation = .add key document)
      (hdocument : (Json.object document).IsDistinct)
  | update {key : DocumentKey} {document : Json.Members} (h : w.operation = .update key document)
      (hdocument : (Json.object document).IsDistinct)
  | delete {key : DocumentKey} (h : w.operation = .delete key)

lemma documentId_eq_idOf (key : DocumentKey) : key.documentId = idOf key := by
  obtain ⟨entityType, id, _ | tenant⟩ := key
  · rfl
  · by_cases hempty : tenant = "" <;>
      simp [DocumentKey.documentId, documentId, tenant?, idOf, hempty, toString]

lemma source_eq_sourceOf (key : DocumentKey) (document : Json.Members) :
    Operation.source key document = sourceOf key document := by
  obtain ⟨entityType, id, _ | tenant⟩ := key
  · rfl
  · by_cases hempty : tenant = "" <;> simp [Operation.source, tenant?, sourceOf, tenantField, hempty]

lemma address_eq_addressOf (key : DocumentKey) (index : String) :
    key.address index = addressOf index key := by
  rw [DocumentKey.address, documentId_eq_idOf, addressOf]

lemma isDistinct_action (action index : String) (key : DocumentKey) :
    (Json.object [(action, addressOf index key)]).IsDistinct := by
  refine ⟨List.nodup_singleton action, ?_, trivial⟩
  simp [addressOf, Json.IsDistinct, Json.MembersDistinct, Table.IsDistinct, Table.keys]

lemma isDistinct_sourceOf {key : DocumentKey} {document : Json.Members}
    (h : (Json.object document).IsDistinct) : (Json.object (sourceOf key document)).IsDistinct := by
  unfold sourceOf
  split
  · split
    · exact h
    · exact h.set "__tenant_id" trivial
  · exact h

/-- A request has the lines of one item. -/
structure Carries (r : WorkRequest) (item : BulkItem) : Prop where
  bulkable : r.isBulkable = true
  lines_ne_nil : r.lines ≠ []
  isDistinct : ∀ line ∈ r.lines, line.IsDistinct
  readBulkLines : ∀ rest, readBulkLines (r.lines ++ rest) = (readBulkLines rest).map (item :: ·)

lemma carries_write (index : String) (refresh : Bool) (monitor : Option String) (key : DocumentKey)
    {document : Json.Members} (h : (Json.object document).IsDistinct) :
    Carries (Operation.write index refresh monitor key document)
      ⟨"index", addressOf index key, some (.object (sourceOf key document))⟩ := by
  have hlines : (Operation.write index refresh monitor key document).lines =
      [.object [("index", addressOf index key)], .object (sourceOf key document)] := by
    rw [← address_eq_addressOf, ← source_eq_sourceOf]
    rfl
  refine ⟨rfl, by simp [hlines], fun line hline => ?_, fun rest => ?_⟩
  · rw [hlines] at hline
    rcases List.mem_pair.1 hline with rfl | rfl
    · exact isDistinct_action "index" index key
    · exact isDistinct_sourceOf h
  · have hindex : ¬ "index" = "delete" := by decide
    rw [hlines, List.cons_append, List.singleton_append, SearchIndex.readBulkLines]
    exact hindex

lemma carries_delete {r : WorkRequest} {index : String} {refresh : Bool} {monitor : Option String}
    {key : DocumentKey} (hr : (Operation.delete key).request? index refresh monitor = some r) :
    Carries r ⟨"delete", addressOf index key, none⟩ := by
  obtain rfl := Option.some.inj hr
  have hline : (Json.object [("delete", key.address index)]).IsDistinct :=
    address_eq_addressOf key index ▸ isDistinct_action "delete" index key
  refine ⟨rfl, List.cons_ne_nil _ _, fun line hmem => ?_, fun rest => ?_⟩
  · obtain rfl := List.mem_singleton.1 hmem
    exact hline
  · rw [← address_eq_addressOf]
    simp [WorkRequest.lines, SearchIndex.readBulkLines]

/-- The request of an operation on a document carries what the operation says. -/
lemma IsDocumentWork.exists_carries {w : IndexWork} (h : w.IsDocumentWork) :
    ∃ r item, w.request? = some r ∧ w.item? = some item ∧ Carries r item := by
  obtain ⟨index, refresh, monitor, operation⟩ := w
  cases h with
  | add hadd hdocument =>
    obtain rfl := hadd
    exact ⟨_, _, rfl, rfl, carries_write index refresh monitor _ hdocument⟩
  | update hupdate hdocument =>
    obtain rfl := hupdate
    exact ⟨_, _, rfl, rfl, carries_write index refresh monitor _ hdocument⟩
  | delete hdelete =>
    obtain rfl := hdelete
    exact ⟨_, _, rfl, rfl, carries_delete rfl⟩

/-- The lines of requests are read as what the requests carry. -/
lemma exists_carries_all {group : List IndexWork} (h : ∀ w ∈ group, w.IsDocumentWork) :
    ∃ requests items, group.mapM request? = some requests ∧ group.mapM item? = some items ∧
      List.Forall₂ Carries requests items := by
  induction group with
  | nil => exact ⟨[], [], rfl, rfl, .nil⟩
  | cons w rest ih =>
    obtain ⟨hw, hrest⟩ := List.forall_mem_cons.1 h
    obtain ⟨r, item, hrequest, hitem, hcarries⟩ := hw.exists_carries
    obtain ⟨requests, items, hrequests, hitems, hall⟩ := ih hrest
    refine ⟨r :: requests, item :: items, ?_, ?_, .cons hcarries hall⟩
    · rw [List.mapM_cons, hrequest, hrequests]
      rfl
    · rw [List.mapM_cons, hitem, hitems]
      rfl

section Carrying

variable {requests : List WorkRequest} {items : List BulkItem}
  (h : List.Forall₂ Carries requests items)
include h

lemma readBulkLines_of_carries :
    readBulkLines (requests.flatMap WorkRequest.lines) = some items := by
  induction h with
  | nil => rfl
  | cons hfirst hrest ih => rw [List.flatMap_cons, hfirst.readBulkLines, ih, Option.map_some]

lemma isDistinct_of_carries :
    ∀ line ∈ requests.flatMap WorkRequest.lines, line.IsDistinct := by
  induction h with
  | nil => simp
  | cons hfirst hrest ih =>
    rw [List.flatMap_cons]
    exact List.forall_mem_append.2 ⟨hfirst.isDistinct, ih⟩

lemma lines_ne_nil_of_carries (hne : requests ≠ []) : requests.flatMap WorkRequest.lines ≠ [] := by
  cases h with
  | nil => exact absurd rfl hne
  | cons hfirst hrest =>
    rw [List.flatMap_cons]
    exact List.append_ne_nil_of_left_ne_nil hfirst.lines_ne_nil _

/-- Requests that carry items share one bulk call. -/
lemma groupCall_of_carries : groupCall requests = bulkCall requests := by
  have hsingle : single? requests = none := by
    cases h with
    | nil => rfl
    | cons hfirst hrest =>
      cases hrest with
      | nil => simp [single?, hfirst.bulkable]
      | cons => rfl
  rw [groupCall, hsingle]

end Carrying

end IndexWork

open IndexWork in
/-- **The bulk format is unambiguous.**  The call of operations on documents, of which there is at
least one, carries a text that ends with a line break and from which exactly the items of the
operations are read, in order. -/
theorem readBulk_groupCall {group : List IndexWork} (hne : group ≠ [])
    (h : ∀ w ∈ group, w.IsDocumentWork) :
    ∃ requests items text, group.mapM request? = some requests ∧
      group.mapM item? = some items ∧ items.length = requests.length ∧
      (groupCall requests).method = "POST" ∧ (groupCall requests).path = "/_bulk" ∧
      (groupCall requests).content.body = .ok (some ⟨"application/x-ndjson", text⟩) ∧
      readBulk text = some items ∧ ∃ before, text.toList = before ++ ['\n'] := by
  obtain ⟨requests, items, hrequests, hitems, hcarries⟩ := exists_carries_all h
  have hnonempty : requests ≠ [] := by
    rintro rfl
    obtain ⟨w, rest, rfl⟩ := List.exists_cons_of_ne_nil hne
    obtain ⟨r, -, hr, -⟩ := (h w List.mem_cons_self).exists_carries
    rw [List.mapM_cons, hr] at hrequests
    cases hrest : rest.mapM request? <;> simp [hrest] at hrequests
  have hlines := lines_ne_nil_of_carries hcarries hnonempty
  have hbody : (Content.lines (requests.flatMap WorkRequest.lines)).body =
      .ok (some ⟨linesType, linesText (requests.flatMap WorkRequest.lines)⟩) := by
    rw [Content.body, List.isEmpty_eq_false_iff.2 hlines]
    rfl
  have hread := (readBulk_linesText (isDistinct_of_carries hcarries)).trans
    (readBulkLines_of_carries hcarries)
  refine ⟨requests, items, linesText (requests.flatMap WorkRequest.lines), hrequests, hitems,
    hcarries.length_eq.symm, ?_⟩
  rw [groupCall_of_carries hcarries]
  exact ⟨rfl, rfl, hbody, hread, exists_linesText_eq hlines⟩

/-- A note with a line break, a quote, a control, a letter of another script and a sign beyond
U+FFFF in it, an empty document of a tenant, and a deletion. -/
def assortedWork : List IndexWork :=
  [⟨"library", false, none, .add ⟨"note", "1", none⟩
      [("text", .text "a\n\"b\"\x01é📚"), ("rating", .double (Double.ofInt 2))]⟩,
    ⟨"archive", true, some "m", .update ⟨"note", "2", some "acme"⟩ []⟩,
    ⟨"library", false, none, .delete ⟨"note", "3", none⟩⟩]

/-- What the three operations have to say. -/
def assortedItems : List BulkItem :=
  [⟨"index", .object [("_index", .text "library"), ("_type", .text "note"), ("_id", .text "1")],
      some (.object [("text", .text "a\n\"b\"\x01é📚"), ("rating", .double (Double.ofInt 2))])⟩,
    ⟨"index", .object [("_index", .text "archive"), ("_type", .text "note"),
      ("_id", .text "acme_2")], some (.object [("__tenant_id", .text "acme")])⟩,
    ⟨"delete", .object [("_index", .text "library"), ("_type", .text "note"), ("_id", .text "3")],
      none⟩]

/-- Three operations are read back as three items, of which the second one names the tenant. -/
theorem readBulk_groupCall_assorted :
    (∀ w ∈ assortedWork, w.IsDocumentWork) ∧
      ∃ requests text, assortedWork.mapM IndexWork.request? = some requests ∧
        (groupCall requests).content.body = .ok (some ⟨"application/x-ndjson", text⟩) ∧
        readBulk text = some assortedItems := by
  have hdocuments : ∀ w ∈ assortedWork, w.IsDocumentWork := by
    simp only [assortedWork, List.forall_mem_cons]
    refine ⟨.add rfl ?_, .update rfl ?_, .delete rfl, fun _ h => nomatch h⟩
    · simp [Json.IsDistinct, Json.MembersDistinct, Table.IsDistinct, Table.keys]
    · simp [Json.IsDistinct, Json.MembersDistinct, Table.IsDistinct, Table.keys]
  obtain ⟨requests, items, text, hrequests, hitems, -, -, -, hbody, hread, -⟩ :=
    readBulk_groupCall (List.cons_ne_nil _ _) hdocuments
  have hassorted : assortedWork.mapM IndexWork.item? = some assortedItems := rfl
  obtain rfl := Option.some.inj (hitems.symm.trans hassorted)
  exact ⟨hdocuments, requests, text, hrequests, hbody, hread⟩

end SearchIndex
