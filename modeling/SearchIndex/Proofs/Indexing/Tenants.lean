/-
# The documents of tenants

The service keeps each document under its entity type and its id on the service, and knows nothing
of who owns it.  A document belongs to a tenant, or to none; the empty tenant counts as none.  This
is about when a service that carries out the requests of operations keeps the documents of different
owners apart.

The id on the service is the id of the entity after that of the tenant, so two documents can have
the same one (`documentId_eq_iff`).  A document that shares its id with no other, and is not taken
for one of a tenant by its own content, is stored as if it were alone: `stored_documents` says that
the service holds what was written last and not removed since by an operation on that document or
its owner.
-/
import SearchIndex.Proofs.Indexing.Delivery

namespace SearchIndex

/-! ## Owners -/

namespace DocumentKey

/-- The tenant that owns the document, if one does. -/
def owner (key : DocumentKey) : Option String := tenant? key.tenant

/-- Two keys name the same document of the same owner. -/
def IsSame (key other : DocumentKey) : Prop :=
  key.entityType = other.entityType ∧ key.owner = other.owner ∧ key.id = other.id

instance (key other : DocumentKey) : Decidable (key.IsSame other) :=
  inferInstanceAs (Decidable (_ ∧ _))

/-- What stands before the id of the entity in the id of a document. -/
def ownerPrefix : Option String → String
  | some tenant => tenant ++ "_"
  | none => ""

lemma documentId_eq (key : DocumentKey) : key.documentId = ownerPrefix key.owner ++ key.id := by
  rw [documentId, SearchIndex.documentId, owner]
  cases tenant? key.tenant with
  | none => simp [ownerPrefix]
  | some tenant => rfl

/-- Two documents have the same id exactly if one begins with what stands before the other, and the
id of its entity goes on as that of the other. -/
theorem documentId_eq_iff (key other : DocumentKey) :
    key.documentId = other.documentId ↔ ∃ part,
      (ownerPrefix other.owner = ownerPrefix key.owner ++ part ∧ key.id = part ++ other.id) ∨
      (ownerPrefix key.owner = ownerPrefix other.owner ++ part ∧ other.id = part ++ key.id) := by
  rw [documentId_eq, documentId_eq]
  constructor
  · intro heq
    have hlists := congrArg String.toList heq
    rw [String.toList_append, String.toList_append, List.append_eq_append_iff] at hlists
    obtain ⟨part, hfront, hid⟩ | ⟨part, hfront, hid⟩ := hlists
    · refine ⟨String.ofList part, Or.inl ⟨?_, ?_⟩⟩ <;> rw [← String.toList_inj] <;> simpa
    · refine ⟨String.ofList part, Or.inr ⟨?_, ?_⟩⟩ <;> rw [← String.toList_inj] <;> simpa
  · rintro ⟨part, ⟨hfront, hid⟩ | ⟨hfront, hid⟩⟩ <;> rw [hfront, hid, String.append_assoc]

/-- Documents of one owner have different ids. -/
lemma id_eq_of_documentId_eq {key other : DocumentKey} (howner : key.owner = other.owner)
    (hid : key.documentId = other.documentId) : key.id = other.id := by
  rw [documentId_eq, documentId_eq, howner] at hid
  exact String.append_right_inj _ |>.1 hid

end DocumentKey

/-! ## A service that keeps documents -/

/-- The documents of a service by entity type and id. -/
abbrev Store := String → String → Option Json.Members

section Store

variable (hits : Json → String → Bool) (index : String)

/-- Whether a query finds a document.  A term query finds the documents in which the value of a
field hits a text. -/
def selects (query : Json) (source : Json.Members) : Bool :=
  match query with
  | .object [("match_all", _)] => true
  | .object [("term", .object [(field, .text text)])] =>
    (Table.get? source field).any fun value => hits value text
  | _ => false

/-- Whether a call deletes a document of an entity type by a query. -/
def purges (call : Call) (entityType : String) (source : Json.Members) : Bool :=
  call.path = s!"/{index}/{entityType}/_delete_by_query" &&
    match call.content with
    | .json (.object body) => (Table.get? body "query").any fun query => selects hits query source
    | _ => false

/-- The text of a part of the address of a document. -/
def addressPart? (address : Json) (part : String) : Option String :=
  match address with
  | .object members =>
    match Table.get? members part with
    | some (.text text) => some text
    | _ => none
  | _ => none

namespace Store

/-- The store with another document, or none, in one place. -/
def put (store : Store) (entityType id : String) (source : Option Json.Members) : Store :=
  fun t i => if t = entityType ∧ i = id then source else store t i

/-- What the service does with what is delivered. -/
def deliver (store : Store) : Delivery → Store
  | .item item =>
    match addressPart? item.address "_type", addressPart? item.address "_id", item.action,
      item.source with
    | some entityType, some id, "index", some (.object source) =>
      store.put entityType id (some source)
    | some entityType, some id, "delete", none => store.put entityType id none
    | _, _, _, _ => store
  | .alone call => fun entityType id =>
    (store entityType id).filter fun source => !purges hits index call entityType source

/-- What the service holds after calls, if it held nothing before. -/
def after? (calls : List Call) : Option Store :=
  (deliveries? calls).map fun ds => ds.foldl (deliver hits index) fun _ _ => none

end Store

/-- Whether a purge for a tenant finds a document; one for none finds all. -/
def isPurged (tenant : Option String) (source : Json.Members) : Bool :=
  match tenant? tenant with
  | some tenant => (Table.get? source tenantField).any fun value => hits value tenant
  | none => true

/-- What is in a place of the store after an operation. -/
def Operation.placed (entityType id : String) (before : Option Json.Members) :
    Operation → Option Json.Members
  | add key document | update key document =>
    if entityType = key.entityType ∧ id = key.documentId then some (source key document)
    else before
  | delete key => if entityType = key.entityType ∧ id = key.documentId then none else before
  | purgeAll purged tenant =>
    if entityType = purged then before.filter fun source => !isPurged hits tenant source
    else before
  | flush | optimize => before

variable {hits index} {refresh : Bool} {monitor : Option String}

/-- The request of an operation changes each place of the store as the operation does. -/
lemma deliver_request (o : Operation) (store : Store) (entityType id : String) :
    ((o.request? index refresh monitor).toList.map WorkRequest.delivery).foldl
        (Store.deliver hits index) store entityType id =
      o.placed hits entityType id (store entityType id) := by
  cases o with
  | add key document | update key document =>
    simp [Operation.request?, Operation.write, WorkRequest.delivery, Store.deliver,
      addressPart?, DocumentKey.address, Table.get?, Store.put, Operation.placed]
  | delete key =>
    simp [Operation.request?, WorkRequest.delivery, Store.deliver,
      addressPart?, DocumentKey.address, Table.get?, Store.put, Operation.placed]
  | purgeAll purged tenant =>
    by_cases htype : entityType = purged
    · subst htype
      cases htenant : tenant? tenant <;>
        simp [Operation.request?, WorkRequest.delivery, WorkRequest.call, Store.deliver, purges,
          Table.get?, Operation.purgeQuery, selects, Operation.placed, isPurged, htenant]
    · have hother : purged ≠ entityType := fun h => htype h.symm
      cases hbefore : store entityType id <;>
        simp [Operation.request?, WorkRequest.delivery, WorkRequest.call, Store.deliver, purges,
          Operation.placed, hbefore, htype, hother, toString]
  | flush => rfl
  | optimize =>
    cases hbefore : store entityType id <;>
      simp [Operation.request?, WorkRequest.delivery, WorkRequest.call, Store.deliver, purges,
        Operation.placed, hbefore]

/-- The requests of operations change each place of the store as the operations do, in order. -/
lemma deliver_requestsOf (operations : List Operation) (store : Store) (entityType id : String) :
    ((requestsOf index refresh monitor operations).map WorkRequest.delivery).foldl
        (Store.deliver hits index) store entityType id =
      operations.foldl (fun before o => o.placed hits entityType id before)
        (store entityType id) := by
  induction operations generalizing store with
  | nil => rfl
  | cons o rest ih =>
    rw [requestsOf_cons, List.map_append, List.foldl_append, ih, deliver_request]
    rfl

end Store

/-! ## Documents by owner -/

/-- What is left of a document after an operation: operations on other documents, and purges for
other owners, leave it as it is. -/
def Operation.left (key : DocumentKey) (before : Option Json.Members) :
    Operation → Option Json.Members
  | add other document | update other document =>
    if other.IsSame key then some (source other document) else before
  | delete other => if other.IsSame key then none else before
  | purgeAll purged tenant =>
    if purged = key.entityType ∧ (tenant? tenant = none ∨ tenant? tenant = key.owner) then none
    else before
  | flush | optimize => before

/-- What operations leave of a document that was not there before. -/
def DocumentKey.leftBy (key : DocumentKey) (operations : List Operation) : Option Json.Members :=
  operations.foldl (fun before o => o.left key before) none

/-- The document that an operation writes or deletes. -/
def Operation.key? : Operation → Option DocumentKey
  | add key _ | update key _ | delete key => some key
  | purgeAll .. | flush | optimize => none

/-- A document that operations do not take for one of another owner: no document of another owner
with the same id is written or deleted, and if it belongs to no tenant it is not written with a
tenant field that is hit by a purge. -/
structure DocumentKey.IsApart (hits : Json → String → Bool) (operations : List Operation)
    (key : DocumentKey) : Prop where
  ids : ∀ o ∈ operations, ∀ other, o.key? = some other → other.entityType = key.entityType →
    other.documentId = key.documentId → other.owner = key.owner
  fields : key.owner = none → ∀ other document,
    .add other document ∈ operations ∨ .update other document ∈ operations → other.IsSame key →
    ∀ tenant text, .purgeAll key.entityType tenant ∈ operations → tenant? tenant = some text →
    ∀ value, Table.get? document tenantField = some value → hits value text = false

/-- The purges among operations find a document exactly if they are for its owner or for none. -/
def BelongsTo (hits : Json → String → Bool) (operations : List Operation) (key : DocumentKey)
    (source : Json.Members) : Prop :=
  ∀ tenant, .purgeAll key.entityType tenant ∈ operations →
    (isPurged hits tenant source = true ↔ tenant? tenant = none ∨ tenant? tenant = key.owner)

section Apart

variable {hits : Json → String → Bool}
  (hterm : ∀ text other, hits (.text text) other = true ↔ text = other)
  {operations : List Operation} {key : DocumentKey} (hapart : key.IsApart hits operations)
include hterm hapart

/-- A document that is written belongs to its owner. -/
lemma belongsTo_source {other : DocumentKey} {document : Json.Members}
    (hwrite : .add other document ∈ operations ∨ .update other document ∈ operations)
    (hsame : other.IsSame key) :
    BelongsTo hits operations key (Operation.source other document) := by
  intro tenant hpurge
  obtain ⟨-, howner, -⟩ := id hsame
  rw [DocumentKey.owner] at howner
  cases hpurged : tenant? tenant with
  | none => simp [isPurged, hpurged]
  | some text =>
    cases hkey : key.owner with
    | some owner =>
      rw [hkey] at howner
      simp [isPurged, hpurged, Operation.source, howner, Table.get?_set_self, hterm, eq_comm]
    | none =>
      rw [hkey] at howner
      have hfields := hapart.fields hkey other document hwrite hsame tenant text hpurge hpurged
      cases hget : Table.get? document tenantField with
      | none => simp [isPurged, hpurged, Operation.source, howner, hget]
      | some value => simp [isPurged, hpurged, Operation.source, howner, hget, hfields value hget]

/-- One operation leaves in the place of a document what it leaves of the document. -/
lemma placed_eq_left {o : Operation} (ho : o ∈ operations) {before : Option Json.Members}
    (hbefore : ∀ source, before = some source → BelongsTo hits operations key source) :
    o.placed hits key.entityType key.documentId before = o.left key before ∧
      ∀ source, o.left key before = some source → BelongsTo hits operations key source := by
  -- an operation on the place of the document is one on the document
  have hsame {other : DocumentKey} (hkey : o.key? = some other) :
      (key.entityType = other.entityType ∧ key.documentId = other.documentId) ↔
        other.IsSame key := by
    constructor
    · rintro ⟨htype, hid⟩
      have howner := hapart.ids o ho other hkey htype.symm hid.symm
      exact ⟨htype.symm, howner, DocumentKey.id_eq_of_documentId_eq howner hid.symm⟩
    · rintro ⟨htype, howner, hid⟩
      refine ⟨htype.symm, ?_⟩
      rw [DocumentKey.documentId_eq, DocumentKey.documentId_eq, howner, hid]
  cases o with
  | add other document | update other document =>
    have hiff := hsame rfl
    by_cases h : other.IsSame key
    · simp only [Operation.placed, Operation.left, hiff, if_pos h, true_and]
      rintro source ⟨⟩
      exact belongsTo_source hterm hapart (by simp [ho]) h
    · simpa [Operation.placed, Operation.left, hiff, h] using hbefore
  | delete other =>
    have hiff := hsame rfl
    by_cases h : other.IsSame key
    · simp [Operation.placed, Operation.left, hiff, h]
    · simpa [Operation.placed, Operation.left, hiff, h] using hbefore
  | purgeAll purged tenant =>
    by_cases htype : key.entityType = purged
    · subst htype
      cases before with
      | none => simp [Operation.placed, Operation.left]
      | some source =>
        have hpurged := hbefore source rfl tenant ho
        by_cases h : tenant? tenant = none ∨ tenant? tenant = key.owner
        · simp [Operation.placed, Operation.left, hpurged.2 h, h]
        · have hkept : isPurged hits tenant source = false :=
            Bool.eq_false_iff.2 fun hp => h (hpurged.1 hp)
          simpa [Operation.placed, Operation.left, hkept, h] using hbefore source rfl
    · have hother : purged ≠ key.entityType := fun hp => htype hp.symm
      simpa [Operation.placed, Operation.left, htype, hother] using hbefore
  | flush | optimize => exact ⟨rfl, hbefore⟩

/-- Operations leave in the place of a document what they leave of the document. -/
lemma foldl_placed_eq_foldl_left (rest : List Operation) (hrest : ∀ o ∈ rest, o ∈ operations)
    {before : Option Json.Members}
    (hbefore : ∀ source, before = some source → BelongsTo hits operations key source) :
    rest.foldl (fun b o => o.placed hits key.entityType key.documentId b) before =
      rest.foldl (fun b o => o.left key b) before := by
  induction rest generalizing before with
  | nil => rfl
  | cons o rest ih =>
    obtain ⟨hstep, hafter⟩ :=
      placed_eq_left hterm hapart (hrest o List.mem_cons_self) hbefore
    rw [List.foldl_cons, List.foldl_cons, hstep]
    exact ih (fun x hx => hrest x (List.mem_cons_of_mem o hx)) hafter

end Apart

/-- A place of the store is filled only by an operation on a document that has its place there. -/
lemma exists_key_of_placed {hits : Json → String → Bool} {entityType id : String} {o : Operation}
    {before : Option Json.Members} (h : o.placed hits entityType id before ≠ none) :
    before ≠ none ∨
      ∃ key, o.key? = some key ∧ key.entityType = entityType ∧ key.documentId = id := by
  by_cases hkey : ∃ key, o.key? = some key ∧ key.entityType = entityType ∧ key.documentId = id
  · exact Or.inr hkey
  · refine Or.inl fun hnone => h ?_
    subst hnone
    cases o with
    | add key document | update key document =>
      rw [Operation.placed, if_neg]
      rintro ⟨htype, hid⟩
      exact hkey ⟨key, rfl, htype.symm, hid.symm⟩
    | delete key | purgeAll purged tenant => simp [Operation.placed]
    | flush | optimize => rfl

lemma exists_key_of_foldl_placed {hits : Json → String → Bool} {entityType id : String}
    (operations : List Operation) {before : Option Json.Members}
    (h : operations.foldl (fun b o => o.placed hits entityType id b) before ≠ none) :
    before ≠ none ∨ ∃ o ∈ operations, ∃ key, o.key? = some key ∧ key.entityType = entityType ∧
      key.documentId = id := by
  induction operations generalizing before with
  | nil => exact Or.inl h
  | cons o rest ih =>
    rcases ih h with hplaced | ⟨o', ho', hkey⟩
    · rcases exists_key_of_placed hplaced with hbefore | hkey
      · exact Or.inl hbefore
      · exact Or.inr ⟨o, List.mem_cons_self, hkey⟩
    · exact Or.inr ⟨o', List.mem_cons_of_mem o ho', hkey⟩

/-- **Documents are kept by owner.**  Against a service whose term queries find the texts that are
asked for, the calls of operations leave of each document that is apart what the operations on it,
and the purges for its owner or for none, leave of it; and they leave nothing else.  Which documents
have an id in common is told by `DocumentKey.documentId_eq_iff`. -/
theorem stored_documents (hits : Json → String → Bool)
    (hterm : ∀ text other, hits (.text text) other = true ↔ text = other)
    (index : String) (refresh : Bool) (monitor : Option String) (limit : Nat)
    (operations : List Operation) :
    ∃ store, Store.after? hits index ((groups WorkRequest.isBulkable limit
        (requestsOf index refresh monitor operations)).map groupCall) = some store ∧
      (∀ key : DocumentKey, key.IsApart hits operations →
        store key.entityType key.documentId = key.leftBy operations) ∧
      (∀ entityType id, store entityType id ≠ none → ∃ o ∈ operations, ∃ key, o.key? = some key ∧
        key.entityType = entityType ∧ key.documentId = id) ∧
      ∀ key other : DocumentKey, key.documentId = other.documentId ↔ ∃ part,
        (DocumentKey.ownerPrefix other.owner = DocumentKey.ownerPrefix key.owner ++ part ∧
          key.id = part ++ other.id) ∨
        (DocumentKey.ownerPrefix key.owner = DocumentKey.ownerPrefix other.owner ++ part ∧
          other.id = part ++ key.id) := by
  have hdelivered : deliveries? ((groups WorkRequest.isBulkable limit
      (requestsOf index refresh monitor operations)).map groupCall) =
      some ((requestsOf index refresh monitor operations).map WorkRequest.delivery) :=
    deliveries?_groups fun r hr => isRegular_of_mem_requestsOf hr
  refine ⟨_, by rw [Store.after?, hdelivered, Option.map_some], ?_, ?_,
    DocumentKey.documentId_eq_iff⟩
  · intro key hapart
    rw [deliver_requestsOf, DocumentKey.leftBy]
    exact foldl_placed_eq_foldl_left hterm hapart operations (fun o ho => ho) (by simp)
  · intro entityType id hstored
    rw [deliver_requestsOf] at hstored
    rcases exists_key_of_foldl_placed operations hstored with hbefore | hkey
    · exact absurd rfl hbefore
    · exact hkey

/-- A term query that finds a text exactly where it is the value. -/
def findsText : Json → String → Bool
  | .text text, other => text = other
  | _, _ => false

lemma findsText_text (text other : String) :
    findsText (.text text) other = true ↔ text = other := by
  simp [findsText]

/-- What a service holds of a document after operations on an index of books. -/
def storedAfter (operations : List Operation) (key : DocumentKey) : Option Json.Members :=
  (Store.after? findsText "books" ((groups WorkRequest.isBulkable 2
    (requestsOf "books" true none operations)).map groupCall)).bind fun store =>
      store key.entityType key.documentId

/-- Two tenants have a document of one id, and those of the first one are purged. -/
theorem stored_documents_of_two_tenants :
    let operations : List Operation := [.add ⟨"book", "1", some "a"⟩ [],
      .add ⟨"book", "1", some "b"⟩ [], .purgeAll "book" (some "a")]
    storedAfter operations ⟨"book", "1", some "b"⟩ = some [(tenantField, .text "b")] ∧
      storedAfter operations ⟨"book", "1", some "a"⟩ = none := by
  intro operations
  have hapart (tenant : String) (htenant : tenant = "a" ∨ tenant = "b") :
      (⟨"book", "1", some tenant⟩ : DocumentKey).IsApart findsText operations := by
    rcases htenant with rfl | rfl
    all_goals
      refine ⟨fun o ho other hkey _ hid => ?_, fun hnone => absurd hnone (by decide)⟩
      simp only [operations, List.mem_cons, List.not_mem_nil, or_false] at ho
      rcases ho with rfl | rfl | rfl
      all_goals cases hkey
    · rfl
    · exact absurd hid (by decide)
    · exact absurd hid (by decide)
    · rfl
  obtain ⟨store, hstore, hleft, -, -⟩ :=
    stored_documents findsText findsText_text "books" true none 2 operations
  simp only [storedAfter, hstore, Option.bind_some]
  exact ⟨hleft _ (hapart "b" (Or.inr rfl)), hleft _ (hapart "a" (Or.inl rfl))⟩

/-- Documents are not kept by owner in general: the documents of two tenants have one id, a document
of no tenant is taken for one of a tenant, and the empty tenant counts as none. -/
theorem owners_not_kept_apart :
    storedAfter [.add ⟨"book", "b_c", some "a"⟩ [], .add ⟨"book", "c", some "a_b"⟩ []]
        ⟨"book", "b_c", some "a"⟩ = some [(tenantField, .text "a_b")] ∧
      storedAfter [.add ⟨"book", "1", none⟩ [(tenantField, .text "a")],
        .purgeAll "book" (some "a")] ⟨"book", "1", none⟩ = none ∧
      storedAfter [.add ⟨"book", "1", some "a"⟩ [], .purgeAll "book" (some "")]
        ⟨"book", "1", some "a"⟩ = none :=
  ⟨rfl, rfl, rfl⟩

end SearchIndex
