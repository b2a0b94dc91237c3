/-
# What calls deliver

A request reaches the service in one of two ways: as an item of a bulk call, or as a call of its
own.  `Call.deliveries?` reads from a call what it delivers, as the service does: a call to the
address of bulk calls is taken apart by the grammar of its lines, and every other call is one
delivery.

The main result is `deliveries?_groups`: whatever the limit, the calls of the groups deliver the
requests, each once and in order, as long as the requests have the form that operations give them.
-/
import SearchIndex.Proofs.Indexing.Groups

namespace SearchIndex

/-- What reaches the service of one request. -/
inductive Delivery where
  /-- An item of a bulk call. -/
  | item (item : BulkItem)
  /-- A call of its own. -/
  | alone (call : Call)

/-- The address of bulk calls. -/
def bulkPath : String := "/_bulk"

/-- What a call delivers, read back from the call; nothing can be read from a bulk call that does
not keep to the grammar. -/
def Call.deliveries? (call : Call) : Option (List Delivery) :=
  if call.path = bulkPath then
    match call.content with
    | .lines lines => (readBulkLines lines).map (List.map .item)
    | _ => none
  else some [.alone call]

/-- What calls deliver, in order. -/
def deliveries? : List Call → Option (List Delivery)
  | [] => some []
  | call :: rest => do
    let first ← call.deliveries?
    let others ← deliveries? rest
    return first ++ others

namespace WorkRequest

/-- What should reach the service of a request: its bulk item if it has a bulk action. -/
def delivery (r : WorkRequest) : Delivery :=
  match r.bulkAction with
  | some [(action, address)] => .item ⟨action, address, r.body.map Json.object⟩
  | _ => .alone r.call

/-- The form of the requests of operations.  A bulk action has one name, and exactly a deletion has
no source; a request without a bulk action is not addressed like a bulk call. -/
structure IsRegular (r : WorkRequest) : Prop where
  alone : r.bulkAction = none → r.path ≠ bulkPath
  bulk : ∀ members, r.bulkAction = some members →
    ∃ action address, members = [(action, address)] ∧ (action = "delete" ↔ r.body = none)

variable {r : WorkRequest}

/-- The lines of a request are read as one item. -/
lemma IsRegular.readBulkLines_lines (h : r.IsRegular) (hr : r.isBulkable = true) :
    ∃ item, r.delivery = .item item ∧ ∀ rest,
      readBulkLines (r.lines ++ rest) = (readBulkLines rest).map (item :: ·) := by
  obtain ⟨members, hmembers⟩ := Option.isSome_iff_exists.1 hr
  obtain ⟨action, address, rfl, hbody⟩ := h.bulk members hmembers
  refine ⟨⟨action, address, r.body.map Json.object⟩, by simp [delivery, hmembers], fun rest => ?_⟩
  by_cases hdelete : action = "delete"
  · subst hdelete
    simp [lines, hmembers, hbody.1 rfl, readBulkLines]
  · obtain ⟨body, hb⟩ := Option.ne_none_iff_exists'.1 (hdelete ∘ hbody.2)
    simp only [lines, hmembers, hb, Option.map_some, Option.toList_some, List.cons_append,
      List.nil_append]
    rw [readBulkLines]
    exact hdelete

lemma delivery_of_not_isBulkable (hr : r.isBulkable = false) : r.delivery = .alone r.call := by
  have hnone : r.bulkAction = none := by simpa [isBulkable] using hr
  simp [delivery, hnone]

end WorkRequest

/-- The lines of bulkable requests are read as their items, in order. -/
lemma readBulkLines_flatMap_lines {group : List WorkRequest}
    (hregular : ∀ r ∈ group, r.IsRegular) (hbulkable : ∀ r ∈ group, r.isBulkable = true) :
    ∃ items, readBulkLines (group.flatMap WorkRequest.lines) = some items ∧
      items.map Delivery.item = group.map WorkRequest.delivery := by
  induction group with
  | nil => exact ⟨[], rfl, rfl⟩
  | cons r group ih =>
    obtain ⟨items, hread, hitems⟩ := ih (fun x hx => hregular x (List.mem_cons_of_mem r hx))
      (fun x hx => hbulkable x (List.mem_cons_of_mem r hx))
    obtain ⟨item, hitem, hlines⟩ :=
      (hregular r List.mem_cons_self).readBulkLines_lines (hbulkable r List.mem_cons_self)
    refine ⟨item :: items, ?_, by simp [hitem, hitems]⟩
    rw [List.flatMap_cons, hlines, hread, Option.map_some]

section Groups

variable {limit : Nat} {group : List WorkRequest}

/-- The call of a group that is not sent alone has as many items as the group has requests. -/
lemma readBulkLines_bulkCall (hregular : ∀ r ∈ group, r.IsRegular)
    (hgroup : IsGroup WorkRequest.isBulkable limit group)
    (hpath : (groupCall group).path = bulkPath) :
    ∃ items, groupCall group = ⟨"POST", bulkPath, none, .lines (group.flatMap WorkRequest.lines)⟩ ∧
      readBulkLines (group.flatMap WorkRequest.lines) = some items ∧
      items.map Delivery.item = group.map WorkRequest.delivery ∧ items.length ≤ limit := by
  obtain ⟨r, rfl, hr, hsingle⟩ | ⟨hall, hlength, hsingle⟩ := hgroup.single?_cases
  · simp only [groupCall, hsingle] at hpath
    exact absurd hpath ((hregular r (by simp)).alone (by simpa [WorkRequest.isBulkable] using hr))
  · obtain ⟨items, hread, hitems⟩ := readBulkLines_flatMap_lines hregular hall
    refine ⟨items, by simp [groupCall, hsingle, bulkCall, bulkPath], hread, hitems, ?_⟩
    have := congrArg List.length hitems
    simp only [List.length_map] at this
    omega

/-- The call of a group delivers the requests of the group. -/
lemma deliveries?_groupCall (hregular : ∀ r ∈ group, r.IsRegular)
    (hgroup : IsGroup WorkRequest.isBulkable limit group) :
    (groupCall group).deliveries? = some (group.map WorkRequest.delivery) := by
  by_cases hpath : (groupCall group).path = bulkPath
  · obtain ⟨items, hcall, hread, hitems, -⟩ := readBulkLines_bulkCall hregular hgroup hpath
    simp [Call.deliveries?, hcall, hread, hitems]
  · rw [Call.deliveries?, if_neg hpath]
    obtain ⟨r, rfl, hr, hsingle⟩ | ⟨-, -, hsingle⟩ := hgroup.single?_cases
    · simp [groupCall, hsingle, WorkRequest.delivery_of_not_isBulkable hr]
    · simp [groupCall, hsingle, bulkCall, bulkPath] at hpath

/-- Calls that deliver groups deliver what is in the groups. -/
lemma deliveries?_map_groupCall {gs : List (List WorkRequest)}
    (h : ∀ g ∈ gs, (groupCall g).deliveries? = some (g.map WorkRequest.delivery)) :
    deliveries? (gs.map groupCall) = some (gs.flatten.map WorkRequest.delivery) := by
  induction gs with
  | nil => rfl
  | cons g gs ih =>
    have hrest := ih fun x hx => h x (List.mem_cons_of_mem g hx)
    simp [deliveries?, h g List.mem_cons_self, hrest]

/-- Whatever the limit, the calls of the groups of requests deliver the requests in order. -/
theorem deliveries?_groups {requests : List WorkRequest}
    (hregular : ∀ r ∈ requests, r.IsRegular) :
    deliveries? ((groups WorkRequest.isBulkable limit requests).map groupCall) =
      some (requests.map WorkRequest.delivery) := by
  rw [deliveries?_map_groupCall, flatten_groups]
  intro g hg
  exact deliveries?_groupCall (fun r hr => hregular r (mem_of_mem_groups hg hr))
    (isGroup_of_mem_groups hg)

end Groups

/-! ## The requests of operations -/

/-- The requests of operations in order; a flush has none. -/
def requestsOf (index : String) (refresh : Bool) (monitor : Option String)
    (operations : List Operation) : List WorkRequest :=
  operations.filterMap (Operation.request? index refresh monitor)

section Operations

variable {index : String} {refresh : Bool} {monitor : Option String} {operations : List Operation}
  {r : WorkRequest}

lemma mem_requestsOf :
    r ∈ requestsOf index refresh monitor operations ↔
      ∃ o ∈ operations, o.request? index refresh monitor = some r := by
  simp [requestsOf]

lemma requestsOf_cons (o : Operation) :
    requestsOf index refresh monitor (o :: operations) =
      (o.request? index refresh monitor).toList ++
        requestsOf index refresh monitor operations := by
  cases ho : o.request? index refresh monitor <;> simp [requestsOf, ho]

/-- A path that ends in more characters than the path of bulk calls has is another path. -/
lemma append_ne_bulkPath (path suffix : String) (h : 6 < suffix.length) :
    path ++ suffix ≠ bulkPath := by
  intro heq
  have hlength := congrArg String.length heq
  rw [String.length_append, show bulkPath.length = 6 from rfl] at hlength
  omega

/-- Operations give requests of the form that the grammar of bulk calls needs. -/
lemma Operation.isRegular_of_request? {o : Operation}
    (h : o.request? index refresh monitor = some r) : r.IsRegular := by
  cases o with
  | add key document | update key document =>
    cases h
    exact ⟨by simp [write], fun members hm => ⟨"index", key.address index,
      by simpa [write] using hm.symm, by simp [write]⟩⟩
  | delete key =>
    cases h
    exact ⟨by simp, fun members hm => ⟨"delete", key.address index,
      by simpa using hm.symm, by simp⟩⟩
  | purgeAll entityType tenant =>
    cases h
    exact ⟨fun _ => append_ne_bulkPath _ _ (by decide), by simp⟩
  | flush => cases h
  | optimize =>
    cases h
    exact ⟨fun _ => append_ne_bulkPath _ _ (by decide), by simp⟩

lemma isRegular_of_mem_requestsOf (h : r ∈ requestsOf index refresh monitor operations) :
    r.IsRegular := by
  obtain ⟨o, -, ho⟩ := mem_requestsOf.1 h
  exact Operation.isRegular_of_request? ho

end Operations

end SearchIndex
