/-
# The verdict on each request

The answer to the call of a group is whatever the service chose to send.  `Answer.Lists` says in
terms of the answer alone when that can be read as a list of items, one for each request, each of
which reports a status (`ItemReports`).  `ItemsListed`, which speaks of the functions that read the
answer, is no more than that (`itemsListed_iff`).

The main result is `group_judged`: every request of a group has one entry.  In a bulk call that is
the verdict on its own item if the answer can be read, and one error that all of them share if it
cannot; a request that is sent alone has no error exactly if the service accepted it.
-/
import SearchIndex.Proofs.Indexing.Resolution

namespace SearchIndex

/-! ## Answers that can be read -/

/-- An item reports a status and all that comes with it.  What counts is the first value of the
item. -/
inductive ItemReports : Json → Int → Json.Members → Prop where
  /-- An item that says nothing reports a success. -/
  | nothing : ItemReports (.object []) 200 []
  /-- An item that says something, but no status, reports a success. -/
  | silent {name : String} {report others : Json.Members}
      (hnone : Table.get? report "status" = none) :
      ItemReports (.object ((name, .object report) :: others)) 200 report
  /-- An item reports the status that it tells, if that can be read as a whole number. -/
  | told {name : String} {report others : Json.Members} {told : Json} {status : Int}
      (hsome : Table.get? report "status" = some told) (hread : statusOf told = .ok status) :
      ItemReports (.object ((name, .object report) :: others)) status report

lemma itemReport?_eq_some_iff {item : Json} {status : Int} {report : Json.Members} :
    itemReport? item = some (status, report) ↔ ItemReports item status report := by
  constructor
  · intro h
    cases item with
    | object members =>
      cases members with
      | nil =>
        obtain ⟨rfl, rfl⟩ := Prod.mk.inj (Option.some.inj h)
        exact .nothing
      | cons member others =>
        obtain ⟨name, value⟩ := member
        cases value with
        | object found =>
          obtain ⟨n, hn, heq⟩ := Option.map_eq_some_iff.1 h
          obtain ⟨rfl, rfl⟩ := Prod.mk.inj heq
          have hread : statusOf ((Table.get? found "status").getD (.int 200)) = .ok n := by
            cases hstatus : statusOf ((Table.get? found "status").getD (.int 200)) with
            | ok m => rw [hstatus] at hn; exact congrArg Except.ok (Option.some.inj hn)
            | error failure => rw [hstatus] at hn; cases hn
          cases htold : Table.get? found "status" with
          | none =>
            rw [htold] at hread
            obtain rfl : 200 = n := Except.ok.inj hread
            exact .silent htold
          | some told =>
            rw [htold] at hread
            exact .told htold hread
        | _ => cases h
    | _ => cases h
  · intro h
    cases h with
    | nothing => rfl
    | silent hnone => simp [itemReport?, hnone, statusOf, Except.toOption]
    | told hsome hread => simp [itemReport?, hsome, hread, Except.toOption]

/-- A status may be told as a text. -/
example : itemReport? (.object [("index", .object [("status", .text " 429")])]) =
    some (429, [("status", .text " 429")]) :=
  itemReport?_eq_some_iff.2 (.told rfl rfl)

lemma isSome_itemReport?_iff {item : Json} :
    (itemReport? item).isSome ↔ ∃ status report, ItemReports item status report := by
  simp only [Option.isSome_iff_exists, Prod.exists, itemReport?_eq_some_iff]

/-- A call succeeded, and the body of its answer lists a number of items, each of which reports a
status. -/
structure Answer.Lists (answer : Answer) (number : Nat) (items : List Json) : Prop where
  listed : ∃ status body members, answer = .reply status body ∧ status < 400 ∧
    body.decode = .object members ∧ Table.get? members "items" = some (.list items)
  length_eq : items.length = number
  reports : ∀ item ∈ items, ∃ status report, ItemReports item status report

/-- The service accepted a request that was sent alone: it answered with a status that is below 400
or that the request ignores. -/
def WorkRequest.IsAcceptedBy (r : WorkRequest) (answer : Answer) : Prop :=
  ∃ status body, answer = .reply status body ∧ (status < 400 ∨ status ∈ r.ignored)

/-- Items that can be read, of which there is one at least, are listed under their name. -/
lemma listedItems_eq_ok_iff {body : Json} {items : List Json} (hne : items ≠ [])
    (hreadable : ∀ item ∈ items, (itemReport? item).isSome) :
    listedItems body = .ok items ↔
      ∃ members, body = .object members ∧ Table.get? members "items" = some (.list items) := by
  constructor
  · intro h
    unfold listedItems at h
    split at h
    · exact absurd (Except.ok.inj h).symm hne
    · cases body with
      | object members =>
        cases hmember : Table.get? members "items" with
        | none =>
          simp only [hmember, Option.getD_none] at h
          exact absurd (Except.ok.inj h).symm hne
        | some listed =>
          simp only [hmember, Option.getD_some] at h
          -- a text is read as its characters and an object as its names, and neither reports
          have htexts {α : Type} (f : α → String) (xs : List α)
              (heq : xs.map (fun x => Json.text (f x)) = items) : False := by
            obtain ⟨item, hmem⟩ := List.exists_mem_of_ne_nil items hne
            obtain ⟨x, -, rfl⟩ := List.mem_map.1 (heq ▸ hmem)
            exact Bool.false_ne_true (hreadable _ hmem)
          cases listed with
          | list listed =>
            obtain rfl := Except.ok.inj h
            exact ⟨members, rfl, hmember⟩
          | text s => exact (htexts String.singleton s.toList (Except.ok.inj h)).elim
          | object named => exact (htexts Prod.fst named (Except.ok.inj h)).elim
          | _ => cases h
      | _ => cases h
  · rintro ⟨members, rfl, hmember⟩
    have hoccupied : (Json.object members).isVacant = false := by
      cases members with
      | nil => cases hmember
      | cons => rfl
    simp [listedItems, hoccupied, hmember]

/-- What is read from the answer to a bulk call is what the answer lists. -/
lemma itemsListed_iff {group : List WorkRequest} (hne : group ≠ []) (hbulk : single? group = none)
    {answer : Answer} {items : List Json} :
    ItemsListed group answer items ↔ answer.Lists group.length items := by
  have hitems (hlength : items.length = group.length) : items ≠ [] := by
    rintro rfl
    exact hne (List.length_eq_zero_iff.1 hlength.symm)
  constructor
  · rintro ⟨-, ⟨response, hanswer, hlisted⟩, hlength, hreadable⟩
    obtain ⟨status, body, rfl, haccepted, rfl⟩ := Answer.judge_eq_ok_iff.1 hanswer
    obtain ⟨members, hbody, hmember⟩ := (listedItems_eq_ok_iff (hitems hlength) hreadable).1 hlisted
    have hsuccess : status < 400 := haccepted.resolve_right List.not_mem_nil
    exact ⟨⟨status, body, members, rfl, hsuccess, hbody, hmember⟩, hlength,
      fun item hmem => isSome_itemReport?_iff.1 (hreadable item hmem)⟩
  · rintro ⟨⟨status, body, members, rfl, hsuccess, hbody, hmember⟩, hlength, hreports⟩
    have hreadable : ∀ item ∈ items, (itemReport? item).isSome :=
      fun item hmem => isSome_itemReport?_iff.2 (hreports item hmem)
    exact ⟨hbulk, ⟨_, Answer.judge_eq_ok_iff.2 ⟨status, body, rfl, Or.inl hsuccess, rfl⟩,
      (listedItems_eq_ok_iff (hitems hlength) hreadable).2 ⟨members, hbody, hmember⟩⟩, hlength,
      hreadable⟩

/-! ## The entries of a group -/

/-- The error of each request of a group after the answer to its call, none where the request
succeeded. -/
def groupErrors (group : List WorkRequest) (answer : Answer) : List (Option Raised) :=
  (judgeGroup group answer).errors group

/-- The details of a refused request: its method and path, the status, and on top of these all that
its item reports. -/
structure AreDetails (r : WorkRequest) (status : Int) (report details : Json.Members) : Prop where
  distinct : Table.IsDistinct details
  found : ∀ name, Table.get? details name = (Table.get? report.reverse name).or
    (Table.get? [("request", .text (r.method ++ " " ++ r.path)), ("status", .int status)] name)

/-- The entry of the request at a position is the verdict on an item: no error if the status is
below 400 or the request ignores it, and otherwise an error with the details of this item and no
others. -/
inductive IsVerdictOn (item : Json) (position : Nat) (r : WorkRequest) : Option Raised → Prop where
  | accepted {status : Int} {report : Json.Members} (hitem : ItemReports item status report)
      (hstatus : status < 400 ∨ status ∈ r.ignored) : IsVerdictOn item position r none
  | refused {status : Int} {report details : Json.Members} (hitem : ItemReports item status report)
      (hstatus : 400 ≤ status) (hignored : status ∉ r.ignored)
      (hdetails : AreDetails r status report details) :
      IsVerdictOn item position r (some ⟨position, .rejected [.object details]⟩)

/-- Every request of a group has the verdict on its own item. -/
def JudgedOneByOne (group : List WorkRequest) (items : List Json)
    (entries : List (Option Raised)) : Prop :=
  ∀ position r item, group[position]? = some r → items[position]? = some item →
    ∃ entry, entries[position]? = some entry ∧ IsVerdictOn item position r entry

/-- The requests of a group share an error, which is no rejection. -/
def FailedTogether (group : List WorkRequest) (entries : List (Option Raised)) : Prop :=
  ∃ error : Raised, error.failure.isRejection = false ∧ entries = group.map fun _ => some error

lemma length_groupErrors (group : List WorkRequest) (answer : Answer) :
    (groupErrors group answer).length = group.length := by
  have hlength := Processor.length_failures_judgeGroup group answer
  rwa [Verdict.failures, List.length_map] at hlength

/-- A request that is sent alone has no error exactly if it is accepted. -/
lemma groupErrors_alone_eq_iff {r : WorkRequest} (hsingle : single? [r] = some r) (answer : Answer) :
    groupErrors [r] answer = [none] ↔ r.IsAcceptedBy answer := by
  have haccepts : r.IsAcceptedBy answer ↔
      ∃ response, answer.judge r.method r.path r.ignored = .ok response := by
    constructor
    · rintro ⟨status, body, hreply, haccepted⟩
      exact ⟨_, Answer.judge_eq_ok_iff.2 ⟨status, body, hreply, haccepted, rfl⟩⟩
    · rintro ⟨response, hok⟩
      obtain ⟨status, body, hreply, haccepted, -⟩ := Answer.judge_eq_ok_iff.1 hok
      exact ⟨status, body, hreply, haccepted⟩
  rw [haccepts, groupErrors, judgeGroup, hsingle]
  cases hanswer : answer.judge r.method r.path r.ignored with
  | ok response => simp [hanswer, Verdict.errors]
  | error failure => simp [hanswer, Verdict.errors]

/-- What a report sets on top of the request and the status are the details of a refusal. -/
lemma areDetails_overlay (r : WorkRequest) (status : Int) (report : Json.Members) :
    AreDetails r status report (Table.overlay
      [("request", .text (r.method ++ " " ++ r.path)), ("status", .int status)] report) where
  distinct := Table.isDistinct_overlay (by simp [Table.IsDistinct, Table.keys]) report
  found := Table.get?_overlay _ report

/-- The verdict on an item that reports a status. -/
lemma isVerdictOn_rejectionOf? {r : WorkRequest} {item : Json} {position : Nat}
    (hreports : ∃ status report, ItemReports item status report) :
    IsVerdictOn item position r
      ((rejectionOf? r item).map fun details => ⟨position, .rejected [details]⟩) := by
  obtain ⟨status, report, hitem⟩ := hreports
  simp only [rejectionOf?, itemReport?_eq_some_iff.2 hitem, Option.bind_some]
  by_cases h : 400 ≤ status ∧ status ∉ r.ignored
  · rw [if_pos h]
    exact .refused hitem h.1 h.2 (areDetails_overlay r status report)
  · have haccepted : status < 400 ∨ status ∈ r.ignored := by
      simpa only [not_and_or, not_le, not_not] using h
    rw [if_neg h]
    exact .accepted hitem haccepted

/-- A bulk call is judged item by item if its answer can be read, and fails as a whole
otherwise. -/
lemma groupErrors_bulk {group : List WorkRequest} (hne : group ≠ []) (hbulk : single? group = none)
    (answer : Answer) :
    (∃ items, answer.Lists group.length items ∧
      JudgedOneByOne group items (groupErrors group answer)) ∨
    (¬ ∃ items, answer.Lists group.length items) ∧
      FailedTogether group (groupErrors group answer) := by
  rcases judgeGroup_cases group answer with ⟨failure, hjudge, hcall⟩ | ⟨r, response, -, hsingle, -⟩ |
    ⟨items, hjudge, hlisted⟩
  · refine Or.inr ⟨?_, ⟨0, failure⟩, hcall.isRejection, by rw [groupErrors, hjudge]; rfl⟩
    rintro ⟨items, hlists⟩
    -- were there items to read, the call would not have failed
    obtain ⟨-, ⟨response, hanswer, hlisted⟩, hlength, hreadable⟩ :=
      (itemsListed_iff hne hbulk).2 hlists
    have hok := judgeBulk_eq_ok_iff.2 ⟨items, hlisted, hlength, hreadable, rfl⟩
    simp [judgeGroup, hbulk, hanswer, hok, bind, Except.bind] at hjudge
  · cases hbulk.symm.trans hsingle
  · have hlists := (itemsListed_iff hne hbulk).1 hlisted
    refine Or.inl ⟨items, hlists, fun position r item hr hitem => ?_⟩
    refine ⟨_, ?_, isVerdictOn_rejectionOf? (hlists.reports item (List.mem_of_getElem? hitem))⟩
    rw [groupErrors, hjudge]
    simp [Verdict.errors, List.getElem?_zipWith, hr, hitem]

/-- **Every request of a group is judged.**  Whatever the service answers to the call of a group,
each request has one entry.  A request that is sent alone has no error exactly if it was accepted.
Otherwise all requests have a bulk action, and they are judged one by one if the answer lists what
it has to list, and share one error if it does not. -/
theorem group_judged {α : Type} {request : α → WorkRequest} {limit : Nat} {xs g : List α}
    (hg : g ∈ groups (fun x => (request x).isBulkable) limit xs) (answer : Answer) :
    (groupErrors (g.map request) answer).length = g.length ∧
    ((∃ x, g = [x] ∧ (request x).isBulkable = false ∧
        (groupErrors (g.map request) answer = [none] ↔ (request x).IsAcceptedBy answer)) ∨
      ((∀ x ∈ g, ∃ action, (request x).bulkAction = some action) ∧
        ((∃ items, answer.Lists g.length items ∧
            JudgedOneByOne (g.map request) items (groupErrors (g.map request) answer)) ∨
          (¬ ∃ items, answer.Lists g.length items) ∧
            FailedTogether (g.map request) (groupErrors (g.map request) answer)))) := by
  obtain ⟨hne, hkind⟩ := isGroup_of_mem_groups hg
  refine ⟨(length_groupErrors _ _).trans (List.length_map request), ?_⟩
  rcases hkind with ⟨x, rfl, halone⟩ | ⟨hall, -⟩
  · refine Or.inl ⟨x, rfl, halone, groupErrors_alone_eq_iff ?_ answer⟩
    exact single?_eq_some_iff.2 ⟨rfl, halone⟩
  · rw [List.all_eq_true] at hall
    have hbulk : single? (g.map request) = none := by
      refine Option.eq_none_iff_forall_ne_some.2 fun r hsingle => ?_
      obtain ⟨hmap, halone⟩ := single?_eq_some_iff.1 hsingle
      obtain ⟨x, hx, rfl⟩ := List.mem_map.1 (hmap ▸ List.mem_singleton_self r)
      exact Bool.false_ne_true (halone.symm.trans (hall x hx))
    refine Or.inr ⟨fun x hx => Option.isSome_iff_exists.1 (hall x hx), ?_⟩
    have hmapped := groupErrors_bulk (List.map_eq_nil_iff.not.2 hne) hbulk answer
    rwa [List.length_map] at hmapped

/-- A deletion and an addition, which share a call. -/
def twoRequests : List WorkRequest :=
  [.delete ⟨"book", "1", none⟩, .add ⟨"book", "2", none⟩ []].filterMap
    (Operation.request? "library" false none)

/-- The first document was not there, which the deletion ignores, and the second is refused. -/
def oneRefused : Answer :=
  .reply 200 (.json (.object [("items", .list [.object [("delete", .object [("status", .int 404)])],
    .object [("index", .object [("status", .int 429), ("_id", .text "2")])]])]))

theorem group_judged_twoRequests :
    twoRequests ∈ groups (fun r => r.isBulkable) 10 twoRequests ∧
    (∃ items, oneRefused.Lists 2 items ∧
      JudgedOneByOne twoRequests items (groupErrors twoRequests oneRefused)) ∧
    groupErrors twoRequests oneRefused = [none, some ⟨1, .rejected [.object
      [("request", .text "PUT /library/book/2"), ("status", .int 429), ("_id", .text "2")]]⟩] := by
  have hg : twoRequests ∈ groups (fun r => r.isBulkable) 10 twoRequests :=
    List.mem_singleton_self twoRequests
  refine ⟨hg, ?_, rfl⟩
  have hlists : oneRefused.Lists 2 [.object [("delete", .object [("status", .int 404)])],
      .object [("index", .object [("status", .int 429), ("_id", .text "2")])]] := by
    refine ⟨⟨200, _, _, rfl, by decide, rfl, rfl⟩, rfl, List.forall_mem_cons.2
      ⟨⟨404, _, .told rfl rfl⟩, List.forall_mem_singleton.2 ⟨429, _, .told rfl rfl⟩⟩⟩
  obtain ⟨-, ⟨x, hx, -⟩ | ⟨-, hjudged | ⟨hnone, -⟩⟩⟩ := group_judged hg oneRefused
  · cases hx
  · rwa [List.map_id'] at hjudged
  · exact absurd ⟨_, hlists⟩ hnone

end SearchIndex
