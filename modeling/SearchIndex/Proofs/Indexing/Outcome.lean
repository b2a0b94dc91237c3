/-
# How groups end

The answer to the call of a group says one of three things: all requests of the group are accepted
(`GroupPasses`), the call failed as a whole, or some items of a bulk call were rejected (the two
cases of `GroupFails`).  The relations say this in terms of the answer alone, with the requests that
fail, the failure of each, and the failure of the whole.

The main result is `group_outcome`: what is told and raised for a group is what these relations say.
In the code the two kinds of failure are told apart only by whether requests share an error and
whether that error is a rejection, so this is where that test is shown to be right.
-/
import SearchIndex.Proofs.Indexing.Groups
import SearchIndex.Proofs.Indexing.Notification
import SearchIndex.Proofs.Service.Failures

namespace SearchIndex

/-- The client takes an answer for a success if its status is below 400 or ignored. -/
lemma Answer.judge_eq_ok_iff {answer : Answer} {method path : String} {ignored : List Int}
    {response : Response} :
    answer.judge method path ignored = .ok response ↔ ∃ status body,
      answer = .reply status body ∧ (status < 400 ∨ status ∈ ignored) ∧
      response = ⟨status, body.decode⟩ := by
  cases answer with
  | unreachable reason => simp [Answer.judge]
  | unsent reason => simp [Answer.judge]
  | reply status body =>
    have haccepted : (isSuccess status || decide (status ∈ ignored)) = true ↔
        status < 400 ∨ status ∈ ignored := by simp [isSuccess]
    by_cases h : status < 400 ∨ status ∈ ignored
    · rw [Answer.judge, if_pos (haccepted.2 h), Except.ok.injEq]
      refine ⟨fun heq => ⟨status, body, rfl, h, heq.symm⟩, ?_⟩
      rintro ⟨status', body', heq, -, rfl⟩
      obtain ⟨rfl, rfl⟩ := Answer.reply.inj heq
      rfl
    · rw [Answer.judge, if_neg (mt haccepted.1 h)]
      refine iff_of_false (fun herror => ?_) ?_
      · cases herror
      · rintro ⟨status', body', heq, haccepts, -⟩
        obtain ⟨rfl, rfl⟩ := Answer.reply.inj heq
        exact h haccepts

/-! ## Items of a bulk answer -/

/-- What an item of a bulk answer reports: a status, which is 200 unless the item tells one, and all
that it tells.  Nothing is reported by an item that cannot be read. -/
def itemReport? : Json → Option (Int × Json.Members)
  | .object members =>
    match (members.head?.map (·.2)).getD (.object []) with
    | .object report =>
      (statusOf ((Table.get? report "status").getD (.int 200))).toOption.map (·, report)
    | _ => none
  | _ => none

/-- The entry of a request whose item is rejected, that is, reports a status of 400 or more that the
request does not ignore: the request and the status, and on top of these all that is reported. -/
def rejectionOf? (r : WorkRequest) (item : Json) : Option Json :=
  (itemReport? item).bind fun (status, report) =>
    if 400 ≤ status ∧ status ∉ r.ignored then
      some (.object (Table.overlay
        [("request", .text (r.method ++ " " ++ r.path)), ("status", .int status)] report))
    else none

/-- The rejected requests of a group in order, each with its entry. -/
def rejectedItems (group : List WorkRequest) (items : List Json) : List (WorkRequest × Json) :=
  (group.zip items).filterMap fun x => (rejectionOf? x.1 x.2).map (x.1, ·)

/-- The answer to a bulk call lists one item that can be read for each request of the group. -/
structure ItemsListed (group : List WorkRequest) (answer : Answer) (items : List Json) : Prop where
  bulk : single? group = none
  listed : ∃ response, answer.judge "POST" "/_bulk" [] = .ok response ∧
    listedItems response.body = .ok items
  length_eq : items.length = group.length
  readable : ∀ item ∈ items, (itemReport? item).isSome

/-! ## The endings of a group -/

/-- The call of a group failed as a whole. -/
inductive CallFails (group : List WorkRequest) (answer : Answer) : Failure → Prop where
  /-- The request was sent alone and refused. -/
  | alone {r : WorkRequest} {failure : Failure} (hsingle : single? group = some r)
      (hanswer : answer.judge r.method r.path r.ignored = .error failure) :
      CallFails group answer failure
  /-- The bulk call was refused. -/
  | refused {failure : Failure} (hsingle : single? group = none)
      (hanswer : answer.judge "POST" "/_bulk" [] = .error failure) :
      CallFails group answer failure
  /-- The bulk call was answered, but not with one readable item for each request. -/
  | unreadable {response : Response} {failure : Failure} (hsingle : single? group = none)
      (hanswer : answer.judge "POST" "/_bulk" [] = .ok response)
      (hitems : judgeBulk group response = .error failure) : CallFails group answer failure

/-- All requests of a group are accepted. -/
inductive GroupPasses (group : List WorkRequest) (answer : Answer) : Prop where
  | alone {r : WorkRequest} {response : Response} (hsingle : single? group = some r)
      (hanswer : answer.judge r.method r.path r.ignored = .ok response)
  | items {items : List Json} (hitems : ItemsListed group answer items)
      (hnone : rejectedItems group items = [])

/-- Requests of a group fail: which ones with which failures, in order, and with which failure of
the whole. -/
inductive GroupFails (group : List WorkRequest) (answer : Answer) :
    List (WorkRequest × Failure) → Failure → Prop where
  /-- Every request fails with the failure of the call, which is that of the whole. -/
  | call {failure : Failure} (hcall : CallFails group answer failure) :
      GroupFails group answer (group.map fun r => (r, failure)) failure
  /-- The rejected requests fail, each with its own entry; the failure of the whole has one entry
  for each. -/
  | items {items : List Json} (hitems : ItemsListed group answer items)
      (hsome : rejectedItems group items ≠ []) :
      GroupFails group answer
        ((rejectedItems group items).map fun x => (x.1, .rejected [x.2]))
        (.rejected ((rejectedItems group items).map (·.2)))

/-! ## Judging items -/

lemma rejection_eq (r : WorkRequest) (status : Int) (report : Json.Members) :
    rejection r status report = .object (Table.overlay
      [("request", .text (r.method ++ " " ++ r.path)), ("status", .int status)] report) := rfl

/-- A status counts as a rejection unless it is below 400 or ignored. -/
lemma isSuccess_or_ignored_iff {status : Int} {ignored : List Int} :
    (isSuccess status || status ∈ ignored) = true ↔ ¬(400 ≤ status ∧ status ∉ ignored) := by
  simp only [isSuccess, Bool.or_eq_true, decide_eq_true_eq, not_and_or, not_le, not_not]

lemma judgeItem_eq_ok_iff {r : WorkRequest} {item : Json} {verdict : Option Json} :
    judgeItem r item = .ok verdict ↔
      (itemReport? item).isSome ∧ verdict = rejectionOf? r item := by
  cases item with
  | object members =>
    cases hfirst : (members.head?.map (·.2)).getD (.object []) with
    | object report =>
      simp only [judgeItem, rejectionOf?, itemReport?, hfirst, isSuccess_or_ignored_iff,
        rejection_eq]
      cases statusOf ((Table.get? report "status").getD (.int 200)) with
      | error failure => simp [bind, Except.bind, Except.toOption]
      | ok status =>
        by_cases h : 400 ≤ status ∧ status ∉ r.ignored <;>
          simp [bind, Except.bind, pure, Except.pure, Except.toOption, h, eq_comm]
    | _ => simp [judgeItem, itemReport?, hfirst]
  | _ => simp [judgeItem, itemReport?]

lemma judgeItems_eq_ok_iff {group : List WorkRequest} {items : List Json}
    {verdicts : List (Option Json)} (hlength : items.length = group.length) :
    judgeItems group items = .ok verdicts ↔
      (∀ item ∈ items, (itemReport? item).isSome) ∧
        verdicts = List.zipWith rejectionOf? group items := by
  induction group generalizing items verdicts with
  | nil =>
    obtain rfl : items = [] := List.eq_nil_of_length_eq_zero hlength
    simp only [judgeItems, List.zipWith_nil_left, Except.ok.injEq, List.not_mem_nil,
      false_implies, implies_true, true_and]
    exact eq_comm
  | cons r group ih =>
    obtain _ | ⟨item, items⟩ := items
    · simp at hlength
    · replace ih := @ih items
      have hrest : items.length = group.length := by simpa using hlength
      simp only [judgeItems, bind, Except.bind, pure, Except.pure, List.forall_mem_cons,
        List.zipWith_cons_cons]
      cases hitem : judgeItem r item with
      | error failure =>
        have : ¬(itemReport? item).isSome := fun h => by
          simp [judgeItem_eq_ok_iff.2 ⟨h, rfl⟩] at hitem
        simp [this]
      | ok verdict =>
        obtain ⟨hsome, rfl⟩ := judgeItem_eq_ok_iff.1 hitem
        cases hitems : judgeItems group items with
        | error failure =>
          have : ¬∀ x ∈ items, (itemReport? x).isSome := fun h => by
            simp [(ih hrest).2 ⟨h, rfl⟩] at hitems
          simp only [reduceCtorEq, false_iff]
          exact fun h => this h.1.2
        | ok others =>
          obtain ⟨hall, rfl⟩ := (ih hrest).1 hitems
          simp only [Except.ok.injEq, hsome, true_and]
          exact ⟨fun h => ⟨hall, h.symm⟩, fun h => h.2.symm⟩

/-- The items of a bulk answer are judged if there is a readable one for each request. -/
lemma judgeBulk_eq_ok_iff {group : List WorkRequest} {response : Response}
    {verdicts : List (Option Json)} :
    judgeBulk group response = .ok verdicts ↔
      ∃ items, listedItems response.body = .ok items ∧ items.length = group.length ∧
        (∀ item ∈ items, (itemReport? item).isSome) ∧
        verdicts = List.zipWith rejectionOf? group items := by
  unfold judgeBulk
  cases hlisted : listedItems response.body with
  | error failure => simp [bind, Except.bind]
  | ok items =>
    by_cases hlength : items.length = group.length
    · simp [bind, Except.bind, hlength, judgeItems_eq_ok_iff hlength]
    · simp [bind, Except.bind, hlength, throw, throwThe, MonadExceptOf.throw]

/-- What is judged of the answer to the call of a group. -/
lemma judgeGroup_cases (group : List WorkRequest) (answer : Answer) :
    (∃ failure, judgeGroup group answer = .callFailed failure ∧ CallFails group answer failure) ∨
      (∃ r response, judgeGroup group answer = .judged [none] ∧ single? group = some r ∧
        answer.judge r.method r.path r.ignored = .ok response) ∨
      ∃ items, judgeGroup group answer = .judged (List.zipWith rejectionOf? group items) ∧
        ItemsListed group answer items := by
  cases hsingle : single? group with
  | some r =>
    cases hanswer : answer.judge r.method r.path r.ignored with
    | error failure =>
      exact Or.inl ⟨failure, by simp [judgeGroup, hsingle, hanswer], .alone hsingle hanswer⟩
    | ok response =>
      exact Or.inr (Or.inl ⟨r, response, by simp [judgeGroup, hsingle, hanswer], rfl, hanswer⟩)
  | none =>
    cases hanswer : answer.judge "POST" "/_bulk" [] with
    | error failure =>
      exact Or.inl ⟨failure, by simp [judgeGroup, hsingle, hanswer, bind, Except.bind],
        .refused hsingle hanswer⟩
    | ok response =>
      cases hitems : judgeBulk group response with
      | error failure =>
        exact Or.inl ⟨failure, by simp [judgeGroup, hsingle, hanswer, hitems, bind, Except.bind],
          .unreadable hsingle hanswer hitems⟩
      | ok verdicts =>
        obtain ⟨items, hlisted, hlength, hreadable, rfl⟩ := judgeBulk_eq_ok_iff.1 hitems
        exact Or.inr (Or.inr ⟨items,
          by simp [judgeGroup, hsingle, hanswer, hitems, bind, Except.bind],
          ⟨hsingle, ⟨response, hanswer, hlisted⟩, hlength, hreadable⟩⟩)

/-! ## Failures of a call are no rejections -/

/-- Rejections do not arise anywhere else than in the judgement of items. -/
lemma isSpecial_isRejection : IsSpecial fun failure => failure.isRejection = true := by
  intro failure hordinary hrejection
  cases failure with
  | rejected items => cases hordinary
  | _ => cases hrejection

/-- No answer is a rejection by itself. -/
lemma Answer.admits_isRejection (answer : Answer) :
    answer.Admits fun failure => failure.isRejection = true := by
  cases answer with
  | unsent reason => exact Bool.false_ne_true
  | _ => exact trivial

/-- The failure of a call as a whole avoids every set without an ordinary failure. -/
lemma CallFails.not_of_isSpecial {bad : Failure → Prop} (hbad : IsSpecial bad)
    {group : List WorkRequest} {answer : Answer} {failure : Failure}
    (h : CallFails group answer failure) (hanswer : answer.Admits bad) : ¬bad failure := by
  cases h with
  | alone _ hjudge => exact avoids_judge hbad hanswer _ _ _ _ hjudge
  | refused _ hjudge => exact avoids_judge hbad hanswer _ _ _ _ hjudge
  | unreadable _ _ hitems => exact avoids_judgeBulk hbad _ _ _ hitems

/-- The failure of a call as a whole is never a rejection. -/
theorem CallFails.isRejection {group : List WorkRequest} {answer : Answer} {failure : Failure}
    (h : CallFails group answer failure) : failure.isRejection = false :=
  Bool.eq_false_iff.2 (h.not_of_isSpecial isSpecial_isRejection answer.admits_isRejection)

/-! ## What is told and raised for a group -/

/-- The requests of a group that failed by the answer to its call, each with its error. -/
def failedOf (group : List WorkRequest) (answer : Answer) : List (WorkRequest × Raised) :=
  Execution.failed group ((judgeGroup group answer).errors group)

lemma failed_callFailed (group : List WorkRequest) (failure : Failure) :
    Execution.failed group ((Verdict.callFailed failure).errors group) =
      group.map fun r => (r, ⟨0, failure⟩) := by
  induction group with
  | nil => rfl
  | cons r group ih =>
    simp only [Execution.failed, Verdict.errors] at ih ⊢
    simp only [List.map_cons, List.zip_cons_cons, List.filterMap_cons, Option.map_some, ih]

/-- The numbers of the errors have no influence on what is told, so the induction lets them start
anywhere. -/
lemma toldOf_failed_zipIdx (group : List WorkRequest) (items : List Json) (start : Nat) :
    toldOf (Execution.failed group
      (((List.zipWith rejectionOf? group items).zipIdx start).map fun x =>
        x.1.map fun details => ⟨x.2, .rejected [details]⟩)) =
      (rejectedItems group items).map fun x => (x.1, .rejected [x.2]) := by
  induction group generalizing items start with
  | nil => rfl
  | cons r group ih =>
    obtain _ | ⟨item, items⟩ := items
    · rfl
    · have hrest := ih items (start + 1)
      simp only [toldOf, Execution.failed, rejectedItems] at hrest ⊢
      cases hitem : rejectionOf? r item <;> simp [hitem, hrest]

lemma toldOf_failed_judged (group : List WorkRequest) (items : List Json) :
    toldOf (Execution.failed group
      ((Verdict.judged (List.zipWith rejectionOf? group items)).errors group)) =
      (rejectedItems group items).map fun x => (x.1, .rejected [x.2]) :=
  toldOf_failed_zipIdx group items 0

/-- Requests that share an error which is no rejection end with it. -/
lemma summary?_of_shared {group : List WorkRequest} (hne : group ≠ []) {failure : Failure}
    (hf : failure.isRejection = false) :
    Execution.summary? (group.map fun r => (r, ⟨0, failure⟩)) = some failure := by
  obtain ⟨r, rest, rfl⟩ := List.exists_cons_of_ne_nil hne
  simp [Execution.summary?, hf]

/-- Rejected requests end with their entries.  The text that stands in for missing details is not
needed. -/
lemma summary?_of_rejections {failures : List (WorkRequest × Raised)}
    {entries : List (WorkRequest × Json)} (hne : entries ≠ [])
    (h : toldOf failures = entries.map fun x => (x.1, .rejected [x.2])) :
    Execution.summary? failures = some (.rejected (entries.map (·.2))) := by
  have hdetails : failures.map (fun f => Execution.detailsOf f.1 f.2.failure) =
      entries.map (·.2) := by
    have := congrArg (List.map fun x => Execution.detailsOf x.1 x.2) h
    simpa [toldOf, Function.comp_def, Execution.detailsOf] using this
  cases failures with
  | nil => simp [toldOf, hne] at h
  | cons f rest =>
    obtain ⟨r, first⟩ := f
    obtain ⟨x, others, rfl⟩ := List.exists_cons_of_ne_nil hne
    have hfirst : first.failure = .rejected [x.2] := by
      simp only [toldOf, List.map_cons, List.cons.injEq, Prod.mk.injEq] at h
      exact h.1.2
    rw [Execution.summary?, hdetails]
    simp [hfirst, Failure.isRejection]

/-- **What becomes of a group.**  Either all requests pass and nothing is told or raised, or
requests fail, and what is told and raised is what `GroupFails` says. -/
theorem group_outcome {group : List WorkRequest} (hne : group ≠ []) (answer : Answer) :
    (GroupPasses group answer ∧ failedOf group answer = []) ∨
      ∃ told failure, GroupFails group answer told failure ∧
        toldOf (failedOf group answer) = told ∧
        Execution.summary? (failedOf group answer) = some failure := by
  obtain ⟨failure, hjudge, hcall⟩ | ⟨r, response, hjudge, hsingle, hanswer⟩ |
    ⟨items, hjudge, hitems⟩ := judgeGroup_cases group answer
  · -- the call failed: all requests share its failure, which is no rejection
    right
    refine ⟨_, failure, .call hcall, ?_⟩
    rw [failedOf, hjudge, failed_callFailed]
    exact ⟨by simp [toldOf], summary?_of_shared hne hcall.isRejection⟩
  · left
    refine ⟨.alone hsingle hanswer, ?_⟩
    obtain ⟨rfl, -⟩ := single?_eq_some_iff.1 hsingle
    simp [failedOf, hjudge, Execution.failed, Verdict.errors]
  · -- the items were judged one by one
    have htold := toldOf_failed_judged group items
    by_cases hnone : rejectedItems group items = []
    · left
      refine ⟨.items hitems hnone, ?_⟩
      rw [hnone] at htold
      simpa [failedOf, hjudge, toldOf] using htold
    · right
      refine ⟨_, _, .items hitems hnone, ?_, ?_⟩
      · rw [failedOf, hjudge, htold]
      · rw [failedOf, hjudge]
        exact summary?_of_rejections hnone htold

end SearchIndex
