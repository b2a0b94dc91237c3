/-
# Clients that race for an index

Several clients create the same index unless it exists, or drop it if it exists, by calls that
interleave in any order.  A service that shares an index among clients (`Schema.SharesIndex`) tells
who comes too late: an index that exists is not created again, and one that is gone is missing.
That is what the operations tolerate, so each client succeeds, and exactly one of them has created
or deleted the index (`Schema.one_client_wins`).

Each operation is a `Race`.  A client is undecided up to the call that creates or deletes the index;
that call decides, and only waiting for the health of the index comes after it.
-/
import SearchIndex.Proofs.Schema.Keeping
import SearchIndex.Proofs.Schema.Operation
import SearchIndex.Proofs.Service.Clients

namespace SearchIndex

variable {ω β : Type} {serve : ω → Call → Answer × ω} {index : String} {options : SchemaOptions}

/-- An answer that refuses to create an index because it exists. -/
def Answer.RefusesExisting (answer : Answer) : Prop :=
  ∃ payload members error type, answer = .reply 400 payload ∧ payload.decode = .object members ∧
    Table.get? members "error" = some (.object error) ∧
    Table.get? error "type" = some (.text type) ∧ type ∈ alreadyExistsErrors

namespace Schema

/-- A service shares an index among clients: it keeps the index whatever it is created with, does not
create it again while it is there, and misses it when it is to be deleted again. -/
structure SharesIndex (serve : ω → Call → Answer × ω) (index : String)
    (stored : ω → Option Json) : Prop where
  keeps : ∀ body, KeepsIndex serve index body stored
  refuses : ∀ outside body, stored outside ≠ none →
    (serve outside ⟨"PUT", indexPath index, none, .json body⟩).1.RefusesExisting ∧
      stored (serve outside ⟨"PUT", indexPath index, none, .json body⟩).2 = stored outside
  misses : ∀ outside options, stored outside = none →
    (∃ payload, (serve outside (deletion index options)).1 = .reply 404 payload) ∧
      stored (serve outside (deletion index options)).2 = none

/-! ## Where clients stand -/

lemma ofExcept_ok_bind {α : Type} (a : α) (f : α → Action β) :
    (Action.ofExcept (.ok a) >>= f) = f a := rfl

lemma unlogged_exists_bind (index : String) (f : Bool → Action β) :
    ∃ next, (exists? index >>= f).run.unlogged = .call (existenceCheck index) next ∧
      (∀ payload, (next (.reply 404 payload)).unlogged = (f false).run.unlogged) ∧
      ∀ answer, answer.acknowledges = true → (next answer).unlogged = (f true).run.unlogged := by
  rw [exists?, bind_assoc]
  obtain ⟨next, hcall, hnext⟩ := Action.exists_unlogged_request_bind (.plain "HEAD" (indexPath index))
    [404] fun response => pure (decide (response.status ≠ 404)) >>= f
  refine ⟨next, hcall, fun payload => ?_, fun answer hanswer => ?_⟩
  · rw [hnext]
    rfl
  · obtain ⟨value, status, payload, rfl, hsuccess, -⟩ := Answer.exists_brings hanswer
    rw [hnext, Answer.judge_ok hsuccess]
    have hfound : decide (status ≠ 404) = true :=
      decide_eq_true (ne_of_isSuccess hsuccess (by decide))
    show (pure (decide (status ≠ 404)) >>= f : Action β).run.unlogged = _
    rw [hfound]
    rfl

lemma unlogged_awaitHealth_bind (index : String) (options : SchemaOptions) (f : Unit → Action β) :
    ∃ next, (awaitHealth index options >>= f).run.unlogged =
        .call (healthCheck index options) next ∧
      ∀ (answer : Answer) (members : Json.Members), answer.Brings (.object members) →
        ((Table.get? members "timed_out").getD .null).isVacant = true →
        (next answer).unlogged = (f ()).run.unlogged := by
  rw [awaitHealth, bind_assoc]
  obtain ⟨next, hcall, hnext⟩ := Action.exists_unlogged_request_bind (healthCheck index options)
    [408] _
  refine ⟨next, hcall, fun answer members hvalue htimely => ?_⟩
  obtain ⟨status, payload, rfl, hsuccess, hbody⟩ := hvalue
  have hmembers : membersOf (.object members) = .ok members := by cases members <;> rfl
  have hlate : ¬ (decide (status = 408) || !((Table.get? members "timed_out").getD .null).isVacant) =
      true := by
    simp [htimely, ne_of_isSuccess hsuccess]
  rw [hnext, Answer.judge_ok hsuccess, hbody]
  simp only [ofExcept_ok_bind, hmembers, if_neg hlate]
  rfl

lemma unlogged_drop_bind (index : String) (options : SchemaOptions) (f : Bool → Action β) :
    ∃ next, (drop index options >>= f).run.unlogged = .call (deletion index options) next ∧
      (∀ payload, (next (.reply 404 payload)).unlogged = (f false).run.unlogged) ∧
      ∀ answer, answer.acknowledges = true → (next answer).unlogged = (f true).run.unlogged := by
  rw [drop, bind_assoc]
  obtain ⟨next, hcall, hnext⟩ := Action.exists_unlogged_request_bind (deletion index options)
    [404] _
  refine ⟨next, hcall, fun payload => ?_, fun answer hanswer => ?_⟩
  · rw [hnext]
    rfl
  · obtain ⟨value, status, payload, rfl, hsuccess, -⟩ := Answer.exists_brings hanswer
    rw [hnext, Answer.judge_ok hsuccess, ofExcept_ok_bind,
      if_neg (ne_of_isSuccess hsuccess (by decide))]
    rfl

lemma unlogged_create_bind (target : IndexSchema) (f : Bool → Action β) :
    ∃ next, (create target true >>= f).run.unlogged = .call (creation target) next ∧
      (∀ answer : Answer, answer.RefusesExisting → (next answer).unlogged = (f false).run.unlogged) ∧
      ∀ answer, answer.acknowledges = true → (next answer).unlogged = (f true).run.unlogged := by
  refine ⟨_, rfl, fun answer hrefuses => ?_, fun answer hanswer => ?_⟩
  · obtain ⟨payload, members, error, type, rfl, hbody, herror, htype, hmem⟩ := hrefuses
    have hjudge : (Answer.reply 400 payload).judge (creation target).method (creation target).path []
        = .error (.remote (.status (creation target).method (creation target).path) 400
          (.object members)) := by rw [← hbody]; rfl
    have hexisting : reportsExisting 400 (.object members) = .ok true := by
      simp [reportsExisting, herror, htype, hmem]
    simp only [hjudge, Program.bind, ExceptT.bindCont, Program.pure_eq, hexisting]
    rfl
  · obtain ⟨value, status, payload, rfl, hsuccess, -⟩ := Answer.exists_brings hanswer
    simp only [Answer.judge_ok hsuccess]
    rfl

/-! ## Creating -/

/-- What is left for a client that has asked for an index that it creates. -/
def creating (target : IndexSchema) (options : SchemaOptions) : Action Bool := do
  let created ← create target true
  awaitHealth target.name options
  return created

/-- What is left for a client that knows whether it has created the index. -/
def settling (index : String) (options : SchemaOptions) (won : Bool) : Action Bool := do
  awaitHealth index options
  return won

lemma unlogged_createIfAbsent (target : IndexSchema) (options : SchemaOptions) :
    ∃ next, (createIfAbsent target options).run.unlogged =
        .call (existenceCheck target.name) next ∧
      (∀ payload, (next (.reply 404 payload)).unlogged = (creating target options).run.unlogged) ∧
      ∀ answer, answer.acknowledges = true →
        (next answer).unlogged = (settling target.name options false).run.unlogged :=
  unlogged_exists_bind target.name _

lemma unlogged_creating (target : IndexSchema) (options : SchemaOptions) :
    ∃ next, (creating target options).run.unlogged = .call (creation target) next ∧
      (∀ answer : Answer, answer.RefusesExisting →
        (next answer).unlogged = (settling target.name options false).run.unlogged) ∧
      ∀ answer, answer.acknowledges = true →
        (next answer).unlogged = (settling target.name options true).run.unlogged :=
  unlogged_create_bind target _

lemma unlogged_settling (index : String) (options : SchemaOptions) (won : Bool) :
    ∃ next, (settling index options won).run.unlogged = .call (healthCheck index options) next ∧
      ∀ (answer : Answer) (members : Json.Members), answer.Brings (.object members) →
        ((Table.get? members "timed_out").getD .null).isVacant = true →
        (next answer).unlogged = .done (.ok won) :=
  unlogged_awaitHealth_bind index options _

/-- Clients that want an index of one name, each with a target of its own. -/
abbrev Contenders := List (IndexSchema × SchemaOptions)

/-- The race of clients for creating an index. -/
def creationRace {stored : ω → Option Json} (hshares : SharesIndex serve index stored)
    (contenders : Contenders) (hnames : ∀ x ∈ contenders, x.1.name = index) : Race serve where
  isOpen outside := stored outside = none
  isClosedBy k outside := ∃ x, contenders[k]? = some x ∧ stored outside = some x.1.toRemote
  undecided k p := ∃ target options, contenders[k]? = some (target, options) ∧
    (p = (createIfAbsent target options).run.unlogged ∨ p = (creating target options).run.unlogged)
  decided won p := (∃ options, p = (settling index options won).run.unlogged) ∨ p = .done (.ok won)
  not_undecided_done := by
    rintro k result ⟨target, options, -, hplace | hplace⟩
    · obtain ⟨next, hcall, -⟩ := unlogged_createIfAbsent target options
      cases hplace.trans hcall
    · obtain ⟨next, hcall, -⟩ := unlogged_creating target options
      cases hplace.trans hcall
  eq_of_decided_done := by
    rintro won result (⟨options, hplace⟩ | hplace)
    · obtain ⟨next, hcall, -⟩ := unlogged_settling index options won
      cases hplace.trans hcall
    · injection hplace
  step_open := by
    rintro outside k request next habsent ⟨target, options, hk, hplace | hplace⟩
    all_goals
      have hname : target.name = index := hnames _ (List.mem_of_getElem? hk)
    · obtain ⟨_, hcall, hmissing, -⟩ := unlogged_createIfAbsent target options
      obtain ⟨rfl, rfl⟩ := Program.call.inj (hplace.trans hcall)
      rw [hname]
      obtain ⟨payload, hanswer⟩ := (hshares.keeps .null).missing outside habsent
      refine Or.inl ⟨((hshares.keeps .null).stored_exists outside).trans habsent, target, options,
        hk, Or.inr ?_⟩
      rw [hanswer, hmissing]
    · obtain ⟨_, hcall, -, hacknowledged⟩ := unlogged_creating target options
      obtain ⟨rfl, rfl⟩ := Program.call.inj (hplace.trans hcall)
      obtain ⟨hanswer, hstored⟩ := (hshares.keeps target.toRemote).creates outside habsent
      rw [creation, hname]
      exact Or.inr ⟨⟨_, hk, hstored⟩, Or.inl ⟨options, by rw [hacknowledged _ hanswer, hname]⟩⟩
  step_closed := by
    rintro outside j k request next ⟨x, hj, hstored⟩ ⟨target, options, hk, hplace | hplace⟩
    all_goals
      have hname : target.name = index := hnames _ (List.mem_of_getElem? hk)
      have hthere : stored outside ≠ none := by simp [hstored]
    · obtain ⟨_, hcall, -, hfound⟩ := unlogged_createIfAbsent target options
      obtain ⟨rfl, rfl⟩ := Program.call.inj (hplace.trans hcall)
      rw [hname]
      have hanswer := (hshares.keeps .null).found outside hthere
      exact ⟨⟨x, hj, ((hshares.keeps .null).stored_exists outside).trans hstored⟩,
        Or.inr (Or.inl ⟨options, by rw [hfound _ hanswer, hname]⟩)⟩
    · obtain ⟨_, hcall, hrefused, -⟩ := unlogged_creating target options
      obtain ⟨rfl, rfl⟩ := Program.call.inj (hplace.trans hcall)
      obtain ⟨hanswer, hkept⟩ := hshares.refuses outside target.toRemote hthere
      rw [creation, hname]
      exact ⟨⟨x, hj, hkept.trans hstored⟩,
        Or.inr (Or.inl ⟨options, by rw [hrefused _ hanswer, hname]⟩)⟩
  step_decided := by
    rintro outside j won request next ⟨x, hj, hstored⟩ (⟨options, hplace⟩ | hplace)
    · obtain ⟨_, hcall, hhealthy⟩ := unlogged_settling index options won
      obtain ⟨rfl, rfl⟩ := Program.call.inj (hplace.trans hcall)
      obtain ⟨members, hbrings, htimely, hkept⟩ :=
        (hshares.keeps .null).healthy outside options (by simp [hstored])
      exact ⟨⟨x, hj, hkept.trans hstored⟩, Or.inr (hhealthy _ members hbrings htimely)⟩
    · cases hplace

/-! ## Dropping -/

lemma unlogged_dropIfExisting (index : String) (options : SchemaOptions) :
    ∃ next, (dropIfExisting index options).run.unlogged = .call (existenceCheck index) next ∧
      (∀ payload, (next (.reply 404 payload)).unlogged = .done (.ok false)) ∧
      ∀ answer, answer.acknowledges = true →
        (next answer).unlogged = (drop index options).run.unlogged :=
  unlogged_exists_bind index _

lemma unlogged_drop (index : String) (options : SchemaOptions) :
    ∃ next, (drop index options).run.unlogged = .call (deletion index options) next ∧
      (∀ payload, (next (.reply 404 payload)).unlogged = .done (.ok false)) ∧
      ∀ answer, answer.acknowledges = true → (next answer).unlogged = .done (.ok true) := by
  have h := unlogged_drop_bind index options pure
  rwa [bind_pure] at h

/-- The race of clients for deleting an index. -/
def deletionRace {stored : ω → Option Json} (hshares : SharesIndex serve index stored) :
    Race serve where
  isOpen outside := stored outside ≠ none
  isClosedBy _ outside := stored outside = none
  undecided _ p := ∃ options, p = (dropIfExisting index options).run.unlogged ∨
    p = (drop index options).run.unlogged
  decided won p := p = .done (.ok won)
  not_undecided_done := by
    rintro k result ⟨options, hplace | hplace⟩
    · obtain ⟨next, hcall, -⟩ := unlogged_dropIfExisting index options
      cases hplace.trans hcall
    · obtain ⟨next, hcall, -⟩ := unlogged_drop index options
      cases hplace.trans hcall
  eq_of_decided_done := by
    intro won result hplace
    injection hplace
  step_open := by
    rintro outside k request next hthere ⟨options, hplace | hplace⟩
    · obtain ⟨_, hcall, -, hfound⟩ := unlogged_dropIfExisting index options
      obtain ⟨rfl, rfl⟩ := Program.call.inj (hplace.trans hcall)
      refine Or.inl ⟨?_, options, Or.inr (hfound _ ((hshares.keeps .null).found outside hthere))⟩
      exact ((hshares.keeps .null).stored_exists outside).trans_ne hthere
    · obtain ⟨_, hcall, -, hacknowledged⟩ := unlogged_drop index options
      obtain ⟨rfl, rfl⟩ := Program.call.inj (hplace.trans hcall)
      obtain ⟨hanswer, hgone⟩ := (hshares.keeps .null).deletes outside options hthere
      exact Or.inr ⟨hgone, hacknowledged _ hanswer⟩
  step_closed := by
    rintro outside j k request next hgone ⟨options, hplace | hplace⟩
    · obtain ⟨_, hcall, hmissing, -⟩ := unlogged_dropIfExisting index options
      obtain ⟨rfl, rfl⟩ := Program.call.inj (hplace.trans hcall)
      obtain ⟨payload, hanswer⟩ := (hshares.keeps .null).missing outside hgone
      refine ⟨((hshares.keeps .null).stored_exists outside).trans hgone, Or.inr ?_⟩
      rw [hanswer, hmissing]
    · obtain ⟨_, hcall, hmissing, -⟩ := unlogged_drop index options
      obtain ⟨rfl, rfl⟩ := Program.call.inj (hplace.trans hcall)
      obtain ⟨⟨payload, hanswer⟩, hstill⟩ := hshares.misses outside options hgone
      refine ⟨hstill, Or.inr ?_⟩
      rw [hanswer, hmissing]
  step_decided := by
    rintro outside j won request next - hplace
    cases hplace

/-! ## How the races go -/

/-- Creating an index takes three calls at most. -/
lemma makesAtMost_createIfAbsent (target : IndexSchema) (options : SchemaOptions) :
    (createIfAbsent target options).run.MakesAtMost 3 := by
  have hsettles {won : Bool} {calls : List (Call × Answer)} {result : Except Failure Bool}
      (h : (settling target.name options won).Runs calls result) : calls.length ≤ 1 := by
    rcases Action.runs_bind.1 h with ⟨failure, hhealth, -⟩ | ⟨u, first, rest, hhealth, hrest, rfl⟩
    · obtain ⟨answer, rfl⟩ := runs_awaitHealth hhealth
      exact le_rfl
    · obtain ⟨answer, rfl⟩ := runs_awaitHealth hhealth
      obtain ⟨rfl, -⟩ := Action.runs_pure.1 hrest
      exact le_rfl
  intro calls result hruns
  rcases runs_exists_bind hruns with ⟨answer, failure, rfl, -⟩ | ⟨x, rest, -, rfl, hrest⟩ |
    ⟨x, rest, -, rfl, hrest⟩
  · exact Nat.le_add_left 1 2
  · rw [if_pos rfl, Action.runs_note_bind] at hrest
    have hlength := hsettles hrest
    rw [List.length_cons]
    omega
  · rw [if_neg Bool.false_ne_true] at hrest
    rcases Action.runs_bind.1 hrest with ⟨failure, hcreate, -⟩ |
      ⟨created, first, others, hcreate, hothers, rfl⟩
    · obtain ⟨answer, rfl, -⟩ := runs_create hcreate
      exact Nat.le_add_left 2 1
    · obtain ⟨answer, rfl, -⟩ := runs_create hcreate
      have hlength := hsettles hothers
      rw [List.length_cons, List.length_append, List.length_singleton]
      omega

/-- Dropping an index takes two calls at most. -/
lemma makesAtMost_dropIfExisting (index : String) (options : SchemaOptions) :
    (dropIfExisting index options).run.MakesAtMost 2 := by
  intro calls result hruns
  obtain ⟨x, rest, rfl, -, rfl | ⟨-, answer, rfl⟩⟩ := runs_dropIfExisting hruns
  · exact Nat.le_add_left 1 1
  · exact le_rfl

/-- Among clients that create an index that is missing, unless it exists by then, each succeeds,
whatever the order of their calls, and one of them has created the index, as that one wants it.
Among clients that drop an index that is there each succeeds, and one of them has deleted it. -/
theorem one_client_wins {stored : ω → Option Json} (hshares : SharesIndex serve index stored)
    (outside : ω) :
    (∀ (contenders : Contenders) (history : List (Nat × Call × Answer))
      (c : Clients ω (Except Failure Bool)), contenders ≠ [] →
      (∀ x ∈ contenders, x.1.name = index) → stored outside = none →
      Clients.Run serve outside (contenders.map fun x => (createIfAbsent x.1 x.2).run) history c →
      c.IsRaced history 3 fun k after =>
        ∃ x, contenders[k]? = some x ∧ stored after = some x.1.toRemote) ∧
    (∀ (droppers : List SchemaOptions) (history : List (Nat × Call × Answer))
      (c : Clients ω (Except Failure Bool)), droppers ≠ [] → stored outside ≠ none →
      Clients.Run serve outside (droppers.map fun options => (dropIfExisting index options).run)
        history c →
      c.IsRaced history 2 fun _ after => stored after = none) := by
  constructor
  · intro contenders history c hsome hnames habsent hrun
    refine (creationRace hshares contenders hnames).isRaced_of_run habsent (by simpa using hsome)
      (fun k p hk => ?_) (fun p hp => ?_) hrun
    · rw [List.getElem?_map, Option.map_eq_some_iff] at hk
      obtain ⟨⟨target, options⟩, hk, rfl⟩ := hk
      exact ⟨target, options, hk, Or.inl rfl⟩
    · obtain ⟨⟨target, options⟩, -, rfl⟩ := List.mem_map.1 hp
      exact makesAtMost_createIfAbsent target options
  · intro droppers history c hsome hthere hrun
    refine (deletionRace hshares).isRaced_of_run hthere (by simpa using hsome)
      (fun k p hk => ?_) (fun p hp => ?_) hrun
    · rw [List.getElem?_map, Option.map_eq_some_iff] at hk
      obtain ⟨options, hk, rfl⟩ := hk
      exact ⟨options, Or.inl rfl⟩
    · obtain ⟨options, -, rfl⟩ := List.mem_map.1 hp
      exact makesAtMost_dropIfExisting index options

/-- A service with one index, of which it keeps the body until it is deleted.  What is read with
parameters is the health of the index. -/
def lending (kept : Option Json) (call : Call) : Answer × Option Json :=
  if call.method = "HEAD" then (.reply (if kept.isSome then 200 else 404) .empty, kept)
  else if call.method = "DELETE" then (.reply (if kept.isSome then 200 else 404) .empty, none)
  else if call.method = "PUT" then
    match kept, call.content with
    | none, .json body => (.reply 200 .empty, some body)
    | _, _ => (.reply 400 (.json (.object [("error", .object
        [("type", .text "resource_already_exists_exception")])])), kept)
  else if call.params.isSome then
    (.reply 200 (.json (.object [("timed_out", .bool false)])), kept)
  else (.reply 200 (.json (.object (kept.toList.map fun body => ("library", body)))), kept)

lemma sharesIndex_lending : SharesIndex lending "library" id where
  keeps body :=
    { missing := by rintro _ rfl; exact ⟨_, rfl⟩
      found := by
        intro outside hthere
        obtain ⟨kept, rfl⟩ := Option.ne_none_iff_exists'.1 hthere
        rfl
      stored_exists := fun _ => rfl
      creates := by rintro _ rfl; exact ⟨rfl, rfl⟩
      deletes := by
        intro outside options hthere
        obtain ⟨kept, rfl⟩ := Option.ne_none_iff_exists'.1 hthere
        exact ⟨rfl, rfl⟩
      healthy := fun outside options _ => ⟨_, ⟨200, _, rfl, rfl, rfl⟩, rfl, rfl⟩
      reports := by rintro _ kept rfl; exact ⟨_, ⟨200, _, rfl, rfl, rfl⟩, rfl, rfl⟩ }
  refuses := by
    intro outside body hthere
    obtain ⟨kept, rfl⟩ := Option.ne_none_iff_exists'.1 hthere
    exact ⟨⟨_, _, _, _, rfl, rfl, rfl, rfl, by decide⟩, rfl⟩
  misses := by rintro _ options rfl; exact ⟨⟨_, rfl⟩, rfl⟩

/-- What a client has succeeded with, if it is done. -/
def succeeded? : Program (Except Failure Bool) → Option Bool
  | .done (.ok won) => some won
  | _ => none

lemma eq_done_of_succeeded {p : Program (Except Failure Bool)} {won : Bool}
    (h : succeeded? p = some won) : p = .done (.ok won) := by
  unfold succeeded? at h
  split at h
  · rw [Option.some.inj h]
  · cases h

/-- Two clients both find the index missing; the second one creates it, with its own mapping, before
the first one tries to.  Then both find it there, and one of them deletes it. -/
theorem one_client_wins_of_two :
    let options : SchemaOptions := ⟨.green, 250, false⟩
    let books : IndexSchema := ⟨"library", [("book", ⟨"strict", .empty⟩)]⟩
    let films : IndexSchema := ⟨"library", [("film", ⟨"false", .empty⟩)]⟩
    let dropper := (dropIfExisting "library" options).run
    (∃ history c, Clients.Run lending none
        [(createIfAbsent books options).run, (createIfAbsent films options).run] history c ∧
      history.map Prod.fst = [0, 1, 1, 0, 0, 1] ∧ c.IsWonBy 1 ∧
      c.outside = some films.toRemote) ∧
    (∃ history c, Clients.Run lending (some films.toRemote) [dropper, dropper] history c ∧
      history.map Prod.fst = [0, 1, 0, 1] ∧ (∃ k, c.IsWonBy k) ∧ c.outside = none) := by
  intro options books films dropper
  -- the clients of either run are over, which the kernel finds out faster
  have hends {programs : List (Program (Except Failure Bool))} {a b : Bool}
      (h : programs.map succeeded? = [some a, some b]) :
      programs = [.done (.ok a), .done (.ok b)] := by
    obtain ⟨p, rest, rfl, hp, hrest⟩ := List.map_eq_cons_iff.1 h
    obtain ⟨q, rest, rfl, hq, hnil⟩ := List.map_eq_cons_iff.1 hrest
    rw [eq_done_of_succeeded hp, eq_done_of_succeeded hq, List.map_eq_nil_iff.1 hnil]
  have hover {c : Clients (Option Json) (Except Failure Bool)} {a b : Bool}
      (h : c.programs = [.done (.ok a), .done (.ok b)]) : c.IsOver := by
    rw [Clients.IsOver, h]
    simp
  constructor
  · let so := [0, 1, 1, 0, 0, 1].foldl (Clients.turn lending) ([], Clients.starting none
      [(createIfAbsent books options).run, (createIfAbsent films options).run])
    have hrun : Clients.Run lending none _ so.1 so.2 := Clients.Run.turns ([], _) _ .begin
    have hprograms : so.2.programs = [.done (.ok false), .done (.ok true)] :=
      hends (by decide +kernel)
    have horder : so.1.map Prod.fst = [0, 1, 1, 0, 0, 1] := by decide +kernel
    obtain ⟨k, hwon, x, hk, hstored⟩ :=
      ((one_client_wins sharesIndex_lending none).1 [(books, options), (films, options)] so.1 so.2
        (by simp) (by simp [books, films]) rfl hrun).won (hover hprograms)
    obtain rfl : 1 = k := by simpa using hwon.2 1 (.done (.ok true)) (by rw [hprograms]; rfl)
    obtain rfl := Option.some.inj hk
    exact ⟨so.1, so.2, hrun, horder, hwon, hstored⟩
  · let so := [0, 1, 0, 1].foldl (Clients.turn lending)
      ([], Clients.starting (some films.toRemote) [dropper, dropper])
    have hrun : Clients.Run lending (some films.toRemote) _ so.1 so.2 :=
      Clients.Run.turns ([], _) _ .begin
    have hprograms : so.2.programs = [.done (.ok true), .done (.ok false)] :=
      hends (by decide +kernel)
    have horder : so.1.map Prod.fst = [0, 1, 0, 1] := by decide +kernel
    obtain ⟨k, hwon, hgone⟩ :=
      ((one_client_wins sharesIndex_lending (some films.toRemote)).2 [options, options] so.1 so.2
        (by simp) (by simp) hrun).won (hover hprograms)
    exact ⟨so.1, so.2, hrun, horder, ⟨k, hwon⟩, hgone⟩

end Schema

end SearchIndex
