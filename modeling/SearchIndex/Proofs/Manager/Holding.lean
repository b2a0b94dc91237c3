/-
# Who holds the processor

Managers share one request processor, and each of them holds it from its initialization until it is
destroyed.  Nothing but a number says how many there are, and the last one to let the processor go
stops the workers.  In a session (`Session`) managers are called one after another, and each call
runs to its end, whatever the service answers and however far the workers get in between.

The main result is `Session.managers_accounted`: after every session the number is that of the
active managers (`Shared.IsAccounted`), and every call in it went the way that the life of a manager
prescribes (`CallRecord.IsOrderly`).  So the processor is never let go more often than it was taken.
-/
import SearchIndex.Proofs.Manager.Calling
import SearchIndex.Proofs.Table

namespace SearchIndex

/-! ## Accounts -/

/-- Every manager holds the processor exactly while it is active, and the processor has as many
users as there are active managers. -/
structure Shared.IsAccounted (s : Shared) : Prop where
  distinct : Table.IsDistinct s.managers
  sound : ∀ name, (s.manager name).IsSound
  users : s.processor.users = s.managers.countP fun entry => entry.2.state.isActive

namespace Shared

variable {s s' : Shared} {name : String} {m : Manager}

lemma isAccounted_fresh (limits : ProcessorLimits) (policy : Compatibility) :
    (fresh limits policy).IsAccounted where
  distinct := List.nodup_nil
  sound _ := Manager.isSound_of_not_active rfl rfl
  users := rfl

lemma IsAccounted.of_sameHolders (h : s.IsAccounted) (hsame : s.SameHolders s') :
    s'.IsAccounted where
  distinct := by
    rw [hsame.1]
    exact h.distinct
  sound name := by
    rw [hsame.manager_eq]
    exact h.sound name
  users := by rw [hsame.1, hsame.2, h.users]

lemma IsAccounted.of_becomes (h : s.IsAccounted) (hbecomes : s.Becomes name m s')
    (hsound : m.IsSound) : s'.IsAccounted where
  distinct := by
    rw [hbecomes.managers]
    exact Table.isDistinct_set h.distinct name m
  sound other := by
    by_cases hother : other = name
    · rw [hother, hbecomes.manager_self]
      exact hsound
    · rw [hbecomes.manager_of_ne hother]
      exact h.sound other
  users := by
    -- the count changes at the name that is set, and so do the users
    have hcount := Table.countP_set (fun m : Manager => m.state.isActive) .fresh rfl s.managers
      name m
    have husers := hbecomes.users
    rw [h.users] at husers
    rw [hbecomes.managers]
    change _ + (s.manager name).state.isActive.toNat = _ at hcount
    omega

/-- An active manager is a user of the processor. -/
lemma IsAccounted.users_ne_zero (h : s.IsAccounted)
    (hactive : (s.manager name).state.isActive = true) : s.processor.users ≠ 0 := by
  -- without this manager, the count would be less by one
  have hcount := Table.countP_set (fun m : Manager => m.state.isActive) .fresh rfl s.managers name
    .fresh
  change _ + (s.manager name).state.isActive.toNat = _ at hcount
  rw [hactive, ← h.users] at hcount
  change _ + 1 = s.processor.users + 0 at hcount
  omega

/-- No manager is further back in its life than it was. -/
def Precedes (s s' : Shared) : Prop :=
  ∀ name, (s.manager name).state.rank ≤ (s'.manager name).state.rank

lemma Precedes.refl (s : Shared) : s.Precedes s := fun _ => le_rfl

lemma Precedes.trans {s'' : Shared} (h : s.Precedes s') (h' : s'.Precedes s'') :
    s.Precedes s'' := fun name => (h name).trans (h' name)

lemma SameHolders.precedes (h : s.SameHolders s') : s.Precedes s' := fun name => by
  rw [h.manager_eq]

end Shared

/-! ## Sessions -/

/-- A call of a manager that has come to its end. -/
structure CallRecord where
  /-- The name of the manager. -/
  name : String
  /-- What it was asked for. -/
  call : ManagerCall
  /-- What was shared at the start. -/
  before : Shared
  /-- The calls to the service, with their answers. -/
  trace : List (Call × Answer)
  /-- The result. -/
  result : Except Failure Unit
  /-- What was shared at the end. -/
  after : Shared

/-- The state in which the manager was called. -/
def CallRecord.state (r : CallRecord) : Lifecycle := (r.before.manager r.name).state

/-- A session that has begun with nothing: the calls that were made in it, each after the one before
has come to its end, and what is shared now.  Workers may go on in between. -/
inductive Session (limits : ProcessorLimits) (policy : Compatibility) :
    List CallRecord → Shared → Prop where
  | start : Session limits policy [] (.fresh limits policy)
  | work {records : List CallRecord} {s s' : Shared} (h : Session limits policy records s)
      (hworks : s.Works s') : Session limits policy records s'
  | call {records : List CallRecord} {s s' : Shared} {trace : List (Call × Answer)}
      {result : Except Failure Unit} (h : Session limits policy records s) (name : String)
      (call : ManagerCall) (hends : (call.activity name).Ends s trace result s') :
      Session limits policy (records ++ [⟨name, call, s, trace, result, s'⟩]) s'

/-- A call that neither waits nor makes a call of its own comes to its end at once. -/
lemma Session.alone {limits : ProcessorLimits} {policy : Compatibility} {records : List CallRecord}
    {s : Shared} (h : Session limits policy records s) (name : String) (call : ManagerCall)
    (result : Except Failure Unit)
    (hdone : (Task.untilWait (ExceptT.run (call.activity name)) s).1 = .done result) :
    Session limits policy
      (records ++ [⟨name, call, s, [], result,
        (Task.untilWait (ExceptT.run (call.activity name)) s).2⟩])
      (Task.untilWait (ExceptT.run (call.activity name)) s).2 :=
  .call h name call (Task.completes_of_untilWait hdone)

/-- A call of a manager goes the way that the life of the manager prescribes. -/
structure CallRecord.IsOrderly (r : CallRecord) : Prop where
  /-- The processor is accounted for before and after the call. -/
  accounted : r.before.IsAccounted ∧ r.after.IsAccounted
  /-- No manager goes back in its life, and only the one that is called goes on. -/
  forward : r.before.Precedes r.after
  others : ∀ other, other ≠ r.name → r.after.manager other = r.before.manager other
  /-- A call that the state does not allow is refused without any effect. -/
  refused : r.call.isAllowed r.state = false →
    r.result = .error (r.call.refusal (r.before.manager r.name)) ∧ r.after = r.before ∧ r.trace = []
  /-- Where a call leads depends only on whether it succeeds, for destroying not even on that. -/
  allowed : r.call.isAllowed r.state = true →
    (r.after.manager r.name).state = r.call.leadsTo r.result.isOk
  /-- Destroying lets the processor go once, whatever comes of it. -/
  released : r.call = .destroy → r.state.isActive = true →
    (r.after.manager r.name).state = .destroyed ∧
      (r.after.manager r.name).holdsProcessor = false ∧
      r.after.processor.users + 1 = r.before.processor.users
  /-- The processor is never let go by somebody who does not hold it. -/
  not_overReleased : r.result ≠ .error .overReleased
  /-- No manager misses what it needs, unless an answer says so. -/
  not_unprepared : (∀ x ∈ r.trace, x.2 ≠ .unsent .unprepared) →
    r.result ≠ .error (.misfit .unprepared)

/-- A call leads from a state that allows it to no state further back. -/
lemma ManagerCall.rank_le_leadsTo {call : ManagerCall} {state : Lifecycle}
    (h : call.isAllowed state = true) (succeeds : Bool) :
    state.rank ≤ (call.leadsTo succeeds).rank := by
  cases call with
  | setUp index properties multitenancy =>
    obtain rfl := of_decide_eq_true h
    exact Nat.zero_le _
  | addContained entityType =>
    obtain rfl := of_decide_eq_true h
    exact le_rfl
  | bind descriptors =>
    obtain rfl := of_decide_eq_true h
    cases succeeds with
    | false => exact le_rfl
    | true => exact Nat.le_succ 1
  | destroy => cases state <;> simp [leadsTo, Lifecycle.rank]
  | _ =>
    obtain rfl := of_decide_eq_true h
    exact le_rfl

/-- A failure that arises from a call is not that of giving up the processor too often. -/
lemma Failure.ArisesFrom.ne_overReleased {trace : List (Call × Answer)} {failure : Failure}
    (h : failure.ArisesFrom trace) : failure ≠ .overReleased := by
  rintro rfl
  obtain hordinary | hrejection | ⟨x, -, reason, -, hreason⟩ := h
  · cases hordinary
  · cases hrejection
  · cases hreason

/-- A failure that arises from a call tells of a manager that misses something only if an answer
does. -/
lemma Failure.ArisesFrom.ne_unprepared {trace : List (Call × Answer)} {failure : Failure}
    (h : failure.ArisesFrom trace) (htrace : ∀ x ∈ trace, x.2 ≠ .unsent .unprepared) :
    failure ≠ .misfit .unprepared := by
  rintro rfl
  obtain hordinary | hrejection | ⟨x, hx, reason, hanswer, hreason⟩ := h
  · cases hordinary
  · cases hrejection
  · obtain rfl := Failure.misfit.inj hreason
    exact htrace x hx hanswer

/-- A refusal arises without a call. -/
lemma ManagerCall.isOrdinary_refusal (call : ManagerCall) (m : Manager) :
    (call.refusal m).isOrdinary = true := by
  cases call <;> rfl

/-- Every call that starts with the processor accounted for is orderly. -/
lemma ManagerCall.Effect.isOrderly {r : CallRecord} (haccounted : r.before.IsAccounted)
    (h : r.call.Effect r.name r.before r.trace r.result r.after) : r.IsOrderly := by
  cases h with
  | refused hnot htrace hresult hsame =>
    have harises : ∀ failure, r.result = .error failure → failure.ArisesFrom r.trace := by
      intro failure hfailure
      obtain rfl := Except.error.inj (hresult.symm.trans hfailure)
      exact Or.inl (r.call.isOrdinary_refusal _)
    exact {
      accounted := ⟨haccounted, hsame ▸ haccounted⟩
      forward := hsame ▸ .refl _
      others := fun _ _ => by rw [hsame]
      refused := fun _ => ⟨hresult, hsame, htrace⟩
      allowed := fun hallowed => by cases hnot.symm.trans hallowed
      released := fun hdestroy hactive => by
        rw [hdestroy] at hnot
        cases hnot.symm.trans hactive
      not_overReleased := fun hfailure => (harises _ hfailure).ne_overReleased rfl
      not_unprepared := fun htrace hfailure => (harises _ hfailure).ne_unprepared htrace rfl }
  | kept hallowed hsame hstate harises =>
    exact {
      accounted := ⟨haccounted, haccounted.of_sameHolders hsame⟩
      forward := hsame.precedes
      others := fun other _ => hsame.manager_eq other
      refused := fun hnot => by cases hnot.symm.trans hallowed
      allowed := fun _ => by rw [hsame.manager_eq, hstate]
      released := fun hdestroy hactive => by
        rw [hdestroy] at hstate
        rw [CallRecord.state, hstate] at hactive
        cases hactive
      not_overReleased := fun hfailure => (harises _ hfailure).ne_overReleased rfl
      not_unprepared := fun htrace hfailure => (harises _ hfailure).ne_unprepared htrace rfl }
  | became hallowed m hbecomes hsound hstate harises =>
    exact {
      accounted := ⟨haccounted, haccounted.of_becomes hbecomes hsound⟩
      forward := fun other => by
        by_cases hother : other = r.name
        · rw [hother, hbecomes.manager_self, hstate]
          exact ManagerCall.rank_le_leadsTo hallowed _
        · rw [hbecomes.manager_of_ne hother]
      others := fun other hother => hbecomes.manager_of_ne hother
      refused := fun hnot => by cases hnot.symm.trans hallowed
      allowed := fun _ => by rw [hbecomes.manager_self, hstate]
      released := fun hdestroy hactive => by
        have hdestroyed : m.state = .destroyed := by rw [hstate, hdestroy]; rfl
        have husers := hbecomes.users
        rw [CallRecord.state] at hactive
        rw [hactive, hdestroyed] at husers
        rw [hbecomes.manager_self]
        exact ⟨hdestroyed, by rw [hsound.holds, hdestroyed]; rfl, husers⟩
      not_overReleased := fun hfailure => (harises _ hfailure).ne_overReleased rfl
      not_unprepared := fun htrace hfailure => (harises _ hfailure).ne_unprepared htrace rfl }

/-- At any time of a session the processor is accounted for. -/
lemma Session.isAccounted {limits : ProcessorLimits} {policy : Compatibility}
    {records : List CallRecord} {s : Shared} (h : Session limits policy records s) :
    s.IsAccounted := by
  induction h with
  | start => exact Shared.isAccounted_fresh _ _
  | work _ hworks ih =>
    -- workers are no users, so there is nothing to account for
    exact ih.of_sameHolders hworks.sameHolders
  | @call records s s' trace result _ name call hends ih =>
    have heffect := call.effect_of_ends (ih.sound name) ih.users_ne_zero hends
    have hcall : CallRecord.IsOrderly ⟨name, call, s, trace, result, s'⟩ := heffect.isOrderly ih
    exact hcall.accounted.2

/-- **The processor is accounted for.**  After every session the processor has as many users as
there are managers that are initialized or bound, and these are the ones that hold it.  No manager
has gone back in its life at any time, and every call was orderly. -/
theorem Session.managers_accounted {limits : ProcessorLimits} {policy : Compatibility}
    {records : List CallRecord} {s : Shared} (h : Session limits policy records s) :
    s.IsAccounted ∧ records.Pairwise (fun r r' => r.after.Precedes r'.before) ∧
      ∀ r ∈ records, r.IsOrderly := by
  refine ⟨h.isAccounted, ?_⟩
  -- the induction also needs that no manager has been further on than it is now
  suffices hall : (∀ r ∈ records, r.after.Precedes s) ∧
      records.Pairwise (fun r r' => r.after.Precedes r'.before) ∧ ∀ r ∈ records, r.IsOrderly from
    hall.2
  induction h with
  | start =>
    exact ⟨fun r hr => absurd hr List.not_mem_nil, .nil, fun r hr => absurd hr List.not_mem_nil⟩
  | work _ hworks ih =>
    obtain ⟨hbefore, hpairs, horderly⟩ := ih
    exact ⟨fun r hr => (hbefore r hr).trans hworks.sameHolders.precedes, hpairs, horderly⟩
  | @call records s s' trace result h name call hends ih =>
    obtain ⟨hbefore, hpairs, horderly⟩ := ih
    have haccounted := h.isAccounted
    have heffect := call.effect_of_ends (haccounted.sound name) haccounted.users_ne_zero hends
    have hcall : CallRecord.IsOrderly ⟨name, call, s, trace, result, s'⟩ :=
      heffect.isOrderly haccounted
    refine ⟨?_, ?_, ?_⟩
    · intro r hr
      rcases List.mem_append.1 hr with hr | hr
      · exact (hbefore r hr).trans hcall.forward
      · obtain rfl := List.mem_singleton.1 hr
        exact .refl s'
    · refine List.pairwise_append.2 ⟨hpairs, List.pairwise_singleton _ _, fun r hr r' hr' => ?_⟩
      obtain rfl := List.mem_singleton.1 hr'
      exact hbefore r hr
    · intro r hr
      rcases List.mem_append.1 hr with hr | hr
      · exact horderly r hr
      · obtain rfl := List.mem_singleton.1 hr
        exact hcall

/-- Two managers share the processor.  One of them contains an entity type, is bound without a
descriptor of it, which fails, serves nothing, and is destroyed, once and not again; the other one
holds the processor until it is destroyed too. -/
theorem Session.managers_accounted_unbound : ∃ records s,
    Session default default records s ∧
      (records.map fun r => (r.after.manager "books").state) =
        [.initialized, .initialized, .initialized, .initialized, .initialized, .destroyed,
          .destroyed, .destroyed] ∧
      (records.map fun r => (r.after.manager "films").state) =
        [.uninitialized, .initialized, .initialized, .initialized, .initialized, .initialized,
          .initialized, .destroyed] ∧
      (records.map fun r => r.after.processor.users) = [1, 2, 2, 2, 2, 1, 1, 0] ∧
      s.IsAccounted ∧ records.Pairwise (fun r r' => r.after.Precedes r'.before) ∧
      ∀ r ∈ records, r.IsOrderly := by
  have hstart : Session default default [] (.fresh default default) := .start
  have hset := hstart.alone "books" (.setUp "books" (.settled default) false) (.ok ()) rfl
  have hother := hset.alone "films" (.setUp "films" (.settled default) false) (.ok ()) rfl
  have hadded := hother.alone "books" (.addContained "book") (.ok ()) rfl
  have hunbound := hadded.alone "books" (.bind []) (.error (.noDescriptor "books" "book")) rfl
  have hrefused := hunbound.alone "books" (.perform [] none)
    (.error (.wrongState "perform_operations" "books" .initialized .bound)) rfl
  have hdestroyed := hrefused.alone "books" .destroy (.ok ()) rfl
  have hagain := hdestroyed.alone "books" .destroy (.error (.notDestroyable .destroyed)) rfl
  have hlast := hagain.alone "films" .destroy (.ok ()) rfl
  exact ⟨_, _, hlast, rfl, rfl, rfl, hlast.managers_accounted⟩

end SearchIndex
