/-
# What a call of a manager can do

A call of a manager is refused in a state that does not allow it, and then nothing has happened.  If
it is allowed, either all managers stay as they are, or the manager becomes another one, and the
users of the processor change with whether it is active.  `ManagerCall.Effect` says this with all
that later proofs need, and `ManagerCall.effect_of_ends` shows it of every end of every call.
-/
import SearchIndex.Proofs.Manager.Working

namespace SearchIndex

/-- A manager is active from its initialization until it is destroyed. -/
def Lifecycle.isActive : Lifecycle → Bool
  | initialized => true
  | bound => true
  | _ => false

/-- A manager holds the processor exactly while it is active, and then it knows its index. -/
structure Manager.IsSound (m : Manager) : Prop where
  holds : m.holdsProcessor = m.state.isActive
  configured : m.state.isActive = true → ∃ c, m.configuration = some c

/-- A manager that is not active need not know its index. -/
lemma Manager.isSound_of_not_active {m : Manager} (hholds : m.holdsProcessor = false)
    (hactive : m.state.isActive = false) : m.IsSound where
  holds := hholds.trans hactive.symm
  configured h := by cases hactive.symm.trans h

/-- What a manager can be asked for. -/
inductive ManagerCall where
  /-- It is set up with the settings of an index. -/
  | setUp (index : String) (properties : Properties) (multitenancy : Bool)
  /-- The index contains one more entity type. -/
  | addContained (entityType : String)
  /-- The schema operations for binding run. -/
  | bind (descriptors : Table EntityDescriptor)
  /-- Operations are carried out at once. -/
  | perform (operations : List Offered) (monitor : Option String)
  /-- An operation is handed to the workers. -/
  | stream (offered : Offered) (monitor : Option String)
  /-- The asynchronous requests of the index are awaited. -/
  | flush
  /-- The segments of the index are merged, asynchronously. -/
  | optimize
  /-- The manager is destroyed. -/
  | destroy

namespace ManagerCall

/-- What is done on a call of the manager of a name. -/
def activity (name : String) : ManagerCall → Activity Unit
  | setUp index properties multitenancy => Manager.setUp name index properties multitenancy
  | addContained entityType => Manager.addContained name entityType
  | bind descriptors => Manager.bind name descriptors
  | perform operations monitor => Manager.perform name operations monitor
  | stream offered monitor => Manager.stream name offered monitor
  | flush => Manager.flush name
  | optimize => Manager.optimize name
  | destroy => Manager.destroy name

/-- Whether a state allows a call. -/
def isAllowed : ManagerCall → Lifecycle → Bool
  | setUp .., state => state = .uninitialized
  | addContained _, state => state = .initialized
  | bind _, state => state = .initialized
  | destroy, state => state.isActive
  | _, state => state = .bound

/-- How a manager refuses a call that its state does not allow. -/
def refusal (m : Manager) : ManagerCall → Failure
  | setUp .. => .wrongState "initialize" m.label m.state .uninitialized
  | addContained _ => .wrongState "add_contained_entity" m.label m.state .initialized
  | bind _ => .wrongState "bind" m.label m.state .initialized
  | perform .. => .wrongState "perform_operations" m.label m.state .bound
  | destroy => .notDestroyable m.state
  | _ => .wrongState "perform_stream_operation" m.label m.state .bound

/-- The state after a call that was allowed. -/
def leadsTo (succeeds : Bool) : ManagerCall → Lifecycle
  | setUp .. => if succeeds then .initialized else .uninitialized
  | addContained _ => .initialized
  | bind _ => if succeeds then .bound else .initialized
  | destroy => .destroyed
  | _ => .bound

end ManagerCall

/-- The manager of a name has become another one.  The processor has gained a user if the manager is
active only now, and lost one if it was active only before. -/
structure Shared.Becomes (s : Shared) (name : String) (m : Manager) (s' : Shared) : Prop where
  managers : s'.managers = Table.set s.managers name m
  users : s'.processor.users + (s.manager name).state.isActive.toNat =
    s.processor.users + m.state.isActive.toNat

/-- A failure of a call with this trace: it is an ordinary one, or tells of rejected items, or is
what an answer in the trace is. -/
def Failure.ArisesFrom (trace : List (Call × Answer)) (failure : Failure) : Prop :=
  failure.isOrdinary = true ∨ failure.isRejection = true ∨
    ∃ x ∈ trace, ∃ reason, x.2 = .unsent reason ∧ failure = .misfit reason

/-- What a call that has come to its end has done. -/
inductive ManagerCall.Effect (name : String) (call : ManagerCall) (s : Shared)
    (trace : List (Call × Answer)) (result : Except Failure Unit) (s' : Shared) : Prop where
  /-- The call is refused. -/
  | refused (hnot : call.isAllowed (s.manager name).state = false) (htrace : trace = [])
      (hresult : result = .error (call.refusal (s.manager name))) (hsame : s' = s)
  /-- All managers stay as they are. -/
  | kept (hallowed : call.isAllowed (s.manager name).state = true) (hsame : s.SameHolders s')
      (hstate : (s.manager name).state = call.leadsTo result.isOk)
      (harises : ∀ failure, result = .error failure → failure.ArisesFrom trace)
  /-- The manager becomes another one. -/
  | became (hallowed : call.isAllowed (s.manager name).state = true) (m : Manager)
      (hbecomes : s.Becomes name m s') (hsound : m.IsSound)
      (hstate : m.state = call.leadsTo result.isOk)
      (harises : ∀ failure, result = .error failure → failure.ArisesFrom trace)

variable {α : Type} {name : String} {s s' s₁ : Shared} {trace before after : List (Call × Answer)}

/-! ## Failures that arise -/

section Arises

open Failure

lemma Failure.ArisesFrom.mono {failure : Failure} (h : failure.ArisesFrom before)
    (hsub : before ⊆ trace) : failure.ArisesFrom trace := by
  obtain hordinary | hrejection | ⟨x, hx, hreason⟩ := h
  · exact Or.inl hordinary
  · exact Or.inr (Or.inl hrejection)
  · exact Or.inr (Or.inr ⟨x, hsub hx, hreason⟩)

/-- Nothing arises where a call succeeds. -/
lemma arisesFrom_of_ok (failure : Failure)
    (h : (.ok () : Except Failure Unit) = .error failure) : failure.ArisesFrom trace := by
  cases h

lemma arisesFrom_of_error {failure : Failure} (harises : failure.ArisesFrom trace)
    (other : Failure) (h : (.error failure : Except Failure Unit) = .error other) :
    other.ArisesFrom trace := by
  obtain rfl := Except.error.inj h
  exact harises

/-- What avoids every set without ordinary failures can fail with ordinary ones only. -/
lemma isOrdinary_of_avoids {e : Except Failure α} (he : ∀ bad, IsSpecial bad → Avoids bad e)
    {failure : Failure} (h : e = .error failure) : failure.isOrdinary = true := by
  by_contra hnot
  exact he (fun other => ¬other.isOrdinary = true) (fun _ hordinary hbad => hbad hordinary) failure
    h hnot

/-- A tame activity fails with failures only that arise from its calls. -/
lemma arisesFrom_of_isTame {a : Activity α} {failure : Failure}
    (ha : ∀ bad : Failure → Prop, IsSpecial bad → (∀ items, ¬bad (.rejected items)) →
      a.IsTame bad True s.managers)
    (h : a.Ends s trace (.error failure) s') : failure.ArisesFrom trace := by
  -- the failures that do not arise are a set to which tameness applies
  have hspecial : IsSpecial fun other => ¬other.ArisesFrom trace := by
    intro other hordinary hnot
    exact hnot (Or.inl hordinary)
  have hrejected : ∀ items, ¬¬(Failure.rejected items).ArisesFrom trace := by
    intro items hnot
    exact hnot (Or.inr (Or.inl rfl))
  have hadmits : ∀ x ∈ trace, x.2.Admits fun other => ¬other.ArisesFrom trace := by
    rintro ⟨call, answer⟩ hx
    cases answer with
    | unsent reason => exact fun hnot => hnot (Or.inr (Or.inr ⟨_, hx, reason, rfl, rfl⟩))
    | _ => exact trivial
  obtain ⟨-, havoids⟩ := ha _ hspecial hrejected s trace _ s' h rfl
  exact not_not.1 (havoids trivial hadmits failure rfl)

/-- A tame activity leaves the managers and the users alone. -/
lemma sameHolders_of_isTame {a : Activity α} {result : Except Failure α}
    (ha : a.IsTame (fun _ => False) True s.managers) (h : a.Ends s trace result s') :
    s.SameHolders s' := (ha s trace result s' h rfl).1

end Arises

/-! ## Becoming another manager -/

namespace Shared

variable {m : Manager}

lemma SameHolders.manager_eq (h : s.SameHolders s') (name : String) :
    s'.manager name = s.manager name := by rw [manager, h.1, manager]

lemma Becomes.manager_self (h : s.Becomes name m s') : s'.manager name = m := by
  rw [manager, h.managers, Table.get?_set_self, Option.getD_some]

lemma Becomes.manager_of_ne (h : s.Becomes name m s') {other : String} (hne : other ≠ name) :
    s'.manager other = s.manager other := by
  rw [manager, h.managers, Table.get?_set_of_ne _ _ hne.symm, manager]

/-- What leaves the managers alone before and after does not matter. -/
lemma Becomes.of_sameHolders {s₂ : Shared} (hbefore : s.SameHolders s₁)
    (h : s₁.Becomes name m s₂) (hafter : s₂.SameHolders s') : s.Becomes name m s' where
  managers := by rw [hafter.1, h.managers, hbefore.1]
  users := by
    have husers := h.users
    rw [hbefore.manager_eq, hbefore.2] at husers
    rw [hafter.2, husers]

end Shared

namespace Manager

open Activity ManagerCall

variable {result : Except Failure Unit}

lemma require_of_eq {m : Manager} {state : Lifecycle} (h : m.state = state) (action : String) :
    m.require state action = .ok () := if_pos h

lemma require_of_ne {m : Manager} {state : Lifecycle} (h : m.state ≠ state) (action : String) :
    m.require state action = .error (.wrongState action m.label m.state state) := if_neg h

/-- An active manager knows its index. -/
lemma IsSound.exists_configured {m : Manager} (hsound : m.IsSound)
    (hactive : m.state.isActive = true) :
    ∃ c, m.configuration = some c ∧ m.configured = .ok c := by
  obtain ⟨c, hc⟩ := hsound.configured hactive
  exact ⟨c, hc, by rw [Manager.configured, hc]⟩

/-! ## Setting up -/

/-- Setting up is refused, or fails because of the settings, or the manager takes the processor. -/
lemma setUp?_cases (name index : String) (properties : Properties) (multitenancy : Bool)
    (s : Shared) :
    ((s.manager name).state ≠ .uninitialized ∧ setUp? name index properties multitenancy s =
      .error (refusal (s.manager name) (.setUp index properties multitenancy))) ∨
    (s.manager name).state = .uninitialized ∧
      ((∃ failure, failure.isOrdinary = true ∧
        setUp? name index properties multitenancy s = .error failure) ∨
      ∃ c, setUp? name index properties multitenancy s =
        .ok ((s.setManager name ((s.manager name).initialized c)).mapProcessor Execution.acquire,
          c)) := by
  by_cases hstate : (s.manager name).state = .uninitialized
  · refine Or.inr ⟨hstate, ?_⟩
    rw [setUp?_of_uninitialized hstate]
    cases hsettings : properties.settings index with
    | error failure =>
      refine Or.inl ⟨failure, ?_, rfl⟩
      exact isOrdinary_of_avoids (fun _ hbad => avoids_settings hbad properties index) hsettings
    | ok settings => exact Or.inr ⟨settings.configuration index multitenancy, rfl⟩
  · refine Or.inl ⟨hstate, ?_⟩
    rw [setUp?, require_of_ne hstate]
    rfl

lemma effect_of_ends_setUp {index : String} {properties : Properties} {multitenancy : Bool}
    (h : (setUp name index properties multitenancy).Ends s trace result s') :
    Effect name (.setUp index properties multitenancy) s trace result s' := by
  have hends := ends_attempt_bind.1 h
  rcases setUp?_cases name index properties multitenancy s with ⟨hstate, hset⟩ |
    ⟨hstate, ⟨failure, hordinary, hset⟩ | ⟨c, hset⟩⟩
  · rw [attempted, hset] at hends
    obtain ⟨rfl, rfl, rfl⟩ := ends_error_bind.1 hends
    exact .refused (decide_eq_false hstate) rfl rfl rfl
  · rw [attempted, hset] at hends
    obtain ⟨rfl, rfl, rfl⟩ := ends_error_bind.1 hends
    exact .kept (decide_eq_true hstate) (.refl _) hstate (arisesFrom_of_error (Or.inl hordinary))
  · rw [attempted, hset] at hends
    obtain ⟨rfl, rfl, rfl⟩ := ends_note.1 (ends_ok_bind.1 hends)
    refine .became (decide_eq_true hstate) ((s.manager name).initialized c) ⟨rfl, ?_⟩
      ⟨rfl, fun _ => ⟨c, rfl⟩⟩ rfl arisesFrom_of_ok
    rw [hstate]
    rfl

/-! ## Adding entity types -/

lemma effect_of_ends_addContained {entityType : String} (hsound : (s.manager name).IsSound)
    (h : (addContained name entityType).Ends s trace result s') :
    Effect name (.addContained entityType) s trace result s' := by
  let f : Shared → Except Failure (Shared × Unit) := fun s => do
    (s.manager name).require .initialized "add_contained_entity"
    return (s.setManager name ((s.manager name).contain entityType), ())
  obtain ⟨rfl, hresult, hafter⟩ := ends_attempt (f := f).1 h
  by_cases hstate : (s.manager name).state = .initialized
  · have hf : f s = .ok (s.setManager name ((s.manager name).contain entityType), ()) := by
      simp only [f, require_of_eq hstate]
      rfl
    rw [attempted, hf] at hafter
    rw [hf] at hresult
    obtain rfl := hresult
    obtain rfl := hafter
    -- only the entity types change
    have hcontain : ((s.manager name).contain entityType).state = (s.manager name).state ∧
        ((s.manager name).contain entityType).holdsProcessor = (s.manager name).holdsProcessor ∧
        ((s.manager name).contain entityType).configuration = (s.manager name).configuration := by
      unfold contain
      split <;> exact ⟨rfl, rfl, rfl⟩
    obtain ⟨hcstate, hholds, hconfiguration⟩ := hcontain
    refine .became (decide_eq_true hstate) ((s.manager name).contain entityType) ⟨rfl, ?_⟩
      ⟨?_, ?_⟩ (hcstate.trans hstate) arisesFrom_of_ok
    · rw [hcstate]
      rfl
    · rw [hholds, hcstate, hsound.holds]
    · rw [hconfiguration, hcstate]
      exact hsound.configured
  · have hf : f s = .error (refusal (s.manager name) (.addContained entityType)) := by
      simp only [f, require_of_ne hstate]
      rfl
    rw [attempted, hf] at hafter
    rw [hf] at hresult
    exact .refused (decide_eq_false hstate) rfl hresult hafter

/-! ## Binding -/

lemma effect_of_ends_bind {descriptors : Table EntityDescriptor}
    (hsound : (s.manager name).IsSound) (h : (bind name descriptors).Ends s trace result s') :
    Effect name (.bind descriptors) s trace result s' := by
  have hends := ends_look_bind.1 h
  dsimp only at hends
  by_cases hstate : (s.manager name).state = .initialized
  · obtain ⟨c, hc, hconfigured⟩ := hsound.exists_configured (by rw [hstate]; rfl)
    rw [require_of_eq hstate, hconfigured] at hends
    have hrest := ends_ok_bind.1 (ends_ok_bind.1 hends)
    have htame : ∀ bad : Failure → Prop, IsSpecial bad →
        (Schema.runOnBind ofAction s.policy c.strategy c.actualName (buildTarget name descriptors)
          c.options).IsTame bad True s.managers := fun bad hbad =>
      isTame_runSteps hbad _ _ _ (isTame_buildTarget hbad hc) _ none _
    rcases ends_bind.1 hrest with ⟨failure, hfailed, rfl⟩ | ⟨x, s₁, before, after, hran, hend, rfl⟩
    · -- an operation fails, and the manager stays as it was
      refine .kept (decide_eq_true hstate) ?_ hstate (arisesFrom_of_error ?_)
      · exact sameHolders_of_isTame (htame _ fun _ _ => id) hfailed
      · exact arisesFrom_of_isTame (fun bad hbad _ => htame bad hbad) hfailed
    · -- all operations succeed, and the manager is bound
      have hsame := sameHolders_of_isTame (htame _ fun _ _ => id) hran
      obtain ⟨rfl, rfl, rfl⟩ := ends_note.1 (ends_look_bind.1 (ends_change_bind.1 hend))
      have hmanager := hsame.manager_eq name
      refine .became (decide_eq_true hstate) { s₁.manager name with state := .bound }
        (.of_sameHolders hsame ⟨rfl, ?_⟩ (.refl _)) ⟨?_, fun _ => ⟨c, ?_⟩⟩ rfl arisesFrom_of_ok
      · rw [hmanager, hstate]
        rfl
      · change (s₁.manager name).holdsProcessor = true
        rw [hmanager, hsound.holds, hstate]
        rfl
      · change (s₁.manager name).configuration = some c
        rw [hmanager, hc]
  · rw [require_of_ne hstate] at hends
    obtain ⟨rfl, rfl, rfl⟩ := ends_error_bind.1 hends
    exact .refused (decide_eq_false hstate) rfl rfl rfl

/-! ## Serving -/

/-- A bound manager serves at once, and any other one refuses to. -/
lemma ends_serving {action : String} {r : Except Failure Configuration}
    (hsound : (s.manager name).IsSound) (h : (serving name action).Ends s trace r s') :
    trace = [] ∧ s' = s ∧
      (((s.manager name).state = .bound ∧ ∃ c, r = .ok c) ∨
        (s.manager name).state ≠ .bound ∧
          r = .error
            (.wrongState action (s.manager name).label (s.manager name).state .bound)) := by
  have hends := ends_look_bind.1 h
  dsimp only at hends
  by_cases hstate : (s.manager name).state = .bound
  · have hactive : (s.manager name).state.isActive = true := by
      rw [hstate]
      rfl
    obtain ⟨c, -, hconfigured⟩ := hsound.exists_configured hactive
    rw [require_of_eq hstate, hconfigured, if_pos (hsound.holds.trans hactive)] at hends
    obtain ⟨rfl, rfl, rfl⟩ := ends_ofExcept.1 (ends_ok_bind.1 hends)
    exact ⟨rfl, rfl, Or.inl ⟨hstate, c, rfl⟩⟩
  · rw [require_of_ne hstate] at hends
    obtain ⟨rfl, rfl, rfl⟩ := ends_error_bind.1 hends
    exact ⟨rfl, rfl, Or.inr ⟨hstate, rfl⟩⟩

/-- A call that only a bound manager serves, by what leaves the managers alone. -/
lemma effect_of_ends_serving {call : ManagerCall} {action : String}
    {serve : Configuration → Activity Unit} (hsound : (s.manager name).IsSound)
    (hallowed : ∀ state, call.isAllowed state = decide (state = .bound))
    (hrefusal : ∀ m, call.refusal m = .wrongState action m.label m.state .bound)
    (hleads : ∀ succeeds, call.leadsTo succeeds = .bound)
    (htame : ∀ (bad : Failure → Prop) c, IsSpecial bad → (∀ items, ¬bad (.rejected items)) →
      (serve c).IsTame bad True s.managers)
    (h : (serving name action >>= serve).Ends s trace result s') :
    Effect name call s trace result s' := by
  rcases ends_bind.1 h with ⟨failure, hfailed, rfl⟩ | ⟨c, s₁, before, after, hserved, hend, rfl⟩
  · obtain ⟨rfl, rfl, ⟨-, c, hc⟩ | ⟨hstate, hfailure⟩⟩ := ends_serving hsound hfailed
    · cases hc
    · obtain rfl := Except.error.inj hfailure
      refine .refused ((hallowed _).trans (decide_eq_false hstate)) rfl ?_ rfl
      rw [hrefusal]
  · obtain ⟨rfl, rfl, ⟨hstate, -⟩ | ⟨-, hc⟩⟩ := ends_serving hsound hserved
    · refine .kept ((hallowed _).trans (decide_eq_true hstate)) ?_ (hstate.trans (hleads _).symm) ?_
      · exact sameHolders_of_isTame (htame _ c (fun _ _ => id) fun _ => id) hend
      · rintro failure rfl
        exact arisesFrom_of_isTame (fun bad hbad hrejected => htame bad c hbad hrejected) hend
    · cases hc

lemma effect_of_ends_perform {operations : List Offered} {monitor : Option String}
    (hsound : (s.manager name).IsSound)
    (h : (perform name operations monitor).Ends s trace result s') :
    Effect name (.perform operations monitor) s trace result s' := by
  refine effect_of_ends_serving hsound (fun _ => rfl) (fun _ => rfl) (fun _ => rfl)
    (fun bad c hbad hrejected => ?_) h
  exact (isTame_visitAll hbad c monitor operations).bind fun requests =>
    Execution.isTame_runNow hbad hrejected requests

/-- Streaming is what flushing and optimizing are made of, each with a name of its own. -/
lemma effect_of_ends_stream {call : ManagerCall} {offered : Offered} {monitor : Option String}
    (hsound : (s.manager name).IsSound)
    (hallowed : ∀ state, call.isAllowed state = decide (state = .bound))
    (hrefusal : ∀ m, call.refusal m =
      .wrongState "perform_stream_operation" m.label m.state .bound)
    (hleads : ∀ succeeds, call.leadsTo succeeds = .bound)
    (h : (stream name offered monitor).Ends s trace result s') :
    Effect name call s trace result s' := by
  refine effect_of_ends_serving hsound hallowed hrefusal hleads (fun bad c hbad _ => ?_) h
  split
  · exact Execution.isTame_awaitCompletion hbad _
  · refine (isTame_visitFor hbad c monitor offered).bind fun request => ?_
    cases request with
    | none => exact .pure ()
    | some r => exact (Execution.isTame_submit r).bind fun _ => .pure ()

/-! ## Destroying -/

/-- Giving up the processor, which has a user, takes one away and stops the workers after the last
one.  Nothing else changes. -/
lemma ends_release {r : Except Failure Unit} (husers : s.processor.users ≠ 0)
    (h : Execution.release.Ends s trace r s') :
    s'.managers = s.managers ∧ s'.processor.users + 1 = s.processor.users ∧
      ∀ failure, r = .error failure → failure.ArisesFrom trace := by
  have hends := ends_attempt_bind.1 h
  rw [attempted, if_neg husers] at hends
  have hrest := ends_ok_bind.1 hends
  let left : Shared := s.mapProcessor fun p => { p with users := s.processor.users - 1 }
  have htame : ∀ bad : Failure → Prop, IsTame bad True left.managers
      (if s.processor.users - 1 = 0 then Execution.shutdown else pure ()) := by
    intro bad
    split
    · exact Execution.isTame_shutdown
    · exact .pure ()
  simp only [decide_eq_true_eq] at hrest
  change Ends _ left trace r s' at hrest
  have hsame := sameHolders_of_isTame (htame _) hrest
  refine ⟨hsame.1, ?_, ?_⟩
  · have hone : s'.processor.users = s.processor.users - 1 := hsame.2
    omega
  · rintro failure rfl
    exact arisesFrom_of_isTame (fun bad _ _ => htame bad) hrest

/-- The manager is destroyed and has given up the processor, even if the workers could not be
stopped. -/
lemma ends_finish {r : Except Failure Unit} (hholds : (s.manager name).holdsProcessor = true)
    (husers : s.processor.users ≠ 0) (h : (finish name).Ends s trace r s') :
    s'.managers = Table.set s.managers name
        { s.manager name with state := .destroyed, holdsProcessor := false } ∧
      s'.processor.users + 1 = s.processor.users ∧
      ∀ failure, r = .error failure → failure.ArisesFrom trace := by
  let destroyed : Shared :=
    s.setManager name { s.manager name with state := .destroyed, holdsProcessor := false }
  have husers' : destroyed.processor.users ≠ 0 := husers
  have hends := ends_step_bind.1 h
  rw [if_pos hholds] at hends
  change Ends _ destroyed trace r s' at hends
  rcases ends_bind.1 hends with ⟨failure, hfailed, rfl⟩ |
    ⟨u, s₁, before, after, hreleased, hend, rfl⟩
  · obtain ⟨hmanagers, hone, harises⟩ := ends_release husers' hfailed
    exact ⟨hmanagers, hone, arisesFrom_of_error (harises failure rfl)⟩
  · obtain ⟨hmanagers, hone, -⟩ := ends_release husers' hreleased
    obtain ⟨rfl, rfl, rfl⟩ := ends_note.1 (ends_look_bind.1 hend)
    exact ⟨hmanagers, hone, arisesFrom_of_ok⟩

/-- What is returned of the asynchronous requests is that they have failed. -/
lemma isOrdinary_of_ends_drain {index : String} {failure : Failure}
    (h : (drain index).Ends s trace (.ok (some failure)) s') : failure.isOrdinary = true := by
  obtain ⟨r, s₁, before, after, -, hend, rfl⟩ := ends_outcome_bind.1 h
  cases r with
  | ok u => cases (ends_pure.1 hend).2.1
  | error other =>
    cases other with
    | asynchronous index first others =>
      rcases ends_bind.1 hend with ⟨_, -, hnote⟩ | ⟨u, s₂, calls, rest, -, hreturn, -⟩
      · cases hnote
      · cases (ends_pure.1 hreturn).2.1
        rfl
    | _ => cases (ends_throw.1 hend).2.1

lemma isOrdinary_of_ends_wind {c : Configuration} {failure : Failure}
    (h : (wind name c).Ends s trace (.ok (some failure)) s') : failure.isOrdinary = true := by
  have htold : ∀ {a : Activity (Option Failure)},
      (a >>= fun told => ofAction (Schema.runOnDestroy s.policy c.strategy c.actualName c.options)
        >>= fun _ => pure told).Ends s trace (.ok (some failure)) s' →
      ∃ s₁ before, a.Ends s before (.ok (some failure)) s₁ := by
    intro a ha
    rcases ends_bind.1 ha with ⟨_, -, hother⟩ | ⟨told, s₁, before, after, hbefore, hend, rfl⟩
    · cases hother
    rcases ends_bind.1 hend with ⟨_, -, hother⟩ | ⟨u, s₂, calls, others, -, hreturn, rfl⟩
    · cases hother
    obtain rfl := Except.ok.inj (ends_pure.1 hreturn).2.1
    exact ⟨s₁, before, hbefore⟩
  have hends := ends_look_bind.1 h
  split at hends
  · obtain ⟨s₁, before, hdrain⟩ := htold hends
    exact isOrdinary_of_ends_drain hdrain
  · obtain ⟨s₁, before, hnone⟩ := htold hends
    cases (ends_pure.1 hnone).2.1

/-- After what leaves the managers alone, finishing makes the manager a destroyed one. -/
lemma becomes_of_ends_finish {s₂ : Shared} {r : Except Failure Unit} (hsame : s.SameHolders s₁)
    (hactive : (s.manager name).state.isActive = true)
    (hholds : (s₁.manager name).holdsProcessor = true) (husers : s₁.processor.users ≠ 0)
    (h : (finish name).Ends s₁ trace r s₂) :
    s.Becomes name { s₁.manager name with state := .destroyed, holdsProcessor := false } s₂ := by
  obtain ⟨hmanagers, hone, -⟩ := ends_finish hholds husers h
  refine .of_sameHolders hsame ⟨hmanagers, ?_⟩ (.refl _)
  rw [hsame.manager_eq, hactive]
  exact hone

lemma effect_of_ends_destroy (hsound : (s.manager name).IsSound)
    (husers : (s.manager name).state.isActive = true → s.processor.users ≠ 0)
    (h : (destroy name).Ends s trace result s') : Effect name .destroy s trace result s' := by
  have hends := ends_look_bind.1 h
  by_cases hactive : (s.manager name).state.isActive = true
  · obtain ⟨c, hc, hconfigured⟩ := hsound.exists_configured hactive
    have hnot :
        ¬((s.manager name).state = .uninitialized ∨ (s.manager name).state = .destroyed) := by
      rintro (hstate | hstate) <;> (rw [hstate] at hactive; cases hactive)
    rw [if_neg hnot, hconfigured] at hends
    obtain ⟨wound, s₁, before, after, hwind, hafter, rfl⟩ :=
      ends_outcome_bind.1 (ends_ok_bind.1 hends)
    -- winding up leaves the manager as it was, so there is a user to take away
    have htame : ∀ bad : Failure → Prop, IsSpecial bad →
        IsTame bad True s.managers (wind name c) := fun bad hbad => isTame_wind hbad name c
    have hsame := sameHolders_of_isTame (htame _ fun _ _ => id) hwind
    have hholds : (s₁.manager name).holdsProcessor = true := by
      rw [hsame.manager_eq, hsound.holds, hactive]
    have husers₁ : s₁.processor.users ≠ 0 := by
      rw [hsame.2]
      exact husers hactive
    rcases ends_bind.1 hafter with ⟨failure, hfailed, rfl⟩ |
      ⟨u, s₂, calls, others, hfinished, hlast, rfl⟩
    · obtain ⟨-, -, harises⟩ := ends_finish hholds husers₁ hfailed
      have harises' := (harises failure rfl).mono (List.subset_append_right before after)
      exact .became hactive _ (becomes_of_ends_finish hsame hactive hholds husers₁ hfailed)
        (isSound_of_not_active rfl rfl) rfl (arisesFrom_of_error harises')
    · -- whatever came of winding up is told now
      have hended : s' = s₂ ∧ ∀ failure, result = .error failure →
          failure.ArisesFrom (before ++ (calls ++ others)) := by
        rcases wound with failure | _ | failure
        · obtain ⟨-, rfl, rfl⟩ := ends_throw.1 hlast
          have harises := arisesFrom_of_isTame (fun bad hbad _ => htame bad hbad) hwind
          exact ⟨rfl, arisesFrom_of_error (harises.mono (List.subset_append_left before _))⟩
        · obtain ⟨-, rfl, rfl⟩ := ends_pure.1 hlast
          exact ⟨rfl, arisesFrom_of_ok⟩
        · obtain ⟨-, rfl, rfl⟩ := ends_throw.1 hlast
          exact ⟨rfl, arisesFrom_of_error (Or.inl (isOrdinary_of_ends_wind hwind))⟩
      obtain ⟨rfl, harises⟩ := hended
      exact .became hactive _ (becomes_of_ends_finish hsame hactive hholds husers₁ hfinished)
        (isSound_of_not_active rfl rfl) rfl harises
  · have hstate : (s.manager name).state = .uninitialized ∨
        (s.manager name).state = .destroyed := by
      cases hcase : (s.manager name).state with
      | uninitialized => exact Or.inl rfl
      | destroyed => exact Or.inr rfl
      | _ => rw [hcase] at hactive; exact absurd rfl hactive
    rw [if_pos hstate] at hends
    rcases ends_bind.1 hends with ⟨failure, hfailed, rfl⟩ | ⟨u, s₁, before, after, hthrow, -, rfl⟩
    · obtain ⟨rfl, hfailure, rfl⟩ := ends_throw.1 hfailed
      obtain rfl := Except.error.inj hfailure
      exact .refused (Bool.eq_false_iff.2 hactive) rfl rfl rfl
    · cases (ends_throw.1 hthrow).2.1

end Manager

/-! ## Calls in general -/

/-- What every call of a manager that is in order has done once it has come to its end, provided
that the processor has a user while the manager is active. -/
lemma ManagerCall.effect_of_ends {call : ManagerCall} {result : Except Failure Unit}
    (hsound : (s.manager name).IsSound)
    (husers : (s.manager name).state.isActive = true → s.processor.users ≠ 0)
    (h : (call.activity name).Ends s trace result s') : call.Effect name s trace result s' := by
  cases call with
  | setUp index properties multitenancy => exact Manager.effect_of_ends_setUp h
  | addContained entityType => exact Manager.effect_of_ends_addContained hsound h
  | bind descriptors => exact Manager.effect_of_ends_bind hsound h
  | perform operations monitor => exact Manager.effect_of_ends_perform hsound h
  | stream offered monitor =>
    exact Manager.effect_of_ends_stream hsound (fun _ => rfl) (fun _ => rfl) (fun _ => rfl) h
  | flush =>
    have hstream : (Manager.stream name (.operation .flush) none).Ends s trace result s' := h
    exact Manager.effect_of_ends_stream hsound (fun _ => rfl) (fun _ => rfl) (fun _ => rfl) hstream
  | optimize =>
    have hstream : (Manager.stream name (.operation .optimize) none).Ends s trace result s' := h
    exact Manager.effect_of_ends_stream hsound (fun _ => rfl) (fun _ => rfl) (fun _ => rfl) hstream
  | destroy => exact Manager.effect_of_ends_destroy hsound husers h

end SearchIndex
