/-
# What calls of a manager tell of failures

A manager tells of the asynchronous requests of its index that have failed when it is flushed or
destroyed: it waits for them and takes out what is recorded of them (`Shared.Reports`).  A flush
raises all of that.  Destroying goes on with what is to be done to the index then, and what fails
there is raised in place of the failures that were taken out (`Manager.ends_destroy`).

Every other call leaves the record alone but for what workers add to it, since it spares the tickets
or only submits one (`Execution.owes_of_ends_submit`).
-/
import SearchIndex.Proofs.Indexing.Owing
import SearchIndex.Proofs.Manager.Holding

namespace SearchIndex

variable {α : Type} {name index : String} {s s₁ s' : Shared} {trace : List (Call × Answer)}

/-! ## Failures of asynchronous requests -/

/-- Whether a failure tells of asynchronous requests. -/
def Failure.isAsynchronous : Failure → Bool
  | asynchronous .. => true
  | _ => false

/-- The failures of asynchronous requests that a result carries. -/
def Failure.carriedBy : Except Failure Unit → List Failure
  | .error (.asynchronous _ first others) => first :: others
  | _ => []

/-- The result that tells of failures of an index. -/
def Failure.telling (index : String) : List Failure → Except Failure Unit
  | [] => .ok ()
  | first :: others => .error (.asynchronous (some index) first others)

@[simp] lemma Failure.carriedBy_telling (index : String) (failures : List Failure) :
    carriedBy (telling index failures) = failures := by
  cases failures <;> rfl

lemma Failure.carriedBy_error {failure : Failure} (h : failure.isAsynchronous = false) :
    carriedBy (.error failure) = [] := by
  cases failure <;> first | rfl | cases h

/-- No answer is the failure of an asynchronous request. -/
lemma admits_isAsynchronous (answer : Answer) :
    answer.Admits fun failure => failure.isAsynchronous = true := by
  cases answer with
  | unsent reason => exact Bool.false_ne_true
  | _ => trivial

namespace Action

/-- An action that does not end with the failure of an asynchronous request. -/
abbrev IsDirect (a : Action α) : Prop := Avoids (fun failure => failure.isAsynchronous = true) a

lemma isDirect_request (call : Call) (ignored : List Int) : (request call ignored).IsDirect := by
  intro calls result h hcalls
  obtain ⟨answer, rfl, rfl⟩ := runs_request.1 h
  intro failure hfailure
  cases answer with
  | unreachable reason =>
    obtain rfl := Except.error.inj hfailure
    exact Bool.false_ne_true
  | unsent reason =>
    obtain rfl := Except.error.inj hfailure
    exact Bool.false_ne_true
  | reply status body =>
    rw [Answer.judge] at hfailure
    split at hfailure
    · cases hfailure
    · obtain rfl := Except.error.inj hfailure
      exact Bool.false_ne_true

/-- What is done to the index on destroying its manager only asks whether it exists and drops it. -/
lemma isDirect_runOnDestroy (policy : Compatibility) (strategy : Strategy) (index : String)
    (options : SchemaOptions) : (Schema.runOnDestroy policy strategy index options).IsDirect := by
  have hdrop : (Schema.drop index options).IsDirect := by
    refine (isDirect_request _ _).bind fun response => ?_
    split
    · exact .pure _
    · exact (Avoids.note _ _ _).bind fun _ => .pure _
  have hexists : (Schema.exists? index).IsDirect := (isDirect_request _ _).bind fun _ => .pure _
  have hif : (Schema.dropIfExisting index options).IsDirect := by
    refine hexists.bind fun found => ?_
    split
    · exact hdrop
    · exact (Avoids.note _ _ _).bind fun _ => .pure _
  refine Action.Avoids.bind ?_ fun _ => .pure _
  cases strategy with
  | recreateDelete =>
    have hrun : (Schema.runUntargeted index options).IsDirect := hif.bind fun _ => .pure _
    exact (Avoids.note _ _ _).bind fun _ => hrun.bind fun _ => .pure _
  | _ => exact .pure _

end Action

/-! ## Reports -/

/-- The requests for an index that were not done have been awaited, and what is recorded of the
index has been taken out. -/
inductive Shared.Reports (s : Shared) (index : String) : List Failure → Shared → Prop where
  | intro {s₁ s' : Shared} (hworks : s.Works s₁)
      (hdone : ∀ n ∈ s.processor.waitingTickets (some index), s₁.processor.IsDone n)
      (hcleared : s'.processor = s₁.processor.clearReported (some index)) :
      Reports s index (s₁.processor.recorded index) s'

lemma Shared.Reports.congr {found : List Failure} (h : s.Reports index found s₁)
    (hsame : s'.processor = s₁.processor) : s.Reports index found s' := by
  cases h with
  | intro hworks hdone hcleared => exact .intro hworks hdone (hsame.trans hcleared)

namespace Processor.Owes

variable {accepted : List WorkRequest} {told still : List Nat} {found : List Failure}

/-- A report moves all that is recorded of the index to what has been told, and finds it; nothing is
left to come then. -/
lemma of_reports (howes : s.processor.Owes accepted index told still)
    (hhand : s.processor.IsInHand [] accepted) (h : s.Reports index found s') :
    s'.processor.IsInHand [] accepted ∧ s.processor.Preserves s'.processor ∧
      (∀ n r, accepted[n]? = some r → r.index = index → s'.processor.IsDone n) ∧
      ∃ more, s'.processor.Owes accepted index (told ++ (still ++ more)) [] ∧
        (still ++ more).map s'.processor.outcome = found.map .failed := by
  cases h with
  | @intro s₁ _ hworks hdone hcleared =>
    obtain ⟨hhand₁, hpreserves, more, howes₁⟩ := howes.drifts hhand (.of_works hworks)
    have hsame : (s₁.processor.clearReported (some index)).outcome = s₁.processor.outcome :=
      funext (outcome_clearReported s₁.processor _)
    have hpreserves' := hpreserves.trans (.of_eq (outcome_clearReported s₁.processor (some index)))
    rw [hcleared]
    refine ⟨hhand₁.clearReported _, hpreserves', fun n r hr hindex => ?_, more,
      howes₁.clearReported hhand₁.distinct, ?_⟩
    · by_cases hbefore : s.processor.IsDone n
      · exact hpreserves'.isDone hbefore
      · have hwaits := hhand.faithful.mem_waitingTickets hr hbefore
          (by simp [covers, hindex] : covers (some index) r.index = true)
        rw [IsDone, hsame]
        exact hdone n hwaits
    · rw [hsame]
      exact howes₁.recorded_eq

/-- A report of another index is nothing to the books. -/
lemma of_reports_of_ne {other : String} (howes : s.processor.Owes accepted index told still)
    (hhand : s.processor.IsInHand [] accepted) (h : s.Reports other found s')
    (hother : other ≠ index) : s'.processor.IsInHand [] accepted ∧
      s.processor.Preserves s'.processor ∧
      ∃ more, s'.processor.Owes accepted index told (still ++ more) := by
  cases h with
  | @intro s₁ _ hworks hdone hcleared =>
    obtain ⟨hhand₁, hpreserves, more, howes₁⟩ := howes.drifts hhand (.of_works hworks)
    rw [hcleared]
    exact ⟨hhand₁.clearReported _,
      hpreserves.trans (.of_eq (outcome_clearReported s₁.processor (some other))), more,
      howes₁.clearReported_of_ne hhand₁.distinct hother⟩

end Processor.Owes

namespace Execution

open Activity

lemma ends_report {result : Except Failure Unit}
    (h : (Errand.report (some index)).Ends s trace result s') :
    s'.processor = s.processor.clearReported (some index) ∧
      result = Failure.telling index (s.processor.recorded index) := by
  have hends := ends_step_bind.1 h
  dsimp only at hends
  rw [Processor.recorded]
  cases hfailures : s.processor.unreported (some index) with
  | nil =>
    rw [hfailures] at hends
    obtain ⟨-, rfl, rfl⟩ := ends_pure.1 hends
    exact ⟨rfl, rfl⟩
  | cons first others =>
    rw [hfailures] at hends
    obtain ⟨-, rfl, rfl⟩ := ends_throw.1 hends
    exact ⟨rfl, rfl⟩

/-- Awaiting the requests of an index ends with what is recorded of it. -/
lemma ends_awaitCompletion {result : Except Failure Unit}
    (h : (awaitCompletion (some index)).Ends s trace result s') :
    ∃ found, s.Reports index found s' ∧ result = Failure.telling index found := by
  have hends := ends_look_bind.1 h
  dsimp only at hends
  split at hends
  · rename_i hempty
    obtain ⟨hcleared, hresult⟩ := ends_report hends
    refine ⟨_, .intro (.refl s) (fun n hn => ?_) hcleared, hresult⟩
    rw [List.isEmpty_iff.1 hempty] at hn
    exact absurd hn List.not_mem_nil
  · rcases ends_bind.1 hends with ⟨_, hwait, -⟩ | ⟨_, s₁, before, after, hwait, hreport, rfl⟩
    · cases (ends_waitUntil.1 hwait).2.1
    · obtain ⟨-, -, hworks, hready⟩ := ends_waitUntil.1 hwait
      obtain ⟨hcleared, hresult⟩ := ends_report hreport
      exact ⟨_, .intro hworks (fun n hn => List.all_eq_true.1 hready n hn) hcleared, hresult⟩

end Execution

/-! ## Calls that report -/

namespace Manager

open Activity

/-- A bound manager that serves knows its index. -/
lemma ends_serving_bind {action : String} {serve : Configuration → Activity Unit}
    {result : Except Failure Unit} (hsound : (s.manager name).IsSound)
    (hbound : (s.manager name).state = .bound)
    (h : (serving name action >>= serve).Ends s trace result s') :
    ∃ c, (s.manager name).configuration = some c ∧ (serve c).Ends s trace result s' := by
  have hactive : (s.manager name).state.isActive = true := by
    rw [hbound]
    rfl
  obtain ⟨c, hc, hconfigured⟩ := hsound.exists_configured hactive
  have hserving {r : Except Failure Configuration} {s₁ : Shared} {before : List (Call × Answer)}
      (hserved : (serving name action).Ends s before r s₁) : before = [] ∧ r = .ok c ∧ s₁ = s := by
    have hends := ends_look_bind.1 hserved
    dsimp only at hends
    rw [require_of_eq hbound, hconfigured, if_pos (hsound.holds.trans hactive)] at hends
    exact ends_ofExcept.1 (ends_ok_bind.1 hends)
  rcases ends_bind.1 h with ⟨failure, hfailed, -⟩ | ⟨x, s₁, before, after, hserved, hend, rfl⟩
  · cases (hserving hfailed).2.1
  · obtain ⟨rfl, hx, rfl⟩ := hserving hserved
    obtain rfl := Except.ok.inj hx
    exact ⟨x, hc, hend⟩

/-- What is returned of the asynchronous requests of an index. -/
def returned (index : String) : List Failure → Option Failure
  | [] => none
  | first :: others => some (.asynchronous (some index) first others)

lemma ends_drain {r : Except Failure (Option Failure)} (h : (drain index).Ends s trace r s') :
    ∃ found, s.Reports index found s' ∧ r = .ok (returned index found) := by
  obtain ⟨awaited, s₁, before, after, hawaited, hend, rfl⟩ := ends_outcome_bind.1 h
  obtain ⟨found, hreports, rfl⟩ := Execution.ends_awaitCompletion hawaited
  cases found with
  | nil =>
    obtain ⟨-, rfl, rfl⟩ := ends_pure.1 hend
    exact ⟨[], hreports, rfl⟩
  | cons first others =>
    rcases ends_bind.1 hend with ⟨_, hnote, -⟩ | ⟨_, s₂, calls, rest, hnote, hreturn, rfl⟩
    · cases (ends_note.1 hnote).2.1
    · obtain ⟨-, -, rfl⟩ := ends_note.1 hnote
      obtain ⟨-, rfl, rfl⟩ := ends_pure.1 hreturn
      exact ⟨first :: others, hreports.congr rfl, rfl⟩

/-- Winding up takes out what is recorded of the index, and returns it unless something fails that is
done to the index afterwards. -/
lemma ends_wind {c : Configuration} {r : Except Failure (Option Failure)}
    (hholds : (s.manager name).holdsProcessor = true) (h : (wind name c).Ends s trace r s') :
    ∃ found s₁, s.Reports c.actualName found s₁ ∧ s₁.processor.Drifts s'.processor ∧
      (r = .ok (returned c.actualName found) ∨
        ∃ failure, r = .error failure ∧ failure.isAsynchronous = false) := by
  have hends := ends_look_bind.1 h
  rw [if_pos hholds] at hends
  rcases ends_bind.1 hends with ⟨_, hdrain, -⟩ | ⟨told, s₁, before, after, hdrain, hend, rfl⟩
  · obtain ⟨found, -, hresult⟩ := ends_drain hdrain
    cases hresult
  obtain ⟨found, hreports, hresult⟩ := ends_drain hdrain
  obtain rfl := Except.ok.inj hresult
  have hdrifts {r : Except Failure PUnit} {s₂ : Shared} {calls : List (Call × Answer)}
      (hrun : (ofAction (Schema.runOnDestroy s.policy c.strategy c.actualName c.options)).Ends s₁
        calls r s₂) : s₁.processor.Drifts s₂.processor := (spares_ofAction _).drifts hrun
  rcases ends_bind.1 hend with ⟨failure, hrun, rfl⟩ | ⟨_, s₂, calls, rest, hrun, hreturn, rfl⟩
  · refine ⟨found, s₁, hreports, hdrifts hrun, Or.inr ⟨failure, rfl, ?_⟩⟩
    have hdirect := Action.isDirect_runOnDestroy s.policy c.strategy c.actualName c.options
    exact Bool.eq_false_iff.2 (hdirect _ _ (ends_ofAction hrun).1
      (fun x _ => admits_isAsynchronous x.2) failure rfl)
  · obtain ⟨-, rfl, rfl⟩ := ends_pure.1 hreturn
    exact ⟨found, s₁, hreports, hdrifts hrun, Or.inl rfl⟩

lemma spares_finish (name : String) : (finish name).Spares := by
  refine spares_bind (spares_step fun s => .refl _) fun held => ?_
  have hlast := spares_bind spares_look fun s => spares_note .info .manager
    ("Index manager destroyed: index=" ++ (s.manager name).actualName?.getD "")
  split
  · exact spares_bind Execution.spares_release fun _ => hlast
  · exact hlast

/-- Giving up the processor does not fail with the failure of an asynchronous request. -/
lemma not_isAsynchronous_of_ends_release {failure : Failure}
    (h : Execution.release.Ends s trace (.error failure) s') : failure.isAsynchronous = false := by
  have hends := ends_attempt_bind.1 h
  by_cases husers : s.processor.users = 0
  · rw [attempted, if_pos husers] at hends
    obtain ⟨-, hfailure, -⟩ := ends_error_bind.1 hends
    obtain rfl := Except.error.inj hfailure
    rfl
  · rw [attempted, if_neg husers] at hends
    have hrest := ends_ok_bind.1 hends
    simp only [decide_eq_true_eq] at hrest
    split at hrest
    · obtain ⟨-, havoids⟩ := Execution.isTame_shutdown _ _ _ _ hrest rfl
      exact Bool.eq_false_iff.2 (havoids trivial (fun x _ => admits_isAsynchronous x.2) failure rfl)
    · cases (ends_pure.1 hrest).2.1

lemma not_isAsynchronous_of_ends_finish {failure : Failure}
    (h : (finish name).Ends s trace (.error failure) s') : failure.isAsynchronous = false := by
  have hends := ends_step_bind.1 h
  have hlast {s₁ : Shared} {calls : List (Call × Answer)}
      (hnote : (do
        let s ← look
        note .info .manager ("Index manager destroyed: index=" ++
          (s.manager name).actualName?.getD "") : Activity Unit).Ends s₁ calls (.error failure) s') :
      failure.isAsynchronous = false := by
    cases (ends_note.1 (ends_look_bind.1 hnote)).2.1
  split at hends
  · rcases ends_bind.1 hends with ⟨other, hrelease, hfailure⟩ | ⟨_, s₁, before, after, -, hend, -⟩
    · obtain rfl := Except.error.inj hfailure
      exact not_isAsynchronous_of_ends_release hrelease
    · exact hlast hend
  · exact hlast hends

/-- Destroying takes out what is recorded of the index, and raises it unless something else fails. -/
lemma ends_destroy {result : Except Failure Unit} (hsound : (s.manager name).IsSound)
    (hactive : (s.manager name).state.isActive = true)
    (h : (destroy name).Ends s trace result s') :
    ∃ c found s₁, (s.manager name).configuration = some c ∧ s.Reports c.actualName found s₁ ∧
      s₁.processor.Drifts s'.processor ∧ (result = Failure.telling c.actualName found ∨
        ∃ failure, result = .error failure ∧ failure.isAsynchronous = false) := by
  have hends := ends_look_bind.1 h
  obtain ⟨c, hc, hconfigured⟩ := hsound.exists_configured hactive
  have hnot :
      ¬((s.manager name).state = .uninitialized ∨ (s.manager name).state = .destroyed) := by
    rintro (hstate | hstate) <;> (rw [hstate] at hactive; cases hactive)
  rw [if_neg hnot, hconfigured] at hends
  obtain ⟨wound, s₁, before, after, hwind, hafter, rfl⟩ :=
    ends_outcome_bind.1 (ends_ok_bind.1 hends)
  obtain ⟨found, s₂, hreports, hdrifts, hwound⟩ := ends_wind (hsound.holds.trans hactive) hwind
  refine ⟨c, found, s₂, hc, hreports, ?_⟩
  rcases ends_bind.1 hafter with ⟨failure, hfinish, rfl⟩ | ⟨_, s₃, calls, rest, hfinish, hend, rfl⟩
  · exact ⟨hdrifts.trans ((spares_finish name).drifts hfinish),
      Or.inr ⟨failure, rfl, not_isAsynchronous_of_ends_finish hfinish⟩⟩
  have hfinished := hdrifts.trans ((spares_finish name).drifts hfinish)
  rcases hwound with rfl | ⟨failure, rfl, hdirect⟩
  · cases found with
    | nil =>
      obtain ⟨-, rfl, rfl⟩ := ends_pure.1 hend
      exact ⟨hfinished, Or.inl rfl⟩
    | cons first others =>
      obtain ⟨-, rfl, rfl⟩ := ends_throw.1 hend
      exact ⟨hfinished, Or.inl rfl⟩
  · obtain ⟨-, rfl, rfl⟩ := ends_throw.1 hend
    exact ⟨hfinished, Or.inr ⟨failure, rfl, hdirect⟩⟩

/-! ## Calls that spare the tickets -/

lemma spares_setUp (index : String) (properties : Properties) (multitenancy : Bool) :
    (setUp name index properties multitenancy).Spares := by
  refine spares_bind (spares_attempt fun s after c hafter => ?_) fun c => spares_note _ _ _
  rcases setUp?_cases name index properties multitenancy s with ⟨-, hset⟩ |
    ⟨-, ⟨failure, -, hset⟩ | ⟨c', hset⟩⟩
  · rw [hset] at hafter
    cases hafter
  · rw [hset] at hafter
    cases hafter
  · rw [hset] at hafter
    obtain ⟨rfl, -⟩ := Prod.mk.inj (Except.ok.inj hafter)
    exact Processor.spares_users s.processor _

lemma spares_addContained (entityType : String) : (addContained name entityType).Spares := by
  refine spares_attempt fun s after u hafter => ?_
  dsimp only at hafter
  by_cases hstate : (s.manager name).state = .initialized
  · rw [require_of_eq hstate] at hafter
    obtain ⟨rfl, -⟩ := Prod.mk.inj (Except.ok.inj hafter)
    exact .refl _
  · rw [require_of_ne hstate] at hafter
    cases hafter

lemma spares_buildTarget (descriptors : Table EntityDescriptor) :
    (buildTarget name descriptors).Spares := spares_bind spares_look fun _ => spares_ofAction _

lemma spares_runSteps (policy : Compatibility) (strategy : Strategy) (index : String)
    {build : Activity IndexSchema} (hbuild : build.Spares) (options : SchemaOptions)
    (built : Option IndexSchema) (steps : List SchemaStep) :
    (Schema.runSteps ofAction policy strategy index build options built steps).Spares := by
  induction steps generalizing built with
  | nil => exact spares_pure built
  | cons step rest ih =>
    rw [Schema.runSteps]
    refine spares_bind (spares_ofAction _) fun _ => ?_
    split
    · have htarget : (built.elim build pure).Spares := by
        cases built with
        | none => exact hbuild
        | some target => exact spares_pure target
      exact spares_bind htarget fun target =>
        spares_bind (spares_ofAction _) fun _ => ih (some target)
    · exact spares_bind (spares_ofAction _) fun _ => ih built

lemma spares_bind_manager (descriptors : Table EntityDescriptor) :
    (bind name descriptors).Spares := by
  refine spares_bind spares_look fun s => spares_bind (spares_ofExcept _) fun _ =>
    spares_bind (spares_ofExcept _) fun c => ?_
  refine spares_bind (spares_runSteps _ _ _ (spares_buildTarget descriptors) _ _ _) fun _ => ?_
  exact spares_bind (spares_change fun s => .refl _) fun _ =>
    spares_bind spares_look fun s => spares_note _ _ _

lemma spares_visitFor (c : Configuration) (monitor : Option String) (offered : Offered) :
    (visitFor c monitor offered).Spares := by
  refine spares_attempt fun s after request hvisited => ?_
  cases offered with
  | other kind => cases hvisited
  | operation operation =>
    rw [visit] at hvisited
    split at hvisited
    · obtain ⟨rfl, -⟩ := Prod.mk.inj (Except.ok.inj hvisited)
      exact Processor.spares_notifyProduced s.processor _
    · obtain ⟨rfl, -⟩ := Prod.mk.inj (Except.ok.inj hvisited)
      exact .refl _

lemma spares_visitAll (c : Configuration) (monitor : Option String) (offered : List Offered) :
    (visitAll c monitor offered).Spares := by
  induction offered with
  | nil => exact spares_pure []
  | cons first rest ih =>
    exact spares_bind (spares_visitFor c monitor first) fun _ =>
      spares_bind ih fun _ => spares_pure _

lemma spares_serving (action : String) : (serving name action).Spares := by
  refine spares_bind spares_look fun s => spares_bind (spares_ofExcept _) fun _ => ?_
  split
  · exact spares_ofExcept _
  · exact spares_throw _

lemma spares_perform (operations : List Offered) (monitor : Option String) :
    (perform name operations monitor).Spares :=
  spares_bind (spares_serving _) fun c => spares_bind (spares_visitAll c monitor operations)
    fun requests => Execution.spares_runNow requests

/-! ## Streaming -/

/-- A request that is visited is for the index of its manager. -/
lemma index_of_ends_visitFor {c : Configuration} {monitor : Option String} {offered : Offered}
    {r : WorkRequest} (h : (visitFor c monitor offered).Ends s trace (.ok (some r)) s') :
    r.index = c.actualName := by
  obtain ⟨-, hresult, -⟩ := ends_attempt.1 h
  cases offered with
  | other kind => cases hresult
  | operation operation =>
    cases operation with
    | flush => cases hresult
    | _ =>
      obtain rfl := Option.some.inj (Except.ok.inj hresult)
      rfl

end Manager

namespace Execution

open Activity

variable {accepted : List WorkRequest} {told still : List Nat}

/-- A request that is submitted is in hand, and in the books nothing changes by that. -/
lemma owes_of_ends_submit {r : WorkRequest} {result : Except Failure Ticket}
    (hhand : s.processor.IsInHand [] accepted) (howes : s.processor.Owes accepted index told still)
    (h : (submit r).Ends s trace result s') :
    s'.processor.IsInHand [] (accepted ++ [r]) ∧ s.processor.Preserves s'.processor ∧
      ∃ more, s'.processor.Owes (accepted ++ [r]) index told (still ++ more) := by
  have hends := ends_step_bind.1 h
  have hhand' := hhand.accept r
  have howes' := howes.accept hhand.faithful.numbered r
  have hpreserves : s.processor.Preserves (accept r s).1.processor :=
    .of_eq (Processor.outcome_accept r s)
  obtain ⟨-, hgenuine⟩ := hhand.faithful.accept r
  cases hqueued : (accept r s).2.2 with
  | true =>
    rw [hqueued, if_pos rfl] at hhand'
    simp only [hqueued] at hends
    obtain ⟨-, -, rfl⟩ := ends_pure.1 hends
    exact ⟨hhand', hpreserves, [], by rwa [List.append_nil]⟩
  | false =>
    rw [hqueued, if_neg Bool.false_ne_true] at hhand'
    simp only [hqueued] at hends
    rcases ends_bind.1 hends with ⟨_, hwait, -⟩ | ⟨_, s₁, before, after, hwait, hend, rfl⟩
    · cases (ends_waitUntil.1 hwait).2.1
    · obtain ⟨-, -, hworks, -⟩ := ends_waitUntil.1 hwait
      have hput := ends_change_bind.1 hend
      obtain ⟨-, -, rfl⟩ := ends_pure.1 hput
      obtain ⟨hhand₁, hpreserves₁, more, howes₁⟩ := howes'.drifts hhand' (.of_works hworks)
      refine ⟨hhand₁.enqueue hgenuine, hpreserves.trans (hpreserves₁.trans ?_), more, ?_⟩
      · exact .of_eq fun _ => rfl
      · exact howes₁.of_eq (fun _ => rfl) rfl

/-- A request is submitted if there is one, and what it is told is not waited for. -/
def submitAny : Option WorkRequest → Activity Unit
  | some r => do let _ ← submit r
  | none => pure ()

lemma ends_submitAny {r : WorkRequest} {result : Except Failure Unit}
    (h : (submitAny (some r)).Ends s trace result s') :
    ∃ result, (submit r).Ends s trace result s' := by
  rcases ends_bind.1 h with ⟨failure, hfailed, -⟩ | ⟨ticket, s₁, before, after, hticket, hend, rfl⟩
  · exact ⟨_, hfailed⟩
  · obtain ⟨rfl, -, rfl⟩ := ends_pure.1 hend
    rw [List.append_nil]
    exact ⟨_, hticket⟩

end Execution

end SearchIndex
