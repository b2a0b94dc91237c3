/-
# What managers do between looks at their state

Carrying out requests, handing them to the workers, waiting for them, running schema operations and
stopping the workers are tame activities: no manager changes, the processor has as many users as
before, and the failures are ordinary ones or tell of rejected items.
-/
import SearchIndex.Manager.Work
import SearchIndex.Proofs.Concurrency.Tameness
import SearchIndex.Proofs.Indexing.Errand
import SearchIndex.Proofs.Indexing.Outcome

namespace SearchIndex

open Activity

/-! ## Users of the processor -/

section Users

variable (p : Processor)

@[simp] lemma Processor.users_notifyProduced (r : WorkRequest) :
    (p.notifyProduced r).users = p.users := by
  rw [notifyProduced]
  split <;> rfl

@[simp] lemma Execution.users_notifyAll (failures : List (WorkRequest × Raised)) :
    (notifyAll p failures).1.users = p.users := by
  induction failures generalizing p with
  | nil => rfl
  | cons entry rest ih =>
    obtain ⟨r, error⟩ := entry
    have hnotify := Processor.users_notifyFailed p r error.failure
    rw [notifyAll]
    rcases hnotified : p.notifyFailed r error.failure with ⟨after, _ | _⟩
    · rw [hnotified] at hnotify
      exact (ih after).trans hnotify
    · rw [hnotified] at hnotify
      exact hnotify

@[simp] lemma Processor.users_start : p.start.users = p.users := rfl

@[simp] lemma Processor.users_register (r : WorkRequest) : (p.register r).1.users = p.users := rfl

@[simp] lemma Processor.users_enqueue (t : Ticket) : (p.enqueue t).users = p.users := rfl

@[simp] lemma Processor.users_clearReported (index : Option String) :
    (p.clearReported index).users = p.users := by
  cases index <;> rfl

end Users

/-! ## Failures of requests -/

/-- The error of a failed request is that of the call, or a rejection. -/
lemma mem_failed {group : List WorkRequest} {verdict : Verdict} {x : WorkRequest × Raised}
    (hx : x ∈ Execution.failed group (verdict.errors group)) :
    verdict = .callFailed x.2.failure ∨ ∃ details, x.2.failure = .rejected [details] := by
  obtain ⟨⟨r, error⟩, hmem, hsome⟩ := List.mem_filterMap.1 hx
  obtain ⟨raised, rfl, rfl⟩ := Option.map_eq_some_iff.1 hsome
  have herror := (List.of_mem_zip hmem).2
  cases verdict with
  | callFailed failure =>
    obtain ⟨_, _, hraised⟩ := List.mem_map.1 herror
    obtain rfl := Option.some.inj hraised
    exact Or.inl rfl
  | judged rejections =>
    obtain ⟨⟨details, i⟩, -, hraised⟩ := List.mem_map.1 herror
    obtain ⟨d, -, rfl⟩ := Option.map_eq_some_iff.1 hraised
    exact Or.inr ⟨d, rfl⟩

/-- Requests end with the failure of one of them, or with a rejection. -/
lemma summary?_cases {failures : List (WorkRequest × Raised)} {failure : Failure}
    (h : Execution.summary? failures = some failure) :
    (∃ x ∈ failures, failure = x.2.failure) ∨ ∃ items, failure = .rejected items := by
  cases failures with
  | nil => cases h
  | cons x rest =>
    simp only [Execution.summary?] at h
    split at h
    · exact Or.inl ⟨x, List.mem_cons_self, (Option.some.inj h).symm⟩
    · exact Or.inr ⟨_, (Option.some.inj h).symm⟩

section Tame

variable {bad : Failure → Prop} {assumed : Prop} {managers : Table Manager}
  (hbad : IsSpecial bad) (hrejected : ∀ items, ¬bad (.rejected items))

/-! ## At once -/

namespace Execution

include hbad hrejected

lemma isTame_report {group : List WorkRequest} {answer : Answer}
    (hanswer : assumed → answer.Admits bad) :
    IsTame bad assumed managers (report group (judgeGroup group answer)) := by
  rw [report]
  dsimp only
  split
  · exact .pure ()
  · rename_i failure hsummary
    -- what comes out is a rejection, or the failure of the call, and that is the client's
    have hfailure : assumed → ¬bad failure := by
      intro hassumed
      rcases summary?_cases hsummary with ⟨x, hx, rfl⟩ | ⟨items, rfl⟩
      · rcases mem_failed hx with hcall | ⟨details, hdetails⟩
        · obtain ⟨f, hjudge, hfails⟩ | ⟨r, response, hjudge, -⟩ | ⟨items, hjudge, -⟩ :=
            judgeGroup_cases group answer
          · obtain rfl := Verdict.callFailed.inj (hcall.symm.trans hjudge)
            exact hfails.not_of_isSpecial hbad (hanswer hassumed)
          · cases hcall.symm.trans hjudge
          · cases hcall.symm.trans hjudge
        · rw [hdetails]
          exact hrejected _
      · exact hrejected _
    refine (IsTame.step fun s => ⟨rfl, users_notifyAll s.processor _⟩).bind fun raised => ?_
    split
    · exact (IsTame.throw fun _ => hbad _ rfl).bind fun _ => .throw hfailure
    · exact .throw hfailure

lemma isTame_runGroups (groups : List (List WorkRequest)) :
    IsTame bad assumed managers (runGroups groups) := by
  induction groups generalizing assumed with
  | nil => exact .pure ()
  | cons group rest ih =>
    refine .call_bind fun answer => ?_
    exact (isTame_report hbad hrejected And.right).bind fun _ => ih

lemma isTame_runNow (requests : List WorkRequest) :
    IsTame bad assumed managers (runNow requests) := by
  refine .look_bind fun s _ => ?_
  refine (isTame_runGroups hbad hrejected _).bind fun _ => ?_
  rw [refresh]
  dsimp only
  split
  · exact .pure ()
  · refine .call_bind fun answer => ?_
    refine (IsTame.ofExcept fun hassumed => ?_).bind fun _ => .pure ()
    exact avoids_judge hbad hassumed.2 _ _ _

end Execution

/-! ## Asynchronously -/

namespace Execution

lemma isTame_submit (request : WorkRequest) : IsTame bad assumed managers (submit request) := by
  refine (IsTame.step fun s => ?_).bind fun accepted => ?_
  · have husers : ((s.processor.start.register request).1).users = s.processor.users :=
      Processor.users_start s.processor
    rw [accept]
    dsimp only
    split
    · exact ⟨rfl, husers⟩
    · exact ⟨rfl, (Processor.users_enqueue _ _).trans husers⟩
  · dsimp only
    split
    · exact .pure _
    · refine (IsTame.waitUntil _).bind fun _ => ?_
      refine IsTame.bind (.change fun s => ?_) fun _ => .pure _
      exact ⟨rfl, Processor.users_enqueue s.processor _⟩

include hbad

lemma isTame_awaitCompletion (index : Option String) :
    IsTame bad assumed managers (awaitCompletion index) := by
  have htold : IsTame bad assumed managers (Errand.report index) := by
    refine (IsTame.step fun s => ⟨rfl, Processor.users_clearReported _ _⟩).bind fun failures => ?_
    cases failures with
    | nil => exact .pure ()
    | cons first others => exact .throw fun _ => hbad _ rfl
  refine .look_bind fun s _ => ?_
  dsimp only
  split
  · exact htold
  · exact (IsTame.waitUntil _).bind fun _ => htold

end Execution

/-! ## Stopping the workers -/

/-- Stopping the workers is not the same as giving up the processor. -/
lemma Execution.isTame_shutdown : IsTame bad assumed managers shutdown := by
  -- the same pieces follow whether or not the queue has to be drained first
  have hstopped : IsTame bad assumed managers (do
      let anyWorker ← step fun s =>
        (s.mapProcessor Processor.cancel, !s.processor.workers.isEmpty)
      if anyWorker then pause
      change fun s => s.mapProcessor Processor.stop
      note .info .processor "Backend request processor shut down") := by
    have hend : IsTame bad assumed managers (do
        change fun s => s.mapProcessor Processor.stop
        note .info .processor "Backend request processor shut down") :=
      IsTame.bind (.change fun s => ⟨rfl, rfl⟩) fun _ => .note _ _ _
    refine (IsTame.step fun s => ⟨rfl, rfl⟩).bind fun anyWorker => ?_
    split
    · exact (IsTame.waitUntil _).bind fun _ => hend
    · exact hend
  refine .look_bind fun s _ => ?_
  dsimp only
  split
  · split
    · exact hstopped
    · exact (IsTame.waitUntil _).bind fun _ => hstopped
  · exact hstopped

/-! ## Managers -/

namespace Manager

include hbad

lemma isTame_visitFor (c : Configuration) (monitor : Option String) (offered : Offered) :
    IsTame bad assumed managers (visitFor c monitor offered) := by
  refine .attempt (fun s after request hvisited => ?_) fun s _ => ?_
  · cases offered with
    | other kind => cases hvisited
    | operation operation =>
      rw [visit] at hvisited
      split at hvisited <;> cases hvisited
      · exact ⟨rfl, Processor.users_notifyProduced _ _⟩
      · exact .refl s
  · cases offered with
    | other kind => exact hbad.avoids_error rfl
    | operation operation =>
      rw [visit]
      split <;> exact avoids_ok _

lemma isTame_visitAll (c : Configuration) (monitor : Option String) (offered : List Offered) :
    IsTame bad assumed managers (visitAll c monitor offered) := by
  induction offered with
  | nil => exact .pure _
  | cons first rest ih =>
    exact (isTame_visitFor hbad c monitor first).bind fun _ => ih.bind fun _ => .pure _

lemma isTame_buildTarget {name : String} {descriptors : Table EntityDescriptor} {c : Configuration}
    (hc : ((Table.get? managers name).getD .fresh).configuration = some c) :
    IsTame bad assumed managers (buildTarget name descriptors) := by
  refine .look_bind fun s hs => .ofAction fun _ => ?_
  refine avoids_target hbad ?_ descriptors (c := c)
  rw [Shared.manager, hs, hc]

lemma isTame_runSteps (policy : Compatibility) (strategy : Strategy) (index : String)
    {build : Activity IndexSchema} (hbuild : IsTame bad assumed managers build)
    (options : SchemaOptions) (built : Option IndexSchema) (steps : List SchemaStep) :
    IsTame bad assumed managers
      (Schema.runSteps ofAction policy strategy index build options built steps) := by
  induction steps generalizing built with
  | nil => exact .pure _
  | cons step rest ih =>
    rw [Schema.runSteps]
    refine (IsTame.ofAction fun _ => .note _ _ _).bind fun _ => ?_
    split
    -- the target is built for the first operation that needs it, and kept for later ones
    · have htarget : IsTame bad assumed managers (built.elim build pure) := by
        cases built with
        | none => exact hbuild
        | some target => exact .pure target
      refine htarget.bind fun target => ?_
      refine (IsTame.ofAction fun _ => ?_).bind fun _ => ih (some target)
      exact Schema.avoids_runTargeted hbad policy options target step
    · refine (IsTame.ofAction fun _ => ?_).bind fun _ => ih built
      exact Schema.avoids_runUntargeted hbad index options

lemma isTame_drain (index : String) : IsTame bad assumed managers (drain index) := by
  refine .outcome_bind (Execution.isTame_awaitCompletion hbad _) fun r => ?_
  cases r with
  | ok u => exact .pure none
  | error failure =>
    dsimp only
    split
    · exact (IsTame.note _ _ _).bind fun _ => .pure _
    · -- a failure that is raised again is one that awaiting has avoided
      exact .throw fun hassumed => hassumed.2 _ rfl

lemma isTame_wind (name : String) (c : Configuration) :
    IsTame bad assumed managers (wind name c) := by
  refine .look_bind fun s _ => ?_
  have hdestroyed : ∀ failure : Option Failure, IsTame bad assumed managers (do
      ofAction (Schema.runOnDestroy s.policy c.strategy c.actualName c.options)
      return failure) := fun failure =>
    (IsTame.ofAction fun _ => Schema.avoids_runOnDestroy hbad _ _ _ _).bind fun _ => .pure failure
  dsimp only
  split
  · exact (isTame_drain hbad c.actualName).bind hdestroyed
  · exact (IsTame.pure none).bind hdestroyed

end Manager

end Tame

end SearchIndex
