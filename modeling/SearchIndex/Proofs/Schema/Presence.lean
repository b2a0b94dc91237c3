/-
# Whether an index is there

A service minds an index if its answers tell whether the index is there: one that answers the
question for it, creates it or deletes it says what is the case from then on
(`Schema.MindsIndex`).  Such a service may fail at any call.

What the schema operations leave behind follows from their last decisive answer: an operation that
needs a target leaves the index there, and dropping leaves none (`MindsIndex.leaves_runSteps`).  So
a strategy that does anything leaves the index there when it is bound, and only the strategy that
deletes the index takes it away again when it is destroyed (`MindsIndex.leaves_runOnDestroy`).
-/
import SearchIndex.Proofs.Concurrency.Leaving
import SearchIndex.Proofs.Schema.Keeping

namespace SearchIndex

variable {ω : Type} {serve : ω → Call → Answer × ω} {index : String} {I isThere : ω → Prop}

/-- How an operation leaves an index: there if it needs a target, and else not. -/
def SchemaStep.Left (isThere : ω → Prop) (step : SchemaStep) (outside : ω) : Prop :=
  if step.needsTarget then isThere outside else ¬ isThere outside

namespace Schema

/-- As long as `I` holds, which it does from call to call, the service minds an index. -/
structure MindsIndex (serve : ω → Call → Answer × ω) (index : String) (I isThere : ω → Prop) :
    Prop where
  /-- Every call keeps the invariant. -/
  stays : ∀ outside call, I outside → I (serve outside call).2
  /-- An index that is reported is there. -/
  found : ∀ outside, I outside → (serve outside (existenceCheck index)).1.acknowledges = true →
    isThere (serve outside (existenceCheck index)).2
  /-- An index that is reported missing is not. -/
  missed : ∀ outside payload, I outside →
    (serve outside (existenceCheck index)).1 = .reply 404 payload →
      ¬ isThere (serve outside (existenceCheck index)).2
  /-- An index that is created, or exists already, is there. -/
  created : ∀ outside (target : IndexSchema), I outside → target.name = index →
    (serve outside (creation target)).1.acknowledges = true ∨
      SaysExisting (serve outside (creation target)).1 →
    isThere (serve outside (creation target)).2
  /-- An index that is deleted, or missing already, is not. -/
  deleted : ∀ outside options, I outside →
    (serve outside (deletion index options)).1.acknowledges = true ∨
      (∃ payload, (serve outside (deletion index options)).1 = .reply 404 payload) →
    ¬ isThere (serve outside (deletion index options)).2
  /-- Reading and putting leave an index where it is. -/
  kept : ∀ outside call, I outside → call.method = "GET" ∨ call.method = "PUT" →
    isThere outside → isThere (serve outside call).2

/-- An answer that is judged a success although an error was ignored is a success or that error. -/
lemma reply_of_judge_ignoring {answer : Answer} {method path : String} {ignored : Int}
    {response : Response} (h : answer.judge method path [ignored] = .ok response) :
    (answer.acknowledges = true ∧ (400 ≤ ignored → response.status ≠ ignored)) ∨
      response.status = ignored ∧ ∃ payload, answer = .reply ignored payload := by
  cases answer with
  | unreachable reason => cases h
  | unsent reason => cases h
  | reply status payload =>
    rw [Answer.judge] at h
    split at h
    next hstatus =>
      obtain rfl := Except.ok.inj h
      by_cases hsuccess : isSuccess status = true
      · exact Or.inl ⟨hsuccess, ne_of_isSuccess hsuccess⟩
      · obtain rfl : status = ignored := by simpa [hsuccess] using hstatus
        exact Or.inr ⟨rfl, payload, rfl⟩
    next => cases h

namespace MindsIndex

variable (h : MindsIndex serve index I isThere)
include h

/-! ## Accesses -/

lemma leaves_exists {pre : ω → Prop} : Action.Leaves serve I pre (exists? index)
    fun found outside => if found then isThere outside else ¬ isThere outside := by
  refine Action.leaves_bind (M := fun response outside =>
    if response.status ≠ 404 then isThere outside else ¬ isThere outside)
    (Action.leaves_request fun outside hI _ => ⟨h.stays outside _ hI, fun response hjudge => ?_⟩)
    fun response => Action.leaves_pure fun outside _ hfound => ?_
  · rcases reply_of_judge_ignoring hjudge with ⟨hanswer, hne⟩ | ⟨hstatus, payload, hanswer⟩
    · rw [if_pos (hne (by decide))]
      exact h.found outside hI hanswer
    · rw [if_neg (not_not.2 hstatus)]
      exact h.missed outside payload hI hanswer
  · simpa using hfound

lemma leaves_create {pre : ω → Prop} {target : IndexSchema} (hname : target.name = index)
    (mayExist : Bool) :
    Action.Leaves serve I pre (create target mayExist) fun _ => isThere := by
  intro outside hI _
  -- the one call of it is the creation
  obtain ⟨calls, hruns, hserves⟩ :=
    Program.exists_serves serve (create target mayExist).run outside
  obtain ⟨answer, rfl, hanswer⟩ := runs_create hruns
  obtain ⟨hafter, hanswered⟩ : (create target mayExist).run.run serve outside =
      (((create target mayExist).run.run serve outside).1, (serve outside (creation target)).2) ∧
      answer = (serve outside (creation target)).1 := by
    generalize hr : (create target mayExist).run.run serve outside = r at hserves
    obtain ⟨result, after⟩ := r
    cases hserves with
    | cons call hrest =>
      cases hrest
      exact ⟨rfl, rfl⟩
  rw [Action.served, hafter]
  subst hanswered
  refine ⟨h.stays outside _ hI, fun created hcreated => ?_⟩
  rcases hanswer created hcreated with ⟨-, hacknowledged⟩ | ⟨-, -, hsaid⟩
  · exact h.created outside target hI hname (Or.inl hacknowledged)
  · exact h.created outside target hI hname (Or.inr hsaid)

lemma leaves_drop {pre : ω → Prop} (options : SchemaOptions) :
    Action.Leaves serve I pre (drop index options) fun _ outside => ¬ isThere outside := by
  refine Action.leaves_bind (M := fun _ outside => ¬ isThere outside)
    (Action.leaves_request fun outside hI _ => ⟨h.stays outside _ hI, fun response hjudge => ?_⟩)
    fun response => ?_
  · rcases reply_of_judge_ignoring hjudge with ⟨hanswer, -⟩ | ⟨-, payload, hanswer⟩
    · exact h.deleted outside options hI (Or.inl hanswer)
    · exact h.deleted outside options hI (Or.inr ⟨payload, hanswer⟩)
  · split
    · exact Action.leaves_pure fun _ _ hgone => hgone
    · exact Action.leaves_bind Action.leaves_note fun _ => Action.leaves_pure fun _ _ hgone => hgone

/-- A call that reads or puts leaves an index there. -/
lemma leaves_request_of_kept {call : Call} (hcall : call.method = "GET" ∨ call.method = "PUT")
    (ignored : List Int) :
    Action.Leaves serve I isThere (Action.request call ignored) fun _ => isThere :=
  Action.leaves_request fun outside hI hthere =>
    ⟨h.stays outside call hI, fun _ _ => h.kept outside call hI hcall hthere⟩

lemma leaves_awaitHealth (options : SchemaOptions) :
    Action.Leaves serve I isThere (awaitHealth index options) fun _ => isThere := by
  refine Action.leaves_bind (h.leaves_request_of_kept (Or.inl rfl) _) fun response => ?_
  refine Action.leaves_bind (Action.leaves_ofExcept fun _ _ _ _ hthere => hthere) fun members => ?_
  dsimp only
  split
  · exact Action.leaves_throw_bind
  · exact Action.leaves_note

lemma leaves_mappings :
    Action.Leaves serve I isThere (mappings? index) fun _ => isThere := by
  refine Action.leaves_bind (h.leaves_request_of_kept (Or.inl rfl) _) fun response => ?_
  split
  · exact Action.leaves_pure fun _ _ hthere => hthere
  · exact Action.leaves_bind (Action.leaves_ofExcept fun _ _ _ _ hthere => hthere)
      fun _ => Action.leaves_pure fun _ _ hthere => hthere

lemma leaves_putPlan (plan : Table TypeMapping) :
    Action.Leaves serve I isThere (putPlan index plan) fun _ => isThere := by
  induction plan with
  | nil => exact Action.leaves_pure fun _ _ hthere => hthere
  | cons entry rest ih =>
    rw [putPlan]
    refine Action.leaves_bind (M := fun _ => isThere)
      (Action.leaves_tryCatch ?_ fun failure => ?_)
      fun _ => ih
    · exact Action.leaves_bind (h.leaves_request_of_kept (Or.inr rfl) _) fun _ => Action.leaves_note
    · split <;> exact Action.leaves_throw

/-! ## Operations -/

lemma leaves_dropIfExisting {pre : ω → Prop} (options : SchemaOptions) :
    Action.Leaves serve I pre (dropIfExisting index options) fun _ outside => ¬ isThere outside := by
  refine Action.leaves_bind h.leaves_exists fun found => ?_
  split
  next => exact h.leaves_drop options
  next =>
    exact Action.leaves_bind Action.leaves_note fun _ => Action.leaves_pure fun _ _ hgone => hgone

section Targeted

variable {target : IndexSchema} (hname : target.name = index)
include hname

lemma leaves_createNew {pre : ω → Prop} (options : SchemaOptions) :
    Action.Leaves serve I pre (createNew target options) fun _ => isThere := by
  rw [createNew, hname]
  exact Action.leaves_bind (h.leaves_create hname false) fun _ => h.leaves_awaitHealth options

lemma leaves_createIfAbsent {pre : ω → Prop} (options : SchemaOptions) :
    Action.Leaves serve I pre (createIfAbsent target options) fun _ => isThere := by
  rw [createIfAbsent, hname]
  have hsettles (created : Bool) : Action.Leaves serve I isThere
      (do awaitHealth index options; return created) fun _ => isThere :=
    Action.leaves_bind (h.leaves_awaitHealth options) fun _ =>
      Action.leaves_pure fun _ _ hthere => hthere
  refine Action.leaves_bind h.leaves_exists fun found => ?_
  split
  next => exact Action.leaves_bind Action.leaves_note fun _ => hsettles false
  next => exact Action.leaves_bind (h.leaves_create hname true) hsettles

lemma leaves_merge {pre : ω → Prop} (policy : Compatibility) (options : SchemaOptions) :
    Action.Leaves serve I pre (merge policy target options) fun _ => isThere := by
  rw [merge, hname]
  refine Action.leaves_bind h.leaves_exists fun found => ?_
  split
  next =>
    refine Action.leaves_bind (h.leaves_awaitHealth options) fun _ =>
      Action.leaves_bind h.leaves_mappings fun existing => ?_
    dsimp only
    split
    · exact h.leaves_putPlan _
    · exact Action.leaves_throw_bind
  next =>
    exact Action.leaves_bind Action.leaves_note fun _ =>
      Action.leaves_bind (h.leaves_create hname true) fun _ => h.leaves_awaitHealth options

lemma leaves_validate {pre : ω → Prop} (policy : Compatibility) (options : SchemaOptions) :
    Action.Leaves serve I pre (validate policy target options) fun _ => isThere := by
  rw [validate, hname]
  refine Action.leaves_bind h.leaves_exists fun found => ?_
  dsimp only
  split
  next =>
    refine Action.leaves_bind (h.leaves_awaitHealth options) fun _ =>
      Action.leaves_bind h.leaves_mappings fun existing =>
        Action.leaves_bind (Action.leaves_ofExcept fun _ _ _ _ hthere => hthere) fun mismatches => ?_
    split
    · exact Action.leaves_note
    · exact Action.leaves_bind Action.leaves_note fun _ => Action.leaves_throw_bind
  next => exact Action.leaves_throw_bind

lemma leaves_runTargeted {pre : ω → Prop} {step : SchemaStep} (hneeds : step.needsTarget = true)
    (policy : Compatibility) (options : SchemaOptions) :
    Action.Leaves serve I pre (runTargeted policy options target step) fun _ => isThere := by
  cases step with
  | validate => exact h.leaves_validate hname policy options
  | merge => exact h.leaves_merge hname policy options
  | createIfAbsent =>
    exact Action.leaves_bind (h.leaves_createIfAbsent hname options) fun _ =>
      Action.leaves_pure fun _ _ hthere => hthere
  | create => exact h.leaves_createNew hname options
  | dropIfExisting => cases hneeds

end Targeted

/-! ## Strategies -/

/-- Operations leave an index as the last one of them does. -/
lemma leaves_runSteps {K : Shared → Prop} (hlog : ∀ s log, K s → K { s with log := log })
    {build : Activity IndexSchema}
    (hbuild : ∀ pre : ω → Prop, Activity.Leaves serve (fun s outside => K s ∧ I outside)
      (fun _ => pre) build fun target _ _ => target.name = index)
    (policy : Compatibility) (strategy : Strategy) (options : SchemaOptions)
    (steps : List SchemaStep) (pre : ω → Prop) {built : Option IndexSchema}
    (hbuilt : ∀ target, built = some target → target.name = index) :
    Activity.Leaves serve (fun s outside => K s ∧ I outside) (fun _ => pre)
      (runSteps Activity.ofAction policy strategy index build options built steps)
      fun _ _ outside => (steps.getLast?.elim (pre outside) fun step => step.Left isThere outside) := by
  induction steps generalizing pre built with
  | nil => exact Activity.leaves_pure fun _ _ _ hpre => hpre
  | cons step rest ih =>
    have hlast (outside : ω) : ((step :: rest).getLast?.elim (pre outside) fun step =>
        step.Left isThere outside) = rest.getLast?.elim (step.Left isThere outside) fun step =>
          step.Left isThere outside := by
      cases rest with
      | nil => rfl
      | cons other rest =>
        rw [List.getLast?_cons_cons]
        cases hrest : (other :: rest).getLast? with
        | none => simp at hrest
        | some last => rfl
    simp only [hlast]
    rw [runSteps]
    refine Activity.leaves_bind (Activity.leaves_ofAction hlog Action.leaves_note) fun _ => ?_
    split
    next hneeds =>
      have htarget : Activity.Leaves serve (fun s outside => K s ∧ I outside) (fun _ => pre)
          (built.elim build pure) fun target _ _ => target.name = index := by
        cases built with
        | none => exact hbuild pre
        | some target => exact Activity.leaves_pure fun _ _ _ _ => hbuilt target rfl
      refine Activity.leaves_bind htarget fun target => Activity.leaves_of_fact fun hname => ?_
      refine Activity.leaves_bind (Activity.leaves_ofAction hlog
        (h.leaves_runTargeted hname hneeds policy options)) fun _ => ?_
      have hleft : step.Left isThere = isThere := by
        funext outside
        rw [SchemaStep.Left, if_pos hneeds]
      rw [hleft]
      refine ih _ fun other hother => ?_
      obtain rfl := Option.some.inj hother
      exact hname
    next hneeds =>
      have hleft : step.Left isThere = fun outside => ¬ isThere outside := by
        funext outside
        rw [SchemaStep.Left, if_neg hneeds]
      rw [hleft]
      refine Activity.leaves_bind (Activity.leaves_ofAction hlog ?_) fun _ => ih _ hbuilt
      exact Action.leaves_bind (h.leaves_dropIfExisting options) fun _ =>
        Action.leaves_pure fun _ _ hgone => hgone

/-- Only the strategy that deletes an index takes it away when it is destroyed. -/
lemma leaves_runOnDestroy {pre : ω → Prop} (policy : Compatibility) (strategy : Strategy)
    (options : SchemaOptions) :
    Action.Leaves serve I pre (runOnDestroy policy strategy index options)
      fun _ outside => if strategy = .recreateDelete then ¬ isThere outside else pre outside := by
  cases strategy with
  | recreateDelete =>
    refine Action.leaves_bind (M := fun _ outside => ¬ isThere outside)
      (Action.leaves_bind Action.leaves_note fun _ => ?_) fun _ => Action.leaves_pure fun _ _ h => h
    exact Action.leaves_bind (Action.leaves_bind (h.leaves_dropIfExisting options) fun _ =>
      Action.leaves_pure fun _ _ hgone => hgone) fun _ => Action.leaves_pure fun _ _ hgone => hgone
  | _ => exact Action.leaves_pure fun _ _ hpre => hpre

end MindsIndex

end Schema

end SearchIndex
