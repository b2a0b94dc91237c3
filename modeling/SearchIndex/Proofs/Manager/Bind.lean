/-
# Binding with a target that cannot be built

A target schema cannot be built if a contained entity type has no descriptor, or one without a
mapping.  Binding fails then, whatever the service answers, and the manager stays as it was.
Whether the service is left alone depends on the strategy: `bind_refusedAtOnce_iff` says that it is
unless the strategy drops the index first, and then the calls are those of dropping it.
-/
import SearchIndex.Manager.Lifecycle
import SearchIndex.Proofs.Concurrency.Transcript

namespace SearchIndex

open Schema

variable {ω : Type} (serve : ω → Call → Answer × ω)

/-! ## Dropping an index -/

/-- The call that asks whether an index exists. -/
def existenceCheck (index : String) : Call := .plain "HEAD" (indexPath index)

/-- Whether the answer to that call says so. -/
def showsIndex (index : String) (answer : Answer) : Bool :=
  match answer.judge "HEAD" (indexPath index) [404] with
  | .ok response => response.status ≠ 404
  | .error _ => false

/-- The calls that drop an index: it is asked for, and deleted if it is there. -/
def dropCalls (index : String) (options : SchemaOptions) (outside : ω) : List (Call × Answer) :=
  let (answer, outside') := serve outside (existenceCheck index)
  (existenceCheck index, answer) ::
    if showsIndex index answer then
      [(deletion index options, (serve outside' (deletion index options)).1)]
    else []

/-- Asking whether an index exists is one call. -/
lemma transcript_exists (index : String) (s : Shared) (outside : ω) : ∃ log,
    (Activity.ofAction (exists? index)).transcript serve s outside =
      ⟨((serve outside (existenceCheck index)).1.judge "HEAD" (indexPath index) [404]).map
          fun response => decide (response.status ≠ 404),
        { s with log := s.log ++ log }, (serve outside (existenceCheck index)).2,
        [(existenceCheck index, (serve outside (existenceCheck index)).1)]⟩ := by
  obtain ⟨log, hrequest⟩ :=
    @Activity.transcript_request _ serve s outside (existenceCheck index) [404]
  refine ⟨log, ?_⟩
  rw [existenceCheck] at hrequest
  simp only [exists?, bind_pure_comp, Activity.ofAction_map, Activity.transcript_map, hrequest]
  rfl

/-- Deleting an index is one call. -/
lemma calls_drop (index : String) (options : SchemaOptions) (s : Shared) (outside : ω) :
    ((Activity.ofAction (drop index options)).transcript serve s outside).calls =
      [(deletion index options, (serve outside (deletion index options)).1)] := by
  obtain ⟨log, hrequest⟩ :=
    @Activity.transcript_request _ serve s outside (deletion index options) [404]
  cases hjudge : (serve outside (deletion index options)).1.judge (deletion index options).method
      (deletion index options).path [404] with
  | error failure => simp [drop, hrequest, hjudge]
  | ok response =>
    by_cases hstatus : response.status = 404 <;> simp [drop, hrequest, hjudge, hstatus]

lemma calls_dropIfExisting (index : String) (options : SchemaOptions) (s : Shared)
    (outside : ω) :
    ((Activity.ofAction (dropIfExisting index options)).transcript serve s outside).calls =
      dropCalls serve index options outside := by
  obtain ⟨log, hexists⟩ := transcript_exists serve index s outside
  cases hjudge : (serve outside (existenceCheck index)).1.judge "HEAD" (indexPath index) [404] with
  | error failure =>
    simp [dropIfExisting, hexists, hjudge, dropCalls, showsIndex, Except.map]
  | ok response =>
    by_cases hstatus : response.status = 404
    · simp [dropIfExisting, hexists, hjudge, hstatus, dropCalls, showsIndex, Except.map]
    · simp [dropIfExisting, hexists, hjudge, hstatus, dropCalls, showsIndex, Except.map,
        calls_drop]

/-- Dropping an index makes these calls and changes nothing but the log. -/
lemma transcript_dropIfExisting (index : String) (options : SchemaOptions) (s : Shared)
    (outside : ω) : ∃ result log outside',
    (Activity.ofAction (dropIfExisting index options)).transcript serve s outside =
      ⟨result, { s with log := log }, outside', dropCalls serve index options outside⟩ := by
  obtain ⟨result, outside', calls, log, ht⟩ :=
    Activity.transcript_ofAction serve (dropIfExisting index options) outside
  have hcalls := calls_dropIfExisting serve index options s outside
  rw [ht] at hcalls
  exact ⟨result, s.log ++ log, outside', by rw [ht, ← hcalls]⟩

/-! ## Building the target -/

/-- Why an entity type has no mapping: it has no descriptor, or its descriptor has no mapping. -/
inductive HasNoMapping (c : Configuration) (descriptors : Table EntityDescriptor)
    (entityType : String) : Failure → Prop where
  | noDescriptor (hget : Table.get? descriptors entityType = none) :
      HasNoMapping c descriptors entityType (.noDescriptor c.actualName entityType)
  | noMapping {descriptor : EntityDescriptor} {problem : MappingProblem}
      (hget : Table.get? descriptors entityType = some descriptor)
      (hmapping : descriptor.mapping? c.options = .error problem) :
      HasNoMapping c descriptors entityType (.noMapping descriptor.entityType problem)

namespace Manager

variable {c : Configuration} {descriptors : Table EntityDescriptor} {name : String}

/-- The mapping of a descriptor is made without a call. -/
lemma transcript_mappingOf (descriptor : EntityDescriptor) (options : SchemaOptions) (s : Shared)
    (outside : ω) : ∃ log,
    (Activity.ofAction (mappingOf descriptor options)).transcript serve s outside =
      ⟨descriptor.mapping options, { s with log := log }, outside, []⟩ := by
  cases h : descriptor.mapping options with
  | error failure => exact ⟨s.log, by simp [mappingOf, h]⟩
  | ok mapping => simp [mappingOf, h, Shared.record, Except.map]

/-- If one of some entity types has no mapping, there are no mappings, and the failure is that of an
entity type without one. -/
lemma transcript_mappingsOf (entityTypes : List String)
    (h : ∃ entityType ∈ entityTypes, ∃ failure, HasNoMapping c descriptors entityType failure)
    (s : Shared) (outside : ω) :
    ∃ entityType ∈ entityTypes, ∃ failure log, HasNoMapping c descriptors entityType failure ∧
      (Activity.ofAction (mappingsOf c descriptors entityTypes)).transcript serve s outside =
        ⟨.error failure, { s with log := log }, outside, []⟩ := by
  induction entityTypes generalizing s with
  | nil =>
    obtain ⟨entityType, hmem, -⟩ := h
    exact absurd hmem List.not_mem_nil
  | cons entityType rest ih =>
    cases hget : Table.get? descriptors entityType with
    | none =>
      exact ⟨entityType, List.mem_cons_self, _, s.log, .noDescriptor hget, by
        simp [mappingsOf, hget]⟩
    | some descriptor =>
      cases hmapping : descriptor.mapping? c.options with
      | error problem =>
        refine ⟨entityType, List.mem_cons_self, _, s.log, .noMapping hget hmapping, ?_⟩
        simp [mappingsOf, hget, mappingOf, EntityDescriptor.mapping, hmapping]
      | ok mapping =>
        -- this entity type has a mapping, so another one has none
        have hrest : ∃ other ∈ rest, ∃ failure, HasNoMapping c descriptors other failure := by
          obtain ⟨other, hmem, failure, hno⟩ := h
          rcases List.mem_cons.1 hmem with rfl | hmem
          · cases hno with
            | noDescriptor hnone => simp [hget] at hnone
            | noMapping hsome herror =>
              obtain rfl := Option.some.inj (hget.symm.trans hsome)
              simp [hmapping] at herror
          · exact ⟨other, hmem, failure, hno⟩
        have hmapped : descriptor.mapping c.options = .ok mapping := by
          simp [EntityDescriptor.mapping, hmapping]
        obtain ⟨log, hfirst⟩ := transcript_mappingOf serve descriptor c.options s outside
        obtain ⟨other, hmem, failure, log', hno, hothers⟩ := ih hrest { s with log := log }
        refine ⟨other, List.mem_cons_of_mem _ hmem, failure, log', hno, ?_⟩
        rw [hmapped] at hfirst
        simp [mappingsOf, hget, hfirst, hothers, Except.map]

/-- The target of a manager that contains an entity type without a mapping. -/
lemma transcript_buildTarget {s : Shared} (hc : (s.manager name).configuration = some c)
    (h : ∃ entityType ∈ (s.manager name).contained, ∃ failure,
      HasNoMapping c descriptors entityType failure) (outside : ω) :
    ∃ entityType ∈ (s.manager name).contained, ∃ failure log,
      HasNoMapping c descriptors entityType failure ∧
      (buildTarget name descriptors).transcript serve s outside =
        ⟨.error failure, { s with log := log }, outside, []⟩ := by
  have hmem (entityType : String) : entityType ∈ sortTexts (s.manager name).contained ↔
      entityType ∈ (s.manager name).contained := (perm_sortTexts _).mem_iff
  obtain ⟨entityType, hcontained, failure, hno⟩ := h
  obtain ⟨other, hother, failure', log, hno', ht⟩ := transcript_mappingsOf serve
    (sortTexts (s.manager name).contained) ⟨entityType, (hmem _).2 hcontained, failure, hno⟩ s
    outside
  refine ⟨other, (hmem _).1 hother, failure', log, hno', ?_⟩
  simp [buildTarget, target, configured, hc, ht, Except.map]

/-! ## Binding -/

lemma transcript_announce (strategy : Strategy) (index : String) (step : SchemaStep) (s : Shared)
    (outside : ω) : ∃ log,
    (Activity.ofAction (announce strategy index step)).transcript serve s outside =
      ⟨.ok (), { s with log := log }, outside, []⟩ := ⟨_, rfl⟩

section Unbuildable

variable {s : Shared} (hc : (s.manager name).configuration = some c)
  (h : ∃ entityType ∈ (s.manager name).contained, ∃ failure,
    HasNoMapping c descriptors entityType failure)
include hc h

/-- Operations that start with one which needs the target fail without a call. -/
lemma transcript_runSteps_of_needsTarget {step : SchemaStep} (hneeds : step.needsTarget = true)
    (policy : Compatibility) (rest : List SchemaStep) (outside : ω) :
    ∃ entityType ∈ (s.manager name).contained, ∃ failure log,
      HasNoMapping c descriptors entityType failure ∧
      (runSteps Activity.ofAction policy c.strategy c.actualName (buildTarget name descriptors)
          c.options none (step :: rest)).transcript serve s outside =
        ⟨.error failure, { s with log := log }, outside, []⟩ := by
  obtain ⟨log, hannounce⟩ := transcript_announce serve c.strategy c.actualName step s outside
  let announced : Shared := { s with log := log }
  have hc' : (announced.manager name).configuration = some c := hc
  obtain ⟨entityType, hmem, failure, log', hno, ht⟩ := transcript_buildTarget serve hc' h outside
  refine ⟨entityType, hmem, failure, log', hno, ?_⟩
  simp [runSteps, hneeds, hannounce, ht, announced]

/-- Operations that drop the index before one that needs the target fail after that. -/
lemma transcript_runSteps_of_drop {step : SchemaStep} (hneeds : step.needsTarget = true)
    (policy : Compatibility) (rest : List SchemaStep) (outside : ω) :
    ∃ failure log outside',
      (runSteps Activity.ofAction policy c.strategy c.actualName (buildTarget name descriptors)
          c.options none (.dropIfExisting :: step :: rest)).transcript serve s outside =
        ⟨.error failure, { s with log := log }, outside',
          dropCalls serve c.actualName c.options outside⟩ := by
  obtain ⟨log, hannounce⟩ :=
    transcript_announce serve c.strategy c.actualName .dropIfExisting s outside
  obtain ⟨result, log', outside', hdrop⟩ := transcript_dropIfExisting serve c.actualName c.options
    { s with log := log } outside
  cases result with
  | error failure =>
    -- dropping fails already, so the target is not even asked for
    refine ⟨failure, log', outside', ?_⟩
    simp [runSteps, SchemaStep.needsTarget, hannounce, runUntargeted, hdrop]
  | ok dropped =>
    let after : Shared := { s with log := log' }
    have hc' : (after.manager name).configuration = some c := hc
    obtain ⟨-, -, failure, log'', -, ht⟩ :=
      transcript_runSteps_of_needsTarget serve hc' h hneeds policy rest outside'
    refine ⟨failure, log'', outside', ?_⟩
    rw [runSteps]
    simp [SchemaStep.needsTarget, hannounce, runUntargeted, hdrop, ht, after]

end Unbuildable

/-- Binding fails without a call and leaves the manager as it was. -/
structure RefusedAtOnce (s : Shared) (name : String) (c : Configuration)
    (descriptors : Table EntityDescriptor) (t : Transcript ω Unit) : Prop where
  result : ∃ entityType ∈ (s.manager name).contained, ∃ failure,
    HasNoMapping c descriptors entityType failure ∧ t.result = .error failure
  manager_eq : t.shared.manager name = s.manager name
  calls_eq : t.calls = []

/-- Every strategy that does anything starts with an operation that needs the target, or drops the
index before one. -/
lemma onBind_cases {strategy : Strategy} (h : strategy ≠ .none) :
    (strategy ≠ .recreate ∧ strategy ≠ .recreateDelete ∧
      ∃ step, step.needsTarget = true ∧ strategy.onBind = [step]) ∨
    ((strategy = .recreate ∨ strategy = .recreateDelete) ∧
      strategy.onBind = [.dropIfExisting, .create]) := by
  cases strategy with
  | none => exact absurd rfl h
  | validate => exact Or.inl ⟨by simp, by simp, .validate, rfl, rfl⟩
  | merge => exact Or.inl ⟨by simp, by simp, .merge, rfl, rfl⟩
  | create => exact Or.inl ⟨by simp, by simp, .createIfAbsent, rfl, rfl⟩
  | recreate => exact Or.inr ⟨Or.inl rfl, rfl⟩
  | recreateDelete => exact Or.inr ⟨Or.inr rfl, rfl⟩

/-- **A target that cannot be built.**  Binding is refused at once exactly under the strategies that
do not drop the index first.  Under the others it fails as well, but the calls that drop the index
have been made. -/
theorem bind_refusedAtOnce_iff (s : Shared) (outside : ω)
    (hstate : (s.manager name).state = .initialized)
    (hc : (s.manager name).configuration = some c) (hstrategy : c.strategy ≠ .none)
    (h : ∃ entityType ∈ (s.manager name).contained, ∃ failure,
      HasNoMapping c descriptors entityType failure) :
    let t := (bind name descriptors).transcript serve s outside
    (RefusedAtOnce s name c descriptors t ↔
      c.strategy ≠ .recreate ∧ c.strategy ≠ .recreateDelete) ∧
    (∃ failure, t.result = .error failure) ∧ t.shared.manager name = s.manager name ∧
    (c.strategy = .recreate ∨ c.strategy = .recreateDelete →
      t.calls = dropCalls serve c.actualName c.options outside) := by
  intro t
  obtain ⟨hrecreate, hdelete, step, hneeds, honBind⟩ | ⟨hdrops, honBind⟩ := onBind_cases hstrategy
  · -- the target is built before anything else
    obtain ⟨entityType, hmem, failure, log, hno, hsteps⟩ :=
      transcript_runSteps_of_needsTarget serve hc h hneeds s.policy [] outside
    have ht : t = ⟨.error failure, { s with log := log }, outside, []⟩ := by
      simp [t, bind, require, hstate, configured, hc, runOnBind, honBind, hsteps]
    rw [ht]
    have hrefused : RefusedAtOnce s name c descriptors
        (⟨.error failure, { s with log := log }, outside, []⟩ : Transcript ω Unit) :=
      ⟨⟨entityType, hmem, failure, hno, rfl⟩, rfl, rfl⟩
    refine ⟨⟨fun _ => ⟨hrecreate, hdelete⟩, fun _ => hrefused⟩, ⟨failure, rfl⟩, rfl, ?_⟩
    rintro (hother | hother)
    · exact absurd hother hrecreate
    · exact absurd hother hdelete
  · -- the index is dropped before the target is built
    obtain ⟨failure, log, outside', hsteps⟩ := transcript_runSteps_of_drop serve hc h
      (rfl : SchemaStep.create.needsTarget = true) s.policy [] outside
    have ht : t = ⟨.error failure, { s with log := log }, outside',
        dropCalls serve c.actualName c.options outside⟩ := by
      simp [t, bind, require, hstate, configured, hc, runOnBind, honBind, hsteps]
    rw [ht]
    refine ⟨⟨fun hrefused => ?_, fun hothers => ?_⟩, ⟨failure, rfl⟩, rfl, fun _ => rfl⟩
    · -- asking whether the index exists is a call already
      exact absurd hrefused.calls_eq (List.cons_ne_nil _ _)
    · rcases hdrops with hdrops | hdrops
      · exact absurd hdrops hothers.1
      · exact absurd hdrops hothers.2

/-- What tasks share when one manager is initialized for an index of books, under a strategy. -/
def librarian (strategy : Strategy) : Shared :=
  { Shared.fresh ⟨1, 100, 0⟩ default with managers :=
    [("m", ⟨.initialized, some ⟨"Library", "library", strategy, false, ⟨.green, 250, false⟩⟩,
      ["book"], true⟩)] }

/-- A service with one index, which is there or not. -/
def shelf (present : Bool) (call : Call) : Answer × Bool :=
  if call.method = "HEAD" then (.reply (if present then 200 else 404) .empty, present)
  else if call.method = "DELETE" then (.reply (if present then 200 else 404) .empty, false)
  else (.reply 200 .empty, present)

/-- Under the strategy that creates an index unless it exists, a missing descriptor is told before
anything is asked of the service. -/
theorem bind_refusedAtOnce_create :
    let s := librarian .create
    let c : Configuration := ⟨"Library", "library", .create, false, ⟨.green, 250, false⟩⟩
    RefusedAtOnce s "m" c [] ((bind "m" []).transcript shelf s true) := by
  intro s c
  have hbook : ∃ entityType ∈ (s.manager "m").contained, ∃ failure,
      HasNoMapping c [] entityType failure :=
    ⟨"book", List.mem_singleton.2 rfl, _, .noDescriptor rfl⟩
  exact (bind_refusedAtOnce_iff shelf s true rfl rfl (by decide) hbook).1.2
    ⟨by decide, by decide⟩

/-- Under the strategy that creates an index anew, the index is gone by the time a missing
descriptor is told. -/
theorem bind_recreate_deletes_index :
    let t := (bind "m" []).transcript shelf (librarian .recreate) true
    t.result = .error (.noDescriptor "library" "book") ∧
      t.calls.map Prod.fst = [⟨"HEAD", "/library", none, .none⟩,
        ⟨"DELETE", "/library", some [("timeout", .text "250ms")], .none⟩] ∧
      t.outside = false :=
  ⟨rfl, rfl, rfl⟩

end Manager

end SearchIndex
