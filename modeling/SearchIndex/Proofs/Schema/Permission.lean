/-
# What a strategy may send

A strategy decides which calls the schema operations of an index make.  Its rules look at a call and
at the exchange directly before it: an index is created or deleted only where the service has just
said that it is missing, or there.  `calls_heed_strategy` says that every call of binding and
destroying heeds the rules of its strategy, whatever the service answers.

The rules of single operations are proved on their runs, from the first call to the last, so they
are stated after an exchange that came before (`HeedsAfter`).
-/
import SearchIndex.Proofs.Schema.Operation

namespace SearchIndex

open Schema

variable {ω : Type} {index : String}

/-! ## Rules -/

/-- Every call is allowed by a rule, given the exchange directly before it. -/
def Heeds (rule : Option (Call × Answer) → Call → Prop) (calls : List (Call × Answer)) : Prop :=
  ∀ earlier x later, calls = earlier ++ x :: later → rule earlier.getLast? x.1

/-- Every call is allowed by a rule when another exchange came before the first one. -/
def HeedsAfter (rule : Option (Call × Answer) → Call → Prop) :
    Option (Call × Answer) → List (Call × Answer) → Prop
  | _, [] => True
  | before, x :: rest => rule before x.1 ∧ HeedsAfter rule (some x) rest

section Heeds

variable {rule : Option (Call × Answer) → Call → Prop} {before : Option (Call × Answer)}
  {calls : List (Call × Answer)}

lemma HeedsAfter.rule_of_mem {earlier later : List (Call × Answer)} {x : Call × Answer}
    (h : HeedsAfter rule before (earlier ++ x :: later)) :
    rule (earlier.getLast?.or before) x.1 := by
  induction earlier generalizing before with
  | nil => exact h.1
  | cons y rest ih =>
    have hx := ih h.2
    cases rest with
    | nil => exact hx
    | cons z rest =>
      rw [List.getLast?_cons_cons]
      rw [List.getLast?_cons] at hx ⊢
      exact hx

lemma HeedsAfter.heeds (h : HeedsAfter rule none calls) : Heeds rule calls := by
  rintro earlier x later rfl
  simpa using h.rule_of_mem

lemma HeedsAfter.append {later : List (Call × Answer)} (h : HeedsAfter rule before calls)
    (hlater : ∀ before, HeedsAfter rule before later) :
    HeedsAfter rule before (calls ++ later) := by
  induction calls generalizing before with
  | nil => exact hlater before
  | cons x rest ih => exact ⟨h.1, ih h.2⟩

/-- Calls that are allowed wherever they stand. -/
lemma heedsAfter_of_forall (h : ∀ x ∈ calls, ∀ before, rule before x.1) :
    HeedsAfter rule before calls := by
  induction calls generalizing before with
  | nil => trivial
  | cons x rest ih =>
    exact ⟨h x List.mem_cons_self before, ih fun y hy => h y (List.mem_cons_of_mem x hy)⟩

end Heeds

namespace Strategy

/-- Creating an index is allowed directly after it was found missing. -/
def MayCreate (index : String) (before : Option (Call × Answer)) : Prop :=
  ∃ x, before = some x ∧ FoundMissing index x

/-- Only the index itself may be deleted, and directly after it was found. -/
def MayDelete (index : String) (before : Option (Call × Answer)) (call : Call) : Prop :=
  call.path = indexPath index ∧ ∃ x, before = some x ∧ FoundPresent index x

/-- What a strategy may send while an index is bound, given the exchange directly before it. -/
def MaySendOnBind (index : String) (strategy : Strategy) (before : Option (Call × Answer))
    (call : Call) : Prop :=
  match strategy with
  | none => False
  | validate => call.method = "HEAD" ∨ call.method = "GET"
  | merge =>
    call.method ≠ "DELETE" ∧
      (call.method = "PUT" → call.path = indexPath index → MayCreate index before)
  | create =>
    call.method ≠ "DELETE" ∧
      (call.method = "PUT" → call.path = indexPath index ∧ MayCreate index before)
  | recreate | recreateDelete => call.method = "DELETE" → MayDelete index before call

/-- What a strategy may send while an index is destroyed. -/
def MaySendOnDestroy (index : String) (strategy : Strategy) (before : Option (Call × Answer))
    (call : Call) : Prop :=
  match strategy with
  | recreateDelete => call.method = "DELETE" → MayDelete index before call
  | _ => False

end Strategy

/-! ## Single operations -/

namespace Schema

variable {policy : Compatibility} {target : IndexSchema} {options : SchemaOptions}
  {calls : List (Call × Answer)} {before : Option (Call × Answer)}

lemma heedsAfter_validate {result : Except Failure Unit}
    (h : (validate policy target options).Runs calls result) :
    HeedsAfter (Strategy.MaySendOnBind index .validate) before calls := by
  obtain ⟨x, rest, rfl, hx, hrest⟩ := runs_validate h
  exact ⟨Or.inl (by rw [hx, method_existenceCheck]),
    heedsAfter_of_forall fun y hy _ => Or.inr (hrest y hy)⟩

lemma heedsAfter_createIfAbsent {result : Except Failure Bool}
    (h : (createIfAbsent target options).Runs calls result) :
    HeedsAfter (Strategy.MaySendOnBind target.name .create) before calls := by
  have hreads {reads : List (Call × Answer)} (hreads : OnlyReads reads)
      (before : Option (Call × Answer)) :
      HeedsAfter (Strategy.MaySendOnBind target.name .create) before reads :=
    heedsAfter_of_forall fun y hy _ => by simp [Strategy.MaySendOnBind, hreads y hy]
  obtain ⟨x, rest, rfl, hx, hrest⟩ := runs_createIfAbsent h
  refine ⟨by simp [Strategy.MaySendOnBind, hx], ?_⟩
  rcases hrest with honly | ⟨hmissing, answer, others, rfl, hothers⟩
  · exact hreads honly _
  · exact ⟨⟨by simp, fun _ => ⟨path_creation, x, rfl, hmissing⟩⟩, hreads hothers _⟩

lemma heedsAfter_merge {result : Except Failure Unit}
    (h : (merge policy target options).Runs calls result) :
    HeedsAfter (Strategy.MaySendOnBind target.name .merge) before calls := by
  have hreads {reads : List (Call × Answer)} (hreads : OnlyReads reads)
      (before : Option (Call × Answer)) :
      HeedsAfter (Strategy.MaySendOnBind target.name .merge) before reads :=
    heedsAfter_of_forall fun y hy _ => by simp [Strategy.MaySendOnBind, hreads y hy]
  obtain ⟨x, rest, rfl, hx, hrest⟩ := runs_merge h
  refine ⟨by simp [Strategy.MaySendOnBind, hx], ?_⟩
  rcases hrest with ⟨rfl, -⟩ | ⟨hmissing, answer, others, rfl, hothers, -⟩ |
    ⟨reads, puts, rfl, honly, hputs⟩
  · trivial
  · exact ⟨⟨by simp, fun _ _ => ⟨x, rfl, hmissing⟩⟩, hreads hothers _⟩
  · refine (hreads honly _).append fun _ => heedsAfter_of_forall fun y hy _ => ?_
    rcases hputs with ⟨rfl, -⟩ | ⟨existing, hplan⟩
    · exact absurd hy List.not_mem_nil
    · -- the put of a mapping is no creation
      obtain ⟨entry, -, hput⟩ := (runs_putPlan hplan).1 y hy
      rw [hput]
      exact ⟨by simp, fun _ hpath => absurd hpath (path_mappingUpdate_ne _ _)⟩

/-- Deletions are the only calls of which something is asked here. -/
lemma heedsAfter_dropIfExisting {result : Except Failure Bool}
    (h : (dropIfExisting index options).Runs calls result) :
    HeedsAfter (fun before call => call.method = "DELETE" → Strategy.MayDelete index before call)
      before calls := by
  obtain ⟨x, rest, rfl, hx, hrest⟩ := runs_dropIfExisting h
  refine ⟨by simp [hx], ?_⟩
  rcases hrest with rfl | ⟨hpresent, answer, rfl⟩
  · trivial
  · exact ⟨fun _ => ⟨rfl, x, rfl, hpresent⟩, trivial⟩

lemma heedsAfter_createNew {result : Except Failure Unit}
    (h : (createNew target options).Runs calls result) :
    HeedsAfter (fun before call => call.method = "DELETE" → Strategy.MayDelete index before call)
      before calls := by
  obtain ⟨answer, rest, rfl, hrest⟩ := runs_createNew h
  exact ⟨by simp, heedsAfter_of_forall fun y hy _ => by simp [hrest y hy]⟩

end Schema

/-! ## Binding and destroying -/

section Binding

variable (serve : ω → Call → Answer × ω)

/-- The target is built without a call, and is one for the index.  It may be built from anything
that is shared, but for the log. -/
def BuildsFor (s : Shared) (index : String) (build : Activity IndexSchema) : Prop :=
  ∀ log outside,
    (build.transcript serve { s with log := log } outside).calls = [] ∧
    ∀ target, (build.transcript serve { s with log := log } outside).result = .ok target →
      target.name = index

/-- A target as binding builds it. -/
lemma buildsFor_buildTarget {s : Shared} {name : String} {c : Configuration}
    (hc : (s.manager name).configuration = some c) (descriptors : Table EntityDescriptor) :
    BuildsFor serve s c.actualName (Manager.buildTarget name descriptors) := by
  have hmappings (entityTypes : List String) :
      Action.IsSilent (Manager.mappingsOf c descriptors entityTypes) := by
    induction entityTypes with
    | nil => exact .pure
    | cons entityType rest ih =>
      rw [Manager.mappingsOf]
      split
      · exact .throw
      · exact .bind (.bind .ofExcept fun _ => .bind .note fun _ => .pure) fun _ =>
          .bind ih fun _ => .pure
  intro log outside
  let m := s.manager name
  have hruns := Action.runs_transcript serve (m.target descriptors) { s with log := log } outside
  have htarget : m.target descriptors = Manager.mappingsOf c descriptors (sortTexts m.contained) >>=
      fun mappings => pure ⟨c.actualName, mappings⟩ := by
    simp only [Manager.target, Manager.configured, m, hc]
    rfl
  have hbuild : (Manager.buildTarget name descriptors).transcript serve { s with log := log }
      outside = (Activity.ofAction (m.target descriptors)).transcript serve { s with log := log }
        outside := by
    simp [Manager.buildTarget, m, Shared.manager]
  rw [hbuild]
  refine ⟨?_, fun target hok => ?_⟩
  · rw [htarget] at hruns ⊢
    exact Action.IsSilent.bind (hmappings _) (fun _ => .pure) _ _ hruns
  · rw [hok, htarget] at hruns
    rcases Action.runs_bind.1 hruns with ⟨_, -, hbad⟩ | ⟨mappings, before, after, -, hpure, -⟩
    · cases hbad
    · obtain rfl := Except.ok.inj (Action.runs_pure.1 hpure).2
      rfl

variable {serve}

/-- An operation that needs the target runs on one for the index, or makes no call. -/
lemma runs_targeted {s : Shared} {build : Activity IndexSchema}
    (hbuild : BuildsFor serve s index build) {step : SchemaStep}
    (hneeds : step.needsTarget = true) (policy : Compatibility) (strategy : Strategy)
    (options : SchemaOptions) (log : List Log.Entry) (outside : ω) :
    let t := (runSteps Activity.ofAction policy strategy index build options none [step]).transcript
      serve { s with log := log } outside
    t.calls = [] ∨ ∃ target result, target.name = index ∧
      (runTargeted policy options target step).Runs t.calls result := by
  intro t
  obtain ⟨log', hannounce⟩ :=
    Manager.transcript_announce serve strategy index step { s with log := log } outside
  obtain ⟨hsilent, hname⟩ := hbuild log' outside
  rcases hb : build.transcript serve { s with log := log' } outside with ⟨r, s', outside', calls⟩
  rw [hb] at hsilent hname
  obtain rfl : calls = [] := hsilent
  cases r with
  | error failure => exact Or.inl (by simp [t, runSteps, hneeds, hannounce, hb])
  | ok target =>
    have hruns := Action.runs_transcript serve (runTargeted policy options target step) s' outside'
    have hcalls : t.calls = ((Activity.ofAction (runTargeted policy options target step)).transcript
        serve s' outside').calls := by
      simp [t, runSteps, hneeds, hannounce, hb]
    rw [hcalls]
    exact Or.inr ⟨target, _, hname target rfl, hruns⟩

/-- Dropping the index comes first, and then, unless that fails, what is to follow. -/
lemma runs_dropping (serve : ω → Call → Answer × ω) (build : Activity IndexSchema)
    (policy : Compatibility) (strategy : Strategy) (options : SchemaOptions)
    (rest : List SchemaStep) (s : Shared) (outside : ω) :
    let steps (steps : List SchemaStep) :=
      runSteps Activity.ofAction policy strategy index build options none steps
    ∃ drops result later, (dropIfExisting index options).Runs drops result ∧
      ((steps (.dropIfExisting :: rest)).transcript serve s outside).calls = drops ++ later ∧
      (later = [] ∨ ∃ log outside',
        later = ((steps rest).transcript serve { s with log := log } outside').calls) := by
  intro steps
  obtain ⟨log, hannounce⟩ :=
    Manager.transcript_announce serve strategy index .dropIfExisting s outside
  obtain ⟨result, outside', calls, log', hdrop⟩ :=
    Activity.transcript_ofAction serve (dropIfExisting index options) outside
  have hruns := Action.runs_transcript serve (dropIfExisting index options) s outside
  rw [hdrop] at hruns
  have hcalls : ((steps (.dropIfExisting :: rest)).transcript serve s outside).calls =
      ((⟨result, { s with log := log ++ log' }, outside', calls⟩ : Transcript ω Bool).andThen
        fun _ s' o' => (steps rest).transcript serve s' o').calls := by
    cases result <;>
      simp [steps, runSteps, SchemaStep.needsTarget, hannounce, runUntargeted, hdrop]
  cases result with
  | error failure =>
    exact ⟨calls, _, [], hruns, by rw [hcalls, Transcript.andThen_error, List.append_nil],
      Or.inl rfl⟩
  | ok dropped => exact ⟨calls, _, _, hruns, hcalls, Or.inr ⟨_, _, rfl⟩⟩

/-- An index that is created anew is only deleted where it was found before. -/
lemma heedsAfter_recreating {s : Shared} {build : Activity IndexSchema}
    (hbuild : BuildsFor serve s index build) (policy : Compatibility) (strategy : Strategy)
    (options : SchemaOptions) (outside : ω) :
    HeedsAfter (fun before call => call.method = "DELETE" → Strategy.MayDelete index before call)
      none ((runSteps Activity.ofAction policy strategy index build options none
        [.dropIfExisting, .create]).transcript serve s outside).calls := by
  obtain ⟨drops, result, later, hdrops, hcalls, hlater⟩ :=
    runs_dropping serve build policy strategy options [.create] s outside
  rw [hcalls]
  refine (heedsAfter_dropIfExisting hdrops).append fun before => ?_
  rcases hlater with rfl | ⟨log, outside', rfl⟩
  · trivial
  · rcases runs_targeted hbuild (rfl : SchemaStep.create.needsTarget = true) policy strategy options
      log outside' with hnone | ⟨target, created, -, hcreate⟩
    · rw [hnone]
      trivial
    · exact heedsAfter_createNew hcreate

end Binding

/-- The operations of destroying an index are none, or drop it. -/
lemma heedsAfter_runOnDestroy {policy : Compatibility} {strategy : Strategy}
    {options : SchemaOptions} {calls : List (Call × Answer)} {result : Except Failure Unit}
    (h : (runOnDestroy policy strategy index options).Runs calls result) :
    HeedsAfter (strategy.MaySendOnDestroy index) none calls := by
  have hnone (hsteps : strategy.onDestroy = []) : calls = [] := by
    rw [runOnDestroy, hsteps] at h
    exact Action.IsSilent.bind .pure (fun _ => .pure) calls result h
  cases strategy with
  | recreateDelete =>
    obtain ⟨r, hsteps⟩ := Action.runs_of_runs_bind (fun _ => .pure) h
    obtain ⟨r, huntargeted⟩ := Action.runs_of_runs_bind (fun _ => .pure)
      (Action.runs_note_bind.1 hsteps)
    obtain ⟨r, hdrop⟩ := Action.runs_of_runs_bind (fun _ => .pure) huntargeted
    exact heedsAfter_dropIfExisting hdrop
  | _ =>
    rw [hnone rfl]
    trivial

/-- **Permissions.**  Whatever the service answers, and whatever it says at once or later: the calls
of binding an index and of destroying it are those that its strategy allows.  Only the strategies
that create an index anew delete one, namely the index itself directly after it was found. -/
theorem calls_heed_strategy (serve : ω → Call → Answer × ω) (policy : Compatibility)
    (strategy : Strategy) (options : SchemaOptions) (build : Activity IndexSchema) (s : Shared)
    (outside : ω) (hbuild : BuildsFor serve s index build) :
    Heeds (strategy.MaySendOnBind index)
      ((runOnBind Activity.ofAction policy strategy index build options).transcript serve s
        outside).calls ∧
    Heeds (strategy.MaySendOnDestroy index)
      ((Activity.ofAction (runOnDestroy policy strategy index options)).transcript serve s
        outside).calls := by
  refine ⟨HeedsAfter.heeds ?_,
    (heedsAfter_runOnDestroy (Action.runs_transcript serve _ s outside)).heeds⟩
  have htargeted {step : SchemaStep} (hneeds : step.needsTarget = true) :=
    runs_targeted hbuild hneeds policy strategy options s.log outside
  cases strategy with
  | none => trivial
  | validate =>
    rcases htargeted (rfl : SchemaStep.validate.needsTarget = true) with
      hnone | ⟨target, result, -, hruns⟩
    · exact hnone ▸ trivial
    · exact heedsAfter_validate hruns
  | merge =>
    rcases htargeted (rfl : SchemaStep.merge.needsTarget = true) with
      hnone | ⟨target, result, rfl, hruns⟩
    · exact hnone ▸ trivial
    · exact heedsAfter_merge hruns
  | create =>
    rcases htargeted (rfl : SchemaStep.createIfAbsent.needsTarget = true) with
      hnone | ⟨target, result, rfl, hruns⟩
    · exact hnone ▸ trivial
    · obtain ⟨created, hcreate⟩ := Action.runs_of_runs_bind (fun _ => .pure) hruns
      exact heedsAfter_createIfAbsent hcreate
  | recreate => exact heedsAfter_recreating hbuild policy .recreate options outside
  | recreateDelete => exact heedsAfter_recreating hbuild policy .recreateDelete options outside

/-- An index of books that is there already is asked for, deleted and created. -/
theorem calls_heed_strategy_recreate :
    let s := Manager.librarian .recreate
    let build := Manager.buildTarget "m" [("book", ⟨"book", "id", .empty⟩)]
    let options : SchemaOptions := ⟨.green, 250, false⟩
    let bound := (runOnBind Activity.ofAction default .recreate "library" build options).transcript
      Manager.shelf s true
    (∃ target : IndexSchema, target.name = "library" ∧ bound.calls.map Prod.fst =
      [⟨"HEAD", "/library", none, .none⟩,
        ⟨"DELETE", "/library", some [("timeout", .text "250ms")], .none⟩,
        ⟨"PUT", "/library", none, .json target.toRemote⟩,
        ⟨"GET", "/_cluster/health/library",
          some [("wait_for_status", .text "green"), ("timeout", .text "250ms")], .none⟩]) ∧
    Heeds (Strategy.MaySendOnBind "library" .recreate) bound.calls ∧
    Heeds (Strategy.MaySendOnDestroy "library" .recreate)
      ((Activity.ofAction (runOnDestroy default .recreate "library" options)).transcript
        Manager.shelf s true).calls := by
  intro s build options bound
  let c : Configuration := ⟨"Library", "library", .recreate, false, ⟨.green, 250, false⟩⟩
  have hc : (s.manager "m").configuration = some c := rfl
  let target : IndexSchema :=
    ⟨"library", [("book", ⟨"strict", .field "id" idAttributes .empty .empty⟩)]⟩
  have hcalls : bound.calls.map Prod.fst =
    [existenceCheck "library", deletion "library" ⟨.green, 250, false⟩, creation target,
      healthCheck "library" ⟨.green, 250, false⟩] := rfl
  exact ⟨⟨target, rfl, hcalls⟩,
    calls_heed_strategy Manager.shelf default .recreate options build s true
      (buildsFor_buildTarget Manager.shelf hc _)⟩

end SearchIndex
