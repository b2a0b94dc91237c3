/-
# Applying a schema

A manager that is created, bound and destroyed at once, with no other work about, leaves the index
as its strategy says: a strategy that does anything leaves the index there when it is bound, and
only the one that deletes the index takes it away when the manager is destroyed
(`Manager.leaves_applied`).  Nothing is queued in the meantime, so the workers have nothing to do
(`Processor.IsQuiet`) and all calls are those of the schema operations.
-/
import SearchIndex.CommandLine.Command
import SearchIndex.Proofs.Schema.Presence

namespace SearchIndex

open Schema

variable {ω : Type} {serve : ω → Call → Answer × ω}

/-! ## A processor without work -/

/-- Nothing is queued and nobody works. -/
structure Processor.IsQuiet (p : Processor) : Prop where
  queue_eq : p.queue = none
  workers_eq : p.workers = []

lemma Processor.isQuiet_fresh (limits : ProcessorLimits) : (fresh limits).IsQuiet := ⟨rfl, rfl⟩

/-- Where there is no work, none is done. -/
lemma Processor.IsQuiet.settle {p : Processor} (h : p.IsQuiet) (outside : ω) :
    p.settle serve outside = (p, outside) := by
  have hadvance : p.advance? serve outside = none := by
    rw [advance?, awaiting?, h.workers_eq]
    simp [isQueueEmpty, h.queue_eq]
  rw [Processor.settle, stepsLeft, settleFor, hadvance]

/-- Something that holds while there is no work, whatever else becomes of the processor and the
log. -/
structure IsUndisturbed (K : Shared → Prop) : Prop where
  quiet : ∀ s, K s → s.processor.IsQuiet
  again : ∀ s p log, K s → p.IsQuiet → K { s with processor := p, log := log }

section Undisturbed

open Activity Execution

variable {K : Shared → Prop} {P : ω → Prop} (hK : IsUndisturbed K)
include hK

/-- Waiting takes no work where there is none. -/
lemma keeps_waitUntil (ready : Shared → Bool) :
    Keeps serve (fun s outside => K s ∧ P outside) (waitUntil ready) := by
  rintro s outside ⟨hs, hP⟩ -
  have hrun : (waitUntil ready).run serve s outside = (Except.ok (), s, outside) := by
    show Task.runAlone serve (.wait ready (.done (Except.ok ()))) s outside = _
    simp only [Task.runAlone, (hK.quiet s hs).settle]
    split <;> rfl
  rw [hrun]
  exact ⟨⟨hs, hP⟩, fun _ _ => trivial⟩

lemma keeps_note (level : Log.Level) (source : Log.Source) (text : String) :
    Keeps serve (fun s outside => K s ∧ P outside) (note level source text) :=
  keeps_change fun s _ h => ⟨hK.again s _ _ h.1 (hK.quiet s h.1), h.2⟩

lemma keeps_awaitCompletion (index : Option String) :
    Keeps serve (fun s outside => K s ∧ P outside) (awaitCompletion index) := by
  refine keeps_bind keeps_look fun s => ?_
  have hclear : Keeps serve (fun s outside => K s ∧ P outside) (step fun s =>
      (s.mapProcessor (·.clearReported index), s.processor.unreported index)) := by
    refine keeps_step fun s outside h => ⟨hK.again s _ s.log h.1 ?_, h.2⟩
    have hquiet := hK.quiet s h.1
    cases index <;> exact ⟨hquiet.queue_eq, hquiet.workers_eq⟩
  dsimp only
  split
  · refine keeps_bind hclear fun failures => ?_
    cases failures with
    | nil => exact keeps_pure
    | cons first others => exact keeps_throw
  · refine keeps_bind (keeps_waitUntil hK _) fun _ => keeps_bind hclear fun failures => ?_
    cases failures with
    | nil => exact keeps_pure
    | cons first others => exact keeps_throw

lemma keeps_shutdown : Keeps serve (fun s outside => K s ∧ P outside) shutdown := by
  have hstop : Keeps serve (fun s outside => K s ∧ P outside) (do
      change fun s => s.mapProcessor Processor.stop
      note .info .processor "Backend request processor shut down") :=
    keeps_bind (keeps_change fun s _ h => ⟨hK.again s _ s.log h.1 ⟨rfl, rfl⟩, h.2⟩)
      fun _ => keeps_note hK _ _ _
  have hcancel : Keeps serve (fun s outside => K s ∧ P outside) (do
      let anyWorker ← step fun s => (s.mapProcessor Processor.cancel, !s.processor.workers.isEmpty)
      if anyWorker then pause
      change fun s => s.mapProcessor Processor.stop
      note .info .processor "Backend request processor shut down") := by
    refine keeps_bind (keeps_step fun s _ h => ⟨hK.again s _ s.log h.1 ?_, h.2⟩) fun anyWorker => ?_
    · have hquiet := hK.quiet s h.1
      refine ⟨hquiet.queue_eq, ?_⟩
      show s.processor.workers.map _ = []
      rw [hquiet.workers_eq, List.map_nil]
    · dsimp only
      split
      · exact keeps_bind (keeps_waitUntil hK _) fun _ => hstop
      · exact hstop
  refine keeps_bind keeps_look fun s => ?_
  dsimp only
  split
  · split
    · exact hcancel
    · exact keeps_bind (keeps_waitUntil hK _) fun _ => hcancel
  · exact hcancel

lemma keeps_release : Keeps serve (fun s outside => K s ∧ P outside) release := by
  refine keeps_bind (keeps_attempt fun s outside h after last hafter => ?_) fun last => ?_
  · split at hafter
    · cases hafter
    · obtain ⟨rfl, -⟩ := Prod.mk.inj (Except.ok.inj hafter)
      have hquiet := hK.quiet s h.1
      exact ⟨hK.again s _ s.log h.1 ⟨hquiet.queue_eq, hquiet.workers_eq⟩, h.2⟩
  · split
    · exact keeps_shutdown hK
    · exact keeps_pure

lemma keeps_close : Keeps serve (fun s outside => K s ∧ P outside) close := by
  refine keeps_bind keeps_look fun s => ?_
  split
  · exact keeps_shutdown hK
  · exact keeps_note hK _ _ _

end Undisturbed

/-! ## Managers -/

/-- What a manager knows of its index according to settings. -/
def SchemaSettings.configuration? (schema : SchemaSettings) (index : String) (multitenancy : Bool) :
    Except Failure Configuration :=
  ((Properties.raw (.object (schema.propertiesFor index))).settings index).map fun settings =>
    settings.configuration index multitenancy

namespace Manager

variable {name : String} {c : Configuration} {I isThere P : ω → Prop}

/-- A manager knows its index, and there is no work. -/
structure IsSetUp (name : String) (c : Configuration) (s : Shared) : Prop where
  quiet : s.processor.IsQuiet
  configuration_eq : (s.manager name).configuration = some c

lemma manager_setManager (s : Shared) (name : String) (m : Manager) :
    (s.setManager name m).manager name = m := by
  simp [Shared.manager, Shared.setManager, Table.get?_set_self]

lemma isUndisturbed_isSetUp : IsUndisturbed (IsSetUp name c) where
  quiet _ h := h.quiet
  again _ _ _ h hquiet := ⟨hquiet, h.configuration_eq⟩

lemma IsSetUp.log {s : Shared} (log : List Log.Entry) (h : IsSetUp name c s) :
    IsSetUp name c { s with log := log } := ⟨h.quiet, h.configuration_eq⟩

lemma IsSetUp.setManager {s : Shared} {m : Manager} (h : IsSetUp name c s)
    (hm : m.configuration = some c) : IsSetUp name c (s.setManager name m) :=
  ⟨h.quiet, by rw [manager_setManager, hm]⟩

/-- A manager that is created knows of its index what the settings say. -/
lemma leaves_create {schema : SchemaSettings} {index : String} {multitenancy : Bool} :
    Activity.Leaves serve (fun s outside => s.processor.IsQuiet ∧ P outside) (fun _ _ => True)
      (create name schema index multitenancy) fun _ s outside => ∃ c,
        (IsSetUp name c s ∧ P outside) ∧ schema.configuration? index multitenancy = .ok c := by
  refine Activity.leaves_bind (M := fun _ s outside => ∃ c,
    (IsSetUp name c s ∧ P outside) ∧ schema.configuration? index multitenancy = .ok c)
    (Activity.leaves_attempt fun s outside h _ after c hafter => ?_) fun c' => ?_
  · have hfresh : ((s.setManager name .fresh).manager name).state = .uninitialized := by
      rw [manager_setManager]
      rfl
    rw [setUp?_of_uninitialized hfresh] at hafter
    cases hsettings : (Properties.raw (.object (schema.propertiesFor index))).settings index with
    | error failure =>
      rw [hsettings] at hafter
      cases hafter
    | ok settings =>
      rw [hsettings] at hafter
      obtain ⟨rfl, rfl⟩ := Prod.mk.inj (Except.ok.inj hafter)
      refine ⟨⟨⟨h.1.queue_eq, h.1.workers_eq⟩, h.2⟩, settings.configuration index multitenancy,
        ⟨⟨⟨h.1.queue_eq, h.1.workers_eq⟩, ?_⟩, h.2⟩, ?_⟩
      · exact congrArg configuration (manager_setManager _ name _)
      · rw [SchemaSettings.configuration?, hsettings]
        rfl
  · refine Activity.leaves_change fun s outside h hleft => ?_
    obtain ⟨c, ⟨hset, hP⟩, hc⟩ := hleft
    exact ⟨⟨h.1, h.2⟩, c, ⟨hset.log _, hP⟩, hc⟩

lemma keeps_addAll (entityTypes : List String) :
    Activity.Keeps serve (fun s outside => IsSetUp name c s ∧ P outside)
      (CommandLine.addAll name entityTypes) := by
  induction entityTypes with
  | nil => exact Activity.keeps_pure
  | cons entityType rest ih =>
    refine Activity.keeps_bind (Activity.keeps_attempt fun s outside h after x hafter => ?_)
      fun _ => ih
    dsimp only at hafter
    cases hrequire : (s.manager name).require .initialized "add_contained_entity" with
    | error failure =>
      rw [hrequire] at hafter
      cases hafter
    | ok u =>
      rw [hrequire] at hafter
      obtain ⟨rfl, -⟩ := Prod.mk.inj (Except.ok.inj hafter)
      refine ⟨h.1.setManager ?_, h.2⟩
      rw [contain]
      split <;> exact h.1.configuration_eq

/-- Mappings are made without a call. -/
lemma leaves_mappingsOf {descriptors : Table EntityDescriptor} {pre : ω → Prop}
    (entityTypes : List String) :
    Action.Leaves serve I pre (mappingsOf c descriptors entityTypes) fun _ => pre := by
  induction entityTypes with
  | nil => exact Action.leaves_pure fun _ _ hpre => hpre
  | cons entityType rest ih =>
    rw [mappingsOf]
    split
    · exact Action.leaves_throw
    · refine Action.leaves_bind (M := fun _ => pre) ?_ fun _ => Action.leaves_bind ih fun _ =>
        Action.leaves_pure fun _ _ hpre => hpre
      exact Action.leaves_bind (Action.leaves_ofExcept fun _ _ _ _ hpre => hpre) fun _ =>
        Action.leaves_bind Action.leaves_note fun _ => Action.leaves_pure fun _ _ hpre => hpre

lemma leaves_buildTarget (descriptors : Table EntityDescriptor) (pre : ω → Prop) :
    Activity.Leaves serve (fun s outside => IsSetUp name c s ∧ I outside) (fun _ => pre)
      (buildTarget name descriptors) fun target _ _ => target.name = c.actualName := by
  refine Activity.leaves_bind (M := fun s _ _ => IsSetUp name c s)
    (Activity.leaves_look fun s _ h _ => h.1) fun s => ?_
  refine Activity.leaves_of_fact fun hs => ?_
  have hconfigured : (s.manager name).configured = .ok c := by
    rw [configured, hs.configuration_eq]
  rw [target, hconfigured]
  refine Activity.leaves_ofAction (P := fun _ => True) (fun _ log hset => hset.log log) ?_
  refine Action.leaves_bind (M := fun c' _ => c' = c)
    (Action.leaves_ofExcept fun c' _ hc' _ _ => (Except.ok.inj hc').symm) fun c' => ?_
  exact Action.leaves_bind (leaves_mappingsOf _) fun mappings =>
    Action.leaves_pure fun _ _ hc' => congrArg Configuration.actualName hc'

/-- The operations of binding leave the index there, if there are any. -/
lemma getLast?_onBind (strategy : Strategy) :
    strategy = .none ∧ strategy.onBind = [] ∨
      ∃ last, strategy.onBind.getLast? = some last ∧ last.needsTarget = true := by
  cases strategy with
  | none => exact Or.inl ⟨rfl, rfl⟩
  | _ => exact Or.inr ⟨_, rfl, rfl⟩

/-- A manager that is bound leaves its index there, if its strategy does anything. -/
lemma leaves_bind (h : MindsIndex serve c.actualName I isThere)
    (descriptors : Table EntityDescriptor) :
    Activity.Leaves serve (fun s outside => IsSetUp name c s ∧ I outside) (fun _ _ => True)
      (bind name descriptors) fun _ _ outside => c.strategy ≠ .none → isThere outside := by
  rw [bind]
  refine Activity.leaves_bind (M := fun s _ _ => IsSetUp name c s)
    (Activity.leaves_look fun s _ h _ => h.1) fun s => Activity.leaves_of_fact fun hs => ?_
  have hconfigured : (s.manager name).configured = .ok c := by
    rw [configured, hs.configuration_eq]
  refine Activity.leaves_bind (M := fun _ _ _ => True)
    (Activity.leaves_ofExcept fun _ _ _ _ _ _ => trivial) fun _ => ?_
  rw [hconfigured]
  refine Activity.leaves_bind (M := fun c' _ _ => c' = c)
    (Activity.leaves_ofExcept fun c' _ _ hc' _ _ => (Except.ok.inj hc').symm) fun c' =>
      Activity.leaves_of_fact fun hc' => ?_
  subst hc'
  have hbuild (pre : ω → Prop) :
      Activity.Leaves serve (fun s outside => IsSetUp name c' s ∧ I outside) (fun _ => pre)
        (buildTarget name descriptors) fun target _ _ => target.name = c'.actualName :=
    leaves_buildTarget descriptors pre
  have hnone (target : IndexSchema) (htarget : none = some target) : target.name = c'.actualName :=
    absurd htarget.symm (Option.some_ne_none target)
  have hsteps := h.leaves_runSteps (fun _ log hset => IsSetUp.log log hset) hbuild s.policy
    c'.strategy c'.options c'.strategy.onBind (fun _ => True) hnone
  have hleft : Activity.Leaves serve (fun s outside => IsSetUp name c' s ∧ I outside)
      (fun _ _ => True) (runOnBind Activity.ofAction s.policy c'.strategy c'.actualName
        (buildTarget name descriptors) c'.options)
      fun _ _ outside => c'.strategy ≠ .none → isThere outside := by
    refine hsteps.mono (fun _ _ _ hpre => hpre) fun _ _ outside _ hleft hstrategy => ?_
    rcases getLast?_onBind c'.strategy with ⟨hnone, -⟩ | ⟨last, hlast, hneeds⟩
    · exact absurd hnone hstrategy
    · rw [hlast] at hleft
      exact (if_pos hneeds).mp hleft
  refine Activity.leaves_bind hleft fun _ => ?_
  refine Activity.leaves_bind (M := fun _ _ outside => c'.strategy ≠ .none → isThere outside)
    (Activity.leaves_change fun s outside hI hthere => ?_) fun _ => ?_
  · exact ⟨⟨hI.1.setManager hI.1.configuration_eq, hI.2⟩, hthere⟩
  · refine Activity.leaves_bind Activity.keeps_look.leaves fun s => ?_
    exact Activity.leaves_change fun s outside hI hthere => ⟨⟨hI.1.log _, hI.2⟩, hthere⟩

/-! ## Destroying -/

lemma keeps_drain (index : String) :
    Activity.Keeps serve (fun s outside => IsSetUp name c s ∧ P outside) (drain index) := by
  refine Activity.keeps_bind (Activity.keeps_outcome
    (keeps_awaitCompletion isUndisturbed_isSetUp _)) fun r => ?_
  split
  · exact Activity.keeps_pure
  · split
    · exact Activity.keeps_bind (keeps_note isUndisturbed_isSetUp _ _ _) fun _ => Activity.keeps_pure
    · exact Activity.keeps_throw

lemma leaves_wind (h : MindsIndex serve c.actualName I isThere) :
    Activity.Leaves serve (fun s outside => IsSetUp name c s ∧ I outside) (fun _ => P)
      (wind name c) fun _ _ outside =>
        if c.strategy = .recreateDelete then ¬ isThere outside else P outside := by
  refine Activity.leaves_bind Activity.keeps_look.leaves fun s => ?_
  have hrun (failure : Option Failure) :
      Activity.Leaves serve (fun s outside => IsSetUp name c s ∧ I outside) (fun _ => P) (do
        Activity.ofAction (runOnDestroy s.policy c.strategy c.actualName c.options)
        return failure) fun _ _ outside =>
          if c.strategy = .recreateDelete then ¬ isThere outside else P outside :=
    Activity.leaves_bind (Activity.leaves_ofAction (fun _ log hset => IsSetUp.log log hset)
      (h.leaves_runOnDestroy s.policy c.strategy c.options)) fun _ =>
        Activity.leaves_pure fun _ _ _ hleft => hleft
  dsimp only
  split
  · exact Activity.leaves_bind (keeps_drain _).leaves hrun
  · exact Activity.leaves_bind Activity.keeps_pure.leaves hrun

lemma keeps_finish :
    Activity.Keeps serve (fun s outside => IsSetUp name c s ∧ P outside) (finish name) := by
  have hsay : Activity.Keeps serve (fun s outside => IsSetUp name c s ∧ P outside) (do
      let s ← Activity.look
      Activity.note .info .manager
        ("Index manager destroyed: index=" ++ (s.manager name).actualName?.getD "")) :=
    Activity.keeps_bind Activity.keeps_look fun _ => keeps_note isUndisturbed_isSetUp _ _ _
  refine Activity.keeps_bind (Activity.keeps_step fun s outside hI => ?_) fun held => ?_
  · exact ⟨hI.1.setManager hI.1.configuration_eq, hI.2⟩
  · dsimp only
    split
    · exact Activity.keeps_bind (keeps_release isUndisturbed_isSetUp) fun _ => hsay
    · exact hsay

/-- A manager that is destroyed leaves its index where it was, unless its strategy deletes it. -/
lemma leaves_destroy (h : MindsIndex serve c.actualName I isThere) :
    Activity.Leaves serve (fun s outside => IsSetUp name c s ∧ I outside) (fun _ => P)
      (destroy name) fun _ _ outside =>
        if c.strategy = .recreateDelete then ¬ isThere outside else P outside := by
  rw [destroy]
  refine Activity.leaves_bind (M := fun s _ outside => IsSetUp name c s ∧ P outside)
    (Activity.leaves_look fun s _ hI hP => ⟨hI.1, hP⟩) fun s => Activity.leaves_of_fact_and fun hs => ?_
  have hconfigured : (s.manager name).configured = .ok c := by
    rw [configured, hs.configuration_eq]
  dsimp only
  rw [hconfigured]
  split
  · exact Activity.leaves_throw_bind
  · refine Activity.leaves_bind (M := fun c' _ outside => c' = c ∧ P outside)
      (Activity.leaves_ofExcept fun c' _ _ hc' _ hP => ⟨(Except.ok.inj hc').symm, hP⟩) fun c' =>
        Activity.leaves_of_fact_and fun hc' => ?_
    subst hc'
    refine Activity.leaves_bind (Activity.leaves_outcome (leaves_wind h)) fun r => ?_
    refine Activity.leaves_bind keeps_finish.leaves fun _ => ?_
    rcases r with failure | _ | failure
    · exact Activity.leaves_throw
    · exact Activity.leaves_pure fun _ _ _ hleft => hleft none rfl
    · exact Activity.leaves_throw

/-! ## From creation to destruction -/

/-- What applying descriptors leaves behind, if nothing fails: the line that it prints, and the
index as the strategy says. -/
lemma leaves_applyDescriptors {schema : SchemaSettings} {index : String}
    (descriptors : Table EntityDescriptor) {multitenancy : Bool}
    (hc : schema.configuration? index multitenancy = .ok c)
    (h : MindsIndex serve c.actualName I isThere) :
    Activity.Leaves serve (fun s outside => s.processor.IsQuiet ∧ I outside) (fun _ _ => True)
      (CommandLine.applyDescriptors schema index descriptors multitenancy) fun outcome _ outside =>
        outcome.failure = none → outcome.lines = [CommandLine.appliedText c descriptors.length] ∧
          (c.strategy ≠ .none → (isThere outside ↔ c.strategy ≠ .recreateDelete)) := by
  rw [CommandLine.applyDescriptors]
  refine Activity.leaves_bind leaves_create fun _ => Activity.leaves_of_exists fun c' => ?_
  refine Activity.leaves_of_stronger (fun s outside hset => ⟨hset.1.quiet, hset.2⟩)
    (Activity.leaves_of_fact fun hc' => ?_)
  obtain rfl := Except.ok.inj (hc.symm.trans hc')
  refine Activity.leaves_bind (keeps_addAll _) fun _ => ?_
  refine Activity.leaves_bind (Activity.leaves_outcome (leaves_bind h descriptors)) fun bound => ?_
  let Left (outside : ω) : Prop := ∀ u, bound = .ok u → c.strategy ≠ .none → isThere outside
  refine Activity.leaves_bind (M := fun s _ outside => IsSetUp index c s ∧ Left outside)
    (Activity.leaves_look fun s _ hset hleft => ⟨hset.1, hleft⟩) fun s =>
      Activity.leaves_of_fact_and fun hs => ?_
  have hconfigured : (s.manager index).configured = .ok c := by
    rw [configured, hs.configuration_eq]
  rw [hconfigured]
  refine Activity.leaves_bind (M := fun c' _ outside => c' = c ∧ Left outside)
    (Activity.leaves_ofExcept fun c' _ _ hc' _ hleft => ⟨(Except.ok.inj hc').symm, hleft⟩) fun c' =>
      Activity.leaves_of_fact_and fun hc' => ?_
  subst hc'
  refine Activity.leaves_bind (Activity.leaves_outcome (leaves_destroy h)) fun destroyed => ?_
  rcases destroyed with failure | _
  · exact Activity.leaves_pure fun _ _ _ _ hnone => absurd hnone (Option.some_ne_none failure)
  · rcases bound with failure | _
    · exact Activity.leaves_pure fun _ _ _ _ hnone => absurd hnone (Option.some_ne_none failure)
    · refine Activity.leaves_pure fun _ outside _ hleft _ => ⟨rfl, fun hstrategy => ?_⟩
      have hend := hleft () rfl
      by_cases hdelete : c'.strategy = .recreateDelete
      · rw [if_pos hdelete] at hend
        exact ⟨fun hthere => absurd hthere hend, fun hnot => absurd hdelete hnot⟩
      · rw [if_neg hdelete] at hend
        exact ⟨fun _ => hdelete, fun _ => hend () rfl hstrategy⟩

/-- If the settings of the index are no good, nothing is applied. -/
lemma leaves_applyDescriptors_of_error {schema : SchemaSettings} {index : String}
    (descriptors : Table EntityDescriptor) {multitenancy : Bool} {failure : Failure}
    (hc : schema.configuration? index multitenancy = .error failure) :
    Activity.Leaves serve (fun s outside => s.processor.IsQuiet ∧ P outside) (fun _ _ => True)
      (CommandLine.applyDescriptors schema index descriptors multitenancy) fun _ _ _ => False := by
  refine Activity.leaves_bind leaves_create fun _ => ?_
  rintro s outside - ⟨c, -, hok⟩
  cases hc.symm.trans hok

/-- What is left when the use of the processor has ended after that. -/
lemma leaves_closeAfter {α : Type} {a : Activity α} {post : α → ω → Prop}
    (ha : Activity.Leaves serve (fun s outside => s.processor.IsQuiet ∧ I outside) (fun _ _ => True)
      a fun x _ => post x) :
    Activity.Leaves serve (fun s outside => s.processor.IsQuiet ∧ I outside) (fun _ _ => True)
      (closeAfter a) fun x _ => post x := by
  refine Activity.leaves_bind (Activity.leaves_outcome ha) fun r => ?_
  refine Activity.leaves_bind (keeps_close ⟨fun _ h => h, fun _ _ _ _ h => h⟩).leaves fun _ => ?_
  exact Activity.leaves_ofExcept fun x _ _ hx _ hleft => hleft x hx

end Manager

end SearchIndex
