/-
# Which failures come out

Some failures have one place each where they arise: a rejection tells of the items of a bulk call,
and the others tell that a manager or the processor is used in a way that it must not be.  All other
failures are ordinary.  A set of failures that has no ordinary one in it (`IsSpecial`) is avoided by
everything that only reads answers or runs schema operations.

What the client raises in place of an answer comes out as it is.  So this is asked of the answers:
that no call is answered with a failure of the set (`Answer.Admits`).
-/
import SearchIndex.Manager.Lifecycle
import SearchIndex.Proofs.Service.Runs

namespace SearchIndex

variable {α β : Type}

/-- Failures that may arise anywhere. -/
def Failure.isOrdinary : Failure → Bool
  | rejected _ => false
  | overReleased => false
  | misfit .unprepared => false
  | _ => true

/-- A set of failures without an ordinary one. -/
def IsSpecial (bad : Failure → Prop) : Prop := ∀ failure, failure.isOrdinary = true → ¬bad failure

/-- A computation that does not end with one of certain failures. -/
def Avoids (bad : Failure → Prop) (e : Except Failure α) : Prop :=
  ∀ failure, e = .error failure → ¬bad failure

/-- An answer that is none of certain failures. -/
def Answer.Admits (bad : Failure → Prop) : Answer → Prop
  | unsent reason => ¬bad (.misfit reason)
  | _ => True

variable {bad : Failure → Prop}

lemma avoids_ok (a : α) : Avoids bad (.ok a) := by
  intro failure h
  cases h

lemma avoids_error {failure : Failure} (hf : ¬bad failure) :
    Avoids bad (.error failure : Except Failure α) := by
  intro other h
  cases h
  exact hf

lemma IsSpecial.avoids_error (hbad : IsSpecial bad) {failure : Failure}
    (hf : failure.isOrdinary = true) : Avoids bad (.error failure : Except Failure α) :=
  SearchIndex.avoids_error (hbad failure hf)

lemma Avoids.bind {e : Except Failure α} {f : α → Except Failure β} (he : Avoids bad e)
    (hf : ∀ a, Avoids bad (f a)) : Avoids bad (e >>= f) := by
  cases e with
  | error failure => exact SearchIndex.avoids_error (he failure rfl)
  | ok a => exact hf a

lemma Avoids.map {e : Except Failure α} (he : Avoids bad e) (f : α → β) :
    Avoids bad (e.map f) := by
  cases e with
  | error failure => exact SearchIndex.avoids_error (he failure rfl)
  | ok a => exact avoids_ok _

/-- A failure that goes on as that of something else. -/
lemma Avoids.error {e : Except Failure α} (he : Avoids bad e) {failure : Failure}
    (h : e = .error failure) : Avoids bad (.error failure : Except Failure β) :=
  SearchIndex.avoids_error (he failure h)

/-! ## Answers -/

lemma avoids_judge (hbad : IsSpecial bad) {answer : Answer} (hanswer : answer.Admits bad)
    (method path : String) (ignored : List Int) :
    Avoids bad (answer.judge method path ignored) := by
  cases answer with
  | unreachable reason => exact hbad.avoids_error rfl
  | unsent reason => exact avoids_error hanswer
  | reply status body =>
    rw [Answer.judge]
    split
    · exact avoids_ok _
    · exact hbad.avoids_error rfl

lemma avoids_statusOf (hbad : IsSpecial bad) (j : Json) : Avoids bad (statusOf j) := by
  unfold statusOf
  split
  · exact avoids_ok _
  · exact avoids_ok _
  · split
    · exact avoids_ok _
    · exact hbad.avoids_error rfl
  · dsimp only
    split
    · exact avoids_ok _
    · exact hbad.avoids_error rfl
  · exact hbad.avoids_error rfl

lemma avoids_judgeItem (hbad : IsSpecial bad) (r : WorkRequest) (item : Json) :
    Avoids bad (judgeItem r item) := by
  unfold judgeItem
  split
  · split
    · refine (avoids_statusOf hbad _).bind fun status => ?_
      split <;> exact avoids_ok _
    · exact hbad.avoids_error rfl
  · exact hbad.avoids_error rfl

lemma avoids_judgeItems (hbad : IsSpecial bad) (group : List WorkRequest) (items : List Json) :
    Avoids bad (judgeItems group items) := by
  induction group generalizing items with
  | nil => exact avoids_ok _
  | cons r group ih =>
    cases items with
    | nil => exact avoids_ok _
    | cons item items =>
      refine (avoids_judgeItem hbad r item).bind fun verdict => ?_
      exact (ih items).bind fun others => avoids_ok _

lemma avoids_listedItems (hbad : IsSpecial bad) (body : Json) :
    Avoids bad (listedItems body) := by
  unfold listedItems
  split
  · exact avoids_ok _
  · split
    · split
      · exact avoids_ok _
      · exact avoids_ok _
      · exact avoids_ok _
      · exact hbad.avoids_error rfl
    · exact hbad.avoids_error rfl

lemma avoids_judgeBulk (hbad : IsSpecial bad) (group : List WorkRequest) (response : Response) :
    Avoids bad (judgeBulk group response) := by
  refine (avoids_listedItems hbad _).bind fun items => ?_
  split
  · exact hbad.avoids_error rfl
  · exact avoids_judgeItems hbad group items

lemma avoids_reportsExisting (hbad : IsSpecial bad) (status : Int) (body : Json) :
    Avoids bad (reportsExisting status body) := by
  unfold reportsExisting
  split
  · exact avoids_ok _
  · split
    · split
      · split
        · exact avoids_ok _
        · exact hbad.avoids_error rfl
        · exact hbad.avoids_error rfl
        · exact avoids_ok _
      · exact avoids_ok _
    · exact avoids_ok _

/-! ## Schemas that are read -/

lemma avoids_ofRemote_attributes (hbad : IsSpecial bad) (members : Json.Members) :
    Avoids bad (Attributes.ofRemote members) := by
  rw [Attributes.ofRemote]
  cases checkAttributes (optional members "type" (FieldType.of .object) checkFieldType) members with
  | valid a => exact avoids_ok a
  | invalid issues => exact hbad.avoids_error rfl

mutual

/-- The three functions that read fields call each other. -/
lemma avoids_ofRemote_property (hbad : IsSpecial bad) (j : Json) :
    Avoids bad (Property.ofRemote j) := by
  cases j with
  | object members =>
    rw [Property.ofRemote]
    refine (avoids_propertiesOfRemote hbad members).bind fun children => ?_
    exact (avoids_ofRemote_attributes hbad members).bind fun attributes => avoids_ok _
  | _ => exact hbad.avoids_error rfl

lemma avoids_propertiesOfRemote (hbad : IsSpecial bad) (members : List (String × Json)) :
    Avoids bad (propertiesOfRemote members) := by
  cases members with
  | nil => rw [propertiesOfRemote]; exact avoids_ok _
  | cons entry rest =>
    obtain ⟨name, j⟩ := entry
    rw [propertiesOfRemote.eq_def]
    dsimp only
    split
    · split
      · exact avoids_fieldsOfRemote hbad _
      · exact hbad.avoids_error rfl
    · exact avoids_propertiesOfRemote hbad rest

lemma avoids_fieldsOfRemote (hbad : IsSpecial bad) (members : List (String × Json)) :
    Avoids bad (fieldsOfRemote members) := by
  cases members with
  | nil => rw [fieldsOfRemote]; exact avoids_ok _
  | cons entry rest =>
    obtain ⟨name, j⟩ := entry
    rw [fieldsOfRemote]
    refine (avoids_ofRemote_property hbad j).bind fun p => ?_
    exact (avoids_fieldsOfRemote hbad rest).bind fun others => avoids_ok _

end

lemma avoids_ofRemote_mapping (hbad : IsSpecial bad) (j : Json) :
    Avoids bad (TypeMapping.ofRemote j) := by
  cases j with
  | object members =>
    exact (avoids_propertiesOfRemote hbad members).bind fun fields => avoids_ok _
  | _ => exact hbad.avoids_error rfl

lemma avoids_mappingsOfRemote (hbad : IsSpecial bad) (members : List (String × Json)) :
    Avoids bad (mappingsOfRemote members) := by
  induction members with
  | nil => exact avoids_ok _
  | cons entry rest ih =>
    obtain ⟨name, j⟩ := entry
    refine (avoids_ofRemote_mapping hbad j).bind fun mapping => ?_
    exact ih.bind fun others => avoids_ok _

lemma avoids_membersOf (hbad : IsSpecial bad) (body : Json) :
    Avoids bad (Schema.membersOf body) := by
  unfold Schema.membersOf
  split
  · exact avoids_ok _
  · split
    · exact avoids_ok _
    · exact hbad.avoids_error rfl

lemma avoids_mappingsOf (hbad : IsSpecial bad) (index : String) (body : Json) :
    Avoids bad (Schema.mappingsOf index body) := by
  refine (avoids_membersOf hbad body).bind fun members => ?_
  dsimp only
  split
  · split
    · exact avoids_mappingsOfRemote hbad _
    · exact hbad.avoids_error rfl
  · exact hbad.avoids_error rfl

lemma avoids_compare (hbad : IsSpecial bad) (policy : Compatibility) (target : IndexSchema)
    (actual : Table TypeMapping) : Avoids bad (Comparison.compare policy target actual) := by
  unfold Comparison.compare
  dsimp only
  split
  · exact hbad.avoids_error rfl
  · exact avoids_ok _

lemma avoids_mapping (hbad : IsSpecial bad) (e : EntityDescriptor) (options : SchemaOptions) :
    Avoids bad (e.mapping options) := by
  rw [EntityDescriptor.mapping]
  split
  · exact avoids_ok _
  · exact hbad.avoids_error rfl

/-! ## Settings that are given -/

lemma avoids_entryOf (hbad : IsSpecial bad) (item : Json) : Avoids bad (entryOf item) := by
  have hparts : Avoids bad (Compatibility.itemsOf item) := by
    unfold Compatibility.itemsOf
    split
    · exact avoids_ok _
    · exact avoids_ok _
    · exact avoids_ok _
    · exact hbad.avoids_error rfl
  refine hparts.bind fun parts => ?_
  split
  · split
    · exact avoids_ok _
    · exact hbad.avoids_error rfl
    · exact hbad.avoids_error rfl
    · exact avoids_ok _
  · exact hbad.avoids_error rfl

lemma avoids_entriesOf (hbad : IsSpecial bad) (items : List Json) (members : Json.Members) :
    Avoids bad (entriesOf items members) := by
  induction items generalizing members with
  | nil => exact avoids_ok _
  | cons item rest ih =>
    refine (avoids_entryOf hbad item).bind fun entry => ?_
    split
    · exact ih _
    · exact ih _

lemma avoids_membersGiven (hbad : IsSpecial bad) (data : Json) :
    Avoids bad (membersGiven data) := by
  unfold membersGiven
  split
  · exact avoids_ok _
  · split
    · exact avoids_ok _
    · exact avoids_entriesOf hbad _ _
    · exact hbad.avoids_error rfl
    · exact hbad.avoids_error rfl

lemma avoids_settings (hbad : IsSpecial bad) (p : Properties) (index : String) :
    Avoids bad (p.settings index) := by
  cases p with
  | settled settings => exact avoids_ok _
  | raw data =>
    refine (avoids_membersGiven hbad data).bind fun members => ?_
    split
    · exact avoids_ok _
    · exact hbad.avoids_error rfl

/-! ## Actions -/

namespace Action

/-- An action that avoids certain failures as long as no call is answered with one. -/
def Avoids (bad : Failure → Prop) (a : Action α) : Prop :=
  ∀ calls result, a.Runs calls result → (∀ x ∈ calls, x.2.Admits bad) →
    SearchIndex.Avoids bad result

namespace Avoids

lemma ofExcept {e : Except Failure α} (he : SearchIndex.Avoids bad e) :
    Avoids bad (ofExcept e) := by
  intro calls result h hcalls
  obtain ⟨rfl, rfl⟩ := runs_ofExcept.1 h
  exact he

lemma pure (a : α) : Avoids bad (pure a : Action α) := ofExcept (avoids_ok a)

/-- Nothing follows a failure. -/
lemma throw_bind (hbad : IsSpecial bad) {failure : Failure} (hf : failure.isOrdinary = true)
    {f : α → Action β} : Avoids bad ((throw failure : Action α) >>= f) := by
  intro calls result h hcalls
  obtain ⟨rfl, rfl⟩ := runs_throw_bind.1 h
  exact hbad.avoids_error hf

lemma throw (hbad : IsSpecial bad) {failure : Failure} (hf : failure.isOrdinary = true) :
    Avoids bad (throw failure : Action α) := ofExcept (hbad.avoids_error hf)

lemma note (level : Log.Level) (source : Log.Source) (text : String) :
    Avoids bad (note level source text) := by
  intro calls result h hcalls
  rw [(runs_note.1 h).2]
  exact avoids_ok ()

lemma bind {a : Action α} {f : α → Action β} (ha : Avoids bad a) (hf : ∀ x, Avoids bad (f x)) :
    Avoids bad (a >>= f) := by
  intro calls result h hcalls
  rcases runs_bind.1 h with ⟨failure, hfailed, rfl⟩ | ⟨x, before, after, hbefore, hafter, rfl⟩
  · exact (ha calls _ hfailed hcalls).error rfl
  · exact hf x after result hafter fun y hy => hcalls y (List.mem_append_right before hy)

lemma map {a : Action α} (ha : Avoids bad a) (f : α → β) : Avoids bad (f <$> a) := by
  intro calls result h hcalls
  obtain ⟨r, hr, rfl⟩ := runs_map.1 h
  exact (ha calls r hr hcalls).map f

/-- What handles a failure handles one that is avoided. -/
lemma tryCatch {a : Action α} {handle : Failure → Action α} (ha : Avoids bad a)
    (hhandle : ∀ failure, ¬bad failure → Avoids bad (handle failure)) :
    Avoids bad (tryCatch a handle) := by
  intro calls result h hcalls
  rcases runs_tryCatch.1 h with ⟨x, hx, rfl⟩ | ⟨failure, before, after, hfailed, hafter, rfl⟩
  · exact avoids_ok x
  · have hgood : ¬bad failure :=
      ha before _ hfailed (fun y hy => hcalls y (List.mem_append_left after hy)) failure rfl
    exact hhandle failure hgood after result hafter fun y hy =>
      hcalls y (List.mem_append_right before hy)

lemma request (hbad : IsSpecial bad) (call : Call) (ignored : List Int) :
    Avoids bad (request call ignored) := by
  intro calls result h hcalls
  obtain ⟨answer, rfl, rfl⟩ := runs_request.1 h
  exact avoids_judge hbad (hcalls _ List.mem_cons_self) _ _ _

end Avoids

end Action

/-! ## Schema operations -/

namespace Schema

open SearchIndex.Action

variable (hbad : IsSpecial bad)

include hbad

lemma avoids_exists (index : String) : Action.Avoids bad (exists? index) :=
  (Avoids.request hbad _ _).bind fun _ => .pure _

lemma avoids_drop (index : String) (options : SchemaOptions) :
    Action.Avoids bad (drop index options) := by
  refine (Avoids.request hbad _ _).bind fun response => ?_
  split
  · exact .pure _
  · exact (Avoids.note _ _ _).bind fun _ => .pure _

/-- A failure of the creation is handled by raising it again, or by a failure to read the answer. -/
lemma avoids_create (target : IndexSchema) (mayExist : Bool) :
    Action.Avoids bad (create target mayExist) := by
  rw [create]
  refine Action.Avoids.bind (Avoids.tryCatch ?_ fun failure hgood => ?_) fun ended => ?_
  · exact (Avoids.request hbad _ _).bind fun _ => .pure _
  · have hagain : Action.Avoids bad (throw failure : Action (Except Bool Unit)) :=
      Avoids.ofExcept (avoids_error hgood)
    split
    · refine (Avoids.ofExcept (avoids_reportsExisting hbad _ _)).bind fun existing => ?_
      split
      · exact (Avoids.note _ _ _).bind fun _ => .pure _
      · exact hagain
    · exact hagain
  · cases ended with
    | error early => exact Avoids.pure early
    | ok u => exact (Avoids.note _ _ _).bind fun _ => .pure _

lemma avoids_mappings (index : String) : Action.Avoids bad (mappings? index) := by
  refine (Avoids.request hbad _ _).bind fun response => ?_
  split
  · exact .pure _
  · exact (Avoids.ofExcept (avoids_mappingsOf hbad index _)).bind fun _ => .pure _

lemma avoids_putMapping (index entityType : String) (mapping : TypeMapping) :
    Action.Avoids bad (putMapping index entityType mapping) :=
  (Avoids.request hbad _ _).bind fun _ => .note _ _ _

lemma avoids_awaitHealth (index : String) (options : SchemaOptions) :
    Action.Avoids bad (awaitHealth index options) := by
  refine (Avoids.request hbad _ _).bind fun response => ?_
  refine (Avoids.ofExcept (avoids_membersOf hbad _)).bind fun members => ?_
  dsimp only
  split
  · exact .throw_bind hbad rfl
  · exact .note _ _ _

lemma avoids_createNew (target : IndexSchema) (options : SchemaOptions) :
    Action.Avoids bad (createNew target options) :=
  (avoids_create hbad target false).bind fun _ => avoids_awaitHealth hbad _ options

lemma avoids_createIfAbsent (target : IndexSchema) (options : SchemaOptions) :
    Action.Avoids bad (createIfAbsent target options) := by
  have hhealth := avoids_awaitHealth hbad target.name options
  refine (avoids_exists hbad _).bind fun found => ?_
  split
  · exact (Avoids.note _ _ _).bind fun _ => hhealth.bind fun _ => .pure _
  · exact (avoids_create hbad target true).bind fun _ => hhealth.bind fun _ => .pure _

lemma avoids_dropIfExisting (index : String) (options : SchemaOptions) :
    Action.Avoids bad (dropIfExisting index options) := by
  refine (avoids_exists hbad index).bind fun found => ?_
  split
  · exact avoids_drop hbad index options
  · exact (Avoids.note _ _ _).bind fun _ => .pure _

lemma avoids_putPlan (index : String) (plan : Table TypeMapping) :
    Action.Avoids bad (putPlan index plan) := by
  induction plan with
  | nil => exact .pure ()
  | cons entry rest ih =>
    obtain ⟨entityType, mapping⟩ := entry
    rw [putPlan]
    have hput := avoids_putMapping hbad index entityType mapping
    refine Action.Avoids.bind (Avoids.tryCatch hput fun failure hgood => ?_) fun _ => ih
    split
    · exact Avoids.throw hbad rfl
    · exact Avoids.ofExcept (avoids_error hgood)

lemma avoids_merge (policy : Compatibility) (target : IndexSchema) (options : SchemaOptions) :
    Action.Avoids bad (merge policy target options) := by
  have hhealth := avoids_awaitHealth hbad target.name options
  refine (avoids_exists hbad target.name).bind fun found => ?_
  split
  · refine hhealth.bind fun _ => (avoids_mappings hbad target.name).bind fun existing => ?_
    dsimp only
    split
    · exact avoids_putPlan hbad _ _
    · exact .throw_bind hbad rfl
  · refine (Avoids.note _ _ _).bind fun _ => ?_
    exact (avoids_create hbad target true).bind fun _ => hhealth

lemma avoids_validate (policy : Compatibility) (target : IndexSchema) (options : SchemaOptions) :
    Action.Avoids bad (validate policy target options) := by
  refine (avoids_exists hbad target.name).bind fun found => ?_
  dsimp only
  split
  · refine (avoids_awaitHealth hbad target.name options).bind fun _ => ?_
    refine (avoids_mappings hbad target.name).bind fun existing => ?_
    refine (Avoids.ofExcept (avoids_compare hbad policy target _)).bind fun mismatches => ?_
    split
    · exact .note _ _ _
    · exact (Avoids.note _ _ _).bind fun _ => .throw_bind hbad rfl
  · exact .throw_bind hbad rfl

lemma avoids_runTargeted (policy : Compatibility) (options : SchemaOptions) (target : IndexSchema)
    (step : SchemaStep) : Action.Avoids bad (runTargeted policy options target step) := by
  cases step with
  | validate => exact avoids_validate hbad policy target options
  | merge => exact avoids_merge hbad policy target options
  | createIfAbsent => exact (avoids_createIfAbsent hbad target options).bind fun _ => .pure _
  | create => exact avoids_createNew hbad target options
  | dropIfExisting => exact .pure _

lemma avoids_runUntargeted (index : String) (options : SchemaOptions) :
    Action.Avoids bad (runUntargeted index options) :=
  (avoids_dropIfExisting hbad index options).bind fun _ => .pure _

/-- Only one strategy has an operation for destroying, which drops the index. -/
lemma avoids_runOnDestroy (policy : Compatibility) (strategy : Strategy) (index : String)
    (options : SchemaOptions) :
    Action.Avoids bad (runOnDestroy policy strategy index options) := by
  refine Action.Avoids.bind ?_ fun _ => .pure _
  cases strategy with
  | recreateDelete =>
    refine (Avoids.note _ _ _).bind fun _ => ?_
    exact (avoids_runUntargeted hbad index options).bind fun _ => .pure _
  | _ => exact .pure _

end Schema

/-! ## Targets -/

lemma avoids_mappingsOf_types (hbad : IsSpecial bad) (c : Configuration)
    (descriptors : Table EntityDescriptor) (entityTypes : List String) :
    Action.Avoids bad (Manager.mappingsOf c descriptors entityTypes) := by
  induction entityTypes with
  | nil => exact .pure _
  | cons entityType rest ih =>
    rw [Manager.mappingsOf]
    split
    · exact .throw hbad rfl
    · rename_i descriptor _
      have hmapping : Action.Avoids bad (Manager.mappingOf descriptor c.options) :=
        (Action.Avoids.ofExcept (avoids_mapping hbad descriptor c.options)).bind fun _ =>
          (Action.Avoids.note _ _ _).bind fun _ => .pure _
      exact hmapping.bind fun _ => ih.bind fun _ => .pure _

/-- A manager that knows its index can be asked for the target. -/
lemma avoids_target (hbad : IsSpecial bad) {m : Manager} {c : Configuration}
    (hc : m.configuration = some c) (descriptors : Table EntityDescriptor) :
    Action.Avoids bad (m.target descriptors) := by
  have hconfigured : m.configured = .ok c := by rw [Manager.configured, hc]
  rw [Manager.target, hconfigured]
  refine (Action.Avoids.pure c).bind fun c => ?_
  exact (avoids_mappingsOf_types hbad c descriptors _).bind fun _ => .pure _

end SearchIndex
