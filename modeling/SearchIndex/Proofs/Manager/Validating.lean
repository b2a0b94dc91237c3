/-
# An index that was created is valid

A manager that creates its index has the service store the translation of its descriptors.  What the
service reports of the index from then on is that translation, in the order of its names, and a
comparison with it finds nothing (`Manager.valid_of_bind`).  So another manager that only validates
can be bound to the same index with the same descriptors, whatever policy it compares types by.
-/
import SearchIndex.Proofs.Schema.Keeping

namespace SearchIndex

open Schema

variable {ω : Type} {serve : ω → Call → Answer × ω} {outside after : ω}

namespace Manager

variable {c : Configuration} {descriptors : Table EntityDescriptor} {name : String}

/-! ## The translation of descriptors -/

/-- An entity type has a descriptor, and that has a mapping. -/
def Translates (c : Configuration) (descriptors : Table EntityDescriptor) (entityType : String) :
    Prop :=
  ∃ descriptor mapping, Table.get? descriptors entityType = some descriptor ∧
    descriptor.mapping? c.options = .ok mapping

/-- The mapping of an entity type, if it has one. -/
def translation? (c : Configuration) (descriptors : Table EntityDescriptor) (entityType : String) :
    Option TypeMapping :=
  (Table.get? descriptors entityType).bind fun descriptor =>
    (descriptor.mapping? c.options).toOption

/-- The target schema of an index that contains some entity types. -/
def translation (c : Configuration) (descriptors : Table EntityDescriptor)
    (contained : List String) : IndexSchema :=
  ⟨c.actualName, (sortTexts contained).filterMap fun entityType =>
    (translation? c descriptors entityType).map fun mapping => (entityType, mapping)⟩

lemma translation?_of_get? {entityType : String} {descriptor : EntityDescriptor}
    {mapping : TypeMapping} (hget : Table.get? descriptors entityType = some descriptor)
    (hmapping : descriptor.mapping? c.options = .ok mapping) :
    translation? c descriptors entityType = some mapping := by
  simp [translation?, hget, hmapping, Except.toOption]

lemma mem_translation {contained : List String} {entry : String × TypeMapping} :
    entry ∈ (translation c descriptors contained).mappings ↔
      entry.1 ∈ contained ∧ translation? c descriptors entry.1 = some entry.2 := by
  obtain ⟨entityType, mapping⟩ := entry
  simp only [translation, List.mem_filterMap, (perm_sortTexts contained).mem_iff,
    Option.map_eq_some_iff, Prod.mk.injEq]
  constructor
  · rintro ⟨_, hmem, _, hmapping, rfl, rfl⟩
    exact ⟨hmem, hmapping⟩
  · rintro ⟨hmem, hmapping⟩
    exact ⟨entityType, hmem, mapping, hmapping, rfl, rfl⟩

/-- Entity types that translate are all in the target. -/
lemma keys_translation {contained : List String}
    (h : ∀ entityType ∈ contained, Translates c descriptors entityType) :
    Table.keys (translation c descriptors contained).mappings = sortTexts contained := by
  have hsome : ∀ entityType ∈ sortTexts contained,
      ((translation? c descriptors entityType).map fun mapping => (entityType, mapping)).map
        Prod.fst = some entityType := by
    intro entityType hmem
    obtain ⟨descriptor, mapping, hget, hmapping⟩ := h entityType ((perm_sortTexts _).mem_iff.1 hmem)
    simp [translation?_of_get? hget hmapping]
  show ((sortTexts contained).filterMap _).map Prod.fst = _
  rw [List.map_filterMap, List.filterMap_congr hsome, List.filterMap_some]

/-- No name occurs twice in a mapping that a descriptor is translated to. -/
lemma isDistinct_of_translation? {entityType : String} {mapping : TypeMapping}
    (h : translation? c descriptors entityType = some mapping) : mapping.fields.IsDistinct := by
  obtain ⟨descriptor, -, hmapping⟩ := Option.bind_eq_some_iff.1 h
  cases hresult : descriptor.mapping? c.options with
  | error problem =>
    rw [hresult] at hmapping
    cases hmapping
  | ok translated =>
    rw [hresult] at hmapping
    obtain rfl := Option.some.inj hmapping
    exact EntityDescriptor.isDistinct_of_mapping? hresult

/-- The translations of entity types depend on the options only in whether documents carry
tenants. -/
lemma translation?_congr {c' : Configuration}
    (h : c'.options.multitenancy = c.options.multitenancy) (entityType : String) :
    translation? c' descriptors entityType = translation? c descriptors entityType := by
  simp only [translation?, EntityDescriptor.mapping?, h]

/-- The mappings of entity types that translate are made without a call. -/
lemma served_mappingsOf {entityTypes : List String}
    (h : ∀ entityType ∈ entityTypes, Translates c descriptors entityType) :
    (mappingsOf c descriptors entityTypes).served serve outside =
      (.ok (entityTypes.filterMap fun entityType =>
        (translation? c descriptors entityType).map fun mapping => (entityType, mapping)),
        outside) := by
  induction entityTypes with
  | nil => rfl
  | cons entityType rest ih =>
    obtain ⟨⟨descriptor, mapping, hget, hmapping⟩, hrest⟩ := List.forall_mem_cons.1 h
    have htranslation := translation?_of_get? hget hmapping
    have hmapped : (mappingOf descriptor c.options).served serve outside =
        (.ok mapping, outside) := by
      rw [mappingOf, EntityDescriptor.mapping, hmapping]
      rfl
    rw [mappingsOf, hget]
    refine (Action.served_bind_of_ok hmapped).trans ?_
    refine (Action.served_bind_of_ok (ih hrest)).trans ?_
    simp [htranslation]

/-- The target of a manager whose entity types translate is their translation. -/
lemma served_target_of_translates {m : Manager} (hc : m.configuration = some c)
    (h : ∀ entityType ∈ m.contained, Translates c descriptors entityType) :
    (m.target descriptors).served serve outside =
      (.ok (translation c descriptors m.contained), outside) := by
  have hsorted : ∀ entityType ∈ sortTexts m.contained, Translates c descriptors entityType :=
    fun entityType hmem => h entityType ((perm_sortTexts _).mem_iff.1 hmem)
  rw [target, configured, hc]
  exact Action.served_bind_of_ok (served_mappingsOf hsorted)

/-- Building the target of a manager whose entity types translate adds to the log at most. -/
lemma transcript_buildTarget_of_translates (serve : ω → Call → Answer × ω) {s : Shared}
    (hc : (s.manager name).configuration = some c)
    (h : ∀ entityType ∈ (s.manager name).contained, Translates c descriptors entityType)
    (outside : ω) : ∃ log calls,
    (buildTarget name descriptors).transcript serve s outside =
      ⟨.ok (translation c descriptors (s.manager name).contained), { s with log := log }, outside,
        calls⟩ := by
  have htarget : ((s.manager name).target descriptors).served serve outside =
      (.ok (translation c descriptors (s.manager name).contained), outside) :=
    served_target_of_translates hc h
  obtain ⟨log, calls, ht⟩ := Action.transcript_of_served htarget s
  refine ⟨log, calls, ?_⟩
  simp [buildTarget, ht]

/-! ## Operations of a strategy -/

section Running

variable {s : Shared} (hc : (s.manager name).configuration = some c)
  (h : ∀ entityType ∈ (s.manager name).contained, Translates c descriptors entityType)
include hc h

/-- An operation on a target that can be built ends as it is served. -/
lemma transcript_runSteps_of_served {step : SchemaStep} (hneeds : step.needsTarget = true)
    (policy : Compatibility)
    (hserved : (runTargeted policy c.options
      (translation c descriptors (s.manager name).contained) step).served serve outside =
        (.ok (), after)) : ∃ built log calls,
    (runSteps Activity.ofAction policy c.strategy c.actualName (buildTarget name descriptors)
        c.options none [step]).transcript serve s outside =
      ⟨.ok built, { s with log := log }, after, calls⟩ := by
  obtain ⟨log, hannounce⟩ := transcript_announce serve c.strategy c.actualName step s outside
  let announced : Shared := { s with log := log }
  have hc' : (announced.manager name).configuration = some c := hc
  obtain ⟨log', calls, htarget⟩ := transcript_buildTarget_of_translates serve hc' h outside
  obtain ⟨log'', calls', hstep⟩ := Action.transcript_of_served hserved { s with log := log' }
  refine ⟨some (translation c descriptors (s.manager name).contained), log'', calls ++ calls', ?_⟩
  have hbuilt : (announced.manager name).contained = (s.manager name).contained := rfl
  rw [hbuilt] at htarget
  simp [runSteps, hneeds, hannounce, htarget, hstep, announced, Except.map]

/-- The index is dropped before an operation on a target that can be built. -/
lemma transcript_runSteps_of_served_drop {step : SchemaStep} (hneeds : step.needsTarget = true)
    (policy : Compatibility) {dropped : Bool} {between : ω}
    (hdrop : (dropIfExisting c.actualName c.options).served serve outside = (.ok dropped, between))
    (hserved : (runTargeted policy c.options
      (translation c descriptors (s.manager name).contained) step).served serve between =
        (.ok (), after)) : ∃ built log calls,
    (runSteps Activity.ofAction policy c.strategy c.actualName (buildTarget name descriptors)
        c.options none [.dropIfExisting, step]).transcript serve s outside =
      ⟨.ok built, { s with log := log }, after, calls⟩ := by
  obtain ⟨log, hannounce⟩ :=
    transcript_announce serve c.strategy c.actualName .dropIfExisting s outside
  obtain ⟨log', calls, hdropped⟩ := Action.transcript_of_served hdrop { s with log := log }
  let emptied : Shared := { s with log := log' }
  have hc' : (emptied.manager name).configuration = some c := hc
  obtain ⟨built, log'', calls', hstep⟩ :=
    transcript_runSteps_of_served (s := emptied) hc' h hneeds policy hserved
  refine ⟨built, log'', calls ++ calls', ?_⟩
  rw [runSteps]
  simp [SchemaStep.needsTarget, hannounce, runUntargeted, hdropped, emptied] at hstep ⊢
  simp [hstep]

end Running

/-- A manager is bound once the operations of its strategy have run. -/
lemma transcript_bind_of_runSteps {s : Shared} (hstate : (s.manager name).state = .initialized)
    (hc : (s.manager name).configuration = some c)
    (h : ∃ built log calls,
      (runSteps Activity.ofAction s.policy c.strategy c.actualName (buildTarget name descriptors)
          c.options none c.strategy.onBind).transcript serve s outside =
        ⟨.ok built, { s with log := log }, after, calls⟩) :
    ((bind name descriptors).transcript serve s outside).result = .ok () ∧
      ((bind name descriptors).transcript serve s outside).outside = after := by
  obtain ⟨built, log, calls, hsteps⟩ := h
  constructor <;> simp [bind, require, hstate, configured, hc, runOnBind, hsteps]

/-! ## What is created is valid -/

/-- Mappings are the translations of entity types, each with its fields in the order of their names
at every depth. -/
structure AreTranslations (c : Configuration) (descriptors : Table EntityDescriptor)
    (contained : List String) (existing : Table TypeMapping) : Prop where
  /-- There is a mapping for each entity type and for no other. -/
  types : (Table.keys existing).Perm contained
  /-- A mapping says what the translation says, and but for the order it is the translation. -/
  mappings : ∀ entry ∈ existing, ∃ wanted, translation? c descriptors entry.1 = some wanted ∧
    entry.2 = wanted.inOrder ∧ entry.2.fields.Alike wanted.fields

lemma areTranslations_reported {contained : List String}
    (h : ∀ entityType ∈ contained, Translates c descriptors entityType) :
    AreTranslations c descriptors contained (translation c descriptors contained).reported where
  types := by
    have hsorted := (Table.perm_sorted (translation c descriptors contained).mappings).map Prod.fst
    have hkeys := keys_translation h
    rw [Table.keys] at hkeys
    rw [hkeys] at hsorted
    have hreported : Table.keys (translation c descriptors contained).reported =
        (Table.sorted (translation c descriptors contained).mappings).map Prod.fst := by
      simp [IndexSchema.reported, Table.keys, Table.mapValues, Function.comp_def]
    rw [hreported]
    exact hsorted.trans (perm_sortTexts contained)
  mappings entry hmem := by
    obtain ⟨⟨entityType, wanted⟩, hwanted, rfl⟩ := List.mem_map.1 hmem
    have htarget := (Table.perm_sorted (translation c descriptors contained).mappings).mem_iff.1
      hwanted
    exact ⟨wanted, (mem_translation.1 htarget).2, rfl, wanted.fields.alike_sortedDeep⟩

/-- A comparison of translations with what is reported of them, and maybe of others, finds
nothing. -/
lemma compare_reported {c' : Configuration} {contained contained' : List String}
    (h : ∀ entityType ∈ contained, Translates c descriptors entityType)
    (hsub : ∀ entityType ∈ contained', entityType ∈ contained)
    (htenancy : c'.options.multitenancy = c.options.multitenancy) (policy : Compatibility) :
    Comparison.compare policy (translation c' descriptors contained')
      (translation c descriptors contained).reported = .ok [] := by
  refine Comparison.compare_eq_ok_nil_iff.2 fun entry hmem => ?_
  obtain ⟨hcontained, hwanted⟩ := mem_translation.1 hmem
  rw [translation?_congr htenancy] at hwanted
  have hreported := areTranslations_reported h
  have hkey : entry.1 ∈ Table.keys (translation c descriptors contained).reported :=
    hreported.types.mem_iff.2 (hsub _ hcontained)
  obtain ⟨found, hfound⟩ : ∃ found,
      Table.get? (translation c descriptors contained).reported entry.1 = some found := by
    rw [← Option.ne_none_iff_exists']
    exact fun hnone => Table.get?_eq_none_iff.1 hnone hkey
  obtain ⟨wanted, hwanted', -, halike⟩ :=
    hreported.mappings _ (Table.mem_of_get?_eq_some hfound)
  obtain rfl := Option.some.inj (hwanted.symm.trans hwanted')
  exact ⟨found, hfound, Comparison.fits_of_alike (isDistinct_of_translation? hwanted) halike.symm⟩

section Keeping

variable {s : Shared} {stored : ω → Option Json}
  (hstate : (s.manager name).state = .initialized)
  (hc : (s.manager name).configuration = some c)
  (htranslates : ∀ entityType ∈ (s.manager name).contained, Translates c descriptors entityType)
include hstate hc htranslates

/-- A manager that creates its index is bound, and has the service store its target. -/
lemma stored_of_bind
    (hkeeps : KeepsIndex serve c.actualName
      (translation c descriptors (s.manager name).contained).toRemote stored)
    (hstrategy : c.strategy = .create ∧ stored outside = none ∨
      c.strategy = .recreate ∨ c.strategy = .recreateDelete) :
    ((bind name descriptors).transcript serve s outside).result = .ok () ∧
      stored ((bind name descriptors).transcript serve s outside).outside =
        some (translation c descriptors (s.manager name).contained).toRemote := by
  have hname : (translation c descriptors (s.manager name).contained).name = c.actualName := rfl
  rcases hstrategy with ⟨hcreate, hstored⟩ | hrecreate
  · obtain ⟨after, hserved, hafter⟩ := hkeeps.served_createIfAbsent hname rfl c.options hstored
    have hneeds : SchemaStep.createIfAbsent.needsTarget = true := rfl
    have hsteps := transcript_runSteps_of_served hc htranslates hneeds s.policy
      (Action.served_bind_of_ok hserved)
    have honBind : c.strategy.onBind = [.createIfAbsent] := by
      rw [hcreate]
      rfl
    rw [← honBind] at hsteps
    obtain ⟨hresult, houtside⟩ := transcript_bind_of_runSteps hstate hc hsteps
    exact ⟨hresult, (congrArg stored houtside).trans hafter⟩
  · obtain ⟨dropped, between, hdrop, hbetween⟩ := hkeeps.served_dropIfExisting c.options outside
    obtain ⟨after, hserved, hafter⟩ := hkeeps.served_createNew hname rfl c.options hbetween
    have hneeds : SchemaStep.create.needsTarget = true := rfl
    have hsteps :=
      transcript_runSteps_of_served_drop hc htranslates hneeds s.policy hdrop hserved
    have honBind : c.strategy.onBind = [.dropIfExisting, .create] := by
      rcases hrecreate with h | h <;> rw [h] <;> rfl
    rw [← honBind] at hsteps
    obtain ⟨hresult, houtside⟩ := transcript_bind_of_runSteps hstate hc hsteps
    exact ⟨hresult, (congrArg stored houtside).trans hafter⟩

/-- A manager that validates its index is bound if the index was created with a target that its own
compares with. -/
lemma bound_of_validate {target : IndexSchema}
    (hkeeps : KeepsIndex serve c.actualName target.toRemote stored)
    (hvalidate : c.strategy = .validate) (hstored : stored outside = some target.toRemote)
    (hcompare : Comparison.compare s.policy
      (translation c descriptors (s.manager name).contained) target.reported = .ok []) :
    ((bind name descriptors).transcript serve s outside).result = .ok () := by
  have hname : (translation c descriptors (s.manager name).contained).name = c.actualName := rfl
  obtain ⟨after, hserved⟩ := hkeeps.served_validate hname rfl hstored hcompare c.options
  have hneeds : SchemaStep.validate.needsTarget = true := rfl
  have hsteps := transcript_runSteps_of_served hc htranslates hneeds s.policy hserved
  have honBind : c.strategy.onBind = [.validate] := by
    rw [hvalidate]
    rfl
  rw [← honBind] at hsteps
  exact (transcript_bind_of_runSteps hstate hc hsteps).1

end Keeping

/-- **What is created is valid.**  A manager that creates its index, or creates it anew, is bound
and leaves the translation of its descriptors with the service.  As long as that is kept there, the
mappings of the index are read as this translation and compare with it without a mismatch, and a
manager that validates the index is bound with the same descriptors. -/
theorem valid_of_bind {s : Shared} {stored : ω → Option Json}
    (hstate : (s.manager name).state = .initialized)
    (hc : (s.manager name).configuration = some c)
    (htranslates : ∀ entityType ∈ (s.manager name).contained, Translates c descriptors entityType)
    (hkeeps : KeepsIndex serve c.actualName
      (translation c descriptors (s.manager name).contained).toRemote stored)
    (hstrategy : c.strategy = .create ∧ stored outside = none ∨
      c.strategy = .recreate ∨ c.strategy = .recreateDelete) :
    let target := translation c descriptors (s.manager name).contained
    let created := (bind name descriptors).transcript serve s outside
    created.result = .ok () ∧ stored created.outside = some target.toRemote ∧
      ∀ later, stored later = some target.toRemote →
        (∃ existing, ((mappings? c.actualName).served serve later).1 = .ok (some existing) ∧
          AreTranslations c descriptors (s.manager name).contained existing ∧
          ∀ policy, Comparison.compare policy target existing = .ok []) ∧
        ∀ (s' : Shared) (validator : String) (c' : Configuration),
          (s'.manager validator).state = .initialized →
          (s'.manager validator).configuration = some c' →
          c'.strategy = .validate → c'.actualName = c.actualName →
          c'.options.multitenancy = c.options.multitenancy →
          (∀ entityType ∈ (s'.manager validator).contained,
            entityType ∈ (s.manager name).contained) →
          ((bind validator descriptors).transcript serve s' later).result = .ok () := by
  intro target created
  obtain ⟨hresult, hstored⟩ := stored_of_bind hstate hc htranslates hkeeps hstrategy
  refine ⟨hresult, hstored, fun later hlater => ⟨?_, ?_⟩⟩
  · obtain ⟨after, hmappings, -⟩ := hkeeps.served_mappings rfl hlater
    exact ⟨target.reported, congrArg Prod.fst hmappings, areTranslations_reported htranslates,
      compare_reported htranslates (fun _ hmem => hmem) rfl⟩
  · intro s' validator c' hstate' hc' hvalidate hname' htenancy hsub
    have htranslates' : ∀ entityType ∈ (s'.manager validator).contained,
        Translates c' descriptors entityType := by
      intro entityType hmem
      obtain ⟨descriptor, mapping, hget, hmapping⟩ := htranslates entityType (hsub _ hmem)
      refine ⟨descriptor, mapping, hget, ?_⟩
      rw [← hmapping]
      simp only [EntityDescriptor.mapping?, htenancy]
    rw [← hname'] at hkeeps
    exact bound_of_validate hstate' hc' htranslates' hkeeps hvalidate hlater
      (compare_reported htranslates hsub htenancy s'.policy)

/-- A service with one index, of which it keeps the body. -/
def registry (kept : Option Json) (call : Call) : Answer × Option Json :=
  if call.method = "HEAD" then (.reply (if kept.isSome then 200 else 404) .empty, kept)
  else if call.method = "DELETE" then (.reply 200 .empty, none)
  else if call.method = "PUT" then
    (.reply 200 .empty, match call.content with | .json body => some body | _ => kept)
  else if call.path = "/library/_mapping" then
    (.reply 200 (.json (.object (kept.toList.map fun body => ("library", body)))), kept)
  else (.reply 200 (.json (.object [("timed_out", .bool false)])), kept)

lemma keepsIndex_registry (body : Json) : KeepsIndex registry "library" body id where
  missing outside hstored := by
    obtain rfl : outside = none := hstored
    exact ⟨_, rfl⟩
  found outside hstored := by
    obtain ⟨kept, rfl⟩ := Option.ne_none_iff_exists'.1 hstored
    rfl
  stored_exists outside := rfl
  creates outside _ := ⟨rfl, rfl⟩
  deletes outside options _ := ⟨rfl, rfl⟩
  healthy outside options _ := ⟨_, ⟨200, _, rfl, rfl, rfl⟩, rfl, rfl⟩
  reports outside kept hstored := by
    obtain rfl : outside = some kept := hstored
    exact ⟨_, ⟨200, _, rfl, rfl, rfl⟩, rfl, rfl⟩

/-- What is declared about books: a title, and a publisher in a town. -/
def bookDescriptors : Table EntityDescriptor :=
  let declared (name type : String) : Declaration := { (default : Declaration) with name, type }
  [("book", ⟨"book", "id",
    .field (declared "title" "String") .empty
      (.field (declared "publisher" "object")
        (.field { declared "town" "string" with analyzed := false, sortable := true } .empty .empty)
        .empty)⟩)]

/-- An index of books that is created is valid. -/
theorem valid_of_bind_books :
    let c : Configuration := ⟨"Library", "library", .create, false, ⟨.green, 250, false⟩⟩
    let target := translation c bookDescriptors ["book"]
    Translates c bookDescriptors "book" ∧
      ((bind "m" bookDescriptors).transcript registry (librarian .create) none).result = .ok () ∧
      (∃ existing, ((mappings? "library").served registry (some target.toRemote)).1 =
          .ok (some existing) ∧
        AreTranslations c bookDescriptors ["book"] existing ∧
        ∀ policy, Comparison.compare policy target existing = .ok []) ∧
      ((bind "m" bookDescriptors).transcript registry (librarian .validate)
        (some target.toRemote)).result = .ok () := by
  intro c target
  have htranslates : Translates c bookDescriptors "book" := ⟨_, _, rfl, rfl⟩
  have hcontained : ∀ entityType ∈ ((librarian .create).manager "m").contained,
      Translates c bookDescriptors entityType := by
    intro entityType hmem
    obtain rfl := List.mem_singleton.1 hmem
    exact htranslates
  have hstate : ((librarian .create).manager "m").state = .initialized := rfl
  have habsent : id (none : Option Json) = none := rfl
  obtain ⟨hbound, hstored, hlater⟩ := valid_of_bind hstate rfl hcontained (keepsIndex_registry _)
    (Or.inl ⟨rfl, habsent⟩)
  obtain ⟨hreported, hvalidates⟩ := hlater (some target.toRemote) rfl
  let validating : Configuration := { c with strategy := .validate }
  exact ⟨htranslates, hbound, hreported,
    hvalidates (librarian .validate) "m" validating rfl rfl rfl rfl rfl fun _ hmem => hmem⟩

end Manager

end SearchIndex
