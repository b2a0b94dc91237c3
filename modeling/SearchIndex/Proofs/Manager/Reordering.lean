/-
# A target does not depend on any order

The body that creates an index is the same for all orders in which the entity types of the index are
registered, their descriptors stand in a table, and fields are declared at any depth
(`Manager.target_reordered`).  Names that are declared twice or reserved are looked for in the order
of the declarations, but whether one is found does not depend on it.
-/
import SearchIndex.Proofs.Descriptor.Reordering
import SearchIndex.Proofs.Manager.Validating

namespace SearchIndex.Manager

variable {ω : Type} {serve : ω → Call → Answer × ω} {outside : ω}
variable {m : Manager} {c : Configuration} {entityTypes entityTypes' : List String}
  {descriptors descriptors' : Table EntityDescriptor}

/-! ## Registering entity types -/

/-- The manager with more entity types, registered one after another. -/
def containAll (m : Manager) (entityTypes : List String) : Manager := entityTypes.foldl contain m

lemma configuration_contain (m : Manager) (entityType : String) :
    (m.contain entityType).configuration = m.configuration := by
  rw [contain]
  split <;> rfl

lemma configuration_containAll (m : Manager) (entityTypes : List String) :
    (m.containAll entityTypes).configuration = m.configuration := by
  induction entityTypes generalizing m with
  | nil => rfl
  | cons entityType rest ih => exact (ih _).trans (configuration_contain m entityType)

/-- Of the entity types that are registered, those that were not contained before come after the
others, each once. -/
lemma exists_contained_containAll (m : Manager) (entityTypes : List String) :
    ∃ added, (m.containAll entityTypes).contained = m.contained ++ added ∧ added.Nodup ∧
      ∀ entityType, entityType ∈ added ↔ entityType ∈ entityTypes ∧ entityType ∉ m.contained := by
  induction entityTypes generalizing m with
  | nil => exact ⟨[], (List.append_nil _).symm, List.nodup_nil, by simp⟩
  | cons entityType rest ih =>
    obtain ⟨added, hcontained, hnodup, hmem⟩ := ih (m.contain entityType)
    rw [containAll, List.foldl_cons, ← containAll, hcontained]
    by_cases hknown : entityType ∈ m.contained
    · rw [contain, if_pos hknown] at hmem ⊢
      refine ⟨added, rfl, hnodup, fun other => (hmem other).trans ?_⟩
      constructor
      · exact fun h => ⟨List.mem_cons_of_mem _ h.1, h.2⟩
      · rintro ⟨hother, hnew⟩
        refine ⟨(List.mem_cons.1 hother).resolve_left ?_, hnew⟩
        rintro rfl
        exact hnew hknown
    · rw [contain, if_neg hknown] at hmem ⊢
      simp only [List.mem_append, List.mem_singleton, not_or] at hmem
      have hfresh : entityType ∉ added := fun h => ((hmem _).1 h).2.2 rfl
      refine ⟨entityType :: added, List.append_assoc _ _ _, List.nodup_cons.2 ⟨hfresh, hnodup⟩, ?_⟩
      intro other
      rw [List.mem_cons, hmem, List.mem_cons]
      by_cases heq : other = entityType
      · subst heq
        simp [hknown]
      · simp [heq]

/-- The order in which entity types are registered is only that of the contained ones. -/
lemma contained_containAll_perm (m : Manager) (h : entityTypes.Perm entityTypes') :
    (m.containAll entityTypes).contained.Perm (m.containAll entityTypes').contained := by
  obtain ⟨added, hcontained, hnodup, hmem⟩ := exists_contained_containAll m entityTypes
  obtain ⟨added', hcontained', hnodup', hmem'⟩ := exists_contained_containAll m entityTypes'
  rw [hcontained, hcontained']
  refine ((List.perm_ext_iff_of_nodup hnodup hnodup').2 fun entityType => ?_).append_left _
  rw [hmem, hmem', h.mem_iff]

/-! ## When there is a target -/

/-- An entity type translates exactly if its translation has a remote form. -/
lemma translates_iff {entityType : String} :
    Translates c descriptors entityType ↔
      ((translation? c descriptors entityType).map TypeMapping.toRemote).isSome = true := by
  rw [Option.isSome_map, Option.isSome_iff_exists]
  constructor
  · rintro ⟨descriptor, mapping, hget, hmapping⟩
    exact ⟨mapping, translation?_of_get? hget hmapping⟩
  · rintro ⟨mapping, htranslation⟩
    obtain ⟨descriptor, hget, hmapping⟩ := Option.bind_eq_some_iff.1 htranslation
    refine ⟨descriptor, mapping, hget, ?_⟩
    cases hresult : descriptor.mapping? c.options with
    | error problem =>
      rw [hresult] at hmapping
      cases hmapping
    | ok translated =>
      rw [hresult] at hmapping
      exact congrArg _ (Option.some.inj hmapping)

/-- The mapping of a descriptor is made without a call, or is not there. -/
lemma served_mappingOf (serve : ω → Call → Answer × ω) (outside : ω)
    (descriptor : EntityDescriptor) (options : SchemaOptions) :
    (mappingOf descriptor options).served serve outside =
      (descriptor.mapping options, outside) := by
  rw [mappingOf]
  cases descriptor.mapping options with
  | error failure => exact Action.served_bind_of_error rfl
  | ok mapping => rfl

/-- The mappings of entity types are not made if one of these does not translate. -/
lemma served_mappingsOf_of_not_translates (serve : ω → Call → Answer × ω) (outside : ω)
    (h : ∃ entityType ∈ entityTypes, ¬ Translates c descriptors entityType) :
    ∃ failure, (mappingsOf c descriptors entityTypes).served serve outside =
      (.error failure, outside) := by
  induction entityTypes with
  | nil => exact absurd h (by simp)
  | cons entityType rest ih =>
    rw [mappingsOf]
    cases hget : Table.get? descriptors entityType with
    | none => exact ⟨_, rfl⟩
    | some descriptor =>
      have hserved := served_mappingOf serve outside descriptor c.options
      rw [EntityDescriptor.mapping] at hserved
      cases hmapping : descriptor.mapping? c.options with
      | error problem =>
        rw [hmapping] at hserved
        exact ⟨_, Action.served_bind_of_error hserved⟩
      | ok mapping =>
        rw [hmapping] at hserved
        have hfirst : Translates c descriptors entityType := ⟨descriptor, mapping, hget, hmapping⟩
        have hrest : ∃ entityType ∈ rest, ¬ Translates c descriptors entityType := by
          simpa [hfirst] using h
        obtain ⟨failure, hothers⟩ := ih hrest
        exact ⟨failure, (Action.served_bind_of_ok hserved).trans
          (Action.served_bind_of_error hothers)⟩

/-- What becomes of the target of a manager: it is there exactly if the manager is configured and
all its entity types translate, and is their translation then. -/
lemma served_target_eq_ok_iff {built : IndexSchema} :
    ((m.target descriptors).served serve outside).1 = .ok built ↔
      ∃ c, m.configuration = some c ∧
        (∀ entityType ∈ m.contained, Translates c descriptors entityType) ∧
        built = translation c descriptors m.contained := by
  cases hc : m.configuration with
  | none =>
    have hserved : ((m.target descriptors).served serve outside).1 =
        .error (.misfit .unprepared) := by
      rw [target, configured, hc]
      rfl
    rw [hserved]
    constructor
    · intro h
      cases h
    · rintro ⟨_, h, -⟩
      cases h
  | some c =>
    simp only [Option.some.injEq, exists_eq_left']
    by_cases htranslates : ∀ entityType ∈ m.contained, Translates c descriptors entityType
    · rw [served_target_of_translates hc htranslates]
      exact ⟨fun h => ⟨htranslates, (Except.ok.inj h).symm⟩, fun h => congrArg _ h.2.symm⟩
    · refine ⟨fun h => ?_, fun h => absurd h.1 htranslates⟩
      obtain ⟨entityType, hnot⟩ := not_forall.1 htranslates
      obtain ⟨hmem, hnot⟩ := Classical.not_imp.1 hnot
      obtain ⟨failure, hfailed⟩ := served_mappingsOf_of_not_translates serve outside
        ⟨entityType, (perm_sortTexts _).mem_iff.2 hmem, hnot⟩
      rw [target, configured, hc] at h
      have hserved := Action.served_bind_of_error (f := fun mappings =>
        (pure ⟨c.actualName, mappings⟩ : Action IndexSchema)) hfailed
      cases h.symm.trans (congrArg Prod.fst hserved)

/-- When a manager has a target. -/
lemma exists_target_iff :
    (∃ built, ((m.target descriptors).served serve outside).1 = .ok built) ↔
      ∃ c, m.configuration = some c ∧
        ∀ entityType ∈ m.contained, Translates c descriptors entityType := by
  constructor
  · rintro ⟨built, h⟩
    obtain ⟨c, hc, htranslates, -⟩ := served_target_eq_ok_iff.1 h
    exact ⟨c, hc, htranslates⟩
  · rintro ⟨c, hc, htranslates⟩
    exact ⟨_, served_target_eq_ok_iff.2 ⟨c, hc, htranslates, rfl⟩⟩

/-! ## Any order -/

/-- Whether an entity type has a translation, and the remote form of that, depends on no order. -/
lemma toRemote_translation?_eq (h : EntityDescriptor.ReordersAll descriptors descriptors')
    (hdistinct : Table.IsDistinct descriptors) (entityType : String) :
    (translation? c descriptors entityType).map TypeMapping.toRemote =
      (translation? c descriptors' entityType).map TypeMapping.toRemote := by
  have hrel := h.get?_rel hdistinct entityType
  rw [translation?, translation?]
  cases hget : Table.get? descriptors entityType with
  | none =>
    rw [hget] at hrel
    cases hget' : Table.get? descriptors' entityType with
    | none => rfl
    | some descriptor' =>
      rw [hget'] at hrel
      cases hrel
  | some descriptor =>
    rw [hget] at hrel
    cases hget' : Table.get? descriptors' entityType with
    | none =>
      rw [hget'] at hrel
      cases hrel
    | some descriptor' =>
      rw [hget'] at hrel
      obtain ⟨hreorders⟩ := hrel
      exact hreorders.toRemote_mapping?_eq c.options

/-- The remote form of a translation, from the remote forms of the mappings in it. -/
lemma toRemote_translation (contained : List String) :
    (translation c descriptors contained).toRemote =
      .object [("mappings", .object (Table.sorted ((sortTexts contained).filterMap fun entityType =>
        ((translation? c descriptors entityType).map TypeMapping.toRemote).map fun remote =>
          (entityType, remote))))] := by
  rw [IndexSchema.toRemote, translation, Table.mapValues, List.map_filterMap]
  simp only [Option.map_map]
  rfl

/-- **A target does not depend on any order.**  If the entity types are registered in another order,
the descriptors stand in another order, and the fields of each are declared in another order at any
depth, then the target of the manager is there exactly if it was there, and the body that creates
the index is the same character for character. -/
theorem target_reordered (htypes : entityTypes.Perm entityTypes')
    (hdescriptors : EntityDescriptor.ReordersAll descriptors descriptors')
    (hdistinct : Table.IsDistinct descriptors) (m : Manager) (serve : ω → Call → Answer × ω)
    (outside : ω) :
    let built := (((m.containAll entityTypes).target descriptors).served serve outside).1
    let built' := (((m.containAll entityTypes').target descriptors').served serve outside).1
    ((∃ target, built = .ok target) ↔ ∃ target, built' = .ok target) ∧
      ∀ target target', built = .ok target → built' = .ok target' → ∀ layout,
        Json.write layout target.toRemote = Json.write layout target'.toRemote := by
  intro built built'
  have htranslation (c : Configuration) (entityType : String) :=
    toRemote_translation?_eq (c := c) hdescriptors hdistinct entityType
  have hcontained := contained_containAll_perm m htypes
  constructor
  · refine exists_target_iff.trans (Iff.trans ?_ exists_target_iff.symm)
    simp only [configuration_containAll, translates_iff, htranslation, hcontained.mem_iff]
  · intro target target' h h' layout
    obtain ⟨c, hc, -, rfl⟩ := served_target_eq_ok_iff.1 h
    obtain ⟨c', hc', -, rfl⟩ := served_target_eq_ok_iff.1 h'
    rw [configuration_containAll] at hc hc'
    obtain rfl := Option.some.inj (hc.symm.trans hc')
    simp only [toRemote_translation, sortTexts_eq_of_perm hcontained, htranslation]

/-- What a library declares: books with a publisher in a town, and their authors. -/
def libraryDescriptors : Table EntityDescriptor :=
  let declared (name type : String) : Declaration := { (default : Declaration) with name, type }
  [("book", ⟨"book", "id",
    .field (declared "title" "String") .empty
      (.field (declared "publisher" "object")
        (.field (declared "name" "keyword") .empty (.field (declared "town" "text") .empty .empty))
        .empty)⟩),
  ("author", ⟨"author", "id", .field (declared "name" "text") .empty .empty⟩)]

/-- The same with the authors first, the publisher before the title and the town before the name of
the publisher. -/
def libraryDescriptorsReordered : Table EntityDescriptor :=
  let declared (name type : String) : Declaration := { (default : Declaration) with name, type }
  [("author", ⟨"author", "id", .field (declared "name" "text") .empty .empty⟩),
  ("book", ⟨"book", "id",
    .field (declared "publisher" "object")
      (.field (declared "town" "text") .empty (.field (declared "name" "keyword") .empty .empty))
      (.field (declared "title" "String") .empty .empty)⟩)]

lemma libraryDescriptors_reordersAll :
    EntityDescriptor.ReordersAll libraryDescriptors libraryDescriptorsReordered := by
  refine ⟨libraryDescriptorsReordered.reverse, .cons ⟨rfl, rfl, rfl, ?_⟩
    (.cons ⟨rfl, rfl, rfl, .refl _⟩ .nil), List.reverse_perm _⟩
  exact .trans (.field _ .empty (.field _ (.swap _ _ _ _ _) .empty)) (.swap _ _ _ _ _)

/-- A library is created with the same body in whatever order it is declared. -/
theorem target_reordered_library :
    let c : Configuration := ⟨"Library", "library", .create, false, ⟨.green, 250, true⟩⟩
    let m : Manager := { Manager.fresh with state := .initialized, configuration := some c }
    ["book", "author"].Perm ["author", "book"] ∧
      EntityDescriptor.ReordersAll libraryDescriptors libraryDescriptorsReordered ∧
      Table.IsDistinct libraryDescriptors ∧
      ∃ target target',
        (((m.containAll ["book", "author"]).target libraryDescriptors).served registry none).1 =
          .ok target ∧
        (((m.containAll ["author", "book"]).target libraryDescriptorsReordered).served
          registry none).1 = .ok target' ∧
        Json.compact target.toRemote = Json.compact target'.toRemote := by
  intro c m
  have htypes : ["book", "author"].Perm ["author", "book"] := .swap _ _ _
  have hdistinct : Table.IsDistinct libraryDescriptors := by decide
  obtain ⟨hiff, hsame⟩ :=
    target_reordered htypes libraryDescriptors_reordersAll hdistinct m registry none
  have hbook : Translates c libraryDescriptors "book" := ⟨_, _, rfl, rfl⟩
  have hauthor : Translates c libraryDescriptors "author" := ⟨_, _, rfl, rfl⟩
  have htranslates : ∀ entityType ∈ (m.containAll ["book", "author"]).contained,
      Translates c libraryDescriptors entityType :=
    List.forall_mem_cons.2 ⟨hbook, List.forall_mem_cons.2 ⟨hauthor, nofun⟩⟩
  obtain ⟨target, htarget⟩ : ∃ target,
      (((m.containAll ["book", "author"]).target libraryDescriptors).served registry none).1 =
        .ok target := exists_target_iff.2 ⟨c, rfl, htranslates⟩
  obtain ⟨target', htarget'⟩ := hiff.1 ⟨target, htarget⟩
  exact ⟨htypes, libraryDescriptors_reordersAll, hdistinct, target, target', htarget, htarget',
    congrArg String.ofList (hsame target target' htarget htarget' .compact)⟩

end SearchIndex.Manager
