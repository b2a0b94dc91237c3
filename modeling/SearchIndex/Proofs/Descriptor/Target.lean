/-
# The names in a target

The target of an index is built from descriptors.  Nothing in it is named twice: a descriptor that
declares a field twice, or gives one the name of the id or of the tenant, has no mapping, and an
index contains each entity type once.  So a target is what it would be as a JSON object
(`Manager.isDistinct_target`).
-/
import SearchIndex.Proofs.Mapping.Extension
import SearchIndex.Proofs.Service.Runs
import SearchIndex.Manager.Lifecycle

namespace SearchIndex

namespace Fields

lemma names_append (fs : Fields) (name : String) (p : Property) :
    (fs.append name p).names = fs.names ++ [name] := by
  induction fs with
  | empty => rfl
  | field n a c rest _ ih => rw [append, names, names, ih, List.cons_append]

lemma IsDistinct.append {fs : Fields} (h : fs.IsDistinct) {name : String} {p : Property}
    (hname : name ∉ fs.names) (hp : p.children.IsDistinct) : (fs.append name p).IsDistinct := by
  induction fs with
  | empty => exact ⟨List.not_mem_nil, hp, trivial⟩
  | field n a c rest _ ih =>
    obtain ⟨hn, hc, hrest⟩ := h
    obtain ⟨hne, hnot⟩ := not_or.1 (List.mem_cons.not.1 hname)
    refine ⟨?_, hc, ih hrest hnot⟩
    rw [names_append, List.mem_append, List.mem_singleton]
    exact not_or.2 ⟨hn, Ne.symm hne⟩

/-- A field and those after it have distinct names other than those taken already, if the field has
such a name and the others do not have it. -/
lemma isDistinct_field {name : String} {taken : List String} {a : Attributes}
    {below others : Fields}
    (htaken : name ∉ taken) (hbelow : below.IsDistinct)
    (hothers : others.IsDistinct ∧ ∀ other ∈ others.names, other ∉ name :: taken) :
    (field name a below others).IsDistinct ∧
      ∀ other ∈ (field name a below others).names, other ∉ taken := by
  refine ⟨⟨fun hmem => hothers.2 name hmem List.mem_cons_self, hbelow, hothers.1⟩, ?_⟩
  intro other hmem
  rcases List.mem_cons.1 hmem with rfl | hmem
  · exact htaken
  · exact fun h => hothers.2 other hmem (List.mem_cons_of_mem _ h)

end Fields

lemma exists_of_bind_eq_ok {ε α β : Type} {x : Except ε α} {f : α → Except ε β} {b : β}
    (h : (x >>= f) = .ok b) : ∃ a, x = .ok a ∧ f a = .ok b := by
  cases x with
  | error problem => cases h
  | ok a => exact ⟨a, rfl, h⟩

/-- What becomes of a declaration that is translated: a field of its name, which is not taken, with
the fields declared below it if it can hold any. -/
lemma Declarations.exists_of_fields?_field {d : Declaration} {children rest : Declarations}
    {above : String} {taken : List String} {fs : Fields}
    (h : (field d children rest).fields? above taken = .ok fs) :
    d.name ∉ taken ∧ ∃ a below others, fs = .field d.name a below others ∧
      (below = .empty ∨ ∃ path, children.fields? path [] = .ok below) ∧
      rest.fields? above (d.name :: taken) = .ok others := by
  rw [fields?] at h
  by_cases htaken : d.name ∈ taken
  · rw [if_pos htaken] at h
    cases h
  rw [if_neg htaken] at h
  refine ⟨htaken, ?_⟩
  cases htype : d.dataType? with
  | none =>
    simp only [htype] at h
    cases h
  | some type =>
    simp only [htype] at h
    change (if type.isContainer = true then _ else _) = _ at h
    split at h
    · -- the field holds others
      obtain ⟨below, hbelow, h⟩ := exists_of_bind_eq_ok h
      obtain ⟨others, hothers, h⟩ := exists_of_bind_eq_ok h
      exact ⟨_, below, others, (Except.ok.inj h).symm, Or.inr ⟨_, hbelow⟩, hothers⟩
    · by_cases hempty : children.isEmpty = true
      · rw [if_pos hempty] at h
        split at h
        · cases h
        · obtain ⟨others, hothers, h⟩ := exists_of_bind_eq_ok h
          exact ⟨_, .empty, others, (Except.ok.inj h).symm, Or.inl rfl, hothers⟩
      · rw [if_neg hempty] at h
        cases h

/-- The fields of declarations have distinct names, other than those taken already. -/
lemma Declarations.isDistinct_of_fields? {ds : Declarations} {above : String} {taken : List String}
    {fs : Fields} (h : ds.fields? above taken = .ok fs) :
    fs.IsDistinct ∧ ∀ name ∈ fs.names, name ∉ taken := by
  induction ds generalizing above taken fs with
  | empty =>
    obtain rfl := Except.ok.inj h
    simp [Fields.IsDistinct, Fields.names]
  | field d children rest ihchildren ihrest =>
    obtain ⟨htaken, a, below, others, rfl, hbelow, hothers⟩ := exists_of_fields?_field h
    have hdistinct : below.IsDistinct := by
      rcases hbelow with rfl | ⟨path, hbelow⟩
      · trivial
      · exact (ihchildren hbelow).1
    exact Fields.isDistinct_field htaken hdistinct (ihrest hothers)

/-- The mapping of a descriptor has distinct names. -/
lemma EntityDescriptor.isDistinct_of_mapping? {e : EntityDescriptor} {options : SchemaOptions}
    {mapping : TypeMapping} (h : e.mapping? options = .ok mapping) : mapping.fields.IsDistinct := by
  obtain ⟨declared, hdeclared, h⟩ := exists_of_bind_eq_ok h
  have hempty : Fields.empty.IsDistinct := trivial
  have hfields : (Fields.field e.idField idAttributes .empty declared).IsDistinct :=
    (Fields.isDistinct_field List.not_mem_nil hempty
      (Declarations.isDistinct_of_fields? hdeclared)).1
  change (if _ then _ else _) = _ at h
  split at h
  · by_cases htenant : tenantField ∈ (Fields.field e.idField idAttributes .empty declared).names
    · rw [if_pos htenant] at h
      cases h
    · rw [if_neg htenant] at h
      obtain rfl := Except.ok.inj h
      exact hfields.append htenant hempty
  · obtain rfl := Except.ok.inj h
    exact hfields

namespace Manager

/-- The mappings of entity types are those of descriptors, one for each. -/
lemma runs_mappingsOf {c : Configuration} {descriptors : Table EntityDescriptor}
    {entityTypes : List String} {calls : List (Call × Answer)} {mappings : Table TypeMapping}
    (h : (mappingsOf c descriptors entityTypes).Runs calls (.ok mappings)) :
    Table.keys mappings = entityTypes ∧ ∀ entry ∈ mappings, entry.2.fields.IsDistinct := by
  induction entityTypes generalizing calls mappings with
  | nil =>
    obtain rfl := Except.ok.inj (Action.runs_pure.1 h).2
    simp [Table.keys]
  | cons entityType rest ih =>
    rw [mappingsOf] at h
    cases hdescriptor : Table.get? descriptors entityType with
    | none =>
      rw [hdescriptor] at h
      cases (Action.runs_throw.1 h).2
    | some descriptor =>
      rw [hdescriptor] at h
      obtain ⟨mapping, _, _, hmapping, hrest, -⟩ := Action.runs_bind_ok.1 h
      obtain ⟨others, _, _, hothers, hpair, -⟩ := Action.runs_bind_ok.1 hrest
      obtain rfl := Except.ok.inj (Action.runs_pure.1 hpair).2
      obtain ⟨hkeys, hdistinct⟩ := ih hothers
      refine ⟨congrArg (entityType :: ·) hkeys, List.forall_mem_cons.2 ⟨?_, hdistinct⟩⟩
      obtain ⟨translated, _, _, htranslated, hnoted, -⟩ := Action.runs_bind_ok.1 hmapping
      obtain ⟨-, _, _, -, hkept, -⟩ := Action.runs_bind_ok.1 hnoted
      obtain rfl := Except.ok.inj (Action.runs_pure.1 hkept).2
      have hok := (Action.runs_ofExcept.1 htranslated).2
      rw [EntityDescriptor.mapping] at hok
      split at hok
      · obtain rfl := Except.ok.inj hok
        exact EntityDescriptor.isDistinct_of_mapping? ‹_›
      · cases hok

/-- Nothing is named twice in the target of a manager, as it contains each entity type once. -/
theorem isDistinct_target {m : Manager} {descriptors : Table EntityDescriptor}
    (hcontained : m.contained.Nodup) {calls : List (Call × Answer)} {built : IndexSchema}
    (h : (m.target descriptors).Runs calls (.ok built)) : built.IsDistinct := by
  obtain ⟨c, _, _, -, hrest, -⟩ := Action.runs_bind_ok.1 h
  obtain ⟨mappings, _, _, hmappings, hbuilt, -⟩ := Action.runs_bind_ok.1 hrest
  obtain rfl := Except.ok.inj (Action.runs_pure.1 hbuilt).2
  obtain ⟨hkeys, hdistinct⟩ := runs_mappingsOf hmappings
  refine ⟨?_, hdistinct⟩
  rw [Table.IsDistinct, hkeys]
  exact (perm_sortTexts m.contained).nodup_iff.2 hcontained

end Manager

end SearchIndex
