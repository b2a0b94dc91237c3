/-
# What a comparison reports

What a comparison has to report can be said place by place, without the walk that it takes
(`Comparison.Diverges`).  An entity type is missing, or at the place of a field of the target the
field is missing, has a type that will not do, or has another value of an attribute that the target
sets; and the fields above are all there with types that will do.

The comparison of a target with known types reports that and nothing else, each mismatch once, in
the order of the entity types, then of the paths, then of the attributes (`compare_exact`).  So what
only the service has makes no difference.
-/
import SearchIndex.Descriptor.Mapping
import SearchIndex.Proofs.Mapping.Walking

namespace SearchIndex

variable {policy : Compatibility} {target : IndexSchema} {actual : Table TypeMapping}

/-! ## Targets with known types -/

/-- Every field, at any depth, has a type of which the library knows. -/
def Fields.IsTyped : Fields → Prop
  | empty => True
  | field _ a children rest => a.type.known?.isSome ∧ children.IsTyped ∧ rest.IsTyped

instance Fields.instDecidableIsTyped : (fs : Fields) → Decidable fs.IsTyped
  | empty => .isTrue trivial
  | field _ _ children rest =>
    have := instDecidableIsTyped children
    have := instDecidableIsTyped rest
    inferInstanceAs (Decidable (_ ∧ _ ∧ _))

/-- Every field of the target has a type of which the library knows. -/
def IndexSchema.IsTyped (target : IndexSchema) : Prop :=
  ∀ entry ∈ target.mappings, entry.2.fields.IsTyped

instance (target : IndexSchema) : Decidable target.IsTyped :=
  inferInstanceAs (Decidable (∀ _ ∈ _, _))

lemma Fields.IsTyped.get? {fs : Fields} (h : fs.IsTyped) {name : String} {p : Property}
    (hp : fs.get? name = some p) : p.attributes.type.known?.isSome ∧ p.children.IsTyped := by
  induction fs with
  | empty => simp at hp
  | field n a c rest _ ih =>
    obtain ⟨htype, hchildren, hrest⟩ := h
    rw [Fields.get?] at hp
    split at hp
    · obtain rfl := Option.some.inj hp
      exact ⟨htype, hchildren⟩
    · exact ih hrest hp

lemma Fields.IsTyped.known? {fs : Fields} (h : fs.IsTyped) {path : List String} {a : Attributes}
    (ha : fs.at? path = some a) : ∃ type, a.type = .of type := by
  have hknown : a.type.known?.isSome :=
    of_at?_eq_some (Q := fun a => a.type.known?.isSome) (fun h hp => IsTyped.get? h hp) h ha
  obtain ⟨type, htype⟩ := Option.isSome_iff_exists.1 hknown
  exact ⟨type, (FieldType.of_known? htype).symm⟩

/-! ## The order of mismatches -/

/-- One place comes before another: that of an earlier entity type, or of an earlier path, where
paths are compared name by name and a field comes before those below it. -/
def Place.Before (p q : Place) : Prop :=
  p.entityType < q.entityType ∨ p.entityType = q.entityType ∧ p.path < q.path

lemma Place.Before.asymm {p q : Place} (h : p.Before q) : ¬ q.Before p := by
  rintro (h' | ⟨heq', h'⟩) <;> rcases h with h | ⟨heq, h⟩
  · exact String.lt_asymm h h'
  · exact String.lt_irrefl _ (heq ▸ h')
  · exact String.lt_irrefl _ (heq' ▸ h)
  · exact List.lt_asymm h h'

namespace Mismatch

/-- The place of a mismatch.  That of an entity type is before those of all its fields. -/
def place : Mismatch → Place
  | missingType entityType => ⟨entityType, []⟩
  | missingField place => place
  | wrongType place _ _ => place
  | strangeTarget place _ _ => place
  | wrongAttribute place _ _ _ => place

/-- The rank of a mismatch among those of its place: that of the attribute, if it is about one. -/
def rank : Mismatch → Nat
  | wrongAttribute _ which _ _ => Attribute.all.idxOf which
  | _ => 0

/-- One mismatch is reported before another. -/
def Before (m m' : Mismatch) : Prop :=
  m.place.Before m'.place ∨ m.place = m'.place ∧ m.rank < m'.rank

lemma Before.asymm {m m' : Mismatch} (h : m.Before m') : ¬ m'.Before m := by
  rintro (h' | ⟨heq', h'⟩) <;> rcases h with h | ⟨heq, h⟩
  · exact h.asymm h'
  · exact (heq ▸ h').asymm (heq ▸ h')
  · exact (heq' ▸ h).asymm (heq' ▸ h)
  · omega

end Mismatch

/-- Mismatches in order are decided by which of them there are. -/
lemma eq_of_pairwise_before {found found' : List Mismatch} (h : found.Pairwise Mismatch.Before)
    (h' : found'.Pairwise Mismatch.Before) (hmem : ∀ m, m ∈ found ↔ m ∈ found') :
    found = found' := by
  have hnodup {l : List Mismatch} (hl : l.Pairwise Mismatch.Before) : l.Nodup :=
    hl.imp fun hbefore heq => (heq ▸ hbefore).asymm (heq ▸ hbefore)
  exact ((List.perm_ext_iff_of_nodup (hnodup h) (hnodup h')).2 hmem).eq_of_pairwise
    (fun _ _ _ _ hbefore hafter => absurd hafter hbefore.asymm) h h'

namespace Comparison

/-! ## What there is to report -/

/-- The field of a target at a place is to be compared: the service has its entity type, and every
field above it with a type that will do. -/
structure Reached (policy : Compatibility) (target : IndexSchema) (actual : Table TypeMapping)
    (place : Place) (wanted : Attributes) : Prop where
  /-- The field is in the target. -/
  wanted : attributesAt? target.mappings place = some wanted
  /-- The entity type is there. -/
  entityType : ∃ mapping, Table.get? actual place.entityType = some mapping
  /-- The fields above it are there, with types that will do. -/
  above : ∀ upper : Place, upper.IsAbove place → ∃ expected found,
    attributesAt? target.mappings upper = some expected ∧
      attributesAt? actual upper = some found ∧ policy.accepts expected.type found.type = true

/-- The mismatches of a target with known types. -/
inductive Diverges (policy : Compatibility) (target : IndexSchema) (actual : Table TypeMapping) :
    Mismatch → Prop where
  /-- An entity type of the target is missing. -/
  | missingType {entityType : String} (hwanted : entityType ∈ Table.keys target.mappings)
      (hmissing : Table.get? actual entityType = none) :
      Diverges policy target actual (.missingType entityType)
  /-- A field is missing. -/
  | missingField {place : Place} {wanted : Attributes}
      (hreached : Reached policy target actual place wanted)
      (hmissing : attributesAt? actual place = none) :
      Diverges policy target actual (.missingField place)
  /-- A field has a type that will not do. -/
  | wrongType {place : Place} {wanted found : Attributes} {expected : DataType}
      (hreached : Reached policy target actual place wanted)
      (hfound : attributesAt? actual place = some found) (hexpected : wanted.type = .of expected)
      (hwrong : policy.accepts wanted.type found.type = false) :
      Diverges policy target actual (.wrongType place found.type (policy.accepted expected))
  /-- A field of a type that will do has another value in force of an attribute that is set. -/
  | wrongAttribute {place : Place} {wanted found : Attributes} {which : Attribute}
      {value : Setting} (hreached : Reached policy target actual place wanted)
      (hfound : attributesAt? actual place = some found)
      (haccepts : policy.accepts wanted.type found.type = true)
      (hset : wanted.declared which = some value) (hother : found.effective which ≠ some value) :
      Diverges policy target actual
        (.wrongAttribute place which (found.effective which) (some value))

/-! ## The walk of a comparison -/

/-- What a comparison says at a field. -/
def visit (policy : Compatibility) (place : Place) (wanted : Attributes) :
    Option Attributes → List Mismatch
  | none => [.missingField place]
  | some found =>
    if policy.accepts wanted.type found.type then attributeMismatches place wanted found
    else [typeMismatch policy place wanted.type found.type]

/-- A comparison goes on below a field whose type will do. -/
def passes (policy : Compatibility) (wanted found : Attributes) : Bool :=
  policy.accepts wanted.type found.type

lemma fieldMismatches_eq_walk (above : Place) (fs beside : Fields) :
    fieldMismatches policy above fs beside =
      Fields.walk (visit policy) (passes policy) above fs beside := by
  induction fs generalizing above beside with
  | empty => rfl
  | field name a children rest ihchildren ihrest =>
    rw [fieldMismatches, Fields.walk, ihrest]
    cases beside.get? name with
    | none => simp [visit, Place.descend]
    | some found =>
      by_cases haccepts : policy.accepts a.type found.attributes.type = true
      · simp [visit, passes, haccepts, ihchildren, Place.descend]
      · simp [visit, passes, haccepts, Place.descend]

lemma mem_attributeMismatches_iff {place : Place} {wanted found : Attributes} {m : Mismatch} :
    m ∈ attributeMismatches place wanted found ↔ ∃ which value,
      wanted.declared which = some value ∧ found.effective which ≠ some value ∧
        m = .wrongAttribute place which (found.effective which) (some value) := by
  have hall : ∀ which : Attribute, which ∈ Attribute.all := by
    intro which
    cases which <;> decide
  simp only [attributeMismatches, List.mem_filterMap, hall, true_and]
  refine exists_congr fun which => ?_
  cases hdeclared : wanted.declared which with
  | none => simp
  | some value =>
    have heffective : wanted.effective which = some value := by
      simp [Attributes.effective, hdeclared]
    simp [heffective, eq_comm]

/-- The attributes of a field are reported in their order. -/
lemma pairwise_attributeMismatches (place : Place) (wanted found : Attributes) :
    (attributeMismatches place wanted found).Pairwise Mismatch.Before := by
  have hranks : Attribute.all.Pairwise fun a b =>
      Attribute.all.idxOf a < Attribute.all.idxOf b := by decide
  refine List.pairwise_filterMap.2 (hranks.imp fun hlt m hm m' hm' => ?_)
  split at hm
  · split at hm'
    · obtain rfl := Option.some.inj hm
      obtain rfl := Option.some.inj hm'
      exact Or.inr ⟨rfl, hlt⟩
    · cases hm'
  · cases hm

/-- What is said at a field is about its place. -/
lemma place_of_mem_visit {place : Place} {wanted : Attributes} {found : Option Attributes}
    {m : Mismatch} (h : m ∈ visit policy place wanted found) : m.place = place := by
  cases found with
  | none =>
    obtain rfl := List.mem_singleton.1 h
    rfl
  | some found =>
    rw [visit] at h
    split at h
    · obtain ⟨which, value, -, -, rfl⟩ := mem_attributeMismatches_iff.1 h
      rfl
    · obtain rfl := List.mem_singleton.1 h
      rw [typeMismatch]
      split <;> rfl

lemma pairwise_visit (place : Place) (wanted : Attributes) (found : Option Attributes) :
    (visit policy place wanted found).Pairwise Mismatch.Before := by
  cases found with
  | none => exact List.pairwise_singleton _ _
  | some found =>
    rw [visit]
    split
    · exact pairwise_attributeMismatches place wanted found
    · exact List.pairwise_singleton _ _

/-! ## One entity type -/

section EntityType

variable {entityType : String} {mapping found : TypeMapping}

lemma mem_typeMismatches_iff (hdistinct : mapping.fields.IsDistinct) {m : Mismatch} :
    m ∈ typeMismatches policy entityType mapping (some found) ↔ ∃ path wanted,
      mapping.fields.at? path = some wanted ∧
        Fields.Reaches (passes policy) mapping.fields found.fields path ∧
        m ∈ visit policy ⟨entityType, path⟩ wanted (found.fields.at? path) := by
  have halike := mapping.fields.alike_sortedDeep
  rw [typeMismatches, fieldMismatches_eq_walk,
    Fields.mem_walk_iff (Fields.isSorted_sortedDeep hdistinct).isDistinct]
  simp only [Fields.Reaches, halike _, Place.descend, List.nil_append]

lemma pairwise_typeMismatches (hdistinct : mapping.fields.IsDistinct)
    (actual : Option TypeMapping) :
    (typeMismatches policy entityType mapping actual).Pairwise Mismatch.Before := by
  cases actual with
  | none => exact List.pairwise_singleton _ _
  | some found =>
    have hsorted := Fields.isSorted_sortedDeep hdistinct
    rw [typeMismatches, fieldMismatches_eq_walk, Fields.walk_eq_flatMap hsorted.isDistinct]
    refine List.pairwise_flatMap.2 ⟨fun path _ => ?_, ?_⟩
    · exact Fields.walkAt_of_visit .nil fun wanted found => pairwise_visit _ wanted found
    · refine hsorted.pairwise_paths.imp fun hlt m hm m' hm' => Or.inl ?_
      obtain ⟨_, _, _, hm⟩ := Fields.mem_walkAt.1 hm
      obtain ⟨_, _, _, hm'⟩ := Fields.mem_walkAt.1 hm'
      rw [place_of_mem_visit hm, place_of_mem_visit hm']
      exact Or.inr ⟨rfl, by simpa [Place.descend] using hlt⟩

lemma entityType_of_mem_typeMismatches (hdistinct : mapping.fields.IsDistinct)
    {actual : Option TypeMapping} {m : Mismatch}
    (h : m ∈ typeMismatches policy entityType mapping actual) :
    m.place.entityType = entityType := by
  cases actual with
  | none =>
    obtain rfl := List.mem_singleton.1 h
    rfl
  | some found =>
    obtain ⟨path, wanted, -, -, h⟩ := (mem_typeMismatches_iff hdistinct).1 h
    rw [place_of_mem_visit h]

end EntityType

/-! ## All entity types -/

/-- What a walk says at a field that it reaches is what there is to report. -/
lemma diverges_of_mem_visit (htyped : target.IsTyped) {place : Place} {wanted : Attributes}
    (hreached : Reached policy target actual place wanted) {m : Mismatch}
    (h : m ∈ visit policy place wanted (attributesAt? actual place)) :
    Diverges policy target actual m := by
  cases hfound : attributesAt? actual place with
  | none =>
    rw [hfound] at h
    obtain rfl := List.mem_singleton.1 h
    exact .missingField hreached hfound
  | some found =>
    rw [hfound, visit] at h
    split at h
    · rename_i haccepts
      obtain ⟨which, value, hset, hother, rfl⟩ := mem_attributeMismatches_iff.1 h
      exact .wrongAttribute hreached hfound haccepts hset hother
    · rename_i hwrong
      obtain ⟨mapping, hmapping, hwanted⟩ := exists_get?_of_attributesAt? hreached.wanted
      obtain ⟨expected, hexpected⟩ :=
        (htyped _ (Table.mem_of_get?_eq_some hmapping)).known? hwanted
      obtain rfl := List.mem_singleton.1 h
      rw [typeMismatch, hexpected, FieldType.known?_of]
      exact .wrongType hreached hfound hexpected (by simpa using hwrong)

section Target

variable (hdistinct : target.IsDistinct)
include hdistinct

lemma isDistinct_of_mem_sorted {entry : String × TypeMapping}
    (h : entry ∈ Table.sorted target.mappings) : entry.2.fields.IsDistinct :=
  hdistinct.2 entry ((Table.perm_sorted target.mappings).mem_iff.1 h)

/-- The mismatches of a comparison are in order. -/
lemma pairwise_mismatches : (mismatches policy target actual).Pairwise Mismatch.Before := by
  refine List.pairwise_flatMap.2 ⟨fun entry hmem => ?_, ?_⟩
  · exact pairwise_typeMismatches (isDistinct_of_mem_sorted hdistinct hmem) _
  · refine hdistinct.1.pairwise_sorted.imp_of_mem fun hmem hmem' hlt m hm m' hm' => ?_
    refine Or.inl (Or.inl ?_)
    rwa [entityType_of_mem_typeMismatches (isDistinct_of_mem_sorted hdistinct hmem) hm,
      entityType_of_mem_typeMismatches (isDistinct_of_mem_sorted hdistinct hmem') hm']

/-- A field is to be compared if the walk through its entity type reaches it. -/
lemma reached_iff {entityType : String} {mapping found : TypeMapping}
    (hmem : (entityType, mapping) ∈ target.mappings)
    (hfound : Table.get? actual entityType = some found) {path : List String}
    {wanted : Attributes} :
    Reached policy target actual ⟨entityType, path⟩ wanted ↔
      mapping.fields.at? path = some wanted ∧
        Fields.Reaches (passes policy) mapping.fields found.fields path := by
  have hmapping := (Table.get?_eq_some_iff hdistinct.1).2 hmem
  have hwanted := attributesAt?_of_get? hmapping
  have hactual := attributesAt?_of_get? hfound
  constructor
  · intro h
    refine ⟨hwanted path ▸ h.wanted, fun upper hstarts hne hnil => ?_⟩
    have habove := h.above ⟨entityType, upper⟩ ⟨rfl, hstarts, hne, hnil⟩
    rwa [hwanted, hactual] at habove
  · rintro ⟨hpath, hreaches⟩
    refine ⟨(hwanted path).trans hpath, ⟨found, hfound⟩, ?_⟩
    rintro ⟨_, upper⟩ ⟨rfl, hstarts, hne, hnil⟩
    have habove := hreaches upper hstarts hne hnil
    rwa [← hwanted, ← hactual] at habove

/-- A comparison of a target with known types finds what there is to report. -/
lemma mem_mismatches_iff (htyped : target.IsTyped) {m : Mismatch} :
    m ∈ mismatches policy target actual ↔ Diverges policy target actual m := by
  have hsorted (entry : String × TypeMapping) :
      entry ∈ Table.sorted target.mappings ↔ entry ∈ target.mappings :=
    (Table.perm_sorted target.mappings).mem_iff
  simp only [mismatches, List.mem_flatMap, hsorted]
  constructor
  · rintro ⟨⟨entityType, mapping⟩, hmem, h⟩
    cases hfound : Table.get? actual entityType with
    | none =>
      rw [hfound] at h
      obtain rfl := List.mem_singleton.1 h
      exact .missingType (List.mem_map_of_mem hmem) hfound
    | some found =>
      rw [hfound] at h
      obtain ⟨path, wanted, hwanted, hreaches, hvisit⟩ :=
        (mem_typeMismatches_iff (hdistinct.2 _ hmem)).1 h
      rw [← attributesAt?_of_get? hfound] at hvisit
      exact diverges_of_mem_visit htyped
        ((reached_iff hdistinct hmem hfound).2 ⟨hwanted, hreaches⟩) hvisit
  · -- what there is to report of a field is said when the walk reaches it
    have hfield {place : Place} {wanted : Attributes}
        (hreached : Reached policy target actual place wanted) {m : Mismatch}
        (hvisit : m ∈ visit policy place wanted (attributesAt? actual place)) :
        ∃ entry ∈ target.mappings,
          m ∈ typeMismatches policy entry.1 entry.2 (Table.get? actual entry.1) := by
      obtain ⟨entityType, path⟩ := place
      obtain ⟨mapping, hmapping, -⟩ := exists_get?_of_attributesAt? hreached.wanted
      obtain ⟨found, hfound⟩ := hreached.entityType
      have hmem := Table.mem_of_get?_eq_some hmapping
      obtain ⟨hwanted, hreaches⟩ := (reached_iff hdistinct hmem hfound).1 hreached
      refine ⟨_, hmem, ?_⟩
      rw [attributesAt?_of_get? hfound] at hvisit
      rw [hfound]
      exact (mem_typeMismatches_iff (hdistinct.2 _ hmem)).2
        ⟨path, wanted, hwanted, hreaches, hvisit⟩
    rintro (⟨hwanted, hmissing⟩ | ⟨hreached, hmissing⟩ | ⟨hreached, hfound, hexpected, hwrong⟩ |
      ⟨hreached, hfound, haccepts, hset, hother⟩)
    · obtain ⟨⟨entityType, mapping⟩, hmem, rfl⟩ := List.mem_map.1 hwanted
      refine ⟨_, hmem, ?_⟩
      rw [hmissing]
      exact List.mem_singleton.2 rfl
    · refine hfield hreached ?_
      rw [hmissing]
      exact List.mem_singleton.2 rfl
    · refine hfield hreached ?_
      rw [hfound, visit, hwrong, typeMismatch, hexpected, FieldType.known?_of]
      exact List.mem_singleton.2 rfl
    · refine hfield hreached ?_
      rw [hfound, visit, if_pos haccepts]
      exact mem_attributeMismatches_iff.2 ⟨_, _, hset, hother, rfl⟩

/-- A comparison of a target with known types has a result. -/
lemma compare_eq_ok (htyped : target.IsTyped) : compare policy target actual =
    .ok ((mismatches policy target actual).map Mismatch.message) := by
  have hstrange : (mismatches policy target actual).any isStrange = false := by
    refine List.any_eq_false.2 fun m hm => ?_
    rcases (mem_mismatches_iff hdistinct htyped).1 hm with _ | _ | _ | _ <;> simp [isStrange]
  rw [compare, hstrange]
  rfl

end Target

/-- Two lots of mappings have the same of what a target has: the same of its entity types, and the
same attributes at the places of its fields. -/
structure AgreeOn (target : IndexSchema) (actual actual' : Table TypeMapping) : Prop where
  entityTypes : ∀ entityType ∈ Table.keys target.mappings,
    Table.has actual entityType = Table.has actual' entityType
  fields : ∀ place wanted, attributesAt? target.mappings place = some wanted →
    attributesAt? actual place = attributesAt? actual' place

lemma AgreeOn.symm {actual' : Table TypeMapping} (h : AgreeOn target actual actual') :
    AgreeOn target actual' actual :=
  ⟨fun entityType hmem => (h.entityTypes entityType hmem).symm,
    fun place wanted hwanted => (h.fields place wanted hwanted).symm⟩

lemma AgreeOn.diverges {actual' : Table TypeMapping} (h : AgreeOn target actual actual')
    {m : Mismatch} (hm : Diverges policy target actual m) : Diverges policy target actual' m := by
  have hreached {place : Place} {wanted : Attributes}
      (hreached : Reached policy target actual place wanted) :
      Reached policy target actual' place wanted := by
    refine ⟨hreached.wanted, ?_, fun upper habove => ?_⟩
    · obtain ⟨mapping, hmapping, -⟩ := exists_get?_of_attributesAt? hreached.wanted
      obtain ⟨found, hfound⟩ := hreached.entityType
      have hmem := List.mem_map_of_mem (f := Prod.fst) (Table.mem_of_get?_eq_some hmapping)
      have hhas := h.entityTypes _ hmem
      exact Option.isSome_iff_exists.1 (by simpa [Table.has, hfound] using hhas.symm)
    · obtain ⟨expected, found, hexpected, hfound, haccepts⟩ := hreached.above upper habove
      exact ⟨expected, found, hexpected, (h.fields upper expected hexpected) ▸ hfound, haccepts⟩
  rcases hm with ⟨hwanted, hmissing⟩ | ⟨hplace, hmissing⟩ | ⟨hplace, hfound, hexpected, hwrong⟩ |
    ⟨hplace, hfound, haccepts, hset, hother⟩
  · have hhas := h.entityTypes _ hwanted
    exact .missingType hwanted (by simpa [Table.has, hmissing] using hhas.symm)
  · exact .missingField (hreached hplace) (h.fields _ _ hplace.wanted ▸ hmissing)
  · exact .wrongType (hreached hplace) (h.fields _ _ hplace.wanted ▸ hfound) hexpected hwrong
  · exact .wrongAttribute (hreached hplace) (h.fields _ _ hplace.wanted ▸ hfound) haccepts hset
      hother

end Comparison

/-- **What a comparison reports.**  The comparison of a target with known types always has a result.
It reports what there is to report and nothing else, in the order of the entity types, the paths and
the attributes.  Entity types and fields that only the service has make no difference. -/
theorem compare_exact (policy : Compatibility) (target : IndexSchema) (actual : Table TypeMapping)
    (hdistinct : target.IsDistinct) (htyped : target.IsTyped) :
    ∃ reported : List Mismatch,
      Comparison.compare policy target actual = .ok (reported.map Mismatch.message) ∧
      (∀ m, m ∈ reported ↔ Comparison.Diverges policy target actual m) ∧
      reported.Pairwise Mismatch.Before ∧
      ∀ actual', Comparison.AgreeOn target actual actual' →
        Comparison.compare policy target actual' = .ok (reported.map Mismatch.message) := by
  have hmem (existing : Table TypeMapping) (m : Mismatch) :
      m ∈ Comparison.mismatches policy target existing ↔
        Comparison.Diverges policy target existing m :=
    Comparison.mem_mismatches_iff hdistinct htyped
  refine ⟨_, Comparison.compare_eq_ok hdistinct htyped, hmem actual,
    Comparison.pairwise_mismatches hdistinct, fun actual' hagree => ?_⟩
  have hsame : Comparison.mismatches policy target actual' =
      Comparison.mismatches policy target actual := by
    refine eq_of_pairwise_before (Comparison.pairwise_mismatches hdistinct)
      (Comparison.pairwise_mismatches hdistinct) fun m => ?_
    rw [hmem, hmem]
    exact ⟨hagree.symm.diverges, hagree.diverges⟩
  rw [Comparison.compare_eq_ok hdistinct htyped, hsame]

/-- Authors, and books with a title in English, a number of pages and a publisher in a town. -/
def englishBooks : IndexSchema :=
  ⟨"library", [
    ("book", ⟨"strict",
      .field "title" { Attributes.ofType (.of .text) with analyzer := some "english" } .empty
        (.field "publisher" (.ofType (.of .object))
          (.field "town" (.ofType (.of .keyword)) .empty .empty)
          (.field "pages" (.ofType (.of .integer)) .empty .empty))⟩),
    ("author", ⟨"strict", .empty⟩)]⟩

/-- Books of which the service has the pages as short numbers, the title without an analyzer and the
publisher without a town, and readers. -/
def borrowedBooks : Table TypeMapping :=
  [("reader", ⟨"true", .empty⟩),
    ("book", ⟨"true",
      .field "pages" (.ofType ⟨"short"⟩) .empty
        (.field "publisher" (.ofType (.of .object))
          (.field "name" (.ofType (.of .text)) .empty .empty)
          (.field "title" (.ofType (.of .text)) .empty .empty))⟩)]

/-- Mismatches of every kind are reported in order, and the readers are not looked at. -/
theorem compare_exact_books :
    englishBooks.IsDistinct ∧ englishBooks.IsTyped ∧
      (∃ reported : List Mismatch,
        Comparison.compare .standard englishBooks borrowedBooks =
          .ok (reported.map Mismatch.message) ∧
        (∀ m, m ∈ reported ↔ Comparison.Diverges .standard englishBooks borrowedBooks m) ∧
        reported.Pairwise Mismatch.Before) ∧
      Comparison.compare .standard englishBooks borrowedBooks = .ok [
        "type 'author': mapping is missing",
        "type 'book', field 'pages': invalid type 'short', expected one of [integer, long]",
        "type 'book', field 'publisher.town': field is missing",
        "type 'book', field 'title': invalid analyzer 'standard', expected 'english'"] := by
  have hdistinct : englishBooks.IsDistinct := by decide
  have htyped : englishBooks.IsTyped := by decide
  obtain ⟨reported, hcompare, hreported, horder, -⟩ :=
    compare_exact .standard englishBooks borrowedBooks hdistinct htyped
  exact ⟨hdistinct, htyped, ⟨reported, hcompare, hreported, horder⟩, rfl⟩

end SearchIndex
