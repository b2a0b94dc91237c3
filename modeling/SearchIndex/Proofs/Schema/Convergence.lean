/-
# What a merge leaves to a comparison

A merge looks for conflicts, a comparison for mismatches, and each walks through the target on its
own.  `compare_extendAll_plan` brings the two together: where a merge has found no conflict and its
plan has been applied, the comparison of the same target reports the attributes that the service had
otherwise before, and nothing else.  Missing entity types and fields have been added, and types that
will not do would have been conflicts; but of the attributes a merge looks at the analyzer only.
-/
import SearchIndex.Merge
import SearchIndex.Descriptor.Mapping
import SearchIndex.Proofs.Mapping.Paths
import SearchIndex.Proofs.Table

namespace SearchIndex

variable {policy : Compatibility} {above : Place}

/-- The mismatch is one of an attribute. -/
def Mismatch.isAttribute : Mismatch → Bool
  | wrongAttribute .. => true
  | _ => false

/-! ## One field at a time -/

namespace Comparison

/-- The mismatches of one field of a target and of the fields below it. -/
def entryMismatches (policy : Compatibility) (above : Place) (actual : Fields)
    (entry : String × Property) : List Mismatch :=
  let place : Place := { above with path := above.path ++ [entry.1] }
  match actual.get? entry.1 with
  | none => [.missingField place]
  | some found =>
    if policy.accepts entry.2.attributes.type found.attributes.type then
      attributeMismatches place entry.2.attributes found.attributes
        ++ fieldMismatches policy place entry.2.children found.children
    else [typeMismatch policy place entry.2.attributes.type found.attributes.type]

lemma fieldMismatches_eq_flatMap (fs actual : Fields) :
    fieldMismatches policy above fs actual =
      fs.toList.flatMap (entryMismatches policy above actual) := by
  induction fs with
  | empty => rfl
  | field name a c rest _ ih =>
    rw [fieldMismatches, Fields.toList, List.flatMap_cons, ih]
    rfl

/-- Fields of which each has only its mismatches of attributes left. -/
lemma fieldMismatches_eq_filter {fs existing after : Fields}
    (h : ∀ entry ∈ fs.toList, entryMismatches policy above after entry =
      (entryMismatches policy above existing entry).filter Mismatch.isAttribute) :
    fieldMismatches policy above fs after =
      (fieldMismatches policy above fs existing).filter Mismatch.isAttribute := by
  rw [fieldMismatches_eq_flatMap, fieldMismatches_eq_flatMap, List.filter_flatMap]
  exact List.flatMap_congr h

/-- Nothing is amiss with the attributes of a field that is the one wanted. -/
lemma attributeMismatches_self (place : Place) (a : Attributes) :
    attributeMismatches place a a = [] := by
  simp [attributeMismatches]

/-- All mismatches of attributes are mismatches of attributes. -/
lemma filter_attributeMismatches (place : Place) (wanted found : Attributes) :
    (attributeMismatches place wanted found).filter Mismatch.isAttribute =
      attributeMismatches place wanted found := by
  refine List.filter_eq_self.2 fun m hm => ?_
  obtain ⟨which, -, hwhich⟩ := List.mem_filterMap.1 hm
  split at hwhich
  · obtain rfl := Option.some.inj hwhich
    rfl
  · cases hwhich

/-- Where there is no field, fields are missing and nothing else is amiss. -/
lemma filter_fieldMismatches_empty (fs : Fields) :
    (fieldMismatches policy above fs .empty).filter Mismatch.isAttribute = [] := by
  rw [fieldMismatches_eq_flatMap, List.filter_flatMap]
  exact List.flatMap_eq_nil_iff.2 fun _ _ => rfl

end Comparison

namespace Merge

open Comparison

/-- The field to put where the service has one: that of the target, with the type that the service
has given it, and so on below it. -/
def plannedProperty (wanted current : Property) : Property :=
  ⟨{ wanted.attributes with type := current.attributes.type },
    plannedFields wanted.children current.children⟩

/-- What is planned under a name. -/
lemma get?_plannedFields (fs existing : Fields) (name : String) :
    (plannedFields fs existing).get? name =
      (fs.get? name).map fun p =>
        match existing.get? name with
        | none => p
        | some current => plannedProperty p current := by
  induction fs with
  | empty => rfl
  | field n a c rest _ ih =>
    rw [plannedFields]
    by_cases hn : n = name
    · subst hn
      cases hexisting : existing.get? n <;> simp [Fields.get?, plannedProperty]
    · cases existing.get? n <;> simp [Fields.get?, hn, ih]

/-- What is planned at a path: a field that the service has keeps its type, any other one is put as
it is wanted with all below it. -/
lemma find?_plannedFields (fs existing : Fields) (path : List String) :
    (plannedFields fs existing).find? path = (fs.find? path).map fun p =>
      match existing.find? path with
      | none => p
      | some current => plannedProperty p current := by
  induction path generalizing fs existing with
  | nil => rfl
  | cons name path ih =>
    have hbelow (p current : Property) : (plannedProperty p current).below? path =
        (p.below? path).map fun q =>
          match current.below? path with
          | none => q
          | some known => plannedProperty q known := by
      cases path with
      | nil => rfl
      | cons next path => exact ih p.children current.children
    simp only [Fields.find?, get?_plannedFields]
    cases fs.get? name with
    | none => rfl
    | some p =>
      cases existing.get? name with
      | none => simp
      | some current => exact hbelow p current

/-- The fields that the service has once the plan for them is applied. -/
def applied (wanted existing : Fields) : Fields := existing.extend (plannedFields wanted existing)

/-- After a plan is applied, `after` is found where `existing` was: a new field as it is wanted, one
that was there with its attributes, and the plan applied below it. -/
def Reflects (part existing after : Fields) : Prop :=
  ∀ name p, (name, p) ∈ part.toList →
    after.get? name =
      match existing.get? name with
      | none => some p
      | some current => some ⟨current.attributes, applied p.children current.children⟩

lemma reflects_applied {wanted existing : Fields} (h : wanted.IsDistinct) :
    Reflects wanted existing (applied wanted existing) := by
  intro name p hmem
  rw [applied, Fields.get?_extend, get?_plannedFields, h.get?_of_mem hmem]
  cases existing.get? name <;> rfl

/-- Fields that are as they are wanted. -/
lemma reflects_self {wanted : Fields} (h : wanted.IsDistinct) :
    Reflects wanted .empty wanted := fun _ _ hmem => h.get?_of_mem hmem

/-- No conflict of any field is left out. -/
lemma fieldConflicts_cons {name : String} {wanted : Attributes} {children rest existing : Fields}
    (h : fieldConflicts policy above (.field name wanted children rest) existing = []) :
    fieldConflicts policy above rest existing = [] ∧
    ∀ current, existing.get? name = some current →
      policy.accepts wanted.type current.attributes.type = true ∧
      fieldConflicts policy { above with path := above.path ++ [name] } children
        current.children = [] := by
  rw [fieldConflicts] at h
  obtain ⟨hfirst, hrest⟩ := List.append_eq_nil_iff.1 h
  refine ⟨hrest, fun current hcurrent => ?_⟩
  simp only [hcurrent] at hfirst
  cases hconflict : conflict? policy { above with path := above.path ++ [name] } wanted
      current.attributes with
  | some conflict => simp [hconflict] at hfirst
  | none =>
    rw [hconflict] at hfirst
    refine ⟨?_, hfirst⟩
    by_contra haccepts
    simp [conflict?, haccepts] at hconflict

/-- Where nothing is there, nothing is in conflict. -/
lemma fieldConflicts_empty (fs : Fields) : fieldConflicts policy above fs .empty = [] := by
  induction fs with
  | empty => rfl
  | field name a c rest _ ih => rw [fieldConflicts, ih]; rfl

/-- Of the mismatches of a field without conflict, a plan that is applied leaves those of
attributes.  The comparison takes the fields in the order of their names. -/
lemma entryMismatches_sortedDeep {part existing after : Fields} (hdistinct : part.IsDistinct)
    (hconflicts : fieldConflicts policy above part existing = [])
    (hafter : Reflects part existing after) :
    ∀ entry ∈ part.sortedDeep.toList, entryMismatches policy above after entry =
      (entryMismatches policy above existing entry).filter Mismatch.isAttribute := by
  induction part generalizing above existing after with
  | empty => exact fun entry hmem => absurd hmem List.not_mem_nil
  | field name wanted children rest ihchildren ihrest =>
    intro entry hmem
    obtain ⟨-, hdistinctBelow, hdistinctRest⟩ := hdistinct
    obtain ⟨hconflictsRest, hcurrent⟩ := fieldConflicts_cons hconflicts
    rcases Fields.mem_toList_insertSorted.1 hmem with rfl | hmem
    · have hfound := hafter name ⟨wanted, children⟩ List.mem_cons_self
      let place : Place := { above with path := above.path ++ [name] }
      cases hexisting : existing.get? name with
      | none =>
        -- the field has been added as it is wanted, with all below it
        rw [hexisting] at hfound
        have hbelow : fieldMismatches policy place children.sortedDeep children = [] := by
          rw [fieldMismatches_eq_filter (ihchildren hdistinctBelow (fieldConflicts_empty children)
            (reflects_self hdistinctBelow)), filter_fieldMismatches_empty]
        simp [entryMismatches, hfound, hexisting, Compatibility.accepts_self,
          attributeMismatches_self, hbelow, place, Mismatch.isAttribute]
      | some current =>
        -- the field has kept its attributes
        rw [hexisting] at hfound
        obtain ⟨haccepts, hconflictsBelow⟩ := hcurrent current hexisting
        have hbelow := fieldMismatches_eq_filter (ihchildren hdistinctBelow hconflictsBelow
          (reflects_applied hdistinctBelow))
        simp [entryMismatches, hfound, hexisting, haccepts, List.filter_append,
          filter_attributeMismatches, hbelow]
    · exact ihrest hdistinctRest hconflictsRest
        (fun other p hother => hafter other p (List.mem_cons_of_mem _ hother)) entry hmem

/-! ## All entity types -/

/-- The plan is in the order of the entity types. -/
lemma keys_plan (target : IndexSchema) (existing : Table TypeMapping) :
    Table.keys (plan target existing) = sortTexts (Table.keys target.mappings) := by
  rw [← Table.keys_sorted]
  simp [plan, Table.keys, Function.comp_def]

/-- The plan has each entity type of the target once. -/
lemma isDistinct_plan {target : IndexSchema} {existing : Table TypeMapping}
    (h : Table.IsDistinct target.mappings) : Table.IsDistinct (plan target existing) := by
  rw [Table.IsDistinct, keys_plan, ← Table.keys_sorted]
  exact Table.isDistinct_of_perm (Table.perm_sorted target.mappings).symm h

/-- The mismatches of an entity type of the target, once the plan is applied. -/
lemma typeMismatches_extendAll_plan {target : IndexSchema} {existing : Table TypeMapping}
    (hdistinct : target.IsDistinct) (hconflicts : conflicts policy target existing = [])
    {entityType : String} {mapping : TypeMapping}
    (hmem : (entityType, mapping) ∈ Table.sorted target.mappings) :
    typeMismatches policy entityType mapping
        (Table.get? (Table.extendAll existing (plan target existing)) entityType) =
      (typeMismatches policy entityType mapping (Table.get? existing entityType)).filter
        Mismatch.isAttribute := by
  have hfields : mapping.fields.IsDistinct :=
    hdistinct.2 _ ((Table.perm_sorted target.mappings).mem_iff.1 hmem)
  have hplanned : (entityType, plannedMapping mapping (Table.get? existing entityType)) ∈
      plan target existing := List.mem_map_of_mem (f := fun entry : String × TypeMapping =>
        (entry.1, plannedMapping entry.2 (Table.get? existing entry.1))) hmem
  have hnone := List.flatMap_eq_nil_iff.1 hconflicts _ hmem
  rw [Table.get?_extendAll (isDistinct_plan hdistinct.1) hplanned]
  cases hexisting : Table.get? existing entityType with
  | none =>
    refine (fieldMismatches_eq_filter (entryMismatches_sortedDeep hfields
      (fieldConflicts_empty mapping.fields) (reflects_self hfields))).trans ?_
    rw [filter_fieldMismatches_empty]
    rfl
  | some current =>
    simp only [hexisting] at hnone
    exact fieldMismatches_eq_filter (entryMismatches_sortedDeep hfields hnone
      (reflects_applied hfields))

end Merge

/-- **After a merge.**  Where a merge finds no conflict and its plan is applied, the comparison of
the target reports the attributes that the service had otherwise before, and nothing else.  So it
finds everything as wanted exactly if there was no such attribute. -/
theorem compare_extendAll_plan (policy : Compatibility) (target : IndexSchema)
    (existing : Table TypeMapping) (hdistinct : target.IsDistinct)
    (hconflicts : Merge.conflicts policy target existing = []) :
    let after := Table.extendAll existing (Merge.plan target existing)
    let left := (Comparison.mismatches policy target existing).filter Mismatch.isAttribute
    Comparison.compare policy target after = .ok (left.map Mismatch.message) ∧
      (Comparison.compare policy target after = .ok [] ↔ left = []) := by
  intro after left
  have hleft : Comparison.mismatches policy target after = left := by
    simp only [left, Comparison.mismatches, List.filter_flatMap]
    exact List.flatMap_congr fun entry hmem =>
      Merge.typeMismatches_extendAll_plan hdistinct hconflicts hmem
  have hstrange : left.any Comparison.isStrange = false := by
    refine List.any_eq_false.2 fun m hm => ?_
    have hattribute := (List.mem_filter.1 hm).2
    cases m <;> simp_all [Mismatch.isAttribute, Comparison.isStrange]
  have hcompare : Comparison.compare policy target after = .ok (left.map Mismatch.message) := by
    simp [Comparison.compare, hleft, hstrange]
  refine ⟨hcompare, ?_⟩
  simp [hcompare]

/-- Books with a number of pages and a publisher, of whom the town is known. -/
def publishedBooks : IndexSchema :=
  ⟨"library", [("book", ⟨"strict",
    .field "id" idAttributes .empty
      (.field "pages" (.ofType (.of .integer)) .empty
        (.field "publisher" (.ofType (.of .object))
          (.field "town" (.ofType (.of .keyword)) .empty .empty) .empty))⟩)]⟩

/-- Books of which the service knows the id as it is wanted, the pages as another type that will do,
and a publisher without a town. -/
def shelvedBooks : Table TypeMapping :=
  [("book", ⟨"strict",
    .field "id" idAttributes .empty
      (.field "pages" (.ofType (.of .long)) .empty
        (.field "publisher" (.ofType (.of .object))
          (.field "name" (.ofType (.of .text)) .empty .empty) .empty))⟩)]

/-- Where no attribute differs, a comparison after the merge finds everything as wanted. -/
theorem compare_extendAll_plan_books :
    let after := Table.extendAll shelvedBooks (Merge.plan publishedBooks shelvedBooks)
    publishedBooks.IsDistinct ∧ Merge.conflicts .standard publishedBooks shelvedBooks = [] ∧
      Comparison.compare .standard publishedBooks after = .ok [] := by
  have hdistinct : publishedBooks.IsDistinct := by decide
  have hconflicts : Merge.conflicts .standard publishedBooks shelvedBooks = [] := by decide
  refine ⟨hdistinct, hconflicts, ?_⟩
  exact (compare_extendAll_plan .standard publishedBooks shelvedBooks hdistinct hconflicts).2.2
    (by decide)

/-- A field that is wanted stored, and is not, is no conflict to a merge; a comparison after it
reports the field all the same. -/
theorem merge_overlooks_store :
    let target : IndexSchema :=
      ⟨"library", [("book", ⟨"strict", .field "id" idAttributes .empty .empty⟩)]⟩
    let existing : Table TypeMapping :=
      [("book", ⟨"strict", .field "id" (.ofType (.of .keyword)) .empty .empty⟩)]
    target.IsDistinct ∧ Merge.conflicts .standard target existing = [] ∧
      Comparison.compare .standard target (Table.extendAll existing (Merge.plan target existing)) =
        .ok ["type 'book', field 'id': invalid store 'False', expected 'True'"] := by
  refine ⟨by decide, by decide, ?_⟩
  rfl

end SearchIndex
