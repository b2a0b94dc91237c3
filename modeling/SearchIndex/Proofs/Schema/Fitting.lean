/-
# What a comparison finds nothing amiss with

A comparison lists mismatches.  Seen from the other side, a mapping fits a target if it has every
field that the target asks for, at every depth, with a type that will do and the attributes that the
target sets (`Comparison.Fits`).  The comparison reports nothing exactly if every entity type of the
target is there with a mapping that fits (`Comparison.compare_eq_ok_nil_iff`).
-/
import SearchIndex.Comparison
import SearchIndex.Proofs.Mapping.Paths

namespace SearchIndex

variable {policy : Compatibility} {above : Place} {name : String}

/-- What the first attributes set is in force in the second ones as well. -/
def Attributes.AgreesWith (expected found : Attributes) : Prop :=
  ∀ which, (expected.declared which).isSome → expected.effective which = found.effective which

lemma Attributes.agreesWith_self (a : Attributes) : a.AgreesWith a := fun _ _ => rfl

namespace Comparison

/-- The second fields have all that the first ones ask for. -/
def Fits (policy : Compatibility) : Fields → Fields → Prop
  | .empty, _ => True
  | .field name expected children rest, actual =>
    (∃ found, actual.get? name = some found ∧
      policy.accepts expected.type found.attributes.type = true ∧
      expected.AgreesWith found.attributes ∧ Fits policy children found.children) ∧
    Fits policy rest actual

/-- What one property of a target asks for is in a property that is found. -/
structure FitsProperty (policy : Compatibility) (expected found : Property) : Prop where
  type : policy.accepts expected.attributes.type found.attributes.type = true
  attributes : expected.attributes.AgreesWith found.attributes
  children : Fits policy expected.children found.children

/-- Fields fit if each of them does. -/
lemma fits_iff {fs actual : Fields} :
    Fits policy fs actual ↔ ∀ entry ∈ fs.toList, ∃ found,
      actual.get? entry.1 = some found ∧ FitsProperty policy entry.2 found := by
  induction fs with
  | empty => simp [Fits, Fields.toList]
  | field name a c rest _ ih =>
    simp only [Fits, Fields.toList, List.forall_mem_cons, ih]
    constructor
    · rintro ⟨⟨found, hfound, htype, hattributes, hchildren⟩, hrest⟩
      exact ⟨⟨found, hfound, htype, hattributes, hchildren⟩, hrest⟩
    · rintro ⟨⟨found, hfound, htype, hattributes, hchildren⟩, hrest⟩
      exact ⟨⟨found, hfound, htype, hattributes, hchildren⟩, hrest⟩

/-- What is found in fields under a name fits what the target has under it. -/
lemma Fits.get? {fs actual : Fields} (h : Fits policy fs actual) {p : Property}
    (hp : fs.get? name = some p) :
    ∃ found, actual.get? name = some found ∧ FitsProperty policy p found :=
  fits_iff.1 h (name, p) (Fields.mem_toList_of_get? hp)

/-- The order of the fields of a target does not matter. -/
lemma fits_sortedDeep {fs actual : Fields} :
    Fits policy fs.sortedDeep actual ↔ Fits policy fs actual := by
  induction fs generalizing actual with
  | empty => rfl
  | field name a c rest ihchildren ihrest =>
    have hmem : Fits policy (Fields.insertSorted name a c.sortedDeep rest.sortedDeep) actual ↔
        Fits policy (.field name a c.sortedDeep rest.sortedDeep) actual := by
      simp only [fits_iff, Fields.mem_toList_insertSorted, Fields.toList, List.mem_cons]
    rw [Fields.sortedDeep, hmem, Fits, Fits, ihrest]
    simp only [ihchildren]

/-- Fields with distinct names fit themselves, in any order. -/
lemma fits_of_alike {fs actual : Fields} (hdistinct : fs.IsDistinct) (h : fs.Alike actual) :
    Fits policy fs actual := by
  -- the induction is on a part of the fields, each of which is found
  suffices hpart : ∀ part : Fields, part.IsDistinct →
      (∀ entry ∈ part.toList, ∃ found, actual.get? entry.1 = some found ∧
        found.attributes = entry.2.attributes ∧ entry.2.children.Alike found.children) →
      Fits policy part actual by
    refine hpart fs hdistinct fun entry hmem => ?_
    exact h.exists_of_get? (hdistinct.get?_of_mem hmem)
  intro part
  clear h hdistinct
  induction part generalizing actual with
  | empty => exact fun _ _ => trivial
  | field name a c rest ihchildren ihrest =>
    intro hdistinct hfound
    obtain ⟨-, hbelow, hrest⟩ := hdistinct
    obtain ⟨found, hget, hattributes, hchildren⟩ := hfound (name, ⟨a, c⟩) List.mem_cons_self
    refine ⟨⟨found, hget, ?_, ?_, ?_⟩, ?_⟩
    · rw [hattributes]
      exact policy.accepts_self a.type
    · rw [hattributes]
      exact a.agreesWith_self
    · refine ihchildren hbelow fun entry hmem => ?_
      exact hchildren.exists_of_get? (hbelow.get?_of_mem hmem)
    · exact ihrest hrest fun entry hmem => hfound entry (List.mem_cons_of_mem _ hmem)

/-! ## Comparing -/

lemma attributeMismatches_eq_nil_iff {place : Place} {expected found : Attributes} :
    attributeMismatches place expected found = [] ↔ expected.AgreesWith found := by
  have hall : ∀ which : Attribute, which ∈ Attribute.all := by
    intro which
    cases which <;> decide
  rw [attributeMismatches, List.filterMap_eq_nil_iff]
  constructor
  · intro h which hdeclared
    have hnone := h which (hall which)
    by_contra hne
    simp [hdeclared, hne] at hnone
  · intro h which _
    rw [if_neg]
    rintro ⟨hdeclared, hne⟩
    exact hne (h which hdeclared)

lemma fieldMismatches_eq_nil_iff {fs actual : Fields} :
    fieldMismatches policy above fs actual = [] ↔ Fits policy fs actual := by
  induction fs generalizing above actual with
  | empty => simp [fieldMismatches, Fits]
  | field name a c rest ihchildren ihrest =>
    rw [fieldMismatches, Fits, List.append_eq_nil_iff, ihrest]
    refine and_congr_left fun _ => ?_
    cases hget : actual.get? name with
    | none => simp
    | some found =>
      by_cases haccepts : policy.accepts a.type found.attributes.type = true
      · simp [haccepts, attributeMismatches_eq_nil_iff, ihchildren]
      · simp [haccepts]

lemma typeMismatches_eq_nil_iff {entityType : String} {target : TypeMapping}
    {actual : Option TypeMapping} :
    typeMismatches policy entityType target actual = [] ↔
      ∃ found, actual = some found ∧ Fits policy target.fields found.fields := by
  cases actual with
  | none => simp [typeMismatches]
  | some found =>
    rw [typeMismatches, fieldMismatches_eq_nil_iff, fits_sortedDeep]
    simp

/-- A comparison reports nothing exactly if all entity types of the target are there and fit. -/
theorem compare_eq_ok_nil_iff {target : IndexSchema} {actual : Table TypeMapping} :
    compare policy target actual = .ok [] ↔ ∀ entry ∈ target.mappings, ∃ found,
      Table.get? actual entry.1 = some found ∧ Fits policy entry.2.fields found.fields := by
  have hnil : compare policy target actual = .ok [] ↔ mismatches policy target actual = [] := by
    rw [compare]
    constructor
    · intro h
      split at h
      · cases h
      · exact List.map_eq_nil_iff.1 (Except.ok.inj h)
    · intro h
      rw [h]
      rfl
  rw [hnil, mismatches, List.flatMap_eq_nil_iff]
  simp only [(Table.perm_sorted target.mappings).mem_iff, typeMismatches_eq_nil_iff]

end Comparison

end SearchIndex
