/-
# Validation is at least as strict as merging

A comparison and a merge walk through the target on their own, with different rules for what the
service leaves out.  Still, where a comparison reports nothing a merge has nothing to do: it finds
no conflict, and what it puts is the target with the types that the service has given the fields
already (`Merge.Restates`).  So no field is added or gets another type, and the service has the same
fields before and after (`merge_of_compare`).

An analyzer without a name would be taken for the standard one by a merge and for itself by a
comparison, so mappings with such an analyzer, which no service reports, are left out
(`Fields.NamesAnalyzers`).
-/
import SearchIndex.Merge
import SearchIndex.Descriptor.Mapping
import SearchIndex.Proofs.Schema.Convergence
import SearchIndex.Proofs.Schema.Fitting
import SearchIndex.Proofs.Table

namespace SearchIndex

variable {policy : Compatibility} {above : Place}

namespace Fields

/-- No analyzer is the empty text, at any depth. -/
def NamesAnalyzers : Fields → Prop
  | empty => True
  | field _ a children rest =>
    a.analyzer ≠ some "" ∧ children.NamesAnalyzers ∧ rest.NamesAnalyzers

instance instDecidableNamesAnalyzers : (fs : Fields) → Decidable fs.NamesAnalyzers
  | empty => .isTrue trivial
  | field _ _ children rest =>
    have := instDecidableNamesAnalyzers children
    have := instDecidableNamesAnalyzers rest
    inferInstanceAs (Decidable (_ ∧ _ ∧ _))

lemma NamesAnalyzers.get? {fs : Fields} (h : fs.NamesAnalyzers) {name : String} {p : Property}
    (hp : fs.get? name = some p) :
    p.attributes.analyzer ≠ some "" ∧ p.children.NamesAnalyzers := by
  induction fs with
  | empty => simp at hp
  | field n a c rest _ ih =>
    obtain ⟨hanalyzer, hchildren, hrest⟩ := h
    rw [Fields.get?] at hp
    split at hp
    · obtain rfl := Option.some.inj hp
      exact ⟨hanalyzer, hchildren⟩
    · exact ih hrest hp

/-- Where all fields that are put are there already, putting them changes nothing. -/
lemma extend_eq_self {fs put : Fields}
    (h : ∀ path, (put.at? path).isSome → (fs.at? path).isSome) : fs.extend put = fs := by
  induction fs generalizing put with
  | empty =>
    cases put with
    | empty => rfl
    | field name a c rest =>
      have htop := h [name]
      simp [get?] at htop
  | field name a children rest ihchildren ihrest =>
    have hrest : rest.extend (put.without name) = rest := by
      refine ihrest fun path hsome => ?_
      cases path with
      | nil => simp at hsome
      | cons n path =>
        -- what is put under another name is looked for among the other fields
        have hn : name ≠ n := by
          rintro rfl
          rw [at?_of_get?_eq_none (get?_without_self put name)] at hsome
          cases hsome
        have hput : (put.at? (n :: path)).isSome := by
          rwa [at?_congr_of_get? (get?_without_of_ne hn)] at hsome
        have hfield := h (n :: path) hput
        have hget : (Fields.field name a children rest).get? n = rest.get? n := by
          rw [Fields.get?, if_neg hn]
        rwa [at?_congr_of_get? hget] at hfield
    rw [extend, hrest]
    cases hp : put.get? name with
    | none => rfl
    | some p =>
      have hchildren : children.extend p.children = children := by
        refine ihchildren fun path hsome => ?_
        have hpath : path ≠ [] := by
          rintro rfl
          simp at hsome
        have hfound : (field name a children rest).get? name = some ⟨a, children⟩ := if_pos rfl
        have hfield := h (name :: path)
        rw [at?_cons_of_ne_nil hp hpath, at?_cons_of_ne_nil hfound hpath] at hfield
        exact hfield hsome
      simp only [hchildren]

end Fields

/-- Mappings that are put one after another, each for an entity type that has all its fields
already, leave the fields of every entity type as they are. -/
lemma Table.fields_extendAll {existing plan : Table TypeMapping}
    (h : ∀ entry ∈ plan, ∃ current, Table.get? existing entry.1 = some current ∧
      current.fields.extend entry.2.fields = current.fields) (entityType : String) :
    (Table.get? (Table.extendAll existing plan) entityType).map TypeMapping.fields =
      (Table.get? existing entityType).map TypeMapping.fields := by
  induction plan generalizing existing with
  | nil => rfl
  | cons entry rest ih =>
    obtain ⟨current, hcurrent, hsame⟩ := h entry List.mem_cons_self
    let after := Table.set existing entry.1
      (TypeMapping.extend (Table.get? existing entry.1) entry.2)
    -- after the first mapping is put, each entity type still has the fields it had
    have hafter : ∀ other, (Table.get? after other).map TypeMapping.fields =
        (Table.get? existing other).map TypeMapping.fields := by
      intro other
      by_cases hother : entry.1 = other
      · subst hother
        simp [after, Table.get?_set_self, hcurrent, TypeMapping.extend, hsame]
      · rw [Table.get?_set_of_ne _ _ hother]
    rw [Table.extendAll]
    refine (ih fun other hother => ?_).trans (hafter entityType)
    obtain ⟨known, hknown, hkeeps⟩ := h other (List.mem_cons_of_mem _ hother)
    have hfields := hafter other.1
    rw [hknown] at hfields
    obtain ⟨now, hnow, hnowFields⟩ := Option.map_eq_some_iff.1 hfields
    exact ⟨now, hnow, by rw [hnowFields, hkeeps]⟩

namespace Merge

open Comparison

/-- Attributes of a type that will do, with what is wanted in force, are no conflict. -/
lemma conflict?_eq_none {place : Place} {wanted existing : Attributes}
    (htype : policy.accepts wanted.type existing.type = true)
    (hagrees : wanted.AgreesWith existing) (hnamed : existing.analyzer ≠ some "") :
    conflict? policy place wanted existing = none := by
  rw [conflict?, if_pos htype]
  cases hwanted : wanted.analyzer with
  | none => rfl
  | some name =>
    have heffective := hagrees .analyzer (by simp [Attributes.declared, hwanted])
    have huse : name = analyzerInUse existing := by
      cases hexisting : existing.analyzer with
      | none =>
        -- only a text has an analyzer that is not set
        by_cases htext : existing.type = .of .text
        · simpa [Attributes.effective, Attributes.declared, Attributes.implied, hwanted,
            hexisting, htext, analyzerInUse] using heffective
        · simp [Attributes.effective, Attributes.declared, Attributes.implied, hwanted,
            hexisting, htext] at heffective
      | some other =>
        have hother : other ≠ "" := fun hempty => hnamed (by rw [hexisting, hempty])
        simpa [Attributes.effective, Attributes.declared, hwanted, hexisting, analyzerInUse,
          hother] using heffective
    simp [huse]

/-- Fields that fit are in no conflict. -/
lemma fieldConflicts_eq_nil {fs existing : Fields} (hfits : Fits policy fs existing)
    (hnamed : existing.NamesAnalyzers) : fieldConflicts policy above fs existing = [] := by
  induction fs generalizing above existing with
  | empty => rfl
  | field name wanted children rest ihchildren ihrest =>
    obtain ⟨⟨current, hcurrent, htype, hattributes, hchildren⟩, hrest⟩ := hfits
    obtain ⟨hanalyzer, hbelow⟩ := hnamed.get? hcurrent
    rw [fieldConflicts, ihrest hrest hnamed, hcurrent]
    simp only [conflict?_eq_none htype hattributes hanalyzer, ihchildren hchildren hbelow,
      List.append_nil]

/-- What is planned for the field at a path: the attributes that are wanted, with the type that the
service has for the field if it has the field. -/
lemma at?_plannedFields (fs existing : Fields) (path : List String) :
    (plannedFields fs existing).at? path = (fs.at? path).map fun wanted =>
      match existing.at? path with
      | none => wanted
      | some current => { wanted with type := current.type } := by
  rw [Fields.at?_eq_find?, Fields.at?_eq_find?, Fields.at?_eq_find?, find?_plannedFields]
  cases fs.find? path with
  | none => rfl
  | some p => cases existing.find? path <;> rfl

/-- Every field of a target that fits is there, with a type that will do. -/
lemma exists_at?_of_fits {fs existing : Fields} (hfits : Fits policy fs existing)
    {path : List String} {wanted : Attributes} (hwanted : fs.at? path = some wanted) :
    ∃ current, existing.at? path = some current := by
  induction path generalizing fs existing with
  | nil => simp at hwanted
  | cons name path ih =>
    cases hget : fs.get? name with
    | none =>
      rw [Fields.at?_of_get?_eq_none hget] at hwanted
      cases hwanted
    | some p =>
      obtain ⟨found, hfound, -, -, hchildren⟩ := hfits.get? hget
      by_cases hpath : path = []
      · subst hpath
        exact ⟨found.attributes, by simp [hfound]⟩
      · rw [Fields.at?_cons_of_ne_nil hget hpath] at hwanted
        rw [Fields.at?_cons_of_ne_nil hfound hpath]
        exact ih hchildren hwanted

/-- The mapping that is put has the fields that are wanted and no others, and each of them is there
already and keeps the type that it has. -/
structure Restates (wanted current put : TypeMapping) : Prop where
  /-- The policy for unknown fields is the one that is wanted. -/
  dynamic : put.dynamic = wanted.dynamic
  /-- No field is put that is not wanted. -/
  fields : ∀ path, put.fields.at? path = none ↔ wanted.fields.at? path = none
  /-- A field that is wanted is put as it is wanted, but for the type. -/
  types : ∀ path attributes, wanted.fields.at? path = some attributes →
    ∃ known, current.fields.at? path = some known ∧
      put.fields.at? path = some { attributes with type := known.type }

lemma restates_plannedMapping {wanted current : TypeMapping}
    (hfits : Fits policy wanted.fields current.fields) :
    Restates wanted current (plannedMapping wanted (some current)) where
  dynamic := rfl
  fields path := by
    show (plannedFields wanted.fields current.fields).at? path = none ↔ _
    rw [at?_plannedFields, Option.map_eq_none_iff]
  types path attributes hwanted := by
    obtain ⟨known, hknown⟩ := exists_at?_of_fits hfits hwanted
    refine ⟨known, hknown, ?_⟩
    show (plannedFields wanted.fields current.fields).at? path = _
    rw [at?_plannedFields, hwanted, hknown]
    rfl

/-- What restates a mapping adds nothing to the fields that are there. -/
lemma Restates.extend_eq_self {wanted current put : TypeMapping} (h : Restates wanted current put) :
    current.fields.extend put.fields = current.fields := by
  refine Fields.extend_eq_self fun path hsome => ?_
  have hput : put.fields.at? path ≠ none := Option.isSome_iff_ne_none.1 hsome
  obtain ⟨attributes, hwanted⟩ :=
    Option.ne_none_iff_exists'.1 fun hnone => hput ((h.fields path).2 hnone)
  obtain ⟨known, hknown, -⟩ := h.types path attributes hwanted
  rw [hknown]
  rfl

end Merge

/-- **Validation is at least as strict as merging.**  Where the comparison of a target reports
nothing, a merge of the same target finds no conflict.  It puts one mapping for each entity type of
the target, which restates what the service has, so the fields of all entity types stay as they
are. -/
theorem merge_of_compare (policy : Compatibility) (target : IndexSchema)
    (existing : Table TypeMapping)
    (hnamed : ∀ entry ∈ existing, entry.2.fields.NamesAnalyzers)
    (hcompare : Comparison.compare policy target existing = .ok []) :
    let plan := Merge.plan target existing
    Merge.conflicts policy target existing = [] ∧
      (Table.keys plan).Perm (Table.keys target.mappings) ∧
      (∀ entry ∈ plan, ∃ wanted current, (entry.1, wanted) ∈ target.mappings ∧
        Table.get? existing entry.1 = some current ∧ Merge.Restates wanted current entry.2) ∧
      ∀ entityType, (Table.get? (Table.extendAll existing plan) entityType).map TypeMapping.fields =
        (Table.get? existing entityType).map TypeMapping.fields := by
  intro plan
  have hfits := Comparison.compare_eq_ok_nil_iff.1 hcompare
  have hsorted : ∀ entry ∈ Table.sorted target.mappings, entry ∈ target.mappings :=
    fun entry hmem => (Table.perm_sorted target.mappings).mem_iff.1 hmem
  have hrestates : ∀ entry ∈ plan, ∃ wanted current, (entry.1, wanted) ∈ target.mappings ∧
      Table.get? existing entry.1 = some current ∧ Merge.Restates wanted current entry.2 := by
    intro entry hmem
    obtain ⟨⟨entityType, wanted⟩, hwanted, rfl⟩ := List.mem_map.1 hmem
    obtain ⟨current, hcurrent, hfit⟩ := hfits _ (hsorted _ hwanted)
    refine ⟨wanted, current, hsorted _ hwanted, hcurrent, ?_⟩
    simp only [hcurrent]
    exact Merge.restates_plannedMapping hfit
  refine ⟨?_, ?_, hrestates, ?_⟩
  · refine List.flatMap_eq_nil_iff.2 fun entry hmem => ?_
    obtain ⟨current, hcurrent, hfit⟩ := hfits entry (hsorted entry hmem)
    simp only [hcurrent]
    exact Merge.fieldConflicts_eq_nil hfit (hnamed _ (Table.mem_of_get?_eq_some hcurrent))
  · have hkeys : Table.keys plan = Table.keys (Table.sorted target.mappings) := by
      simp [plan, Merge.plan, Table.keys, Function.comp_def]
    rw [hkeys]
    exact (Table.perm_sorted target.mappings).map Prod.fst
  · refine Table.fields_extendAll fun entry hmem => ?_
    obtain ⟨wanted, current, -, hcurrent, hrestate⟩ := hrestates entry hmem
    exact ⟨current, hcurrent, hrestate.extend_eq_self⟩

/-- Books with a title that is split into words, a number of pages and a publisher in a town. -/
def titledBooks : IndexSchema :=
  ⟨"library", [("book", ⟨"strict",
    .field "title" { Attributes.ofType (.of .text) with analyzer := some "standard" } .empty
      (.field "pages" (.ofType (.of .integer)) .empty
        (.field "publisher" (.ofType (.of .object))
          (.field "town" { Attributes.ofType (.of .keyword) with index := some true } .empty .empty)
          .empty))⟩)]⟩

/-- Books of which the service knows more, with the pages as a wider type and without saying what it
takes for granted. -/
def cataloguedBooks : Table TypeMapping :=
  [("author", ⟨"strict", .empty⟩),
    ("book", ⟨"true",
      .field "pages" (.ofType (.of .long)) .empty
        (.field "publisher" (.ofType (.of .object))
          (.field "name" { Attributes.ofType (.of .text) with analyzer := some "german" } .empty
            (.field "town" (.ofType (.of .keyword)) .empty .empty))
          (.field "title" (.ofType (.of .text)) .empty .empty))⟩)]

/-- Books that are there as they are wanted are put with the types that they have. -/
theorem merge_of_compare_books :
    let plan := Merge.plan titledBooks cataloguedBooks
    (∀ entry ∈ cataloguedBooks, entry.2.fields.NamesAnalyzers) ∧
      Comparison.compare .standard titledBooks cataloguedBooks = .ok [] ∧
      Merge.conflicts .standard titledBooks cataloguedBooks = [] ∧
      (∀ entry ∈ plan, ∃ wanted current, (entry.1, wanted) ∈ titledBooks.mappings ∧
        Table.get? cataloguedBooks entry.1 = some current ∧
        Merge.Restates wanted current entry.2) ∧
      (plan.map fun entry => (entry.2.fields.at? ["pages"]).map Attributes.type) =
        [some (.of .long)] := by
  have hnamed : ∀ entry ∈ cataloguedBooks, entry.2.fields.NamesAnalyzers := by decide
  have hcompare : Comparison.compare .standard titledBooks cataloguedBooks = .ok [] := rfl
  obtain ⟨hconflicts, -, hrestates, -⟩ :=
    merge_of_compare .standard titledBooks cataloguedBooks hnamed hcompare
  exact ⟨hnamed, hcompare, hconflicts, hrestates, rfl⟩

end SearchIndex
