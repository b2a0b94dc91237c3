/-
# The conflicts of a merge

Which fields of a target are in conflict can be said place by place, without the walk that a merge
takes.  A field clashes with the one that the service has if the types are incompatible or the
target sets another analyzer (`Merge.Clashes`); it is in conflict if it clashes and none of the
fields above it does (`Merge.Conflicting`), for a merge does not look below a conflict.

A merge finds all of these conflicts, each once, in the order of the target, and finds them before
it puts anything.  Where there are none, it puts the planned mappings in turn
(`Schema.merge_conflicts_exact`).
-/
import SearchIndex.Proofs.Mapping.Walking
import SearchIndex.Proofs.Schema.Convergence
import SearchIndex.Proofs.Schema.Inspecting

namespace SearchIndex

variable {policy : Compatibility} {target : IndexSchema} {existing : Table TypeMapping}

/-- The places of all fields of a target, in the order of the entity types, the place of a field
before those below it. -/
def IndexSchema.places (target : IndexSchema) : List Place :=
  (Table.sorted target.mappings).flatMap fun entry =>
    entry.2.fields.paths.map fun path => ⟨entry.1, path⟩

/-- No place occurs twice. -/
lemma IndexSchema.IsDistinct.nodup_places (h : target.IsDistinct) : target.places.Nodup := by
  refine List.nodup_flatMap.2 ⟨fun entry hmem => ?_, ?_⟩
  · have hdistinct := h.2 entry ((Table.perm_sorted target.mappings).mem_iff.1 hmem)
    exact (Fields.nodup_paths hdistinct).map fun _ _ heq => (Place.mk.inj heq).2
  · refine h.1.pairwise_sorted.imp fun hlt place hplace hplace' => ?_
    obtain ⟨path, -, rfl⟩ := List.mem_map.1 hplace
    obtain ⟨path', -, heq⟩ := List.mem_map.1 hplace'
    exact String.lt_irrefl _ ((Place.mk.inj heq).1 ▸ hlt)

namespace Merge

/-! ## Clashes and conflicts -/

/-- A field that is wanted clashes with the one that the service has: the types are incompatible, or
an analyzer is wanted that is not the one in use. -/
def Clashes (policy : Compatibility) (wanted current : Attributes) : Prop :=
  policy.accepts wanted.type current.type = false ∨
    ∃ name ∈ wanted.analyzer, name ≠ analyzerInUse current

instance (wanted current : Attributes) : Decidable (Clashes policy wanted current) :=
  inferInstanceAs (Decidable (_ ∨ _))

lemma conflict?_eq_none_iff {place : Place} {wanted current : Attributes} :
    conflict? policy place wanted current = none ↔ ¬ Clashes policy wanted current := by
  rw [Clashes, conflict?]
  by_cases haccepts : policy.accepts wanted.type current.type = true
  · cases wanted.analyzer <;> simp [haccepts]
  · simp [haccepts]

/-- A conflict is that of the place at which it is found. -/
lemma place_of_conflict? {place : Place} {wanted current : Attributes} {c : Conflict}
    (h : conflict? policy place wanted current = some c) : c.place = place := by
  rw [conflict?] at h
  split at h
  · split at h
    · split at h
      · obtain rfl := Option.some.inj h
        rfl
      · cases h
    · cases h
  · obtain rfl := Option.some.inj h
    rfl

/-- The field at a place is in the target and in the mappings of the service, and the two clash. -/
def ClashesAt (policy : Compatibility) (target : IndexSchema) (existing : Table TypeMapping)
    (place : Place) : Prop :=
  ∃ wanted current, attributesAt? target.mappings place = some wanted ∧
    attributesAt? existing place = some current ∧ Clashes policy wanted current

/-- The field at a place is in conflict: it clashes, and no field above it does. -/
structure Conflicting (policy : Compatibility) (target : IndexSchema)
    (existing : Table TypeMapping) (place : Place) : Prop where
  clashes : ClashesAt policy target existing place
  above : ∀ upper : Place, upper.IsAbove place → ¬ ClashesAt policy target existing upper

/-- Where a field clashes, it or one above it is in conflict. -/
lemma ClashesAt.exists_conflicting {place : Place} (h : ClashesAt policy target existing place) :
    ∃ top, Conflicting policy target existing top ∧ (top = place ∨ top.IsAbove place) := by
  induction hlength : place.path.length using Nat.strong_induction_on generalizing place with
  | h length ih =>
    by_cases hupper : ∃ upper : Place, upper.IsAbove place ∧ ClashesAt policy target existing upper
    · obtain ⟨upper, habove, hclashes⟩ := hupper
      obtain ⟨top, htop, rfl | hhigher⟩ := ih _ (hlength ▸ habove.length_lt) hclashes rfl
      · exact ⟨top, htop, Or.inr habove⟩
      · exact ⟨top, htop, Or.inr (hhigher.trans habove)⟩
    · exact ⟨place, ⟨h, fun upper habove hclashes => hupper ⟨upper, habove, hclashes⟩⟩, Or.inl rfl⟩

/-- A field is in conflict exactly if it clashes and no field above it is in conflict. -/
lemma conflicting_iff {place : Place} : Conflicting policy target existing place ↔
    ClashesAt policy target existing place ∧
      ∀ upper : Place, upper.IsAbove place → ¬ Conflicting policy target existing upper := by
  refine ⟨fun h => ⟨h.clashes, fun upper habove hupper => h.above upper habove hupper.clashes⟩, ?_⟩
  rintro ⟨hclashes, hnone⟩
  refine ⟨hclashes, fun upper habove hupper => ?_⟩
  obtain ⟨top, htop, rfl | hhigher⟩ := hupper.exists_conflicting
  · exact hnone top habove htop
  · exact hnone top (hhigher.trans habove) htop

/-! ## The walk of a merge -/

/-- What a merge says at a field. -/
def visit (policy : Compatibility) (place : Place) (wanted : Attributes) :
    Option Attributes → List Conflict
  | none => []
  | some current => (conflict? policy place wanted current).toList

/-- A merge goes on below a field that does not clash. -/
def passes (policy : Compatibility) (wanted current : Attributes) : Bool :=
  !decide (Clashes policy wanted current)

lemma passes_iff {wanted current : Attributes} :
    passes policy wanted current = true ↔ ¬ Clashes policy wanted current := by
  simp [passes]

lemma fieldConflicts_eq_walk (above : Place) (fs beside : Fields) :
    fieldConflicts policy above fs beside =
      Fields.walk (visit policy) (passes policy) above fs beside := by
  induction fs generalizing above beside with
  | empty => rfl
  | field name a children rest ihchildren ihrest =>
    rw [fieldConflicts, Fields.walk, ihrest]
    cases beside.get? name with
    | none => rfl
    | some current =>
      cases hconflict : conflict? policy (above.descend [name]) a current.attributes with
      | none =>
        have hpasses := passes_iff.2 (conflict?_eq_none_iff.1 hconflict)
        rw [Place.descend] at hconflict
        simp [visit, hpasses, hconflict, ihchildren, Place.descend]
      | some c =>
        have hpasses : ¬ passes policy a current.attributes = true := fun hpasses => by
          simp [conflict?_eq_none_iff.2 (passes_iff.1 hpasses)] at hconflict
        rw [Place.descend] at hconflict
        simp [visit, hpasses, hconflict, Place.descend]

lemma mem_visit_iff {place : Place} {wanted : Attributes} {current : Option Attributes}
    {c : Conflict} : c ∈ visit policy place wanted current ↔
      ∃ known, current = some known ∧ conflict? policy place wanted known = some c := by
  cases current with
  | none => simp [visit]
  | some known => simp [visit]

/-- At a field there is at most one conflict, which is of its place. -/
lemma sublist_visit (place : Place) (wanted : Attributes) (current : Option Attributes) :
    ((visit policy place wanted current).map Conflict.place).Sublist [place] := by
  cases current with
  | none => exact List.nil_sublist _
  | some known =>
    rw [visit]
    cases hconflict : conflict? policy place wanted known with
    | none => exact List.nil_sublist _
    | some c => simp [place_of_conflict? hconflict]

section Target

variable (hdistinct : target.IsDistinct)
include hdistinct

/-- A walk reaches a field that both have if no field above it clashes. -/
lemma reaches_iff {entityType : String} {mapping current : TypeMapping}
    (hmem : (entityType, mapping) ∈ target.mappings)
    (hcurrent : Table.get? existing entityType = some current) {path : List String}
    {wanted known : Attributes} (hwanted : mapping.fields.at? path = some wanted)
    (hknown : current.fields.at? path = some known) :
    Fields.Reaches (passes policy) mapping.fields current.fields path ↔
      ∀ upper : Place, upper.IsAbove ⟨entityType, path⟩ →
        ¬ ClashesAt policy target existing upper := by
  have hmapping := attributesAt?_of_get? ((Table.get?_eq_some_iff hdistinct.1).2 hmem)
  have hexisting := attributesAt?_of_get? hcurrent
  constructor
  · rintro h ⟨_, upper⟩ ⟨rfl, hstarts, hne, hnil⟩ ⟨a, b, ha, hb, hclashes⟩
    obtain ⟨a', b', ha', hb', hpasses⟩ := h upper hstarts hne hnil
    obtain rfl := Option.some.inj (ha'.symm.trans ((hmapping upper).symm.trans ha))
    obtain rfl := Option.some.inj (hb'.symm.trans ((hexisting upper).symm.trans hb))
    exact passes_iff.1 hpasses hclashes
  · intro h upper hstarts hne hnil
    obtain ⟨a, ha⟩ := Fields.exists_at?_of_prefix hnil hstarts hwanted
    obtain ⟨b, hb⟩ := Fields.exists_at?_of_prefix hnil hstarts hknown
    refine ⟨a, b, ha, hb, passes_iff.2 fun hclashes => ?_⟩
    exact h ⟨entityType, upper⟩ ⟨rfl, hstarts, hne, hnil⟩
      ⟨a, b, (hmapping upper).trans ha, (hexisting upper).trans hb, hclashes⟩

/-- A merge finds the conflict of each field that is in conflict, and no others. -/
lemma mem_conflicts_iff {c : Conflict} : c ∈ conflicts policy target existing ↔
    (∀ upper : Place, upper.IsAbove c.place → ¬ ClashesAt policy target existing upper) ∧
      ∃ wanted current, attributesAt? target.mappings c.place = some wanted ∧
        attributesAt? existing c.place = some current ∧
        conflict? policy c.place wanted current = some c := by
  have hsorted (entry : String × TypeMapping) :
      entry ∈ Table.sorted target.mappings ↔ entry ∈ target.mappings :=
    (Table.perm_sorted target.mappings).mem_iff
  simp only [conflicts, List.mem_flatMap, hsorted]
  constructor
  · rintro ⟨⟨entityType, mapping⟩, hmem, h⟩
    cases hcurrent : Table.get? existing entityType with
    | none => simp [hcurrent] at h
    | some current =>
      simp only [hcurrent, fieldConflicts_eq_walk] at h
      obtain ⟨path, wanted, hwanted, hreaches, hvisit⟩ :=
        (Fields.mem_walk_iff (hdistinct.2 _ hmem)).1 h
      obtain ⟨known, hknown, hconflict⟩ := mem_visit_iff.1 hvisit
      have hplace : c.place = ⟨entityType, path⟩ := place_of_conflict? hconflict
      rw [hplace]
      refine ⟨(reaches_iff hdistinct hmem hcurrent hwanted hknown).1 hreaches, wanted, known,
        ?_, ?_, hconflict⟩
      · rw [attributesAt?_of_get? ((Table.get?_eq_some_iff hdistinct.1).2 hmem), hwanted]
      · rw [attributesAt?_of_get? hcurrent, hknown]
  · rintro ⟨habove, wanted, known, hwanted, hknown, hconflict⟩
    obtain ⟨mapping, hmapping, hwanted⟩ := exists_get?_of_attributesAt? hwanted
    obtain ⟨current, hcurrent, hknown⟩ := exists_get?_of_attributesAt? hknown
    have hmem := Table.mem_of_get?_eq_some hmapping
    refine ⟨_, hmem, ?_⟩
    simp only [hcurrent, fieldConflicts_eq_walk]
    refine (Fields.mem_walk_iff (hdistinct.2 _ hmem)).2 ⟨c.place.path, wanted, hwanted, ?_, ?_⟩
    · exact (reaches_iff hdistinct hmem hcurrent hwanted hknown).2 habove
    · exact mem_visit_iff.2 ⟨known, hknown, hconflict⟩

/-- The places of the conflicts, in the order of the target. -/
lemma sublist_places :
    ((conflicts policy target existing).map Conflict.place).Sublist target.places := by
  rw [conflicts, List.map_flatMap]
  refine List.Sublist.flatMap_right _ fun entry hmem => ?_
  have hfields := hdistinct.2 entry ((Table.perm_sorted target.mappings).mem_iff.1 hmem)
  cases hcurrent : Table.get? existing entry.1 with
  | none => simp [hcurrent]
  | some current =>
    simp only [hcurrent, fieldConflicts_eq_walk, Fields.walk_eq_flatMap hfields, List.map_flatMap,
      List.map_eq_flatMap (l := entry.2.fields.paths)]
    refine List.Sublist.flatMap_right _ fun path _ => ?_
    exact Fields.walkAt_of_visit (P := fun found => (found.map Conflict.place).Sublist [_])
      (List.nil_sublist _) fun wanted known => sublist_visit _ wanted known

end Target

/-- All the conflicts of a target with the mappings of the service: one for each field that is in
conflict, in the order of the target. -/
structure AreAllConflicts (policy : Compatibility) (target : IndexSchema)
    (existing : Table TypeMapping) (found : List Conflict) : Prop where
  /-- There is a conflict at a place exactly if the field there is in conflict. -/
  mem_iff : ∀ place, place ∈ found.map Conflict.place ↔ Conflicting policy target existing place
  /-- There is one conflict at a place. -/
  nodup : (found.map Conflict.place).Nodup
  /-- The conflicts come in the order of the target. -/
  inOrder : (found.map Conflict.place).Sublist target.places
  /-- Each of them says how the field clashes with the one that the service has. -/
  reason : ∀ c ∈ found, ∃ wanted current, attributesAt? target.mappings c.place = some wanted ∧
    attributesAt? existing c.place = some current ∧
    conflict? policy c.place wanted current = some c

lemma areAllConflicts (hdistinct : target.IsDistinct) :
    AreAllConflicts policy target existing (conflicts policy target existing) where
  mem_iff place := by
    constructor
    · intro h
      obtain ⟨c, hmem, rfl⟩ := List.mem_map.1 h
      obtain ⟨habove, wanted, current, hwanted, hcurrent, hconflict⟩ :=
        (mem_conflicts_iff hdistinct).1 hmem
      refine ⟨⟨wanted, current, hwanted, hcurrent, ?_⟩, habove⟩
      by_contra hnot
      simp [conflict?_eq_none_iff.2 hnot] at hconflict
    · rintro ⟨⟨wanted, current, hwanted, hcurrent, hclashes⟩, habove⟩
      have hsome : conflict? policy place wanted current ≠ none :=
        mt conflict?_eq_none_iff.1 (not_not_intro hclashes)
      obtain ⟨c, hconflict⟩ := Option.ne_none_iff_exists'.1 hsome
      obtain rfl := place_of_conflict? hconflict
      exact List.mem_map_of_mem
        ((mem_conflicts_iff hdistinct).2 ⟨habove, wanted, current, hwanted, hcurrent, hconflict⟩)
  nodup := hdistinct.nodup_places.sublist (sublist_places hdistinct)
  inOrder := sublist_places hdistinct
  reason c hmem := ((mem_conflicts_iff hdistinct).1 hmem).2

/-- A merge finds no conflicts exactly if no field is in conflict. -/
lemma conflicts_eq_nil_iff (hdistinct : target.IsDistinct) :
    conflicts policy target existing = [] ↔
      ∀ place, ¬ Conflicting policy target existing place := by
  rw [← List.map_eq_nil_iff (f := Conflict.place), List.eq_nil_iff_forall_not_mem]
  exact forall_congr' fun place => not_congr ((areAllConflicts hdistinct).mem_iff place)

end Merge

namespace Schema

/-- **Conflicts come before writes.**  On an index that is there, a merge fails with conflicts and
puts nothing exactly if a field is in conflict; it then names all conflicts.  If there is none, it
puts the mapping of each entity type of the target in the order of their names, until the service
refuses one. -/
theorem merge_conflicts_exact {ω : Type} (serve : ω → Call → Answer × ω) (policy : Compatibility)
    (target : IndexSchema) (options : SchemaOptions) (existing : Table TypeMapping) (s : Shared)
    (outside after : ω) (hdistinct : target.IsDistinct)
    (hdescribes : Describes serve target.name options existing outside after) :
    let t := (Activity.ofAction (merge policy target options)).transcript serve s outside
    let plan := Merge.plan target existing
    (∀ place, Merge.Conflicting policy target existing place ↔
        Merge.ClashesAt policy target existing place ∧
          ∀ upper : Place, upper.IsAbove place →
            ¬ Merge.Conflicting policy target existing upper) ∧
      (((∃ index texts, t.result = .error (.mergeConflict index texts)) ∧
          ∀ x ∈ t.calls, x.1.method ≠ "PUT") ↔
        ∃ place, Merge.Conflicting policy target existing place) ∧
      ((∃ place, Merge.Conflicting policy target existing place) →
        ∃ found, Merge.AreAllConflicts policy target existing found ∧
          t.result = .error (.mergeConflict target.name (found.map Conflict.message))) ∧
      ((∀ place, ¬ Merge.Conflicting policy target existing place) →
        Table.keys plan = sortTexts (Table.keys target.mappings) ∧
          ∃ reads puts, t.calls = reads ++ puts ∧
            reads.map Prod.fst = inspection target.name options ∧
            PutsInTurn target.name plan puts ∧
            (t.result = .ok () ↔ ∀ x ∈ puts, x.2.acknowledges = true)) := by
  intro t plan
  refine ⟨fun place => Merge.conflicting_iff, ?_⟩
  by_cases hnone : Merge.conflicts policy target existing = []
  · have hnot := (Merge.conflicts_eq_nil_iff hdistinct).1 hnone
    obtain ⟨reads, writes, hcalls, hreads, hputs, hok⟩ := hdescribes.exists_puts hnone s
    refine ⟨iff_of_false ?_ fun ⟨place, hplace⟩ => hnot place hplace,
      fun ⟨place, hplace⟩ => absurd hplace (hnot place),
      fun _ => ⟨Merge.keys_plan target existing, reads, writes, hcalls, hreads, hputs, hok⟩⟩
    -- a failure would come from a mapping that has been put
    rintro ⟨⟨index, texts, hfailed⟩, hsilent⟩
    have hempty : writes = [] := List.eq_nil_iff_forall_not_mem.2 fun x hx => by
      obtain ⟨entry, -, hupdate⟩ := hputs.exists_entry hx
      refine hsilent x (hcalls ▸ List.mem_append_right reads hx) ?_
      rw [hupdate, method_mappingUpdate]
    have hfine : t.result = .ok () := hok.2 (by simp [hempty])
    cases hfailed.symm.trans hfine
  · obtain ⟨s', reads, hreads, -, hends⟩ := hdescribes.exists_transcript_merge policy s
    obtain ⟨hcalls, hresult⟩ := hends hnone
    have hall : Merge.AreAllConflicts policy target existing _ := Merge.areAllConflicts hdistinct
    have hnoput : ∀ x ∈ t.calls, x.1.method ≠ "PUT" := fun x hx => by
      rw [hcalls] at hx
      exact method_ne_of_mem_inspection (hreads ▸ List.mem_map_of_mem hx)
    obtain ⟨c, hc⟩ := List.exists_mem_of_ne_nil _ hnone
    have hconflicting := (hall.mem_iff c.place).1 (List.mem_map_of_mem hc)
    exact ⟨iff_of_true ⟨⟨_, _, hresult⟩, hnoput⟩ ⟨_, hconflicting⟩,
      fun _ => ⟨_, hall, hresult⟩, fun hnot => absurd hconflicting (hnot c.place)⟩

/-- Books with a title in English, a number of pages, and a publisher in a town. -/
def revisedBooks : IndexSchema :=
  ⟨"library", [
    ("book", ⟨"strict",
      .field "title" { Attributes.ofType (.of .text) with analyzer := some "english" } .empty
        (.field "pages" (.ofType (.of .integer)) .empty
          (.field "publisher" (.ofType (.of .object))
            (.field "town" (.ofType (.of .keyword)) .empty .empty) .empty))⟩),
    ("author", ⟨"strict", .field "born" (.ofType (.of .date)) .empty .empty⟩)]⟩

/-- Books of which the title has no analyzer of its own and the publisher is a name, and authors who
were born in a place. -/
def disputedBooks : IndexSchema :=
  ⟨"library", [
    ("author", ⟨"strict", .field "born" (.ofType (.of .text)) .empty .empty⟩),
    ("book", ⟨"strict",
      .field "pages" (.ofType (.of .long)) .empty
        (.field "publisher" (.ofType (.of .text))
          (.field "town" (.ofType (.of .text)) .empty .empty)
          (.field "title" (.ofType (.of .text)) .empty .empty))⟩)]⟩

/-- Conflicts of every kind are named in order, those below a conflict left out. -/
theorem merge_conflicts_exact_books :
    let t := (Activity.ofAction (merge .standard revisedBooks default)).transcript
      (reporting disputedBooks) default ()
    let found := [
      "type 'author', field 'born': existing type 'text' is incompatible with 'date'",
      "type 'book', field 'title': existing analyzer 'None' cannot be changed to 'english'",
      "type 'book', field 'publisher': existing type 'text' is incompatible with 'object'"]
    revisedBooks.IsDistinct ∧
      Describes (reporting disputedBooks) "library" default disputedBooks.reported () () ∧
      t.result = .error (.mergeConflict "library" found) ∧
      (∀ x ∈ t.calls, x.1.method ≠ "PUT") ∧
      ∃ conflicts,
        Merge.AreAllConflicts .standard revisedBooks disputedBooks.reported conflicts ∧
        conflicts.map Conflict.message = found := by
  intro t found
  have hdistinct : revisedBooks.IsDistinct := by decide
  have hdescribes : Describes (reporting disputedBooks) "library" default disputedBooks.reported
      () () := describes_reporting disputedBooks default
  have hresult : t.result = .error (.mergeConflict "library" found) := rfl
  have hmethods : t.calls.map (fun x => x.1.method) = ["HEAD", "GET", "GET"] := rfl
  have hsilent : ∀ x ∈ t.calls, x.1.method ≠ "PUT" := by
    intro x hx
    have hmem := List.mem_map_of_mem (f := fun x : Call × Answer => x.1.method) hx
    rw [hmethods] at hmem
    intro hput
    simp [hput] at hmem
  obtain ⟨-, hconflicting, hall, -⟩ :=
    merge_conflicts_exact (reporting disputedBooks) .standard revisedBooks default
      disputedBooks.reported default () () hdistinct hdescribes
  obtain ⟨conflicts, hconflicts, hnamed⟩ := hall (hconflicting.1 ⟨⟨_, _, hresult⟩, hsilent⟩)
  refine ⟨hdistinct, hdescribes, hresult, hsilent, conflicts, hconflicts, ?_⟩
  exact (Failure.mergeConflict.inj (Except.error.inj (hnamed.symm.trans hresult))).2

end Schema

end SearchIndex
