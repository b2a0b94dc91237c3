/-
# Walks through a target

A comparison and a merge both walk through the fields of a target with the fields of the service
beside them.  They say something at each field that they come to, first at the field itself and then
at those below it, and they go below a field only if the one beside it lets them.  `Fields.walk` is
such a walk.

The walk is a recursion on the target.  What it says can be read path by path instead: it goes
through `Fields.paths`, the paths of the target from the top down (`Fields.walk_eq_flatMap`), and at
a path it says what there is to say exactly if the field there is reached, that is if every field
above it lets the walk pass (`Fields.mem_walkAt`).
-/
import SearchIndex.Comparison
import SearchIndex.Proofs.Mapping.Paths
import SearchIndex.Proofs.Table

namespace SearchIndex

/-! ## Places -/

/-- The attributes of the field at a place, if there are mappings with such a field. -/
def attributesAt? (mappings : Table TypeMapping) (place : Place) : Option Attributes :=
  (Table.get? mappings place.entityType).bind fun mapping => mapping.fields.at? place.path

lemma attributesAt?_of_get? {mappings : Table TypeMapping} {entityType : String}
    {mapping : TypeMapping} (h : Table.get? mappings entityType = some mapping)
    (path : List String) :
    attributesAt? mappings ⟨entityType, path⟩ = mapping.fields.at? path := by
  simp [attributesAt?, h]

lemma exists_get?_of_attributesAt? {mappings : Table TypeMapping} {place : Place} {a : Attributes}
    (h : attributesAt? mappings place = some a) :
    ∃ mapping, Table.get? mappings place.entityType = some mapping ∧
      mapping.fields.at? place.path = some a :=
  Option.bind_eq_some_iff.1 h

/-- A field that stands above another one. -/
structure Place.IsAbove (upper place : Place) : Prop where
  entityType : upper.entityType = place.entityType
  prefixed : upper.path <+: place.path
  ne : upper.path ≠ place.path
  ne_nil : upper.path ≠ []

namespace Place.IsAbove

variable {upper place lower : Place}

lemma length_lt (h : upper.IsAbove place) : upper.path.length < place.path.length :=
  lt_of_le_of_ne h.prefixed.length_le fun heq => h.ne (h.prefixed.eq_of_length heq)

lemma trans (h : upper.IsAbove place) (h' : place.IsAbove lower) : upper.IsAbove lower where
  entityType := h.entityType.trans h'.entityType
  prefixed := h.prefixed.trans h'.prefixed
  ne heq := by
    have hlt := h.length_lt.trans h'.length_lt
    rw [heq] at hlt
    exact lt_irrefl _ hlt
  ne_nil := h.ne_nil

end Place.IsAbove

/-- The place to which a path leads from a place. -/
def Place.descend (above : Place) (path : List String) : Place :=
  { above with path := above.path ++ path }

@[simp] lemma Place.descend_nil (above : Place) : above.descend [] = above := by
  simp [descend]

@[simp] lemma Place.descend_descend (above : Place) (path path' : List String) :
    (above.descend path).descend path' = above.descend (path ++ path') := by
  simp [descend]

namespace Fields

/-! ## The paths of fields -/

/-- The paths of all fields, that of a field before those of the fields below it. -/
def paths : Fields → List (List String)
  | empty => []
  | field name _ children rest => [name] :: (children.paths.map (name :: ·) ++ rest.paths)

/-- A path begins with the name of a field. -/
lemma exists_cons_of_mem_paths {fs : Fields} {path : List String} (h : path ∈ fs.paths) :
    ∃ name ∈ fs.names, ∃ below, path = name :: below := by
  induction fs with
  | empty => exact absurd h List.not_mem_nil
  | field name a children rest _ ih =>
    rcases List.mem_cons.1 h with rfl | h
    · exact ⟨name, List.mem_cons_self, [], rfl⟩
    rcases List.mem_append.1 h with h | h
    · obtain ⟨below, -, rfl⟩ := List.mem_map.1 h
      exact ⟨name, List.mem_cons_self, below, rfl⟩
    · obtain ⟨other, hother, below, rfl⟩ := ih h
      exact ⟨other, List.mem_cons_of_mem _ hother, below, rfl⟩

/-- No path begins with a name that no field has. -/
lemma cons_not_mem_paths {fs : Fields} {name : String} (h : name ∉ fs.names) (below : List String) :
    name :: below ∉ fs.paths := by
  intro hmem
  obtain ⟨other, hother, _, heq⟩ := exists_cons_of_mem_paths hmem
  exact h ((List.cons.inj heq).1 ▸ hother)

lemma ne_nil_of_mem_paths {fs : Fields} {path : List String} (h : path ∈ fs.paths) : path ≠ [] := by
  obtain ⟨name, -, below, rfl⟩ := exists_cons_of_mem_paths h
  exact List.cons_ne_nil name below

/-- The paths of a mapping are those at which it has a field. -/
lemma mem_paths_iff {fs : Fields} (hdistinct : fs.IsDistinct) {path : List String} :
    path ∈ fs.paths ↔ ∃ a, fs.at? path = some a := by
  induction fs generalizing path with
  | empty =>
    cases path with
    | nil => simp [paths]
    | cons name below => simp [paths]
  | field name a children rest ihchildren ihrest =>
    obtain ⟨hname, hchildren, hrest⟩ := hdistinct
    cases path with
    | nil => exact iff_of_false (fun h => ne_nil_of_mem_paths h rfl) (by simp)
    | cons first below =>
      by_cases hfirst : name = first
      · subst hfirst
        have hfound : (field name a children rest).get? name = some ⟨a, children⟩ := if_pos rfl
        have hnot := cons_not_mem_paths hname below
        cases below with
        | nil => simp [paths, hfound]
        | cons next below =>
          rw [at?_cons_of_ne_nil hfound (List.cons_ne_nil _ _), ← ihchildren hchildren]
          simp [paths, hnot]
      · have hget : (field name a children rest).get? first = rest.get? first := by
          rw [get?, if_neg hfirst]
        rw [at?_congr_of_get? hget, ← ihrest hrest]
        simp [paths, hfirst, Ne.symm hfirst]

lemma nodup_paths {fs : Fields} (hdistinct : fs.IsDistinct) : fs.paths.Nodup := by
  induction fs with
  | empty => exact List.nodup_nil
  | field name a children rest ihchildren ihrest =>
    obtain ⟨hname, hchildren, hrest⟩ := hdistinct
    have hnot := cons_not_mem_paths hname
    have hbelow : (children.paths.map (name :: ·)).Nodup :=
      (ihchildren hchildren).map List.cons_injective
    refine List.nodup_cons.2 ⟨?_, List.nodup_append.2 ⟨hbelow, ihrest hrest, ?_⟩⟩
    · intro h
      rcases List.mem_append.1 h with h | h
      · obtain ⟨below, hmem, heq⟩ := List.mem_map.1 h
        exact ne_nil_of_mem_paths hmem (List.cons.inj heq).2
      · exact hnot [] h
    · rintro _ hleft _ hright rfl
      obtain ⟨below, -, rfl⟩ := List.mem_map.1 hleft
      exact hnot below hright

/-- The fields above one that there is are there as well. -/
lemma exists_at?_of_prefix {fs : Fields} {upper path : List String} (hupper : upper ≠ [])
    (hstarts : upper <+: path) {a : Attributes} (h : fs.at? path = some a) :
    ∃ b, fs.at? upper = some b := by
  induction upper generalizing fs path with
  | nil => exact absurd rfl hupper
  | cons name upper ih =>
    obtain ⟨below, rfl⟩ := hstarts
    cases hget : fs.get? name with
    | none =>
      rw [List.cons_append, at?_of_get?_eq_none hget] at h
      cases h
    | some p =>
      by_cases hnil : upper = []
      · subst hnil
        exact ⟨p.attributes, by simp [hget]⟩
      · have hbelow : upper ++ below ≠ [] := by simp [hnil]
        rw [List.cons_append, at?_cons_of_ne_nil hget hbelow] at h
        obtain ⟨b, hb⟩ := ih hnil (List.prefix_append _ _) h
        exact ⟨b, by rw [at?_cons_of_ne_nil hget hnil, hb]⟩

/-! ## Fields in order -/

/-- The names are in order at every depth, and none occurs twice. -/
def IsSorted : Fields → Prop
  | empty => True
  | field name _ children rest =>
    (∀ other ∈ rest.names, name < other) ∧ children.IsSorted ∧ rest.IsSorted

lemma IsSorted.isDistinct {fs : Fields} (h : fs.IsSorted) : fs.IsDistinct := by
  induction fs with
  | empty => trivial
  | field name a children rest ihchildren ihrest =>
    obtain ⟨hname, hchildren, hrest⟩ := h
    exact ⟨fun hmem => String.lt_irrefl name (hname name hmem), ihchildren hchildren, ihrest hrest⟩

lemma mem_names_insertSorted {fs : Fields} {name other : String} {a : Attributes} {c : Fields} :
    other ∈ (insertSorted name a c fs).names ↔ other = name ∨ other ∈ fs.names := by
  rw [← get?_isSome_iff, ← get?_isSome_iff, get?_insertSorted]
  split <;> rename_i h
  · simp [h]
  · simp [Ne.symm h]

lemma mem_names_sortedDeep {fs : Fields} {name : String} :
    name ∈ fs.sortedDeep.names ↔ name ∈ fs.names := by
  rw [← get?_isSome_iff, ← get?_isSome_iff, get?_sortedDeep, Option.isSome_map]

lemma IsSorted.insertSorted {fs children : Fields} (h : fs.IsSorted) (hchildren : children.IsSorted)
    {name : String} (hname : name ∉ fs.names) (a : Attributes) :
    (Fields.insertSorted name a children fs).IsSorted := by
  induction fs with
  | empty => exact ⟨fun _ hmem => absurd hmem List.not_mem_nil, hchildren, trivial⟩
  | field n b c rest _ ih =>
    obtain ⟨hfirst, hc, hrest⟩ := h
    obtain ⟨hne, hname⟩ := not_or.1 (List.mem_cons.not.1 hname)
    rw [Fields.insertSorted]
    split
    · rename_i hlt
      refine ⟨fun other hmem => ?_, hc, ih hrest hname⟩
      rcases mem_names_insertSorted.1 hmem with rfl | hmem
      · exact hlt
      · exact hfirst other hmem
    · rename_i hnot
      have hlt : name < n := Std.lt_of_le_of_ne (String.not_lt.1 hnot) hne
      refine ⟨fun other hmem => ?_, hchildren, hfirst, hc, hrest⟩
      rcases List.mem_cons.1 hmem with rfl | hmem
      · exact hlt
      · exact String.lt_trans hlt (hfirst other hmem)

lemma isSorted_sortedDeep {fs : Fields} (hdistinct : fs.IsDistinct) : fs.sortedDeep.IsSorted := by
  induction fs with
  | empty => trivial
  | field name a children rest ihchildren ihrest =>
    obtain ⟨hname, hchildren, hrest⟩ := hdistinct
    have hfresh : name ∉ rest.sortedDeep.names := mt mem_names_sortedDeep.1 hname
    exact (ihrest hrest).insertSorted (ihchildren hchildren) hfresh a

/-- The paths of fields in order are in order, compared name by name. -/
lemma IsSorted.pairwise_paths {fs : Fields} (h : fs.IsSorted) : fs.paths.Pairwise (· < ·) := by
  induction fs with
  | empty => exact .nil
  | field name a children rest ihchildren ihrest =>
    obtain ⟨hname, hchildren, hrest⟩ := h
    -- what begins with the first name comes before all that begins with a later one
    have hlater : ∀ below, ∀ path ∈ rest.paths, name :: below < path := by
      intro below path hmem
      obtain ⟨other, hother, below', rfl⟩ := exists_cons_of_mem_paths hmem
      exact List.cons_lt_cons_iff.2 (Or.inl (hname other hother))
    refine List.pairwise_cons.2 ⟨fun path hmem => ?_, List.pairwise_append.2 ⟨?_, ihrest hrest, ?_⟩⟩
    · rcases List.mem_append.1 hmem with hmem | hmem
      · obtain ⟨below, hbelow, rfl⟩ := List.mem_map.1 hmem
        obtain ⟨next, -, below, rfl⟩ := exists_cons_of_mem_paths hbelow
        exact List.cons_lt_cons_iff.2 (Or.inr ⟨rfl, List.nil_lt_cons next below⟩)
      · exact hlater [] path hmem
    · refine List.pairwise_map.2 ((ihchildren hchildren).imp fun hlt => ?_)
      exact List.cons_lt_cons_iff.2 (Or.inr ⟨rfl, hlt⟩)
    · intro path hmem path' hmem'
      obtain ⟨below, -, rfl⟩ := List.mem_map.1 hmem
      exact hlater below path' hmem'

/-! ## Walking -/

section Walk

variable {β : Type} (visit : Place → Attributes → Option Attributes → List β)
  (passes : Attributes → Attributes → Bool)

/-- What is said on a walk through fields with others beside them.  `visit` is said at a field with
the one beside it, if there is one, and `passes` tells whether that one lets the walk go on below
the field. -/
def walk (above : Place) : Fields → Fields → List β
  | empty, _ => []
  | field name wanted children rest, beside =>
    let place := above.descend [name]
    visit place wanted ((beside.get? name).map Property.attributes)
      ++ (match beside.get? name with
        | none => []
        | some found =>
          if passes wanted found.attributes then walk place children found.children else [])
      ++ walk above rest beside

/-- What is said on a walk at one path. -/
def walkAt (above : Place) (fs beside : Fields) : List String → List β
  | [] => []
  | [name] =>
    match fs.get? name with
    | none => []
    | some p =>
      visit (above.descend [name]) p.attributes ((beside.get? name).map Property.attributes)
  | name :: next :: path =>
    match fs.get? name, beside.get? name with
    | some p, some found =>
      if passes p.attributes found.attributes then
        walkAt (above.descend [name]) p.children found.children (next :: path)
      else []
    | _, _ => []

/-- Every field above the one at a path is in both mappings, and lets a walk pass. -/
def Reaches (fs beside : Fields) (path : List String) : Prop :=
  ∀ upper, upper <+: path → upper ≠ path → upper ≠ [] →
    ∃ wanted found, fs.at? upper = some wanted ∧ beside.at? upper = some found ∧
      passes wanted found = true

variable {visit passes} {above : Place} {fs beside : Fields} {name : String} {path : List String}

lemma walkAt_congr_of_get? {gs : Fields} (h : fs.get? name = gs.get? name) :
    walkAt visit passes above fs beside (name :: path) =
      walkAt visit passes above gs beside (name :: path) := by
  cases path <;> simp [walkAt, h]

/-- A walk goes through the paths of the fields in their order. -/
lemma walk_eq_flatMap (hdistinct : fs.IsDistinct) :
    walk visit passes above fs beside = fs.paths.flatMap (walkAt visit passes above fs beside) := by
  induction fs generalizing above beside with
  | empty => rfl
  | field name a children rest ihchildren ihrest =>
    obtain ⟨hname, hchildren, hrest⟩ := hdistinct
    have hfound : (field name a children rest).get? name = some ⟨a, children⟩ := if_pos rfl
    have htop : walkAt visit passes above (field name a children rest) beside [name] =
        visit (above.descend [name]) a ((beside.get? name).map Property.attributes) := by
      simp [walkAt, hfound]
    have hbelow : (children.paths.map (name :: ·)).flatMap
          (walkAt visit passes above (field name a children rest) beside) =
        match beside.get? name with
        | none => []
        | some found =>
          if passes a found.attributes then
            walk visit passes (above.descend [name]) children found.children
          else [] := by
      rw [List.flatMap_map]
      have hpath : ∀ path ∈ children.paths,
          walkAt visit passes above (field name a children rest) beside (name :: path) =
            match beside.get? name with
            | none => []
            | some found =>
              if passes a found.attributes then
                walkAt visit passes (above.descend [name]) children found.children path
              else [] := by
        intro path hmem
        obtain ⟨next, -, below, rfl⟩ := exists_cons_of_mem_paths hmem
        simp only [walkAt, hfound]
        cases beside.get? name <;> rfl
      rw [List.flatMap_congr hpath]
      cases beside.get? name with
      | none => simp
      | some found =>
        by_cases hpasses : passes a found.attributes = true
        · simp only [hpasses, if_true, ihchildren hchildren]
        · simp [hpasses]
    have hothers : rest.paths.flatMap
          (walkAt visit passes above (field name a children rest) beside) =
        walk visit passes above rest beside := by
      rw [ihrest hrest]
      refine List.flatMap_congr fun path hmem => ?_
      obtain ⟨other, hother, below, rfl⟩ := exists_cons_of_mem_paths hmem
      have hne : name ≠ other := fun heq => hname (heq ▸ hother)
      exact walkAt_congr_of_get? (by rw [get?, if_neg hne])
    rw [walk, paths, List.flatMap_cons, List.flatMap_append, htop, hbelow, hothers,
      List.append_assoc]

lemma reaches_singleton : Reaches passes fs beside [name] := by
  intro upper hstarts hne hnil
  rcases List.prefix_cons_iff.1 hstarts with rfl | ⟨below, rfl, hbelow⟩
  · exact absurd rfl hnil
  · obtain rfl := List.prefix_nil.1 hbelow
    exact absurd rfl hne

/-- A field below another one is reached if that one lets the walk pass, and the field is reached
from there. -/
lemma reaches_cons_iff (hpath : path ≠ []) :
    Reaches passes fs beside (name :: path) ↔
      ∃ p found, fs.get? name = some p ∧ beside.get? name = some found ∧
        passes p.attributes found.attributes = true ∧
        Reaches passes p.children found.children path := by
  constructor
  · intro h
    obtain ⟨wanted, known, hwanted, hknown, hpasses⟩ :=
      h [name] ((List.prefix_cons_inj name).2 List.nil_prefix) (by simpa using hpath.symm)
        (List.cons_ne_nil _ _)
    obtain ⟨p, hp, rfl⟩ := Option.map_eq_some_iff.1 ((at?_singleton fs name).symm.trans hwanted)
    obtain ⟨found, hfound, rfl⟩ :=
      Option.map_eq_some_iff.1 ((at?_singleton beside name).symm.trans hknown)
    refine ⟨p, found, hp, hfound, hpasses, fun upper hstarts hne hnil => ?_⟩
    have hupper := h (name :: upper) ((List.prefix_cons_inj name).2 hstarts) (by simpa using hne)
      (List.cons_ne_nil _ _)
    rwa [at?_cons_of_ne_nil hp hnil, at?_cons_of_ne_nil hfound hnil] at hupper
  · rintro ⟨p, found, hp, hfound, hpasses, h⟩ upper hstarts hne hnil
    rcases List.prefix_cons_iff.1 hstarts with rfl | ⟨below, rfl, hbelow⟩
    · exact absurd rfl hnil
    by_cases hnil' : below = []
    · subst hnil'
      exact ⟨p.attributes, found.attributes, by simp [hp], by simp [hfound], hpasses⟩
    · rw [at?_cons_of_ne_nil hp hnil', at?_cons_of_ne_nil hfound hnil']
      exact h below hbelow (fun heq => hne (by rw [heq])) hnil'

/-- At a path, a walk says what there is to say of the field there, if it is reached. -/
lemma mem_walkAt {x : β} :
    x ∈ walkAt visit passes above fs beside path ↔
      ∃ wanted, fs.at? path = some wanted ∧ Reaches passes fs beside path ∧
        x ∈ visit (above.descend path) wanted (beside.at? path) := by
  induction path generalizing above fs beside with
  | nil => simp [walkAt]
  | cons name path ih =>
    cases path with
    | nil =>
      cases hget : fs.get? name with
      | none => simp [walkAt, hget]
      | some p => simp [walkAt, hget, reaches_singleton]
    | cons next path =>
      have hpath : next :: path ≠ [] := List.cons_ne_nil _ _
      rw [reaches_cons_iff hpath]
      cases hget : fs.get? name with
      | none => simp [walkAt, hget]
      | some p =>
        cases hfound : beside.get? name with
        | none => simp [walkAt, hget, hfound]
        | some found =>
          rw [at?_cons_of_ne_nil hget hpath, at?_cons_of_ne_nil hfound hpath]
          by_cases hpasses : passes p.attributes found.attributes = true
          · simp [walkAt, hget, hfound, hpasses, ih]
          · simp [walkAt, hget, hfound, hpasses]

/-- What holds of nothing, and of all that is said at a field, holds of what a walk says at a
path. -/
lemma walkAt_of_visit {P : List β → Prop} (hnil : P [])
    (hvisit : ∀ wanted found, P (visit (above.descend path) wanted found)) :
    P (walkAt visit passes above fs beside path) := by
  induction path generalizing above fs beside with
  | nil => exact hnil
  | cons name path ih =>
    cases path with
    | nil =>
      rw [walkAt]
      split
      · exact hnil
      · exact hvisit _ _
    | cons next path =>
      rw [walkAt]
      split
      · split
        · refine ih fun wanted found => ?_
          simpa using hvisit wanted found
        · exact hnil
      · exact hnil

/-- What is said on a walk is said at a field of it that is reached. -/
lemma mem_walk_iff (hdistinct : fs.IsDistinct) {x : β} :
    x ∈ walk visit passes above fs beside ↔
      ∃ path wanted, fs.at? path = some wanted ∧ Reaches passes fs beside path ∧
        x ∈ visit (above.descend path) wanted (beside.at? path) := by
  rw [walk_eq_flatMap hdistinct, List.mem_flatMap]
  constructor
  · rintro ⟨path, -, h⟩
    exact ⟨path, mem_walkAt.1 h⟩
  · rintro ⟨path, wanted, hwanted, h⟩
    exact ⟨path, (mem_paths_iff hdistinct).2 ⟨wanted, hwanted⟩, mem_walkAt.2 ⟨wanted, hwanted, h⟩⟩

end Walk

end Fields

end SearchIndex
