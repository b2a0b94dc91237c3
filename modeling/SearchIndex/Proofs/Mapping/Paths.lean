/-
# Fields by their paths

A path leads from the top of a mapping down to a field, one name a level.  `Fields.at?` finds the
attributes of the field at a path, so two mappings that find the same at every path say the same
about the same fields, in whatever order they have them (`Fields.Alike`).  Sorting is such a change
of order.
-/
import SearchIndex.Proofs.Mapping.Extension

namespace SearchIndex.Fields

/-- The attributes of the field at a path. -/
def at? (fs : Fields) : List String → Option Attributes
  | [] => none
  | [name] => (fs.get? name).map Property.attributes
  | name :: next :: path => (fs.get? name).bind fun p => p.children.at? (next :: path)

/-- The same fields with the same attributes, at every depth and in any order. -/
def Alike (fs gs : Fields) : Prop := ∀ path, fs.at? path = gs.at? path

variable {fs gs : Fields} {name : String}

@[simp] lemma at?_nil (fs : Fields) : fs.at? [] = none := by simp [at?]

@[simp] lemma at?_singleton (fs : Fields) (name : String) :
    fs.at? [name] = (fs.get? name).map Property.attributes := by simp [at?]

lemma at?_of_get?_eq_none (h : fs.get? name = none) (path : List String) :
    fs.at? (name :: path) = none := by
  cases path <;> simp [at?, h]

/-- Below a field, paths go on from the fields that it has. -/
lemma at?_cons_of_ne_nil {p : Property} (h : fs.get? name = some p) {path : List String}
    (hpath : path ≠ []) : fs.at? (name :: path) = p.children.at? path := by
  cases path with
  | nil => exact absurd rfl hpath
  | cons next path => simp [at?, h]

/-- What is found under a name decides what is found at the paths that begin with it. -/
lemma at?_congr_of_get? (h : fs.get? name = gs.get? name) {path : List String} :
    fs.at? (name :: path) = gs.at? (name :: path) := by
  cases path <;> simp [at?, h]

@[simp] lemma at?_empty (path : List String) : empty.at? path = none := by
  cases path with
  | nil => simp
  | cons name path => exact at?_of_get?_eq_none (get?_empty name) path

/-- What fields pass on to those below them holds at every path. -/
lemma of_at?_eq_some {P : Fields → Prop} {Q : Attributes → Prop}
    (hpass : ∀ {fs : Fields} {name : String} {p : Property}, P fs → fs.get? name = some p →
      Q p.attributes ∧ P p.children) (h : P fs) {path : List String} {a : Attributes}
    (ha : fs.at? path = some a) : Q a := by
  induction path generalizing fs with
  | nil => simp at ha
  | cons name path ih =>
    cases hget : fs.get? name with
    | none =>
      rw [at?_of_get?_eq_none hget] at ha
      cases ha
    | some p =>
      obtain ⟨hattributes, hchildren⟩ := hpass h hget
      by_cases hpath : path = []
      · subst hpath
        obtain rfl : p.attributes = a := by simpa [hget] using ha
        exact hattributes
      · rw [at?_cons_of_ne_nil hget hpath] at ha
        exact ih hchildren ha

lemma Alike.refl (fs : Fields) : fs.Alike fs := fun _ => rfl

lemma Alike.symm (h : fs.Alike gs) : gs.Alike fs := fun path => (h path).symm

/-- What is found under a name in one of two like mappings is found in the other as well. -/
lemma Alike.exists_of_get? (h : fs.Alike gs) {p : Property} (hp : fs.get? name = some p) :
    ∃ q, gs.get? name = some q ∧ q.attributes = p.attributes ∧ p.children.Alike q.children := by
  have htop := h [name]
  simp only [at?_singleton, hp, Option.map_some] at htop
  obtain ⟨q, hq, hattributes⟩ := Option.map_eq_some_iff.1 htop.symm
  refine ⟨q, hq, hattributes, fun path => ?_⟩
  cases path with
  | nil => simp
  | cons next path =>
    have hbelow := h (name :: next :: path)
    rwa [at?_cons_of_ne_nil hp (List.cons_ne_nil _ _),
      at?_cons_of_ne_nil hq (List.cons_ne_nil _ _)] at hbelow

/-- What is found under a name is one of the fields. -/
lemma mem_toList_of_get? {p : Property} (h : fs.get? name = some p) : (name, p) ∈ fs.toList := by
  induction fs with
  | empty => simp at h
  | field n a c rest _ ih =>
    rw [get?] at h
    split at h
    · rename_i hn
      subst hn
      obtain rfl := Option.some.inj h
      exact List.mem_cons_self
    · exact List.mem_cons_of_mem _ (ih h)

/-! ## Sorting -/

/-- An inserted field is found under its name, and every other one where it was. -/
lemma get?_insertSorted (name : String) (a : Attributes) (c fs : Fields) (wanted : String) :
    (insertSorted name a c fs).get? wanted =
      if name = wanted then some ⟨a, c⟩ else fs.get? wanted := by
  induction fs with
  | empty => simp [insertSorted, get?]
  | field n a' c' rest _ ih =>
    rw [insertSorted]
    split
    · rename_i hlt
      -- the fields before the place of insertion have other names
      have hne : n ≠ name := fun heq => String.lt_irrefl name (heq ▸ hlt)
      by_cases hwanted : name = wanted
      · subst hwanted
        simp [get?, hne, ih]
      · simp [get?, hwanted, ih]
    · simp [get?]

/-- Sorting at every depth changes nothing of what is found under a name but the order of the fields
below. -/
lemma get?_sortedDeep (fs : Fields) (name : String) :
    fs.sortedDeep.get? name =
      (fs.get? name).map fun p => ⟨p.attributes, p.children.sortedDeep⟩ := by
  induction fs with
  | empty => rfl
  | field n a c rest _ ih =>
    rw [sortedDeep, get?_insertSorted, get?]
    split
    · rfl
    · exact ih

lemma alike_sortedDeep (fs : Fields) : fs.sortedDeep.Alike fs := by
  intro path
  induction path generalizing fs with
  | nil => simp
  | cons name path ih =>
    cases hget : fs.get? name with
    | none =>
      rw [at?_of_get?_eq_none hget, at?_of_get?_eq_none (by rw [get?_sortedDeep, hget]; rfl)]
    | some p =>
      have hsorted : fs.sortedDeep.get? name = some ⟨p.attributes, p.children.sortedDeep⟩ := by
        rw [get?_sortedDeep, hget]
        rfl
      cases path with
      | nil => simp [hget, hsorted]
      | cons next path =>
        rw [at?_cons_of_ne_nil hget (List.cons_ne_nil _ _),
          at?_cons_of_ne_nil hsorted (List.cons_ne_nil _ _)]
        exact ih p.children

end SearchIndex.Fields

namespace SearchIndex

/-! ## Fields with all below them -/

/-- The field to which a path leads from another one, with all below it. -/
def Property.below? : Property → List String → Option Property
  | p, [] => some p
  | p, name :: path => (p.children.get? name).bind fun q => q.below? path

/-- The field at a path, with all below it. -/
def Fields.find? (fs : Fields) : List String → Option Property
  | [] => none
  | name :: path => (fs.get? name).bind fun p => p.below? path

/-- The attributes at a path are those of the field there. -/
lemma Fields.at?_eq_find? (fs : Fields) (path : List String) :
    fs.at? path = (fs.find? path).map Property.attributes := by
  induction path generalizing fs with
  | nil => simp [find?]
  | cons name path ih =>
    cases hget : fs.get? name with
    | none => simp [find?, hget, at?_of_get?_eq_none hget]
    | some p =>
      cases path with
      | nil => simp [find?, hget, Property.below?]
      | cons next path =>
        have hfound : fs.find? (name :: next :: path) = p.children.find? (next :: path) := by
          show (fs.get? name).bind _ = _
          rw [hget]
          rfl
        rw [at?_cons_of_ne_nil hget (List.cons_ne_nil _ _), ih, hfound]

end SearchIndex
