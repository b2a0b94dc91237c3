/-
# Extending mappings

The service applies a mapping that is put additively.  A field that is there keeps its definition;
what is new is added, at every depth.  `Fields.extend` is that for the fields of one mapping and
`Table.extendAll` for the mappings of an index that are put one after another; the lemmas say what
is found under a name afterwards.

The names of a mapping are those of a JSON object, so none occurs twice (`Fields.IsDistinct`).
-/
import Mathlib.Tactic
import SearchIndex.Mapping.Fields

namespace SearchIndex

namespace Fields

/-! ## Fields with distinct names -/

/-- No name occurs twice, at any depth. -/
def IsDistinct : Fields → Prop
  | empty => True
  | field name _ children rest => name ∉ rest.names ∧ children.IsDistinct ∧ rest.IsDistinct

instance instDecidableIsDistinct : (fs : Fields) → Decidable fs.IsDistinct
  | empty => .isTrue trivial
  | field _ _ children rest =>
    have := instDecidableIsDistinct children
    have := instDecidableIsDistinct rest
    inferInstanceAs (Decidable (_ ∧ _ ∧ _))

lemma mem_names_of_mem_toList {fs : Fields} {name : String} {p : Property}
    (h : (name, p) ∈ fs.toList) : name ∈ fs.names := by
  rw [names_eq]
  exact List.mem_map_of_mem h

/-- Every field with distinct names is found under its name. -/
lemma IsDistinct.get?_of_mem {fs : Fields} (h : fs.IsDistinct) {name : String} {p : Property}
    (hmem : (name, p) ∈ fs.toList) : fs.get? name = some p := by
  induction fs with
  | empty => exact absurd hmem List.not_mem_nil
  | field n a c rest _ ih =>
    obtain ⟨hn, -, hrest⟩ := h
    rcases List.mem_cons.1 hmem with hhead | hmem
    · obtain ⟨rfl, rfl⟩ := Prod.mk.inj hhead
      exact if_pos rfl
    · have hne : n ≠ name := fun heq => hn (heq ▸ mem_names_of_mem_toList hmem)
      rw [get?, if_neg hne]
      exact ih hrest hmem

end Fields

/-- No entity type occurs twice in the target, and no name in one of its mappings. -/
def IndexSchema.IsDistinct (target : IndexSchema) : Prop :=
  Table.IsDistinct target.mappings ∧ ∀ entry ∈ target.mappings, entry.2.fields.IsDistinct

instance (target : IndexSchema) : Decidable target.IsDistinct :=
  inferInstanceAs (Decidable (_ ∧ _))

namespace Fields

/-! ## Sorting -/

lemma mem_toList_insertSorted {fs : Fields} {name : String} {a : Attributes} {c : Fields}
    {x : String × Property} :
    x ∈ (insertSorted name a c fs).toList ↔ x = (name, ⟨a, c⟩) ∨ x ∈ fs.toList := by
  induction fs with
  | empty => simp [insertSorted, toList]
  | field n a' c' rest _ ih =>
    rw [insertSorted]
    split
    · simp only [toList, List.mem_cons, ih]
      exact or_left_comm
    · simp [toList]

/-! ## Extending -/

/-- The fields without those of a name. -/
def without (name : String) : Fields → Fields
  | empty => empty
  | field n a c rest =>
    if n = name then rest.without name else field n a c (rest.without name)

/-- Fields extended by those that are put: the first ones keep their attributes and are extended
below, the others come after them. -/
def extend : Fields → Fields → Fields
  | empty, put => put
  | field name a children rest, put =>
    field name a
      (match put.get? name with
      | none => children
      | some p => children.extend p.children)
      (rest.extend (put.without name))

lemma get?_without_self (fs : Fields) (name : String) : (fs.without name).get? name = none := by
  induction fs with
  | empty => rfl
  | field n a c rest _ ih =>
    by_cases hn : n = name
    · rw [without, if_pos hn, ih]
    · rw [without, if_neg hn, get?, if_neg hn, ih]

lemma get?_without_of_ne {fs : Fields} {name other : String} (h : name ≠ other) :
    (fs.without name).get? other = fs.get? other := by
  induction fs with
  | empty => rfl
  | field n a c rest _ ih =>
    by_cases hn : n = name
    · subst hn
      rw [without, if_pos rfl, ih, get?, if_neg h]
    · rw [without, if_neg hn, get?, get?, ih]

/-- What is found under a name in extended fields. -/
lemma get?_extend (fs put : Fields) (name : String) :
    (fs.extend put).get? name =
      match fs.get? name with
      | none => put.get? name
      | some found => some ⟨found.attributes,
          match put.get? name with
          | none => found.children
          | some p => found.children.extend p.children⟩ := by
  induction fs generalizing put with
  | empty => rfl
  | field n a c rest _ ih =>
    rw [extend, get?, get?]
    by_cases hn : n = name
    · subst hn
      simp only [if_true]
    · simp only [if_neg hn, ih, get?_without_of_ne hn]

end Fields

/-- The mapping of an entity type after one is put, given the mapping before it. -/
def TypeMapping.extend (current : Option TypeMapping) (put : TypeMapping) : TypeMapping :=
  match current with
  | none => put
  | some current => { put with fields := current.fields.extend put.fields }

namespace Table

variable {α : Type}

/-- The mappings of an index after some are put one after another. -/
def extendAll : Table TypeMapping → Table TypeMapping → Table TypeMapping
  | existing, [] => existing
  | existing, (entityType, mapping) :: rest =>
    extendAll (set existing entityType (TypeMapping.extend (get? existing entityType) mapping)) rest

lemma get?_extendAll_of_not_mem {existing plan : Table TypeMapping} {entityType : String}
    (h : entityType ∉ keys plan) : get? (extendAll existing plan) entityType =
      get? existing entityType := by
  induction plan generalizing existing with
  | nil => rfl
  | cons entry rest ih =>
    have hne : entry.1 ≠ entityType := fun heq => h (heq ▸ List.mem_cons_self)
    have hrest : entityType ∉ keys rest := fun hmem => h (List.mem_cons_of_mem _ hmem)
    rw [extendAll, ih hrest, get?_set_of_ne _ _ hne]

/-- What is found under the name of an entity type whose mapping is put once. -/
lemma get?_extendAll {existing plan : Table TypeMapping} (hplan : IsDistinct plan)
    {entityType : String} {mapping : TypeMapping} (hmem : (entityType, mapping) ∈ plan) :
    get? (extendAll existing plan) entityType =
      some (TypeMapping.extend (get? existing entityType) mapping) := by
  induction plan generalizing existing with
  | nil => exact absurd hmem List.not_mem_nil
  | cons entry rest ih =>
    have hnot : entry.1 ∉ keys rest := (List.nodup_cons.1 hplan).1
    have hrest : IsDistinct rest := (List.nodup_cons.1 hplan).2
    rcases List.mem_cons.1 hmem with rfl | hmem
    · rw [extendAll, get?_extendAll_of_not_mem hnot, get?_set_self]
    · have hkey : entityType ∈ keys rest := List.mem_map_of_mem hmem
      have hne : entry.1 ≠ entityType := fun heq => hnot (heq ▸ hkey)
      rw [extendAll, ih hrest hmem, get?_set_of_ne _ _ hne]

end Table

end SearchIndex
