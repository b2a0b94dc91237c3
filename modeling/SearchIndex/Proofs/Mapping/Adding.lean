/-
# Mappings that are put additively

A service applies the mappings that are put additively if it keeps the definition of every field
that it has and adds the fields that are new, at every depth (`Adds`).  Nothing is said of the order
in which it has them.  To extend the mappings that are there is one way of doing so
(`adds_extend`).

Mappings that have been put additively are there, so to put them once more changes nothing
(`Adds.again`).
-/
import SearchIndex.Proofs.Mapping.Walking

namespace SearchIndex

variable {keeps : Bool} {before put after : Table TypeMapping}

/-- The policy of an entity type for unknown fields, if there is a mapping of the entity type. -/
def dynamicOf? (mappings : Table TypeMapping) (entityType : String) : Option String :=
  (Table.get? mappings entityType).map TypeMapping.dynamic

/-- Mappings that say the same of the same entity types and fields, in any order. -/
structure SameMappings (mappings mappings' : Table TypeMapping) : Prop where
  dynamic : ∀ entityType, dynamicOf? mappings entityType = dynamicOf? mappings' entityType
  fields : ∀ place, attributesAt? mappings place = attributesAt? mappings' place

lemma SameMappings.symm {mappings mappings' : Table TypeMapping}
    (h : SameMappings mappings mappings') : SameMappings mappings' mappings :=
  ⟨fun entityType => (h.dynamic entityType).symm, fun place => (h.fields place).symm⟩

/-- The mappings of a service before and after some are put additively.  The service may keep the
policy for unknown fields that an entity type has, or take over the one that is put. -/
structure Adds (keeps : Bool) (before put after : Table TypeMapping) : Prop where
  /-- The entity types are those that were there and those that are put. -/
  dynamic : ∀ entityType, dynamicOf? after entityType =
    if keeps then (dynamicOf? before entityType).or (dynamicOf? put entityType)
    else (dynamicOf? put entityType).or (dynamicOf? before entityType)
  /-- A field that is there stays as it is, and one that is new is as it is put. -/
  fields : ∀ place, attributesAt? after place =
    (attributesAt? before place).or (attributesAt? put place)

section Table

variable (entry : String × TypeMapping) (rest : Table TypeMapping)

@[simp] lemma dynamicOf?_nil (entityType : String) : dynamicOf? [] entityType = none := rfl

@[simp] lemma attributesAt?_nil (place : Place) : attributesAt? [] place = none := rfl

lemma dynamicOf?_cons (entityType : String) : dynamicOf? (entry :: rest) entityType =
    if entry.1 = entityType then some entry.2.dynamic else dynamicOf? rest entityType := by
  rw [dynamicOf?, Table.get?]
  split <;> rfl

lemma attributesAt?_cons (place : Place) : attributesAt? (entry :: rest) place =
    if entry.1 = place.entityType then entry.2.fields.at? place.path
    else attributesAt? rest place := by
  rw [attributesAt?, Table.get?]
  split <;> rfl

end Table

namespace Adds

lemma nil (mappings : Table TypeMapping) : Adds keeps mappings [] mappings where
  dynamic _ := by simp
  fields _ := by simp

/-- Mappings are put one after another. -/
lemma cons {entry : String × TypeMapping} {middle : Table TypeMapping}
    (hfresh : entry.1 ∉ Table.keys put) (h : Adds keeps before [entry] middle)
    (h' : Adds keeps middle put after) : Adds keeps before (entry :: put) after where
  dynamic entityType := by
    rw [h'.dynamic, h.dynamic, dynamicOf?_cons, dynamicOf?_cons]
    by_cases heq : entry.1 = entityType
    · have hnone : dynamicOf? put entityType = none := by
        rw [dynamicOf?, Table.get?_eq_none_iff.2 (heq ▸ hfresh)]
        rfl
      simp [heq, hnone]
    · simp [heq]
  fields place := by
    rw [h'.fields, h.fields, attributesAt?_cons, attributesAt?_cons]
    by_cases heq : entry.1 = place.entityType
    · have hnone : attributesAt? put place = none := by
        rw [attributesAt?, Table.get?_eq_none_iff.2 (heq ▸ hfresh)]
        rfl
      simp [heq, hnone]
    · simp [heq]

/-- Only what the mappings say counts. -/
lemma congr {before' put' after' : Table TypeMapping} (h : Adds keeps before put after)
    (hbefore : SameMappings before' before) (hput : SameMappings put' put)
    (hafter : SameMappings after' after) : Adds keeps before' put' after' where
  dynamic entityType := by
    rw [hafter.dynamic, hbefore.dynamic, hput.dynamic, h.dynamic]
  fields place := by
    rw [hafter.fields, hbefore.fields, hput.fields, h.fields]

/-- What has been put is there, so putting it once more changes nothing. -/
lemma again {later : Table TypeMapping} (h : Adds keeps before put after)
    (h' : Adds keeps after put later) : SameMappings later after where
  dynamic entityType := by
    rw [h'.dynamic, h.dynamic]
    cases keeps <;> cases dynamicOf? before entityType <;> cases dynamicOf? put entityType <;> rfl
  fields place := by
    rw [h'.fields, h.fields]
    cases attributesAt? before place <;> cases attributesAt? put place <;> rfl

end Adds

/-! ## Extending -/

/-- Fields that are extended keep their attributes, and have the new ones besides. -/
lemma Fields.at?_extend (fs put : Fields) (path : List String) :
    (fs.extend put).at? path = (fs.at? path).or (put.at? path) := by
  induction path generalizing fs put with
  | nil => simp
  | cons name path ih =>
    have hextend := get?_extend fs put name
    cases hget : fs.get? name with
    | none =>
      rw [hget] at hextend
      rw [at?_of_get?_eq_none hget, at?_congr_of_get? hextend]
      rfl
    | some found =>
      rw [hget] at hextend
      by_cases hpath : path = []
      · subst hpath
        simp [hextend, hget]
      · rw [at?_cons_of_ne_nil hextend hpath, at?_cons_of_ne_nil hget hpath]
        cases hput : put.get? name with
        | none => simp [at?_of_get?_eq_none hput]
        | some p =>
          rw [at?_cons_of_ne_nil hput hpath]
          exact ih found.children p.children

/-- A mapping is put additively if the mapping that is there is extended by it. -/
lemma adds_extend (existing : Table TypeMapping) (entry : String × TypeMapping) :
    Adds false existing [entry] (Table.set existing entry.1
      (TypeMapping.extend (Table.get? existing entry.1) entry.2)) where
  dynamic entityType := by
    rw [dynamicOf?_cons, dynamicOf?]
    by_cases heq : entry.1 = entityType
    · subst heq
      rw [Table.get?_set_self]
      cases Table.get? existing entry.1 <;> simp [TypeMapping.extend]
    · rw [Table.get?_set_of_ne _ _ heq]
      simp [heq, dynamicOf?]
  fields place := by
    rw [attributesAt?_cons]
    by_cases heq : entry.1 = place.entityType
    · rw [attributesAt?, attributesAt?, heq, Table.get?_set_self]
      cases Table.get? existing place.entityType with
      | none => simp [TypeMapping.extend]
      | some current => simp [TypeMapping.extend, Fields.at?_extend]
    · rw [attributesAt?, Table.get?_set_of_ne _ _ heq]
      simp [heq, attributesAt?]

end SearchIndex
