/-
# Fields in another order

The remote form of a mapping has the fields of every depth in the order of their names.  As no name
occurs twice, nothing of the order that they had before is left in it
(`Fields.Reorders.sorted_toRemote_eq`).
-/
import SearchIndex.Proofs.Mapping.Extension
import SearchIndex.Proofs.Table
import SearchIndex.Mapping.Remote

namespace SearchIndex

namespace Fields

/-- The same fields in another order, at any depth. -/
inductive Reorders : Fields → Fields → Prop where
  | empty : Reorders .empty .empty
  /-- A field stays in its place, and those below it and after it are in another order. -/
  | field (name : String) (a : Attributes) {below below' rest rest' : Fields}
      (hbelow : Reorders below below') (hrest : Reorders rest rest') :
      Reorders (.field name a below rest) (.field name a below' rest')
  /-- Two fields that stand side by side change places. -/
  | swap (name other : String) (a b : Attributes) (below beneath rest : Fields) :
      Reorders (.field name a below (.field other b beneath rest))
        (.field other b beneath (.field name a below rest))
  | trans {fs gs hs : Fields} (h : Reorders fs gs) (h' : Reorders gs hs) : Reorders fs hs

namespace Reorders

variable {fs gs : Fields}

@[refl] lemma refl (fs : Fields) : fs.Reorders fs := by
  induction fs with
  | empty => exact .empty
  | field name a below rest ihbelow ihrest => exact .field name a ihbelow ihrest

lemma names_perm (h : fs.Reorders gs) : fs.names.Perm gs.names := by
  induction h with
  | empty => exact .nil
  | field name a _ _ _ ihrest => exact ihrest.cons name
  | swap name other a b below beneath rest => exact .swap other name rest.names
  | trans _ _ ih ih' => exact ih.trans ih'

lemma isEmpty_eq (h : fs.Reorders gs) : fs.isEmpty = gs.isEmpty := by
  induction h with
  | empty => rfl
  | field => rfl
  | swap => rfl
  | trans _ _ ih ih' => exact ih.trans ih'

/-- Names that are distinct are so in any order. -/
lemma isDistinct (h : fs.Reorders gs) (hdistinct : fs.IsDistinct) : gs.IsDistinct := by
  induction h with
  | empty => trivial
  | field name a _ hrest ihbelow ihrest =>
    obtain ⟨hname, hbelow, hdistinct⟩ := hdistinct
    exact ⟨mt hrest.names_perm.mem_iff.2 hname, ihbelow hbelow, ihrest hdistinct⟩
  | swap name other a b below beneath rest =>
    obtain ⟨hname, hbelow, hother, hbeneath, hrest⟩ := hdistinct
    obtain ⟨hne, hname⟩ := not_or.1 (List.mem_cons.not.1 hname)
    have hother : other ∉ (Fields.field name a below rest).names :=
      List.mem_cons.not.2 (not_or.2 ⟨Ne.symm hne, hother⟩)
    exact ⟨hother, hbeneath, hname, hbelow, hrest⟩
  | trans _ _ ih ih' => exact ih' (ih hdistinct)

/-- One more field comes to the end of both. -/
lemma append (h : fs.Reorders gs) (name : String) (p : Property) :
    (fs.append name p).Reorders (gs.append name p) := by
  induction h with
  | empty => exact .refl _
  | field other a hbelow _ _ ihrest => exact .field other a hbelow ihrest
  | swap n other a b below beneath rest => exact .swap n other a b below beneath _
  | trans _ _ ih ih' => exact .trans ih ih'

end Reorders

/-! ## The remote form -/

lemma keys_toRemote (fs : Fields) : Table.keys fs.toRemote = fs.names := by
  induction fs with
  | empty => rfl
  | field name a below rest _ ihrest => exact congrArg (name :: ·) ihrest

/-- Fields with distinct names are a JSON object. -/
lemma IsDistinct.isDistinct_toRemote {fs : Fields} (h : fs.IsDistinct) :
    Table.IsDistinct fs.toRemote := by
  rw [Table.IsDistinct, keys_toRemote]
  induction fs with
  | empty => exact List.nodup_nil
  | field name a below rest _ ihrest => exact List.nodup_cons.2 ⟨h.1, ihrest h.2.2⟩

namespace Reorders

variable {fs gs : Fields}

/-- Fields in another order have the same remote forms, in another order. -/
lemma toRemote_perm (h : fs.Reorders gs) (hdistinct : fs.IsDistinct) :
    fs.toRemote.Perm gs.toRemote := by
  induction h with
  | empty => exact .nil
  | @field name a below below' rest rest' hbelow _ ihbelow ihrest =>
    obtain ⟨-, hdistinctBelow, hdistinctRest⟩ := hdistinct
    have hsorted : Table.sorted below.toRemote = Table.sorted below'.toRemote :=
      Table.sorted_eq_of_perm (ihbelow hdistinctBelow)
        hdistinctBelow.isDistinct_toRemote.eq_of_key_eq
    rw [toRemote, toRemote, hbelow.isEmpty_eq, hsorted]
    exact (ihrest hdistinctRest).cons _
  | swap name other a b below beneath rest => exact .swap _ _ _
  | trans h _ ih ih' => exact (ih hdistinct).trans (ih' (h.isDistinct hdistinct))

/-- The remote form of fields with distinct names does not depend on their order. -/
lemma sorted_toRemote_eq (h : fs.Reorders gs) (hdistinct : fs.IsDistinct) :
    Table.sorted fs.toRemote = Table.sorted gs.toRemote :=
  Table.sorted_eq_of_perm (h.toRemote_perm hdistinct) hdistinct.isDistinct_toRemote.eq_of_key_eq

end Reorders

end Fields

/-- Mappings of which the second has the fields of the first in another order. -/
structure TypeMapping.Reorders (mapping mapping' : TypeMapping) : Prop where
  dynamic : mapping.dynamic = mapping'.dynamic
  fields : mapping.fields.Reorders mapping'.fields

lemma TypeMapping.Reorders.toRemote_eq {mapping mapping' : TypeMapping}
    (h : mapping.Reorders mapping') (hdistinct : mapping.fields.IsDistinct) :
    mapping.toRemote = mapping'.toRemote := by
  rw [TypeMapping.toRemote, TypeMapping.toRemote, h.dynamic, h.fields.sorted_toRemote_eq hdistinct]

end SearchIndex
