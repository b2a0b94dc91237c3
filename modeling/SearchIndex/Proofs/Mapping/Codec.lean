/-
# What the remote form keeps of a mapping

Of a mapping that is sent to the service the remote form keeps all but the order of its fields.  A
written form that keeps a value up to some difference is a lossless one (`IsLossless`): what is
read back is the value up to that difference, is written in the same way again, and no other values
are written like it.

The main result, `Mapping.isLossless_toRemote`, is that single fields and whole mappings have such a
form, up to the order of the fields at every depth (`Property.Reorders`, `TypeMapping.Reorders`).
It is put together from one law for what is read back (`Fields.ofRemote_toRemote`), one for
sorting (`Fields.reorders_sortedDeep`) and one for writing (`Fields.Reorders.sorted_toRemote_eq`).
-/
import SearchIndex.Proofs.Mapping.Report
import SearchIndex.Proofs.Mapping.Reordering

namespace SearchIndex

/-! ## Lossless forms -/

/-- A form in which valid values are written loses nothing but what `Same` leaves open. -/
structure IsLossless {α : Type} (write : α → Json) (read : Json → Except Failure α)
    (Valid : α → Prop) (Same : α → α → Prop) : Prop where
  /-- What is written is read back as the same value, and that is written in the same way. -/
  reads : ∀ x, Valid x → ∃ y, read (write x) = .ok y ∧ Same x y ∧ write y = write x
  /-- Values are written in the same way only if they are the same. -/
  writes_eq_iff : ∀ x y, Valid x → Valid y → (write x = write y ↔ Same x y)

/-- A form is lossless if the value that is read back is the same one, and if what is the same is
written in the same way. -/
lemma IsLossless.of_reads {α : Type} {write : α → Json} {read : Json → Except Failure α}
    {Valid : α → Prop} {Same : α → α → Prop} (hsymm : ∀ {x y}, Same x y → Same y x)
    (htrans : ∀ {x y z}, Same x y → Same y z → Same x z)
    (hreads : ∀ x, ∃ y, read (write x) = .ok y ∧ Same x y)
    (hwrites : ∀ {x y}, Valid x → Same x y → write x = write y) :
    IsLossless write read Valid Same where
  reads x hx := by
    obtain ⟨y, hread, hsame⟩ := hreads x
    exact ⟨y, hread, hsame, (hwrites hx hsame).symm⟩
  writes_eq_iff x y hx _ := by
    refine ⟨fun heq => ?_, hwrites hx⟩
    obtain ⟨z, hread, hsame⟩ := hreads x
    obtain ⟨z', hread', hsame'⟩ := hreads y
    rw [heq] at hread
    obtain rfl : z = z' := Except.ok.inj (hread.symm.trans hread')
    exact htrans hsame (hsymm hsame')

/-! ## Fields in the order of their names -/

namespace Fields

@[symm] lemma Reorders.symm {fs gs : Fields} (h : fs.Reorders gs) : gs.Reorders fs := by
  induction h with
  | empty => exact .empty
  | field name a _ _ ihbelow ihrest => exact .field name a ihbelow ihrest
  | swap name other a b below beneath rest => exact .swap other name b a beneath below rest
  | trans _ _ ih ih' => exact .trans ih' ih

/-- A field may be inserted anywhere instead of standing first. -/
lemma reorders_insertSorted (name : String) (a : Attributes) (below fs : Fields) :
    (field name a below fs).Reorders (insertSorted name a below fs) := by
  induction fs with
  | empty => exact .refl _
  | field n b beneath rest _ ih =>
    rw [insertSorted]
    split
    · exact .trans (.swap name n a b below beneath rest) (.field n b (.refl _) ih)
    · exact .refl _

/-- Sorting at every depth is a change of order. -/
lemma reorders_sortedDeep (fs : Fields) : fs.Reorders fs.sortedDeep := by
  induction fs with
  | empty => exact .empty
  | field name a below rest ihbelow ihrest =>
    exact .trans (.field name a ihbelow ihrest) (reorders_insertSorted name a _ _)

end Fields

/-! ## Fields and mappings up to their order -/

/-- Single fields of which the second has the fields below the first in another order. -/
structure Property.Reorders (p q : Property) : Prop where
  attributes : p.attributes = q.attributes
  children : p.children.Reorders q.children

namespace Property.Reorders

variable {p q r : Property}

lemma symm (h : p.Reorders q) : q.Reorders p := ⟨h.attributes.symm, h.children.symm⟩

lemma trans (h : p.Reorders q) (h' : q.Reorders r) : p.Reorders r :=
  ⟨h.attributes.trans h'.attributes, h.children.trans h'.children⟩

/-- The remote form of a field does not depend on the order of the fields below it. -/
lemma toRemote_eq (h : p.Reorders q) (hdistinct : p.children.IsDistinct) :
    p.toRemote = q.toRemote := by
  rw [Property.toRemote, Property.toRemote, h.attributes, h.children.isEmpty_eq,
    h.children.sorted_toRemote_eq hdistinct]

end Property.Reorders

namespace TypeMapping.Reorders

variable {m n k : TypeMapping}

lemma symm (h : m.Reorders n) : n.Reorders m := ⟨h.dynamic.symm, h.fields.symm⟩

lemma trans (h : m.Reorders n) (h' : n.Reorders k) : m.Reorders k :=
  ⟨h.dynamic.trans h'.dynamic, h.fields.trans h'.fields⟩

end TypeMapping.Reorders

namespace Mapping

lemma isLossless_property :
    IsLossless Property.toRemote Property.ofRemote (·.children.IsDistinct) Property.Reorders :=
  .of_reads Property.Reorders.symm Property.Reorders.trans
    (fun p => ⟨_, p.ofRemote_toRemote p.children.ofRemote_toRemote, rfl,
      p.children.reorders_sortedDeep⟩)
    fun hdistinct h => h.toRemote_eq hdistinct

lemma isLossless_typeMapping :
    IsLossless TypeMapping.toRemote TypeMapping.ofRemote (·.fields.IsDistinct)
      TypeMapping.Reorders :=
  .of_reads TypeMapping.Reorders.symm TypeMapping.Reorders.trans
    (fun m => ⟨m.inOrder, m.ofRemote_toRemote, rfl, m.fields.reorders_sortedDeep⟩)
    fun hdistinct h => h.toRemote_eq hdistinct

/-- **The remote form loses nothing but the order of fields.**  Where no name stands beside itself,
a field and a mapping are read back as they were written, up to the order of the fields at every
depth, and are written in the same way again; two of them have the same remote form exactly if they
are told apart by that order alone. -/
theorem isLossless_toRemote :
    IsLossless Property.toRemote Property.ofRemote (·.children.IsDistinct) Property.Reorders ∧
    IsLossless TypeMapping.toRemote TypeMapping.ofRemote (·.fields.IsDistinct)
      TypeMapping.Reorders :=
  ⟨isLossless_property, isLossless_typeMapping⟩

/-- A mapping out of order, with a type that is not known here and with values for null that count
as nothing elsewhere. -/
def falsyMarkers : TypeMapping :=
  let flag : Attributes := { Attributes.ofType (.of .boolean) with nullValue := .bool false }
  let count : Attributes := { Attributes.ofType (.of .integer) with nullValue := .int 0 }
  let title : Attributes := { Attributes.ofType (.of .keyword) with nullValue := .text "" }
  ⟨"strict", .field "title" title .empty
    (.field "stock" (.ofType ⟨"flattened"⟩) (.field "flag" flag .empty (.field "count" count .empty
      .empty)) .empty)⟩

theorem isLossless_toRemote_falsyMarkers :
    (∃ m, TypeMapping.ofRemote falsyMarkers.toRemote = .ok m ∧ falsyMarkers.Reorders m ∧
      m.toRemote = falsyMarkers.toRemote) ∧
    falsyMarkers.inOrder.fields.names ≠ falsyMarkers.fields.names := by
  refine ⟨isLossless_toRemote.2.reads falsyMarkers ?_, by decide⟩
  simp [falsyMarkers, Fields.IsDistinct, Fields.names]

end Mapping

end SearchIndex
