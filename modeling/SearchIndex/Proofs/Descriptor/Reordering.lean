/-
# Declarations in another order

`Declarations.Maps` says which fields declarations stand for, with no regard to the order in which
they are gone through and the names met on the way: they are translated exactly if they stand for
fields with distinct names (`Declarations.fields?_eq_ok_iff`).  So declarations in another order
stand for the same fields in another order, and of two descriptors that differ in no more one has a
mapping exactly if the other one has (`EntityDescriptor.Reorders.exists_mapping?`).
-/
import SearchIndex.Proofs.Descriptor.Target
import SearchIndex.Proofs.Mapping.Reordering

namespace SearchIndex

/-! ## What declarations stand for -/

/-- A declaration can be a field of a type: other fields are embedded only in a container, and a
text is not sorted by. -/
def Declaration.Fits (d : Declaration) (children : Declarations) (type : DataType) : Prop :=
  type.isContainer = true ∨ children = .empty ∧ ¬ (d.sortable = true ∧ type = .text)

/-- The attributes of a declared field of a type; of a container only the type is said. -/
def Declaration.attributesAs (d : Declaration) (type : DataType) : Attributes :=
  if type.isContainer then .ofType (.of type) else d.attributes type

namespace Declarations

/-- The fields that declarations stand for. -/
inductive Maps : Declarations → Fields → Prop where
  | empty : Maps .empty .empty
  | field {d : Declaration} {type : DataType} {children rest : Declarations} {below others : Fields}
      (htype : d.dataType? = some type) (hfits : d.Fits children type)
      (hbelow : Maps children below) (hothers : Maps rest others) :
      Maps (.field d children rest) (.field d.name (d.attributesAs type) below others)

section Field

variable {d : Declaration} {type : DataType} {children rest : Declarations} {above : String}
  {taken : List String} {fs : Fields}

/-- A declaration that can be a field of its type is translated with the declarations embedded in it
and those after it, if its name is not taken. -/
lemma fields?_of_fits (htaken : d.name ∉ taken) (htype : d.dataType? = some type)
    (hfits : d.Fits children type) :
    (field d children rest).fields? above taken = do
      let below ← children.fields? (above ++ d.name ++ ".") []
      let others ← rest.fields? above (d.name :: taken)
      return .field d.name (d.attributesAs type) below others := by
  rw [fields?, if_neg htaken, Declaration.attributesAs]
  by_cases hcontainer : type.isContainer = true
  · simp only [htype, hcontainer, if_true]
  · obtain ⟨rfl, hsortable⟩ := hfits.resolve_left hcontainer
    have hsortable : (d.sortable && decide (type = .text)) = false := by simpa using hsortable
    simp only [htype, hcontainer, hsortable]
    rfl

/-- A declaration that is translated can be a field of its type, and its name is not taken. -/
lemma exists_fits_of_fields? (h : (field d children rest).fields? above taken = .ok fs) :
    d.name ∉ taken ∧ ∃ type, d.dataType? = some type ∧ d.Fits children type := by
  have htaken := (exists_of_fields?_field h).1
  refine ⟨htaken, ?_⟩
  rw [fields?, if_neg htaken] at h
  cases htype : d.dataType? with
  | none =>
    rw [htype] at h
    cases h
  | some type =>
    refine ⟨type, rfl, ?_⟩
    by_contra hnot
    obtain ⟨hcontainer, hleaf⟩ := not_or.1 hnot
    simp only [htype, hcontainer] at h
    cases children with
    | field => cases h
    | empty =>
      have hsortable : (d.sortable && decide (type = .text)) = true := by simpa using hleaf
      simp only [hsortable] at h
      cases h

end Field

lemma exists_maps_of_fields? {ds : Declarations} {above : String} {taken : List String}
    {fs : Fields} (h : ds.fields? above taken = .ok fs) : ds.Maps fs := by
  induction ds generalizing above taken fs with
  | empty =>
    obtain rfl := Except.ok.inj h
    exact .empty
  | field d children rest ihchildren ihrest =>
    obtain ⟨htaken, type, htype, hfits⟩ := exists_fits_of_fields? h
    rw [fields?_of_fits htaken htype hfits] at h
    obtain ⟨below, hbelow, h⟩ := exists_of_bind_eq_ok h
    obtain ⟨others, hothers, h⟩ := exists_of_bind_eq_ok h
    obtain rfl := Except.ok.inj h
    exact .field htype hfits (ihchildren hbelow) (ihrest hothers)

lemma Maps.fields?_eq_ok {ds : Declarations} {fs : Fields} (h : ds.Maps fs)
    (hdistinct : fs.IsDistinct) (above : String) {taken : List String}
    (htaken : ∀ name ∈ fs.names, name ∉ taken) : ds.fields? above taken = .ok fs := by
  induction h generalizing above taken with
  | empty => rfl
  | @field d type children rest below others htype hfits _ _ ihbelow ihothers =>
    obtain ⟨hname, hbelow, hothers⟩ := hdistinct
    obtain ⟨hfresh, htaken⟩ := List.forall_mem_cons.1 htaken
    have hothersTaken : ∀ name ∈ others.names, name ∉ d.name :: taken := fun name hmem =>
      List.mem_cons.not.2 (not_or.2 ⟨fun heq => hname (heq ▸ hmem), htaken name hmem⟩)
    rw [fields?_of_fits hfresh htype hfits, ihbelow hbelow _ fun _ _ => List.not_mem_nil,
      ihothers hothers above hothersTaken]
    rfl

/-- Declarations are translated exactly if they stand for fields with distinct names, none of which
is taken. -/
lemma fields?_eq_ok_iff {ds : Declarations} {above : String} {taken : List String} {fs : Fields} :
    ds.fields? above taken = .ok fs ↔
      ds.Maps fs ∧ fs.IsDistinct ∧ ∀ name ∈ fs.names, name ∉ taken :=
  ⟨fun h => ⟨exists_maps_of_fields? h, isDistinct_of_fields? h⟩,
    fun ⟨hmaps, hdistinct, htaken⟩ => hmaps.fields?_eq_ok hdistinct above htaken⟩

/-! ## Another order -/

/-- The same declarations in another order, at any depth. -/
inductive Reorders : Declarations → Declarations → Prop where
  | empty : Reorders .empty .empty
  /-- A declaration stays in its place, and those embedded in it and after it are in another
  order. -/
  | field (d : Declaration) {children children' rest rest' : Declarations}
      (hchildren : Reorders children children') (hrest : Reorders rest rest') :
      Reorders (.field d children rest) (.field d children' rest')
  /-- Two declarations that stand side by side change places. -/
  | swap (d e : Declaration) (children embedded rest : Declarations) :
      Reorders (.field d children (.field e embedded rest))
        (.field e embedded (.field d children rest))
  | trans {ds es gs : Declarations} (h : Reorders ds es) (h' : Reorders es gs) : Reorders ds gs

namespace Reorders

variable {ds es : Declarations}

@[refl] lemma refl (ds : Declarations) : ds.Reorders ds := by
  induction ds with
  | empty => exact .empty
  | field d children rest ihchildren ihrest => exact .field d ihchildren ihrest

@[symm] lemma symm (h : ds.Reorders es) : es.Reorders ds := by
  induction h with
  | empty => exact .empty
  | field d _ _ ihchildren ihrest => exact .field d ihchildren ihrest
  | swap d e children embedded rest => exact .swap e d embedded children rest
  | trans _ _ ih ih' => exact .trans ih' ih

lemma eq_empty_iff (h : ds.Reorders es) : ds = .empty ↔ es = .empty := by
  induction h with
  | empty => rfl
  | field => simp
  | swap => simp
  | trans _ _ ih ih' => exact ih.trans ih'

/-- Whether a declaration can be a field of a type does not depend on the order of what is embedded
in it. -/
lemma fits (h : ds.Reorders es) {d : Declaration} {type : DataType} (hfits : d.Fits ds type) :
    d.Fits es type := by
  rcases hfits with hcontainer | ⟨rfl, hsortable⟩
  · exact Or.inl hcontainer
  · exact Or.inr ⟨h.eq_empty_iff.1 rfl, hsortable⟩

/-- Declarations in another order stand for the same fields in another order. -/
lemma exists_maps (h : ds.Reorders es) {fs : Fields} (hmaps : ds.Maps fs) :
    ∃ gs, es.Maps gs ∧ fs.Reorders gs := by
  induction h generalizing fs with
  | empty => exact ⟨fs, hmaps, .refl fs⟩
  | field d hchildren _ ihchildren ihrest =>
    cases hmaps with
    | @field _ type _ _ below others htype hfits hbelow hothers =>
      obtain ⟨below', hbelow', hreorders⟩ := ihchildren hbelow
      obtain ⟨others', hothers', hreorders'⟩ := ihrest hothers
      exact ⟨_, .field htype (hchildren.fits hfits) hbelow' hothers',
        .field d.name _ hreorders hreorders'⟩
  | swap d e children embedded rest =>
    cases hmaps with
    | field htype hfits hbelow hothers =>
      cases hothers with
      | field htype' hfits' hbeneath hothers =>
        exact ⟨_, .field htype' hfits' hbeneath (.field htype hfits hbelow hothers),
          .swap _ _ _ _ _ _ _⟩
  | trans _ _ ih ih' =>
    obtain ⟨gs, hgs, hreorders⟩ := ih hmaps
    obtain ⟨hs, hhs, hreorders'⟩ := ih' hgs
    exact ⟨hs, hhs, hreorders.trans hreorders'⟩

/-- Declarations in another order are translated to the same fields in another order. -/
lemma exists_fields? (h : ds.Reorders es) {above : String} {taken : List String} {fs : Fields}
    (hok : ds.fields? above taken = .ok fs) :
    ∃ gs, es.fields? above taken = .ok gs ∧ fs.Reorders gs := by
  obtain ⟨hmaps, hdistinct, htaken⟩ := fields?_eq_ok_iff.1 hok
  obtain ⟨gs, hgs, hreorders⟩ := h.exists_maps hmaps
  have htaken' : ∀ name ∈ gs.names, name ∉ taken :=
    fun name hmem => htaken name (hreorders.names_perm.mem_iff.2 hmem)
  exact ⟨gs, fields?_eq_ok_iff.2 ⟨hgs, hreorders.isDistinct hdistinct, htaken'⟩, hreorders⟩

end Reorders

end Declarations

namespace EntityDescriptor

/-- The fields of a mapping for the fields that are declared: the id comes first, and the tenant
last if documents carry tenants. -/
def mappedFields (e : EntityDescriptor) (options : SchemaOptions) (declared : Fields) : Fields :=
  let fields := Fields.field e.idField idAttributes .empty declared
  if options.multitenancy then fields.append tenantField ⟨.ofType (.of .keyword), .empty⟩
  else fields

/-- A descriptor has a mapping if its fields are translated and no name is that of the tenant. -/
lemma mapping?_eq_ok_iff {e : EntityDescriptor} {options : SchemaOptions} {mapping : TypeMapping} :
    e.mapping? options = .ok mapping ↔ ∃ declared,
      e.fields.fields? "" [e.idField] = .ok declared ∧
      (options.multitenancy = true → tenantField ∉ e.idField :: declared.names) ∧
      mapping = ⟨"strict", e.mappedFields options declared⟩ := by
  rw [mapping?]
  cases hdeclared : e.fields.fields? "" [e.idField] with
  | error problem => exact ⟨nofun, fun ⟨_, h, _⟩ => nomatch h⟩
  | ok declared =>
    simp only [Except.ok.injEq, exists_eq_left', mappedFields]
    change (if options.multitenancy = true then _ else _) = _ ↔ _
    by_cases htenancy : options.multitenancy = true
    · by_cases htenant : tenantField ∈ (Fields.field e.idField idAttributes .empty declared).names
      · rw [if_pos htenancy, if_pos htenant]
        exact ⟨nofun, fun h => absurd htenant (h.1 htenancy)⟩
      · rw [if_pos htenancy, if_neg htenant, if_pos htenancy]
        exact ⟨fun h => ⟨fun _ => htenant, (Except.ok.inj h).symm⟩, fun h => congrArg _ h.2.symm⟩
    · rw [if_neg htenancy, if_neg htenancy]
      exact ⟨fun h => ⟨fun htrue => absurd htrue htenancy, (Except.ok.inj h).symm⟩,
        fun h => congrArg _ h.2.symm⟩

/-- Descriptors that differ in the order of their fields, at any depth, and in nothing else. -/
structure Reorders (e e' : EntityDescriptor) : Prop where
  entityType : e.entityType = e'.entityType
  idField : e.idField = e'.idField
  fields : e.fields.Reorders e'.fields

namespace Reorders

variable {e e' : EntityDescriptor}

lemma symm (h : e.Reorders e') : e'.Reorders e :=
  ⟨h.entityType.symm, h.idField.symm, h.fields.symm⟩

/-- If a descriptor has a mapping, then with its fields in another order it has one with the fields
of that in another order. -/
lemma exists_mapping? (h : e.Reorders e') {options : SchemaOptions} {mapping : TypeMapping}
    (hok : e.mapping? options = .ok mapping) :
    ∃ mapping', e'.mapping? options = .ok mapping' ∧ mapping.Reorders mapping' := by
  obtain ⟨declared, hdeclared, htenant, rfl⟩ := mapping?_eq_ok_iff.1 hok
  obtain ⟨declared', hdeclared', hreorders⟩ := h.fields.exists_fields? hdeclared
  have hnames : (e.idField :: declared.names).Perm (e.idField :: declared'.names) :=
    hreorders.names_perm.cons _
  rw [h.idField] at hdeclared' hnames
  refine ⟨_, mapping?_eq_ok_iff.2 ⟨declared', hdeclared', ?_, rfl⟩, rfl, ?_⟩
  · exact fun htenancy hmem => htenant htenancy (h.idField ▸ hnames.mem_iff.2 hmem)
  · have hfields : (Fields.field e.idField idAttributes .empty declared).Reorders
        (.field e'.idField idAttributes .empty declared') :=
      h.idField ▸ .field _ _ .empty hreorders
    change (mappedFields _ _ _).Reorders (mappedFields _ _ _)
    rw [mappedFields, mappedFields]
    split
    · exact hfields.append _ _
    · exact hfields

/-- The remote form of the mapping, if there is one, does not depend on the order of the fields. -/
lemma toRemote_mapping?_eq (h : e.Reorders e') (options : SchemaOptions) :
    (e.mapping? options).toOption.map TypeMapping.toRemote =
      (e'.mapping? options).toOption.map TypeMapping.toRemote := by
  cases hmapping : e.mapping? options with
  | ok mapping =>
    obtain ⟨mapping', hmapping', hreorders⟩ := h.exists_mapping? hmapping
    rw [hmapping']
    exact congrArg some (hreorders.toRemote_eq (isDistinct_of_mapping? hmapping))
  | error problem =>
    cases hmapping' : e'.mapping? options with
    | error problem' => rfl
    | ok mapping' =>
      obtain ⟨mapping, hok, -⟩ := h.symm.exists_mapping? hmapping'
      cases hmapping.symm.trans hok

end Reorders

/-- Tables of descriptors in another order, each descriptor with its fields in another order. -/
def ReordersAll (descriptors descriptors' : Table EntityDescriptor) : Prop :=
  ∃ reordered, List.Forall₂ (fun entry entry' => entry.1 = entry'.1 ∧ entry.2.Reorders entry'.2)
    descriptors reordered ∧ reordered.Perm descriptors'

/-- Two tables of descriptors have the same keys, and what is found under one is told apart only by
the order of its fields. -/
lemma ReordersAll.get?_rel {descriptors descriptors' : Table EntityDescriptor}
    (h : ReordersAll descriptors descriptors') (hdistinct : Table.IsDistinct descriptors)
    (entityType : String) :
    Option.Rel Reorders (Table.get? descriptors entityType)
      (Table.get? descriptors' entityType) := by
  obtain ⟨reordered, hfields, hperm⟩ := h
  have hkeys : Table.keys descriptors = Table.keys reordered := by
    rw [← List.forall₂_eq_eq_eq, Table.keys, Table.keys, List.forall₂_map_left_iff,
      List.forall₂_map_right_iff]
    exact hfields.imp fun _ _ hentry => hentry.1
  have hdistinct' : Table.IsDistinct reordered := by rwa [Table.IsDistinct, ← hkeys]
  rw [← Table.get?_eq_of_perm hperm hdistinct']
  clear hperm hkeys hdistinct hdistinct'
  induction hfields with
  | nil => exact .none
  | @cons entry entry' _ _ hentry _ ih =>
    obtain ⟨hkey, hreorders⟩ := hentry
    rw [Table.get?, Table.get?, ← hkey]
    split
    · exact .some hreorders
    · exact ih

end EntityDescriptor

end SearchIndex
