/-
# Which descriptors have a mapping

A descriptor is well formed if, at every depth, each declaration has a known logical type, only
objects and nested fields embed others, no text is sorted by, and no name stands beside itself; the
names of the id and of the tenant count among those at the top (`EntityDescriptor.IsWellFormed`).
This is said of the declarations alone, without the translation.

The main result, `EntityDescriptor.mapping_exact`, says that these are the descriptors which have a
mapping, and that the translation of any other one ends with a mapping problem.  The mapping has
the paths of the declarations in their order, with the type that each logical type stands for, and
the attributes that go with a type (`Property.IsRegular`).
-/
import SearchIndex.Proofs.Descriptor.Reordering
import SearchIndex.Proofs.Mapping.Walking

namespace SearchIndex

/-! ## Logical types -/

/-- The logical types, in lower case. -/
def logicalTypes : List String :=
  ["string", "text", "keyword", "integer", "int", "long", "float", "double", "boolean", "date",
    "object", "nested", "geo_point"]

namespace Declaration

variable {d : Declaration} {type : DataType} {children : Declarations}

/-- The field type that the logical type of a declaration stands for, whatever its case. -/
inductive StandsFor (d : Declaration) : DataType → Prop where
  /-- A string that is split into words. -/
  | words (hname : Text.lowerCase d.type = "string") (hanalyzed : d.analyzed = true) :
      StandsFor d .text
  /-- A string that is taken as a whole. -/
  | whole (hname : Text.lowerCase d.type = "string") (hanalyzed : d.analyzed = false) :
      StandsFor d .keyword
  /-- The short name of the integers. -/
  | int (hname : Text.lowerCase d.type = "int") : StandsFor d .integer
  /-- A field type by its own name. -/
  | named {type : DataType} (hname : Text.lowerCase d.type = type.name) : StandsFor d type

lemma dataType?_eq_some_iff : d.dataType? = some type ↔ d.StandsFor type := by
  rw [dataType?, logicalType?]
  constructor
  · intro h
    split at h
    · rename_i hname
      cases hanalyzed : d.analyzed with
      | true =>
        obtain rfl : DataType.text = type := by simpa [hanalyzed] using h
        exact .words hname hanalyzed
      | false =>
        obtain rfl : DataType.keyword = type := by simpa [hanalyzed] using h
        exact .whole hname hanalyzed
    · split at h
      · rename_i hname
        obtain rfl := Option.some.inj h
        exact .int hname
      · exact .named (DataType.name_of_ofName? h).symm
  · intro h
    cases h with
    | words hname hanalyzed => simp [hname, hanalyzed]
    | whole hname hanalyzed => simp [hname, hanalyzed]
    | int hname => simp [hname]
    | named hname =>
      -- no field type has one of the two names that are looked at first
      have hstring : type.name ≠ "string" := by cases type <;> decide
      have hint : type.name ≠ "int" := by cases type <;> decide
      rw [hname, if_neg hstring, if_neg hint, DataType.ofName?_name]

/-- A logical type stands for one field type at most. -/
lemma StandsFor.unique {other : DataType} (h : d.StandsFor type) (h' : d.StandsFor other) :
    type = other :=
  Option.some.inj ((dataType?_eq_some_iff.2 h).symm.trans (dataType?_eq_some_iff.2 h'))

/-- The logical types are those that stand for a field type. -/
lemma mem_logicalTypes_iff :
    Text.lowerCase d.type ∈ logicalTypes ↔ ∃ type, d.StandsFor type := by
  constructor
  · intro h
    simp only [logicalTypes, List.mem_cons, List.not_mem_nil, or_false] at h
    rcases h with h | h | h | h | h | h | h | h | h | h | h | h | h
    · cases hanalyzed : d.analyzed with
      | true => exact ⟨_, .words h hanalyzed⟩
      | false => exact ⟨_, .whole h hanalyzed⟩
    · exact ⟨.text, .named h⟩
    · exact ⟨.keyword, .named h⟩
    · exact ⟨.integer, .named h⟩
    · exact ⟨_, .int h⟩
    · exact ⟨.long, .named h⟩
    · exact ⟨.float, .named h⟩
    · exact ⟨.double, .named h⟩
    · exact ⟨.boolean, .named h⟩
    · exact ⟨.date, .named h⟩
    · exact ⟨.object, .named h⟩
    · exact ⟨.nested, .named h⟩
    · exact ⟨.geoPoint, .named h⟩
  · rintro ⟨type, h⟩
    cases h with
    | words hname => simp [hname, logicalTypes]
    | whole hname => simp [hname, logicalTypes]
    | int hname => simp [hname, logicalTypes]
    | named hname =>
      rw [hname]
      cases type <;> decide

/-! ## Well-formed declarations -/

/-- A declaration with others embedded in it says nothing that no field can be: its logical type is
known, only objects and nested fields embed others, and what is split into words is not sorted
by. -/
structure IsAdmissible (d : Declaration) (children : Declarations) : Prop where
  known : Text.lowerCase d.type ∈ logicalTypes
  embeds : children ≠ .empty →
    Text.lowerCase d.type = "object" ∨ Text.lowerCase d.type = "nested"
  sorts : d.sortable = true → ¬ d.StandsFor .text

/-- Admissible declarations are those that can be a field of the type that they stand for. -/
lemma isAdmissible_iff :
    d.IsAdmissible children ↔ ∃ type, d.dataType? = some type ∧ d.Fits children type := by
  constructor
  · rintro ⟨hknown, hembeds, hsorts⟩
    obtain ⟨type, htype⟩ := mem_logicalTypes_iff.1 hknown
    refine ⟨type, dataType?_eq_some_iff.2 htype, ?_⟩
    by_cases hcontainer : type.isContainer = true
    · exact Or.inl hcontainer
    · refine Or.inr ⟨?_, fun ⟨hsortable, htext⟩ => hsorts hsortable (htext ▸ htype)⟩
      by_contra hchildren
      have hname : d.StandsFor .object ∨ d.StandsFor .nested :=
        (hembeds hchildren).imp .named .named
      rcases hname with hobject | hnested
      · obtain rfl := htype.unique hobject
        exact hcontainer rfl
      · obtain rfl := htype.unique hnested
        exact hcontainer rfl
  · rintro ⟨type, htype, hfits⟩
    have hstands := dataType?_eq_some_iff.1 htype
    refine ⟨mem_logicalTypes_iff.2 ⟨type, hstands⟩, fun hchildren => ?_, fun hsortable htext => ?_⟩
    · have hcontainer := hfits.resolve_right fun hleaf => hchildren hleaf.1
      cases hstands with
      | words => cases hcontainer
      | whole => cases hcontainer
      | int => cases hcontainer
      | named hname =>
        rw [hname]
        cases type <;> first | exact Or.inl rfl | exact Or.inr rfl | cases hcontainer
    · obtain rfl := hstands.unique htext
      rcases hfits with hcontainer | ⟨-, hleaf⟩
      · cases hcontainer
      · exact hleaf ⟨hsortable, rfl⟩

end Declaration

namespace Declarations

variable {ds : Declarations} {fs : Fields}

/-- At every depth each declaration is admissible, and no name stands beside itself. -/
def IsWellFormed : Declarations → Prop
  | empty => True
  | field d children rest =>
    d.IsAdmissible children ∧ d.name ∉ rest.names ∧ children.IsWellFormed ∧ rest.IsWellFormed

/-- The paths of all declared fields, that of a field before those of the fields embedded in it. -/
def paths : Declarations → List (List String)
  | empty => []
  | field d children rest => [d.name] :: (children.paths.map (d.name :: ·) ++ rest.paths)

/-- The declaration of a name, with those embedded in it. -/
def get? : Declarations → String → Option (Declaration × Declarations)
  | empty, _ => none
  | field d children rest, wanted =>
    if d.name = wanted then some (d, children) else rest.get? wanted

/-- The declaration at a path. -/
def at? (ds : Declarations) : List String → Option Declaration
  | [] => none
  | [name] => (ds.get? name).map Prod.fst
  | name :: next :: path => (ds.get? name).bind fun found => found.2.at? (next :: path)

namespace Maps

lemma names_eq (h : ds.Maps fs) : fs.names = ds.names := by
  induction h with
  | empty => rfl
  | field _ _ _ _ _ ihothers => exact congrArg (_ :: ·) ihothers

lemma paths_eq (h : ds.Maps fs) : fs.paths = ds.paths := by
  induction h with
  | empty => rfl
  | field _ _ _ _ ihbelow ihothers => rw [Fields.paths, paths, ihbelow, ihothers]

/-- What declarations stand for has distinct names where they are well formed. -/
lemma isDistinct_iff (h : ds.Maps fs) : fs.IsDistinct ↔ ds.IsWellFormed := by
  induction h with
  | empty => exact Iff.rfl
  | @field d type children rest below others htype hfits _ hothers ihbelow ihothers =>
    rw [Fields.IsDistinct, IsWellFormed, hothers.names_eq, ihbelow, ihothers]
    exact (and_iff_right (Declaration.isAdmissible_iff.2 ⟨type, htype, hfits⟩)).symm

/-- Under a name, and below, is what the declarations under that name stand for. -/
lemma get?_rel (h : ds.Maps fs) (name : String) :
    Option.Rel (fun x p => ∃ type, x.1.StandsFor type ∧
      p.attributes = x.1.attributesAs type ∧ x.2.Maps p.children) (ds.get? name) (fs.get? name) := by
  induction h with
  | empty => exact .none
  | @field d type children rest below others htype _ hbelow _ _ ihothers =>
    rw [get?, Fields.get?]
    split
    · exact .some ⟨type, Declaration.dataType?_eq_some_iff.1 htype, rfl, hbelow⟩
    · exact ihothers

/-- At a path is what the declaration at that path stands for. -/
lemma at?_rel (h : ds.Maps fs) (path : List String) :
    Option.Rel (fun d a => ∃ type, d.StandsFor type ∧ a = d.attributesAs type)
      (ds.at? path) (fs.at? path) := by
  induction path generalizing ds fs with
  | nil =>
    rw [Fields.at?_nil]
    exact .none
  | cons name path ih =>
    have hrel := h.get?_rel name
    generalize hfound : ds.get? name = found at hrel
    generalize hget : fs.get? name = p at hrel
    cases hrel with
    | none =>
      have hnone : ds.at? (name :: path) = none := by cases path <;> simp [at?, hfound]
      rw [hnone, Fields.at?_of_get?_eq_none hget]
      exact .none
    | @some x p hp =>
      obtain ⟨type, htype, hattributes, hbelow⟩ := hp
      cases path with
      | nil =>
        rw [Fields.at?_singleton, hget, at?, hfound]
        exact .some ⟨type, htype, hattributes⟩
      | cons next path =>
        have hbelow' : ds.at? (name :: next :: path) = x.2.at? (next :: path) := by
          rw [at?, hfound]
          rfl
        rw [hbelow', Fields.at?_cons_of_ne_nil hget (List.cons_ne_nil _ _)]
        exact ih hbelow

end Maps

/-- Declarations stand for fields with distinct names exactly if they are well formed. -/
lemma exists_maps_iff : (∃ fs, ds.Maps fs ∧ fs.IsDistinct) ↔ ds.IsWellFormed := by
  constructor
  · rintro ⟨fs, hmaps, hdistinct⟩
    exact hmaps.isDistinct_iff.1 hdistinct
  · intro hformed
    suffices hmaps : ∃ fs, ds.Maps fs by
      obtain ⟨fs, hmaps⟩ := hmaps
      exact ⟨fs, hmaps, hmaps.isDistinct_iff.2 hformed⟩
    induction ds with
    | empty => exact ⟨.empty, .empty⟩
    | field d children rest ihchildren ihrest =>
      obtain ⟨hadmissible, -, hchildren, hrest⟩ := hformed
      obtain ⟨type, htype, hfits⟩ := Declaration.isAdmissible_iff.1 hadmissible
      obtain ⟨below, hbelow⟩ := ihchildren hchildren
      obtain ⟨others, hothers⟩ := ihrest hrest
      exact ⟨_, .field htype hfits hbelow hothers⟩

end Declarations

/-! ## Attributes that go with a type -/

/-- Only objects and nested fields have fields below them, only texts an analyzer, dates and nothing
else a format, and texts neither a value for null nor values to sort by. -/
structure Property.IsRegular (p : Property) : Prop where
  children : p.children ≠ .empty →
    p.attributes.type = .of .object ∨ p.attributes.type = .of .nested
  analyzer : p.attributes.analyzer ≠ none → p.attributes.type = .of .text
  format : p.attributes.format ≠ none ↔ p.attributes.type = .of .date
  text : p.attributes.type = .of .text →
    p.attributes.nullValue = .null ∧ p.attributes.docValues = none

namespace Fields

variable {fs : Fields} {name : String} {p : Property}

/-- Every field, at any depth, has the attributes that go with its type. -/
def IsRegular : Fields → Prop
  | empty => True
  | field _ a children rest =>
    Property.IsRegular ⟨a, children⟩ ∧ children.IsRegular ∧ rest.IsRegular

lemma IsRegular.get? (h : fs.IsRegular) (hp : fs.get? name = some p) :
    p.IsRegular ∧ p.children.IsRegular := by
  induction fs with
  | empty => simp at hp
  | field n a c rest _ ih =>
    obtain ⟨hfirst, hchildren, hrest⟩ := h
    rw [Fields.get?] at hp
    split at hp
    · obtain rfl := Option.some.inj hp
      exact ⟨hfirst, hchildren⟩
    · exact ih hrest hp

lemma IsRegular.find? (h : fs.IsRegular) {path : List String} (hp : fs.find? path = some p) :
    p.IsRegular := by
  cases path with
  | nil => cases hp
  | cons name path =>
    obtain ⟨q, hq, hbelow⟩ := Option.bind_eq_some_iff.1 hp
    obtain ⟨hregular, hchildren⟩ := h.get? hq
    clear hp hq
    induction path generalizing q with
    | nil =>
      obtain rfl := Option.some.inj hbelow
      exact hregular
    | cons next path ih =>
      obtain ⟨below, hget, hrest⟩ := Option.bind_eq_some_iff.1 hbelow
      obtain ⟨hregular, hchildren'⟩ := hchildren.get? hget
      exact ih below hrest hregular hchildren'

lemma IsRegular.append (h : fs.IsRegular) (hp : p.IsRegular ∧ p.children.IsRegular) :
    (fs.append name p).IsRegular := by
  induction fs with
  | empty => exact ⟨hp.1, hp.2, trivial⟩
  | field n a c rest _ ih => exact ⟨h.1, h.2.1, ih h.2.2⟩

lemma paths_append (fs : Fields) (name : String) (p : Property) :
    (fs.append name p).paths = fs.paths ++ [name] :: p.children.paths.map (name :: ·) := by
  induction fs with
  | empty => simp [append, paths]
  | field n a c rest _ ih => simp [append, paths, ih]

lemma get?_append (fs : Fields) (name wanted : String) (p : Property) :
    (fs.append name p).get? wanted =
      (fs.get? wanted).or (if name = wanted then some p else none) := by
  induction fs with
  | empty => simp [append, Fields.get?]
  | field n a c rest _ ih =>
    rw [append, Fields.get?, Fields.get?, ih]
    split <;> rfl

end Fields

lemma FieldType.of_inj {type other : DataType} :
    FieldType.of type = FieldType.of other ↔ type = other :=
  ⟨fun h => DataType.name_injective (congrArg FieldType.name h), congrArg _⟩

/-- A field of which only the type is said is regular, if it is no date and has fields below it only
as a container. -/
lemma Property.isRegular_ofType {type : DataType} {below : Fields} (hdate : type ≠ .date)
    (hbelow : below ≠ .empty → type = .object ∨ type = .nested) :
    Property.IsRegular ⟨.ofType (.of type), below⟩ where
  children h := (hbelow h).imp (congrArg FieldType.of) (congrArg FieldType.of)
  analyzer h := absurd rfl h
  format := iff_of_false (fun h => h rfl) fun h => hdate (FieldType.of_inj.1 h)
  text _ := ⟨rfl, rfl⟩

/-- A declared field that holds no others is regular, unless it is a text that is sorted by. -/
lemma Declaration.isRegular_attributes {d : Declaration} {type : DataType}
    (hsorts : ¬ (d.sortable = true ∧ type = .text)) :
    Property.IsRegular ⟨d.attributes type, .empty⟩ where
  children h := absurd rfl h
  analyzer h := by
    by_contra hnot
    have htext : type ≠ .text := fun heq => hnot (congrArg FieldType.of heq)
    exact h (if_neg htext)
  format := by
    refine Iff.trans ?_ FieldType.of_inj.symm
    by_cases hdate : type = .date
    · refine iff_of_true ?_ hdate
      cases hformat : d.dateFormat <;> simp [attributes, hdate, hformat]
    · exact iff_of_false (fun h => h (if_neg hdate)) hdate
  text h := by
    obtain rfl := FieldType.of_inj.1 h
    have hsortable : ¬ d.sortable = true := fun htrue => hsorts ⟨htrue, rfl⟩
    simp [attributes, hsortable]

/-- What declarations stand for is regular. -/
lemma Declarations.Maps.isRegular {ds : Declarations} {fs : Fields} (h : ds.Maps fs) :
    fs.IsRegular := by
  induction h with
  | empty => trivial
  | @field d type children rest below others _ hfits hbelow _ ihbelow ihothers =>
    refine ⟨?_, ihbelow, ihothers⟩
    rw [Declaration.attributesAs]
    by_cases hcontainer : type.isContainer = true
    · have hkind : type = .object ∨ type = .nested := by
        cases type <;> first | exact Or.inl rfl | exact Or.inr rfl | cases hcontainer
      have hdate : type ≠ .date := by rintro rfl; cases hcontainer
      rw [if_pos hcontainer]
      exact Property.isRegular_ofType hdate fun _ => hkind
    · obtain ⟨rfl, hsorts⟩ := hfits.resolve_left hcontainer
      cases hbelow
      rw [if_neg hcontainer]
      exact Declaration.isRegular_attributes hsorts

lemma Declaration.type_attributesAs (d : Declaration) (type : DataType) :
    (d.attributesAs type).type = .of type := by
  rw [attributesAs]
  split <;> rfl

/-! ## Descriptors -/

namespace EntityDescriptor

/-- A descriptor whose declarations are well formed, also beside the names of the id and of the
tenant. -/
structure IsWellFormed (e : EntityDescriptor) (options : SchemaOptions) : Prop where
  fields : e.fields.IsWellFormed
  id : e.idField ∉ e.fields.names
  tenant : options.multitenancy = true → tenantField ∉ e.idField :: e.fields.names

/-- A mapping that says of the id, of the declared fields and of the tenant what is declared, in
this order, and no more. -/
structure IsMappedTo (e : EntityDescriptor) (options : SchemaOptions) (mapping : TypeMapping) :
    Prop where
  names : mapping.fields.names =
    e.idField :: e.fields.names ++ if options.multitenancy then [tenantField] else []
  paths : mapping.fields.paths =
    [e.idField] :: e.fields.paths ++ if options.multitenancy then [[tenantField]] else []
  /-- At a declared path, at any depth, is a field of the type that the logical type stands for. -/
  types : ∀ path d, e.fields.at? path = some d →
    ∃ type a, d.StandsFor type ∧ mapping.fields.at? path = some a ∧ a.type = .of type
  id : mapping.fields.at? [e.idField] = some idAttributes
  tenant : options.multitenancy = true →
    mapping.fields.at? [tenantField] = some (.ofType (.of .keyword))
  regular : ∀ path p, mapping.fields.find? path = some p → p.IsRegular

lemma isRegular_idAttributes : Property.IsRegular ⟨idAttributes, .empty⟩ := by
  refine ⟨fun h => absurd rfl h, fun h => absurd rfl h, iff_of_false (fun h => h rfl) ?_,
    fun _ => ⟨rfl, rfl⟩⟩
  decide

lemma isRegular_tenant : Property.IsRegular ⟨.ofType (.of .keyword), .empty⟩ :=
  Property.isRegular_ofType (by decide) fun h => absurd rfl h

section Mapped

variable {e : EntityDescriptor} {options : SchemaOptions} {declared : Fields} {name : String}

lemma names_mappedFields : (e.mappedFields options declared).names =
    e.idField :: declared.names ++ if options.multitenancy then [tenantField] else [] := by
  rw [mappedFields]
  split
  · exact Fields.names_append _ _ _
  · exact (List.append_nil _).symm

lemma paths_mappedFields : (e.mappedFields options declared).paths =
    [e.idField] :: declared.paths ++ if options.multitenancy then [[tenantField]] else [] := by
  rw [mappedFields]
  split
  · exact Fields.paths_append _ _ _
  · exact (List.append_nil _).symm

lemma isRegular_mappedFields (hregular : declared.IsRegular) :
    (e.mappedFields options declared).IsRegular := by
  have hfields : (Fields.field e.idField idAttributes .empty declared).IsRegular :=
    ⟨isRegular_idAttributes, trivial, hregular⟩
  rw [mappedFields]
  split
  · exact hfields.append ⟨isRegular_tenant, trivial⟩
  · exact hfields

/-- The tenant, at the end, hides no field. -/
lemma get?_mappedFields {p : Property}
    (h : (Fields.field e.idField idAttributes .empty declared).get? name = some p) :
    (e.mappedFields options declared).get? name = some p := by
  rw [mappedFields]
  split
  · rw [Fields.get?_append, h]
    rfl
  · exact h

lemma get?_mappedFields_idField :
    (e.mappedFields options declared).get? e.idField = some ⟨idAttributes, .empty⟩ :=
  get?_mappedFields (if_pos rfl)

/-- The id, at the front, hides no field of another name. -/
lemma at?_mappedFields (hname : name ≠ e.idField) {path : List String} {a : Attributes}
    (h : declared.at? (name :: path) = some a) :
    (e.mappedFields options declared).at? (name :: path) = some a := by
  cases hget : declared.get? name with
  | none => simp [Fields.at?_of_get?_eq_none hget] at h
  | some p =>
    have hfound : (e.mappedFields options declared).get? name = some p :=
      get?_mappedFields ((if_neg hname.symm).trans hget)
    rw [Fields.at?_congr_of_get? (hfound.trans hget.symm), h]

lemma get?_mappedFields_tenantField (htenancy : options.multitenancy = true)
    (htenant : tenantField ∉ e.idField :: declared.names) :
    (e.mappedFields options declared).get? tenantField =
      some ⟨.ofType (.of .keyword), .empty⟩ := by
  have hnone : (Fields.field e.idField idAttributes .empty declared).get? tenantField = none := by
    rw [← Option.not_isSome_iff_eq_none, Fields.get?_isSome_iff]
    exact htenant
  rw [mappedFields, if_pos htenancy, Fields.get?_append, hnone, if_pos rfl]
  rfl

/-- A mapping says what is declared. -/
lemma isMappedTo_of_mapping? {mapping : TypeMapping} (hok : e.mapping? options = .ok mapping) :
    e.IsMappedTo options mapping := by
  obtain ⟨declared, hdeclared, htenant, rfl⟩ := mapping?_eq_ok_iff.1 hok
  obtain ⟨hmaps, -, htaken⟩ := Declarations.fields?_eq_ok_iff.1 hdeclared
  refine ⟨?_, ?_, fun path d hdeclaration => ?_, ?_, fun htenancy => ?_, fun path p hp => ?_⟩
  · exact hmaps.names_eq ▸ names_mappedFields
  · exact hmaps.paths_eq ▸ paths_mappedFields
  · have hrel := hmaps.at?_rel path
    rw [hdeclaration] at hrel
    generalize hat : declared.at? path = found at hrel
    cases hrel with
    | @some _ a ha =>
      obtain ⟨type, htype, rfl⟩ := ha
      cases path with
      | nil => simp at hat
      | cons name path =>
        -- no declared field has the name of the id, so the id hides none of them
        have hname : name ≠ e.idField := by
          rintro rfl
          have hnot : e.idField ∉ declared.names := fun hmem =>
            htaken _ hmem (List.mem_singleton.2 rfl)
          rw [← Fields.get?_isSome_iff, Option.not_isSome_iff_eq_none] at hnot
          simp [Fields.at?_of_get?_eq_none hnot] at hat
        exact ⟨type, _, htype, at?_mappedFields hname hat, d.type_attributesAs type⟩
  · rw [Fields.at?_singleton, get?_mappedFields_idField]
    rfl
  · rw [Fields.at?_singleton, get?_mappedFields_tenantField htenancy (htenant htenancy)]
    rfl
  · exact (isRegular_mappedFields hmaps.isRegular).find? hp

end Mapped

/-- The descriptors that have a mapping are the well-formed ones. -/
lemma exists_mapping?_iff {e : EntityDescriptor} {options : SchemaOptions} :
    (∃ mapping, e.mapping? options = .ok mapping) ↔ e.IsWellFormed options := by
  constructor
  · rintro ⟨mapping, hok⟩
    obtain ⟨declared, hdeclared, htenant, -⟩ := mapping?_eq_ok_iff.1 hok
    obtain ⟨hmaps, hdistinct, htaken⟩ := Declarations.fields?_eq_ok_iff.1 hdeclared
    rw [hmaps.names_eq] at htenant htaken
    exact ⟨hmaps.isDistinct_iff.1 hdistinct,
      fun hmem => htaken _ hmem (List.mem_singleton.2 rfl), htenant⟩
  · rintro ⟨hfields, hid, htenant⟩
    obtain ⟨declared, hmaps, hdistinct⟩ := Declarations.exists_maps_iff.2 hfields
    rw [← hmaps.names_eq] at hid htenant
    have htaken : ∀ name ∈ declared.names, name ∉ [e.idField] := fun name hmem heq =>
      hid (List.mem_singleton.1 heq ▸ hmem)
    exact ⟨_, mapping?_eq_ok_iff.2
      ⟨declared, Declarations.fields?_eq_ok_iff.2 ⟨hmaps, hdistinct, htaken⟩, htenant, rfl⟩⟩

/-- **Exactly the well-formed descriptors have a mapping.**  Under any options the translation of a
descriptor ends: with a mapping that says what is declared if the descriptor is well formed, and
with a mapping problem of its entity type if it is not. -/
theorem mapping_exact (e : EntityDescriptor) (options : SchemaOptions) :
    (e.IsWellFormed options ∧
      ∃ mapping, e.mapping options = .ok mapping ∧ e.IsMappedTo options mapping) ∨
    (¬ e.IsWellFormed options ∧
      ∃ problem, e.mapping options = .error (.noMapping e.entityType problem)) := by
  rw [mapping]
  cases hmapping : e.mapping? options with
  | ok mapping =>
    have hformed := exists_mapping?_iff.1 ⟨mapping, hmapping⟩
    exact Or.inl ⟨hformed, mapping, rfl, isMappedTo_of_mapping? hmapping⟩
  | error problem =>
    refine Or.inr ⟨fun hformed => ?_, problem, rfl⟩
    obtain ⟨mapping, hok⟩ := exists_mapping?_iff.2 hformed
    cases hmapping.symm.trans hok

end EntityDescriptor

end SearchIndex
