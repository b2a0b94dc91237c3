/-
# Mappings that are sent and reported back

What is sent to the service as a mapping says all that the mapping says: read as a report it is the
same mapping, with the fields of every depth in the order of their names
(`TypeMapping.ofRemote_toRemote`).  An index that is created from a target is reported with the
mappings of that target and no others (`Schema.mappingsOf_toRemote`).
-/
import SearchIndex.Schema.Access
import SearchIndex.Proofs.Mapping.Paths
import SearchIndex.Proofs.Table
import SearchIndex.Proofs.Descriptor.Target

namespace SearchIndex

variable {name key : String} {rest : Json.Members}

/-! ## Attributes -/

lemma get?_member?_of_ne (h : name ≠ key) (j : Json) (rest : Json.Members) :
    Table.get? (member? name j ++ rest) key = Table.get? rest key := by
  cases j <;> simp [member?, Table.get?, h]

/-- A member that is left out for null is read as the default, any other one is checked. -/
lemma optional_member? {α : Type} {default value : α} {check : Json → Checked α} {j : Json}
    (hnull : j = .null → default = value) (hcheck : j ≠ .null → check j = .valid value)
    (hrest : Table.get? rest name = none) :
    optional (member? name j ++ rest) name default check = .valid value := by
  cases j with
  | null => simp [member?, optional, hrest, hnull rfl]
  | bool | int | double | text | list | object =>
    simp [member?, optional, Table.get?, hcheck, Checked.below]

lemma optional_ofBool? (b : Option Bool) (hrest : Table.get? rest name = none) :
    optional (member? name (.ofBool? b) ++ rest) name none (checkNullable checkBool) =
      .valid b := by
  refine optional_member? (fun hnull => ?_) (fun hset => ?_) hrest
  · cases b with
    | none => rfl
    | some b => cases hnull
  · cases b with
    | none => exact absurd rfl hset
    | some b => rfl

lemma optional_ofText? (t : Option String) (hrest : Table.get? rest name = none) :
    optional (member? name (.ofText? t) ++ rest) name none (checkNullable checkText) =
      .valid t := by
  refine optional_member? (fun hnull => ?_) (fun hset => ?_) hrest
  · cases t with
    | none => rfl
    | some t => cases hnull
  · cases t with
    | none => exact absurd rfl hset
    | some t => rfl

lemma optional_cons_of_ne {α : Type} {default : α} {check : Json → Checked α} {j : Json}
    (h : name ≠ key) :
    optional ((name, j) :: rest) key default check = optional rest key default check := by
  simp [optional, Table.get?, h]

lemma optional_member?_of_ne {α : Type} {default : α} {check : Json → Checked α} {j : Json}
    (h : name ≠ key) :
    optional (member? name j ++ rest) key default check = optional rest key default check := by
  simp [optional, get?_member?_of_ne h]

namespace Attributes

/-- The names under which a field says what its attributes are. -/
def memberNames : List String :=
  ["type", "index", "store", "doc_values", "analyzer", "format", "null_value"]

/-- Attributes are read back as they were, whatever else is said of the field under other names. -/
lemma ofRemote_toRemote (a : Attributes)
    (hrest : ∀ key ∈ memberNames, Table.get? rest key = none) :
    ofRemote (a.toRemote ++ rest) = .ok a := by
  have hindex := hrest "index" (by decide)
  have hstore := hrest "store" (by decide)
  have hdocValues := hrest "doc_values" (by decide)
  have hanalyzer := hrest "analyzer" (by decide)
  have hformat := hrest "format" (by decide)
  have hnullValue := hrest "null_value" (by decide)
  have htype (members : Json.Members) :
      optional (("type", .text a.type.name) :: members) "type" (FieldType.of .object)
        checkFieldType = .valid a.type := rfl
  have hmarker : optional (member? "null_value" a.nullValue ++ rest) "null_value" .null checkAny =
      .valid a.nullValue :=
    optional_member? Eq.symm (fun _ => rfl) hnullValue
  -- each attribute is looked for past those before it, and none after it has its name
  simp (disch := decide) only [ofRemote, toRemote, checkAttributes, List.cons_append,
    List.append_assoc, htype, optional_cons_of_ne, optional_member?_of_ne]
  rw [optional_ofBool? a.index, optional_ofBool? a.store, optional_ofBool? a.docValues,
    optional_ofText? a.analyzer, optional_ofText? a.format, hmarker]
  · rfl
  all_goals simp (disch := decide) only [get?_member?_of_ne, hindex, hstore, hdocValues, hanalyzer,
    hformat]

end Attributes

/-! ## Fields -/

/-- The fields that members report are those under the one name for them. -/
lemma propertiesOfRemote_eq (members : Json.Members) :
    propertiesOfRemote members =
      match Table.get? members "properties" with
      | none => .ok .empty
      | some (.object properties) => fieldsOfRemote properties
      | some _ => .error (.misfit .notAnObject) := by
  induction members with
  | nil => rfl
  | cons member rest ih =>
    obtain ⟨name, j⟩ := member
    by_cases hname : name = "properties"
    · cases j <;> simp [propertiesOfRemote, Table.get?, hname]
    · cases j <;> simp [propertiesOfRemote, Table.get?, hname, ih]

/-- No attribute goes by the name of the fields below. -/
lemma get?_toRemote_properties (a : Attributes) (rest : Json.Members) :
    Table.get? (a.toRemote ++ rest) "properties" = Table.get? rest "properties" := by
  have htype : ¬ "type" = "properties" := by decide
  rw [Attributes.toRemote, List.cons_append, Table.get?, if_neg htype]
  simp (disch := decide) only [List.append_assoc, get?_member?_of_ne]

/-- A field is read back with the fields below it as those are read back. -/
lemma Property.ofRemote_toRemote (p : Property) {below : Fields}
    (hbelow : fieldsOfRemote (Table.sorted p.children.toRemote) = .ok below) :
    Property.ofRemote p.toRemote = .ok ⟨p.attributes, below⟩ := by
  rw [toRemote, ofRemote, propertiesOfRemote_eq, get?_toRemote_properties]
  cases hchildren : p.children with
  | empty =>
    rw [hchildren] at hbelow
    obtain rfl : Fields.empty = below := Except.ok.inj hbelow
    simp only [Fields.isEmpty, if_true, Table.get?_nil]
    rw [p.attributes.ofRemote_toRemote fun _ _ => rfl]
    rfl
  | field name a children rest =>
    rw [← hchildren]
    simp only [hchildren, Fields.isEmpty, Bool.false_eq_true, if_false, Table.get?, if_true]
    rw [← hchildren, hbelow, p.attributes.ofRemote_toRemote]
    · rfl
    · simp [Attributes.memberNames, Table.get?]

/-- A field that is inserted among reported ones is read back at its place among what is read. -/
lemma fieldsOfRemote_insertSorted {t : Json.Members} {fs : Fields} {j : Json} {p : Property}
    (hj : Property.ofRemote j = .ok p) (ht : fieldsOfRemote t = .ok fs) :
    fieldsOfRemote (Table.insertSorted (name, j) t) =
      .ok (Fields.insertSorted name p.attributes p.children fs) := by
  induction t generalizing fs with
  | nil =>
    obtain rfl : Fields.empty = fs := Except.ok.inj ht
    rw [Table.insertSorted, fieldsOfRemote, hj]
    rfl
  | cons member rest ih =>
    have hread := ht
    rw [fieldsOfRemote] at hread
    obtain ⟨q, hq, hread⟩ := exists_of_bind_eq_ok hread
    obtain ⟨others, hothers, hread⟩ := exists_of_bind_eq_ok hread
    obtain rfl := Except.ok.inj hread
    rw [Table.insertSorted, Fields.insertSorted]
    split
    · rw [fieldsOfRemote, hq, ih hothers]
      rfl
    · rw [fieldsOfRemote, hj, ht]
      rfl

/-- Fields are read back in the order of their names, at every depth. -/
lemma Fields.ofRemote_toRemote (fs : Fields) :
    fieldsOfRemote (Table.sorted fs.toRemote) = .ok fs.sortedDeep := by
  induction fs with
  | empty => rfl
  | field name a children rest ihchildren ihrest =>
    exact fieldsOfRemote_insertSorted (Property.ofRemote_toRemote ⟨a, children⟩ ihchildren) ihrest

/-! ## Mappings -/

/-- A mapping with the fields of every depth in the order of their names. -/
def TypeMapping.inOrder (m : TypeMapping) : TypeMapping := { m with fields := m.fields.sortedDeep }

/-- A mapping is read back in the order of its names. -/
lemma TypeMapping.ofRemote_toRemote (m : TypeMapping) : ofRemote m.toRemote = .ok m.inOrder := by
  rw [toRemote, ofRemote, propertiesOfRemote_eq]
  have hdynamic : ¬ "dynamic" = "properties" := by decide
  simp only [Table.get?, if_neg hdynamic, if_true, m.fields.ofRemote_toRemote]
  rfl

/-- The mappings of entity types are read back one by one. -/
lemma mappingsOfRemote_mapValues (mappings : Table TypeMapping) :
    mappingsOfRemote (Table.mapValues TypeMapping.toRemote mappings) =
      .ok (Table.mapValues TypeMapping.inOrder mappings) := by
  induction mappings with
  | nil => rfl
  | cons entry rest ih =>
    have hmap : Table.mapValues TypeMapping.toRemote (entry :: rest) =
        (entry.1, entry.2.toRemote) :: Table.mapValues TypeMapping.toRemote rest := rfl
    rw [hmap, mappingsOfRemote, TypeMapping.ofRemote_toRemote, ih]
    rfl

/-- The mappings that are read back from what is sent to create an index. -/
def IndexSchema.reported (target : IndexSchema) : Table TypeMapping :=
  Table.mapValues TypeMapping.inOrder (Table.sorted target.mappings)

/-- An answer that reports what was sent to create an index is read as the mappings that were
sent. -/
theorem Schema.mappingsOf_toRemote {target : IndexSchema} {members : Json.Members}
    (h : Table.get? members name = some target.toRemote) :
    mappingsOf name (.object members) = .ok target.reported := by
  have hmembers : membersOf (.object members) = .ok members := by
    cases members with
    | nil => rfl
    | cons => rfl
  have hread := mappingsOfRemote_mapValues (Table.sorted target.mappings)
  rw [IndexSchema.toRemote, Table.sorted_mapValues] at h
  rw [mappingsOf, hmembers]
  simp only [Bind.bind, Except.bind, h, Option.getD_some]
  exact hread

end SearchIndex
