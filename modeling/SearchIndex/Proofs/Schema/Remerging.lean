/-
# Merging again

A service that applies what is put additively (`Adds`) has all that a merge wants once the merge is
done.  What it has then, it has from one of two sides: what it had before, with which the first
merge found no conflict, or the target itself (`Merge.attributesAt?_of_adds`).  Neither changes what
is planned.

An analyzer without a name is taken for the standard one once the service has it, so a target that
asks for such an analyzer is in conflict with itself.  This is the only exception:
`Schema.merge_idempotent_iff` says that a second merge of the same target finds no conflict exactly
if the target names its analyzers (`Fields.NamesAnalyzers`), and that it then puts the same mappings
again and leaves the mappings of the service as they are.
-/
import SearchIndex.Proofs.Mapping.Adding
import SearchIndex.Proofs.Schema.Keeping
import SearchIndex.Proofs.Schema.Retyping
import SearchIndex.Proofs.Schema.Strictness

namespace SearchIndex

variable {keeps : Bool} {policy : Compatibility} {target : IndexSchema}
  {existing after : Table TypeMapping}

namespace Fields

/-- The fields below the one of a name, none if there is no such field. -/
def childrenOf (fs : Fields) (name : String) : Fields :=
  ((fs.get? name).map Property.children).getD .empty

lemma at?_childrenOf {fs : Fields} {name : String} {path : List String} (hpath : path ≠ []) :
    (fs.childrenOf name).at? path = fs.at? (name :: path) := by
  rw [childrenOf]
  cases hget : fs.get? name with
  | none => simp [at?_of_get?_eq_none hget]
  | some p => simp [at?_cons_of_ne_nil hget hpath]

section Parts

variable {name : String} {a b : Attributes} {children rest : Fields} {path : List String}

lemma ne_nil_of_at? {fs : Fields} (h : fs.at? path = some b) : path ≠ [] := by
  rintro rfl
  simp at h

/-- What is below the first field is found there. -/
lemma at?_of_children (h : children.at? path = some b) :
    (field name a children rest).at? (name :: path) = some b := by
  have hget : (field name a children rest).get? name = some ⟨a, children⟩ := if_pos rfl
  rw [at?_cons_of_ne_nil hget (ne_nil_of_at? h), h]

/-- What is among the other fields is found there. -/
lemma at?_of_rest (hname : name ∉ rest.names) (hrest : rest.IsDistinct)
    (h : rest.at? path = some b) : (field name a children rest).at? path = some b := by
  obtain ⟨other, hother, below, rfl⟩ := exists_cons_of_mem_paths ((mem_paths_iff hrest).2 ⟨b, h⟩)
  have hne : name ≠ other := fun heq => hname (heq ▸ hother)
  have hget : (field name a children rest).get? other = rest.get? other := if_neg hne
  exact (at?_congr_of_get? hget).trans h

end Parts

/-- Analyzers have names at every depth if the analyzer at every path has one. -/
lemma namesAnalyzers_iff {fs : Fields} (hdistinct : fs.IsDistinct) :
    fs.NamesAnalyzers ↔ ∀ path a, fs.at? path = some a → a.analyzer ≠ some "" := by
  refine ⟨fun h path a ha => of_at?_eq_some (Q := fun a => a.analyzer ≠ some "")
    (fun h hp => h.get? hp) h ha, fun h => ?_⟩
  induction fs with
  | empty => trivial
  | field name a children rest ihchildren ihrest =>
    obtain ⟨hname, hchildren, hrest⟩ := hdistinct
    exact ⟨h [name] a (by simp [get?]),
      ihchildren hchildren fun path b hb => h (name :: path) b (at?_of_children hb),
      ihrest hrest fun path b hb => h path b (at?_of_rest hname hrest hb)⟩

end Fields

namespace Merge

/-! ## What a plan depends on -/

@[simp] lemma plannedFields_empty (fs : Fields) : plannedFields fs .empty = fs := by
  induction fs with
  | empty => rfl
  | field name a children rest _ ih => simp [plannedFields, ih]

/-- The first field of a plan, with what is at its path and below it. -/
lemma plannedFields_field (name : String) (a : Attributes) (children rest existing : Fields) :
    plannedFields (.field name a children rest) existing =
      .field name
        (match existing.at? [name] with
        | none => a
        | some current => { a with type := current.type })
        (plannedFields children (existing.childrenOf name)) (plannedFields rest existing) := by
  rw [plannedFields, Fields.childrenOf, Fields.at?_singleton]
  cases existing.get? name with
  | none => simp
  | some current => rfl

/-- A field that the service has as it is wanted, where it had none, changes nothing of what is
planned. -/
lemma plannedFields_congr {fs existing after : Fields} (hdistinct : fs.IsDistinct)
    (h : ∀ path wanted, fs.at? path = some wanted → after.at? path = existing.at? path ∨
      existing.at? path = none ∧ after.at? path = some wanted) :
    plannedFields fs after = plannedFields fs existing := by
  induction fs generalizing existing after with
  | empty => rfl
  | field name a children rest ihchildren ihrest =>
    obtain ⟨hname, hchildren, hrest⟩ := hdistinct
    have hbelow : plannedFields children (after.childrenOf name) =
        plannedFields children (existing.childrenOf name) := by
      refine ihchildren hchildren fun path wanted hwanted => ?_
      have hpath := Fields.ne_nil_of_at? hwanted
      rw [Fields.at?_childrenOf hpath, Fields.at?_childrenOf hpath]
      exact h (name :: path) wanted (Fields.at?_of_children hwanted)
    have hothers : plannedFields rest after = plannedFields rest existing :=
      ihrest hrest fun path wanted hwanted => h path wanted (Fields.at?_of_rest hname hrest hwanted)
    have htop := h [name] a (by simp [Fields.get?])
    rw [plannedFields_field, plannedFields_field, hbelow, hothers]
    rcases htop with heq | ⟨hnone, hsome⟩
    · rw [heq]
    · rw [hnone, hsome]

lemma plannedMapping_eq (wanted : TypeMapping) (current : Option TypeMapping) :
    plannedMapping wanted current =
      ⟨wanted.dynamic,
        plannedFields wanted.fields ((current.map TypeMapping.fields).getD .empty)⟩ := by
  cases current with
  | none => simp [plannedMapping]
  | some current => rfl

lemma plan_congr (hdistinct : target.IsDistinct)
    (h : ∀ place wanted, attributesAt? target.mappings place = some wanted →
      attributesAt? after place = attributesAt? existing place ∨
        attributesAt? existing place = none ∧ attributesAt? after place = some wanted) :
    plan target after = plan target existing := by
  refine List.map_congr_left fun entry hmem => ?_
  have hentry := (Table.perm_sorted target.mappings).mem_iff.1 hmem
  have hwanted := (Table.get?_eq_some_iff hdistinct.1).2 hentry
  have hfields (mappings : Table TypeMapping) (path : List String) :
      (((Table.get? mappings entry.1).map TypeMapping.fields).getD .empty).at? path =
        attributesAt? mappings ⟨entry.1, path⟩ := by
    rw [attributesAt?]
    cases Table.get? mappings entry.1 <;> simp
  simp only [plannedMapping_eq]
  rw [plannedFields_congr (hdistinct.2 entry hentry) fun path wanted hpath => ?_]
  rw [hfields, hfields]
  exact h ⟨entry.1, path⟩ wanted ((attributesAt?_of_get? hwanted path).trans hpath)

/-! ## After a plan has been put -/

/-- What is planned at the place of a field that the service does not have. -/
lemma attributesAt?_plan (hdistinct : Table.IsDistinct target.mappings) {place : Place}
    (hmissing : attributesAt? existing place = none) :
    attributesAt? (plan target existing) place = attributesAt? target.mappings place := by
  rw [attributesAt?, attributesAt?, get?_plan hdistinct]
  rw [attributesAt?] at hmissing
  cases Table.get? target.mappings place.entityType with
  | none => rfl
  | some wanted =>
    cases hcurrent : Table.get? existing place.entityType with
    | none => rfl
    | some current =>
      simp only [hcurrent, Option.bind_some] at hmissing
      simp only [Option.map_some, Option.bind_some]
      show (plannedFields wanted.fields current.fields).at? place.path = _
      rw [at?_plannedFields, hmissing]
      simp

/-- A service to which a plan has been added has what it had, and besides that what is wanted. -/
lemma attributesAt?_of_adds (hdistinct : Table.IsDistinct target.mappings)
    (hadds : Adds keeps existing (plan target existing) after) (place : Place) :
    attributesAt? after place =
      (attributesAt? existing place).or (attributesAt? target.mappings place) := by
  rw [hadds.fields]
  cases hexisting : attributesAt? existing place with
  | none => rw [attributesAt?_plan hdistinct hexisting]
  | some current => rfl

/-- What is planned stays the same once it has been added. -/
lemma plan_of_adds (hdistinct : target.IsDistinct)
    (hadds : Adds keeps existing (plan target existing) after) :
    plan target after = plan target existing := by
  refine plan_congr hdistinct fun place wanted hwanted => ?_
  rw [attributesAt?_of_adds hdistinct.1 hadds]
  cases hexisting : attributesAt? existing place with
  | none => exact Or.inr ⟨rfl, hwanted⟩
  | some current => exact Or.inl rfl

lemma analyzerInUse_ne_empty (a : Attributes) : analyzerInUse a ≠ "" := by
  rw [analyzerInUse]
  split
  · split
    · decide
    · rename_i name _ hname
      rintro rfl
      exact hname rfl
  · decide

/-- An analyzer without a name is not the one in use, whatever the service has. -/
lemma clashes_of_nameless {wanted current : Attributes} (h : wanted.analyzer = some "") :
    Clashes policy wanted current :=
  Or.inr ⟨"", h, (analyzerInUse_ne_empty current).symm⟩

/-- Attributes clash with themselves exactly if the analyzer has no name. -/
lemma clashes_self_iff {a : Attributes} : Clashes policy a a ↔ a.analyzer = some "" := by
  refine ⟨?_, clashes_of_nameless⟩
  rintro (htype | ⟨name, hname, hother⟩)
  · simp [Compatibility.accepts_self] at htype
  · have hanalyzer : a.analyzer = some name := hname
    by_contra hnamed
    have hne : name ≠ "" := fun hempty => hnamed (by rw [hanalyzer, hempty])
    simp [analyzerInUse, hanalyzer, hne] at hother

/-- A field of the target clashes, after a merge has added what it wants, exactly if its analyzer
has no name. -/
lemma clashesAt_iff_of_adds (hdistinct : Table.IsDistinct target.mappings)
    (hnone : ∀ place, ¬ Conflicting policy target existing place)
    (hadds : Adds keeps existing (plan target existing) after) {place : Place} :
    ClashesAt policy target after place ↔
      ∃ wanted, attributesAt? target.mappings place = some wanted ∧ wanted.analyzer = some "" := by
  have hafter := attributesAt?_of_adds hdistinct hadds place
  constructor
  · rintro ⟨wanted, current, hwanted, hcurrent, hclashes⟩
    refine ⟨wanted, hwanted, ?_⟩
    rw [hafter] at hcurrent
    cases hexisting : attributesAt? existing place with
    | none =>
      -- the field has been added as it is wanted
      rw [hexisting, Option.none_or, hwanted] at hcurrent
      obtain rfl := Option.some.inj hcurrent
      exact clashes_self_iff.1 hclashes
    | some known =>
      -- the field was there, and would have clashed before
      rw [hexisting] at hcurrent
      obtain rfl := Option.some.inj hcurrent
      obtain ⟨top, htop, -⟩ :=
        ClashesAt.exists_conflicting ⟨wanted, known, hwanted, hexisting, hclashes⟩
      exact absurd htop (hnone top)
  · rintro ⟨wanted, hwanted, hnameless⟩
    obtain ⟨current, hcurrent⟩ : ∃ current, attributesAt? after place = some current := by
      rw [hafter, hwanted]
      cases attributesAt? existing place with
      | none => exact ⟨wanted, rfl⟩
      | some known => exact ⟨known, rfl⟩
    exact ⟨wanted, current, hwanted, hcurrent, clashes_of_nameless hnameless⟩

/-- After a merge nothing is in conflict exactly if the target names its analyzers. -/
lemma not_conflicting_iff_of_adds (hdistinct : target.IsDistinct)
    (hnone : ∀ place, ¬ Conflicting policy target existing place)
    (hadds : Adds keeps existing (plan target existing) after) :
    (∀ place, ¬ Conflicting policy target after place) ↔
      ∀ entry ∈ target.mappings, entry.2.fields.NamesAnalyzers := by
  constructor
  · intro hnot entry hentry
    have hmapping := (Table.get?_eq_some_iff hdistinct.1).2 hentry
    refine (Fields.namesAnalyzers_iff (hdistinct.2 entry hentry)).2 fun path a ha hnameless => ?_
    have hclashes : ClashesAt policy target after ⟨entry.1, path⟩ :=
      (clashesAt_iff_of_adds hdistinct.1 hnone hadds).2
        ⟨a, (attributesAt?_of_get? hmapping path).trans ha, hnameless⟩
    obtain ⟨top, htop, -⟩ := hclashes.exists_conflicting
    exact hnot top htop
  · intro hnamed place hconflicting
    obtain ⟨wanted, hwanted, hnameless⟩ :=
      (clashesAt_iff_of_adds hdistinct.1 hnone hadds).1 hconflicting.clashes
    obtain ⟨mapping, hmapping, hpath⟩ := exists_get?_of_attributesAt? hwanted
    have hentry := Table.mem_of_get?_eq_some hmapping
    exact (Fields.namesAnalyzers_iff (hdistinct.2 _ hentry)).1 (hnamed _ hentry) _ _ hpath hnameless

end Merge

/-- A mapping says the same with the fields of every depth in order. -/
lemma sameMappings_inOrder (mappings : Table TypeMapping) :
    SameMappings (Table.mapValues TypeMapping.inOrder mappings) mappings where
  dynamic entityType := by
    rw [dynamicOf?, dynamicOf?, Table.get?_mapValues, Option.map_map]
    rfl
  fields place := by
    rw [attributesAt?, attributesAt?, Table.get?_mapValues, Option.bind_map]
    exact congrArg _ (funext fun mapping => mapping.fields.alike_sortedDeep place.path)

namespace Schema

variable {ω : Type} {serve : ω → Call → Answer × ω} {index : String} {options : SchemaOptions}
  {held : ω → Table TypeMapping} {outside : ω}

/-- A service holds the mappings of an index: it describes them to whoever asks, and asking does not
change them. -/
def Holds (serve : ω → Call → Answer × ω) (index : String) (held : ω → Table TypeMapping) : Prop :=
  ∀ options outside, ∃ after,
    Describes serve index options (held outside) outside after ∧ held after = held outside

/-- A service takes the mapping of an entity type whenever it is put, and applies it additively. -/
def TakesAdditively (serve : ω → Call → Answer × ω) (index : String) (held : ω → Table TypeMapping)
    (keeps : Bool) (entry : String × TypeMapping) : Prop :=
  ∀ outside,
    let put : Call :=
      ⟨"PUT", "/" ++ index ++ "/_mapping/" ++ entry.1, none, .json entry.2.toRemote⟩
    (serve outside put).1.acknowledges = true ∧
      Adds keeps (held outside) [entry] (held (serve outside put).2)

lemma TakesAdditively.served_putMapping {entry : String × TypeMapping}
    (h : TakesAdditively serve index held keeps entry) (outside : ω) : ∃ after,
    (putMapping index entry.1 entry.2).served serve outside = (.ok (), after) ∧
      Adds keeps (held outside) [entry] (held after) := by
  obtain ⟨hacknowledged, hadds⟩ := h outside
  rw [← mappingUpdate_eq] at hacknowledged hadds
  obtain ⟨value, hvalue⟩ := Answer.exists_brings hacknowledged
  obtain ⟨status, -, hrequest⟩ := hvalue.served_request []
  exact ⟨_, Action.served_bind_of_ok hrequest, hadds⟩

/-- Mappings that the service takes are all put and added. -/
lemma served_putPlan {plan : Table TypeMapping} (hdistinct : Table.IsDistinct plan)
    (htakes : ∀ entry ∈ plan, TakesAdditively serve index held keeps entry) (outside : ω) : ∃ after,
    (putPlan index plan).served serve outside = (.ok (), after) ∧
      Adds keeps (held outside) plan (held after) := by
  induction plan generalizing outside with
  | nil => exact ⟨outside, rfl, .nil _⟩
  | cons entry rest ih =>
    obtain ⟨hfresh, hrest⟩ := List.nodup_cons.1 hdistinct
    obtain ⟨middle, hput, hadds⟩ :=
      (htakes entry List.mem_cons_self).served_putMapping outside
    obtain ⟨after, hputs, haddsRest⟩ :=
      ih hrest (fun other hother => htakes other (List.mem_cons_of_mem _ hother)) middle
    refine ⟨after, ?_, hadds.cons hfresh haddsRest⟩
    rw [putPlan, Action.served_bind_of_ok (Action.served_tryCatch_of_ok hput), hputs]

/-- A merge without conflicts, on a service that takes what is planned: it puts all of that, and the
service has added it. -/
lemma Holds.merge (hholds : Holds serve target.name held) (policy : Compatibility)
    (options : SchemaOptions) (s : Shared) (hdistinct : Table.IsDistinct target.mappings)
    (hnone : Merge.conflicts policy target (held outside) = [])
    (htakes : ∀ entry ∈ Merge.plan target (held outside),
      TakesAdditively serve target.name held keeps entry) :
    let t := (Activity.ofAction (merge policy target options)).transcript serve s outside
    let plan := Merge.plan target (held outside)
    t.result = .ok () ∧
      t.calls.map Prod.fst = inspection target.name options ++ updates target.name plan ∧
      Adds keeps (held outside) plan (held t.outside) := by
  intro t plan
  obtain ⟨inspected, hdescribes, hsame⟩ := hholds options outside
  obtain ⟨s', reads, hreads, hgoesOn, -⟩ := hdescribes.exists_transcript_merge policy s
  obtain ⟨hresult, houtside, hcalls⟩ := hgoesOn hnone
  obtain ⟨after, hserved, hadds⟩ :=
    served_putPlan (Merge.isDistinct_plan hdistinct) htakes inspected
  obtain ⟨s'', writes, ht, hruns⟩ := Action.exists_transcript hserved s'
  obtain ⟨hputs, hok⟩ := putsInTurn_of_runs hruns
  rw [ht] at hresult houtside hcalls
  refine ⟨hresult, ?_, ?_⟩
  · rw [hcalls, List.map_append, hreads, hputs.map_fst_of_acknowledged (hok.1 rfl)]
  · rw [houtside, ← hsame]
    exact hsame ▸ hadds

/-- A merge with a conflict ends with that. -/
lemma Holds.merge_of_conflicting (hholds : Holds serve target.name held) (policy : Compatibility)
    (options : SchemaOptions) (s : Shared)
    (hsome : Merge.conflicts policy target (held outside) ≠ []) :
    let t := (Activity.ofAction (Schema.merge policy target options)).transcript serve s outside
    t.result = .error (.mergeConflict target.name
      ((Merge.conflicts policy target (held outside)).map Conflict.message)) := by
  intro t
  obtain ⟨inspected, hdescribes, -⟩ := hholds options outside
  obtain ⟨s', reads, -, -, hends⟩ := hdescribes.exists_transcript_merge policy s
  exact (hends hsome).2

/-- **Merging is idempotent, as long as analyzers are named.**  Where a merge finds no conflict and
the service applies what is put additively, a second merge finds none either exactly if the target
names its analyzers, and otherwise ends with a conflict.  If it finds none, it puts the same
mappings, by the same calls, and leaves the mappings of the service as they are. -/
theorem merge_idempotent_iff (serve : ω → Call → Answer × ω) (held : ω → Table TypeMapping)
    (keeps : Bool) (policy : Compatibility) (target : IndexSchema) (options : SchemaOptions)
    (s s' : Shared) (outside : ω) (hdistinct : target.IsDistinct)
    (hholds : Holds serve target.name held)
    (hnone : ∀ place, ¬ Merge.Conflicting policy target (held outside) place)
    (htakes : ∀ entry ∈ Merge.plan target (held outside),
      TakesAdditively serve target.name held keeps entry) :
    let merging := Activity.ofAction (merge policy target options)
    let first := merging.transcript serve s outside
    let second := merging.transcript serve s' first.outside
    let named := ∀ entry ∈ target.mappings, entry.2.fields.NamesAnalyzers
    first.result = .ok () ∧
      ((∀ place, ¬ Merge.Conflicting policy target (held first.outside) place) ↔ named) ∧
      (named → second.result = .ok () ∧
        second.calls.map Prod.fst = first.calls.map Prod.fst ∧
        SameMappings (held second.outside) (held first.outside)) ∧
      (¬ named → ∃ texts, second.result = .error (.mergeConflict target.name texts)) := by
  intro merging first second named
  have hfirst := (Merge.conflicts_eq_nil_iff hdistinct).2 hnone
  obtain ⟨hresult, hcalls, hadds⟩ :=
    hholds.merge policy options s hdistinct.1 hfirst htakes
  have hnamed := Merge.not_conflicting_iff_of_adds hdistinct hnone hadds
  refine ⟨hresult, hnamed, fun h => ?_, fun hnot => ?_⟩
  · have hplan : Merge.plan target (held first.outside) = Merge.plan target (held outside) :=
      Merge.plan_of_adds hdistinct hadds
    have hsecond := (Merge.conflicts_eq_nil_iff hdistinct).2 (hnamed.2 h)
    obtain ⟨hresult', hcalls', hadds'⟩ :=
      hholds.merge policy options s' hdistinct.1 hsecond (hplan ▸ htakes)
    rw [hplan] at hcalls' hadds'
    exact ⟨hresult', hcalls'.trans hcalls.symm, hadds.again hadds'⟩
  · have hsome : Merge.conflicts policy target (held first.outside) ≠ [] := fun hempty =>
      hnot (hnamed.1 ((Merge.conflicts_eq_nil_iff hdistinct).1 hempty))
    exact ⟨_, hholds.merge_of_conflicting policy options s' hsome⟩

/-- The entity type that the path of a mapping in the library ends with. -/
def shelfOf (path : String) : String := String.ofList (path.toList.drop 18)

lemma shelfOf_mappingUpdate (entityType : String) (put : TypeMapping) :
    shelfOf (mappingUpdate "library" entityType put).path = entityType := by
  simp [shelfOf, mappingUpdate, indexPath, toString, String.toList_append]

/-- A library that applies what is put additively: it extends the mapping that it has. -/
def growing (kept : Table TypeMapping) (call : Call) : Answer × Table TypeMapping :=
  match call.content, call.params with
  | .json body, _ =>
    let entityType := shelfOf call.path
    match TypeMapping.ofRemote body with
    | .ok put => (.reply 200 .empty,
        Table.set kept entityType (TypeMapping.extend (Table.get? kept entityType) put))
    | .error _ => (.reply 400 .empty, kept)
  | _, some _ => (.reply 200 (.json (.object [("status", .text "green")])), kept)
  | _, none =>
    let mappings := Json.object (Table.mapValues TypeMapping.toRemote kept)
    (.reply 200 (.json (.object [("library", .object [("mappings", mappings)])])), kept)

/-- The library holds the mappings that it reports, with the fields of every depth in order. -/
lemma holds_growing : Holds growing "library" (Table.mapValues TypeMapping.inOrder) := by
  intro options kept
  have hrequest : (Action.request (mappingsQuery "library") [404]).served growing kept =
      (.ok ⟨200, .object [("library", .object [("mappings",
        .object (Table.mapValues TypeMapping.toRemote kept))])]⟩, kept) := rfl
  have hread : (Action.ofExcept (mappingsOf "library" (.object [("library", .object [("mappings",
        .object (Table.mapValues TypeMapping.toRemote kept))])]))).served growing kept =
      (.ok (Table.mapValues TypeMapping.inOrder kept), kept) :=
    congrArg (·, kept) (mappingsOfRemote_mapValues kept)
  have hthere : ¬ (200 : Int) = 404 := by decide
  have hmappings : (mappings? "library").served growing kept =
      (.ok (some (Table.mapValues TypeMapping.inOrder kept)), kept) := by
    refine (Action.served_bind_of_ok hrequest).trans ?_
    rw [if_neg hthere]
    exact Action.served_bind_of_ok hread
  exact ⟨kept, ⟨kept, kept, _, rfl, rfl, hmappings, rfl⟩, rfl⟩

/-- The library takes every mapping, and applies it additively. -/
lemma takesAdditively_growing (entry : String × TypeMapping) :
    TakesAdditively growing "library" (Table.mapValues TypeMapping.inOrder) false entry := by
  intro kept put
  have hserve : growing kept put = (.reply 200 .empty, Table.set kept entry.1
      (TypeMapping.extend (Table.get? kept entry.1) entry.2.inOrder)) := by
    have hput : put = mappingUpdate "library" entry.1 entry.2 := (mappingUpdate_eq _ _ _).symm
    rw [hput]
    show (match TypeMapping.ofRemote entry.2.toRemote with
      | .ok put => _
      | .error _ => _) = _
    rw [TypeMapping.ofRemote_toRemote, shelfOf_mappingUpdate]
  have hadds := adds_extend kept (entry.1, entry.2.inOrder)
  rw [hserve]
  exact ⟨rfl, hadds.congr (sameMappings_inOrder kept) (sameMappings_inOrder [entry]).symm
    (sameMappings_inOrder _)⟩

/-- Books of which the title, the town of the publisher and the authors are new are merged twice. -/
theorem merge_idempotent_books :
    let held := Table.mapValues TypeMapping.inOrder
    let merging := Activity.ofAction (merge .standard revisedBooks default)
    let first := merging.transcript growing default printedBooks.mappings
    let second := merging.transcript growing default first.outside
    revisedBooks.IsDistinct ∧
      (∀ entry ∈ revisedBooks.mappings, entry.2.fields.NamesAnalyzers) ∧
      Holds growing "library" held ∧
      (∀ place, ¬ Merge.Conflicting .standard revisedBooks (held printedBooks.mappings) place) ∧
      (∀ entry ∈ Merge.plan revisedBooks (held printedBooks.mappings),
        TakesAdditively growing "library" held false entry) ∧
      first.result = .ok () ∧ second.result = .ok () ∧
      attributesAt? (held first.outside) ⟨"book", ["publisher", "town"]⟩ =
        some (.ofType (.of .keyword)) ∧
      second.calls.map Prod.fst = first.calls.map Prod.fst ∧
      SameMappings (held second.outside) (held first.outside) := by
  intro held merging first second
  have hdistinct : revisedBooks.IsDistinct := by decide
  have hnamed : ∀ entry ∈ revisedBooks.mappings, entry.2.fields.NamesAnalyzers := by decide
  have hnone : ∀ place,
      ¬ Merge.Conflicting .standard revisedBooks (held printedBooks.mappings) place :=
    (Merge.conflicts_eq_nil_iff hdistinct).1 (by decide)
  have htakes : ∀ entry ∈ Merge.plan revisedBooks (held printedBooks.mappings),
      TakesAdditively growing "library" held false entry :=
    fun entry _ => takesAdditively_growing entry
  obtain ⟨hfirst, -, hagain, -⟩ :=
    merge_idempotent_iff growing held false .standard revisedBooks default default default
      printedBooks.mappings hdistinct holds_growing hnone htakes
  obtain ⟨hsecond, hcalls, hsame⟩ := hagain hnamed
  exact ⟨hdistinct, hnamed, holds_growing, hnone, htakes, hfirst, hsecond, rfl, hcalls, hsame⟩

/-- Books with a title in English, and a summary of which the analyzer has no name. -/
def summarizedBooks : IndexSchema :=
  ⟨"library", [("book", ⟨"strict",
    .field "title" { Attributes.ofType (.of .text) with analyzer := some "english" } .empty
      (.field "summary" { Attributes.ofType (.of .text) with analyzer := some "" } .empty
        .empty)⟩)]⟩

/-- Books with a title in English. -/
def titledBooks : Table TypeMapping :=
  [("book", ⟨"strict",
    .field "title" { Attributes.ofType (.of .text) with analyzer := some "english" } .empty
      .empty⟩)]

/-- The service names all analyzers that it has and takes all that is put.  Still, a summary is
added by the first merge and in conflict with itself in the second one. -/
theorem merge_conflicts_with_itself :
    let held := Table.mapValues TypeMapping.inOrder
    let merging := Activity.ofAction (merge .standard summarizedBooks default)
    let first := merging.transcript growing default titledBooks
    let second := merging.transcript growing default first.outside
    summarizedBooks.IsDistinct ∧
      (∀ entry ∈ held titledBooks, entry.2.fields.NamesAnalyzers) ∧
      Holds growing "library" held ∧
      (∀ place, ¬ Merge.Conflicting .standard summarizedBooks (held titledBooks) place) ∧
      (∀ entry ∈ Merge.plan summarizedBooks (held titledBooks),
        TakesAdditively growing "library" held false entry) ∧
      first.result = .ok () ∧
      second.result = .error (.mergeConflict "library"
        ["type 'book', field 'summary': existing analyzer '' cannot be changed to ''"]) := by
  intro held merging first second
  have hdistinct : summarizedBooks.IsDistinct := by decide
  have hnone : ∀ place, ¬ Merge.Conflicting .standard summarizedBooks (held titledBooks) place :=
    (Merge.conflicts_eq_nil_iff hdistinct).1 (by decide)
  exact ⟨hdistinct, by decide, holds_growing, hnone, fun entry _ => takesAdditively_growing entry,
    rfl, rfl⟩

end Schema

end SearchIndex
