/-
# What a merge puts

The mapping that a merge puts for an entity type is that of the target, with the types that the
service has given its fields already (`Merge.Retypes`): it has the fields of the target in their
order, and no others.  A field that the service does not have is put as it is wanted, with all below
it; of one that it has, nothing is other than wanted but the type, and the same goes for the fields
below.

A merge without conflicts puts one such mapping for each entity type
(`Schema.merge_puts_retyped`).
-/
import SearchIndex.Proofs.Schema.Conflicting

namespace SearchIndex

namespace Merge

/-- The paths to put are those of the target. -/
lemma paths_plannedFields (fs existing : Fields) :
    (plannedFields fs existing).paths = fs.paths := by
  induction fs generalizing existing with
  | empty => rfl
  | field name a children rest ihchildren ihrest =>
    rw [plannedFields]
    split
    · simp only [Fields.paths, ihrest]
    · simp only [Fields.paths, ihchildren, ihrest]

/-- The mapping that is put for an entity type is the one that is wanted, with the types that the
service has. -/
structure Retypes (existing : Table TypeMapping) (entityType : String) (wanted put : TypeMapping) :
    Prop where
  /-- The policy for unknown fields is the one that is wanted. -/
  dynamic : put.dynamic = wanted.dynamic
  /-- The fields are those that are wanted, in their order. -/
  paths : put.fields.paths = wanted.fields.paths
  /-- A field that the service does not have is put as it is wanted, with all below it. -/
  added : ∀ path p, wanted.fields.find? path = some p →
    attributesAt? existing ⟨entityType, path⟩ = none → put.fields.find? path = some p
  /-- A field that the service has is put with its type, and with the same fields below it. -/
  kept : ∀ path p current, wanted.fields.find? path = some p →
    attributesAt? existing ⟨entityType, path⟩ = some current →
      ∃ below, put.fields.find? path = some ⟨{ p.attributes with type := current.type }, below⟩ ∧
        below.paths = p.children.paths

lemma retypes_plannedMapping (existing : Table TypeMapping) (entityType : String)
    (wanted : TypeMapping) :
    Retypes existing entityType wanted
      (plannedMapping wanted (Table.get? existing entityType)) := by
  cases hcurrent : Table.get? existing entityType with
  | none =>
    have hnone (path : List String) : attributesAt? existing ⟨entityType, path⟩ = none := by
      simp [attributesAt?, hcurrent]
    exact ⟨rfl, rfl, fun _ _ hp _ => hp, fun path _ _ _ hknown => by simp [hnone path] at hknown⟩
  | some mapping =>
    have hknown (path : List String) : attributesAt? existing ⟨entityType, path⟩ =
        (mapping.fields.find? path).map Property.attributes := by
      rw [attributesAt?_of_get? hcurrent, Fields.at?_eq_find?]
    have hput (path : List String) := find?_plannedFields wanted.fields mapping.fields path
    refine ⟨rfl, paths_plannedFields _ _, fun path p hp hnone => ?_,
      fun path p current hp hsome => ?_⟩
    · rw [hknown, Option.map_eq_none_iff] at hnone
      exact (hput path).trans (by simp [hp, hnone])
    · rw [hknown] at hsome
      obtain ⟨known, hfound, rfl⟩ := Option.map_eq_some_iff.1 hsome
      exact ⟨plannedFields p.children known.children,
        (hput path).trans (by simp [hp, hfound, plannedProperty]), paths_plannedFields _ _⟩

/-- The plan has the mapping to put for each entity type of the target. -/
lemma get?_plan {target : IndexSchema} {existing : Table TypeMapping}
    (hdistinct : Table.IsDistinct target.mappings) (entityType : String) :
    Table.get? (plan target existing) entityType =
      (Table.get? target.mappings entityType).map fun wanted =>
        plannedMapping wanted (Table.get? existing entityType) := by
  rw [Table.get?_eq_of_perm (Table.perm_sorted target.mappings).symm hdistinct entityType]
  exact Table.get?_map (fun key wanted => plannedMapping wanted (Table.get? existing key)) _ _

end Merge

namespace Schema

/-- **A merge keeps the types that are there.**  Into an index with no field in conflict, a merge
puts one mapping for each entity type of the target, in the order of their names: that of the
target, with the types that the service has. -/
theorem merge_puts_retyped {ω : Type} (serve : ω → Call → Answer × ω) (policy : Compatibility)
    (target : IndexSchema) (options : SchemaOptions) (existing : Table TypeMapping) (s : Shared)
    (outside after : ω) (hdistinct : target.IsDistinct)
    (hdescribes : Describes serve target.name options existing outside after)
    (hnone : ∀ place, ¬ Merge.Conflicting policy target existing place) :
    let t := (Activity.ofAction (merge policy target options)).transcript serve s outside
    ∃ puts : Table TypeMapping,
      Table.keys puts = sortTexts (Table.keys target.mappings) ∧
      (∀ entry ∈ target.mappings, ∃ put, Table.get? puts entry.1 = some put ∧
        Merge.Retypes existing entry.1 entry.2 put) ∧
      ∃ reads writes, t.calls = reads ++ writes ∧
        reads.map Prod.fst = inspection target.name options ∧
        PutsInTurn target.name puts writes ∧
        (t.result = .ok () ↔ ∀ x ∈ writes, x.2.acknowledges = true) := by
  intro t
  refine ⟨Merge.plan target existing, Merge.keys_plan target existing, fun entry hmem => ?_, ?_⟩
  · refine ⟨_, ?_, Merge.retypes_plannedMapping existing entry.1 entry.2⟩
    rw [Merge.get?_plan hdistinct.1, (Table.get?_eq_some_iff hdistinct.1).2 hmem, Option.map_some]
  · exact hdescribes.exists_puts ((Merge.conflicts_eq_nil_iff hdistinct).2 hnone) s

/-- Books with a title, a number of pages and a publisher in a town, and authors. -/
def extendedBooks : IndexSchema :=
  ⟨"library", [
    ("book", ⟨"strict",
      .field "title" (.ofType (.of .text)) .empty
        (.field "pages" { Attributes.ofType (.of .integer) with store := some true } .empty
          (.field "publisher" (.ofType (.of .object))
            (.field "town" (.ofType (.of .keyword)) .empty .empty) .empty))⟩),
    ("author", ⟨"strict", .field "born" (.ofType (.of .date)) .empty .empty⟩)]⟩

/-- Books with a number of pages, of another type that will do, and a publisher with a name. -/
def printedBooks : IndexSchema :=
  ⟨"library", [
    ("book", ⟨"true",
      .field "pages" (.ofType (.of .long)) .empty
        (.field "publisher" (.ofType (.of .object))
          (.field "name" (.ofType (.of .text)) .empty .empty) .empty)⟩)]⟩

/-- The pages are put as long numbers, the town of the publisher is added, and the name is not
put. -/
theorem merge_puts_retyped_books :
    let t := (Activity.ofAction (merge .standard extendedBooks default)).transcript
      (reporting printedBooks) default ()
    extendedBooks.IsDistinct ∧
      Describes (reporting printedBooks) "library" default printedBooks.reported () () ∧
      (∀ place, ¬ Merge.Conflicting .standard extendedBooks printedBooks.reported place) ∧
      ∃ put : TypeMapping,
        (∃ x ∈ t.calls, x.1 = ⟨"PUT", "/library/_mapping/book", none, .json put.toRemote⟩) ∧
        put.dynamic = "strict" ∧
        put.fields.paths =
          [["title"], ["pages"], ["publisher"], ["publisher", "town"]] ∧
        put.fields.at? ["pages"] =
          some { Attributes.ofType (.of .long) with store := some true } ∧
        put.fields.at? ["publisher", "town"] = some (.ofType (.of .keyword)) := by
  intro t
  have hdistinct : extendedBooks.IsDistinct := by decide
  have hdescribes : Describes (reporting printedBooks) "library" default printedBooks.reported
      () () := describes_reporting printedBooks default
  have hnone : ∀ place, ¬ Merge.Conflicting .standard extendedBooks printedBooks.reported place :=
    (Merge.conflicts_eq_nil_iff hdistinct).1 (by decide)
  obtain ⟨puts, -, hretypes, reads, writes, hcalls, -, hputs, hok⟩ :=
    merge_puts_retyped (reporting printedBooks) .standard extendedBooks default
      printedBooks.reported default () () hdistinct hdescribes hnone
  obtain ⟨put, hput, hbook⟩ := hretypes _ List.mem_cons_self
  have hfine : t.result = .ok () := rfl
  have hmem : (⟨"PUT", "/library/_mapping/book", none, .json put.toRemote⟩ : Call) ∈
      writes.map Prod.fst := by
    rw [hputs.map_fst_of_acknowledged (hok.1 hfine)]
    exact List.mem_map.2 ⟨("book", put), Table.mem_of_get?_eq_some hput, rfl⟩
  obtain ⟨x, hx, hupdate⟩ := List.mem_map.1 hmem
  obtain ⟨below, hpages, -⟩ := hbook.kept ["pages"] _ _ rfl rfl
  have htown := hbook.added ["publisher", "town"] _ rfl rfl
  refine ⟨hdistinct, hdescribes, hnone, put,
    ⟨x, hcalls ▸ List.mem_append_right reads hx, hupdate⟩, hbook.dynamic, hbook.paths, ?_, ?_⟩
  · rw [Fields.at?_eq_find?, hpages]
    rfl
  · rw [Fields.at?_eq_find?, htown]
    rfl

end Schema

end SearchIndex
