/-
# What a merge leaves behind

A merge that succeeds should have applied the whole target: by creating the index with it, or by
putting the mapping of every entity type.  There is one run in which it does neither.  The index is
missing when it is asked for, somebody else creates it, and the service says so when the merge comes
to create it; the merge takes that for success and puts nothing.  `merge_applies_iff` says that this
is the only one.
-/
import SearchIndex.Proofs.Schema.Operation

namespace SearchIndex.Schema

variable {ω : Type}
variable {policy : Compatibility} {target : IndexSchema} {options : SchemaOptions}
  {calls : List (Call × Answer)}

/-- The service acknowledged that the index was created with the full mapping. -/
def CreatedWhole (target : IndexSchema) (calls : List (Call × Answer)) : Prop :=
  ∃ answer, (⟨"PUT", "/" ++ target.name, none, .json target.toRemote⟩, answer) ∈ calls ∧
    answer.acknowledges = true

/-- The service acknowledged the mapping of every entity type of the target, merged with the one
that was found. -/
def MergedWhole (target : IndexSchema) (calls : List (Call × Answer)) : Prop :=
  ∃ existing : Table TypeMapping, ∀ entry ∈ target.mappings, ∃ answer,
    (⟨"PUT", "/" ++ target.name ++ "/_mapping/" ++ entry.1, none,
      .json (Merge.plannedMapping entry.2 (Table.get? existing entry.1)).toRemote⟩, answer) ∈
        calls ∧
    answer.acknowledges = true

/-- The creation of the index was answered by saying that it exists already. -/
def LostRace (target : IndexSchema) (calls : List (Call × Answer)) : Prop :=
  ∃ answer, (⟨"PUT", "/" ++ target.name, none, .json target.toRemote⟩, answer) ∈ calls ∧
    SaysExisting answer

/-- Nothing that was put has been acknowledged. -/
def NothingPut (calls : List (Call × Answer)) : Prop :=
  ∀ x ∈ calls, x.1.method = "PUT" → x.2.acknowledges = false

/-- A service that says that an index exists already has not created it. -/
lemma SaysExisting.not_acknowledges {answer : Answer} (h : SaysExisting answer) :
    answer.acknowledges = false := by
  obtain ⟨status, body, rfl, hnot, -⟩ := h
  exact hnot

/-- A plan has a mapping for every entity type of the target. -/
lemma mem_plan {target : IndexSchema} {existing : Table TypeMapping} {entry : String × TypeMapping}
    (h : entry ∈ target.mappings) :
    (entry.1, Merge.plannedMapping entry.2 (Table.get? existing entry.1)) ∈
      Merge.plan target existing :=
  List.mem_map.2 ⟨entry, (Table.perm_sorted target.mappings).mem_iff.2 h, rfl⟩

/-- Putting a whole plan merges the whole target. -/
lemma mergedWhole_of_putPlan {existing : Table TypeMapping} (before : List (Call × Answer))
    (h : (putPlan target.name (Merge.plan target existing)).Runs calls (.ok ())) :
    MergedWhole target (before ++ calls) := by
  refine ⟨existing, fun entry hentry => ?_⟩
  obtain ⟨answer, hmem, hanswer⟩ := (runs_putPlan h).2 rfl _ (mem_plan hentry)
  rw [mappingUpdate_eq] at hmem
  exact ⟨answer, List.mem_append_right before hmem, hanswer⟩

/-- The calls of a merge that succeeds: with a target that is applied and no lost race, or with a
lost race and nothing that is put. -/
lemma runs_merge_ok (h : (merge policy target options).Runs calls (.ok ())) :
    ((CreatedWhole target calls ∨ MergedWhole target calls) ∧ ¬ LostRace target calls) ∨
      (LostRace target calls ∧ NothingPut calls) := by
  obtain ⟨x, rest, rfl, hx, hrest⟩ := runs_merge h
  have hput (y : Call × Answer) (reads : List (Call × Answer)) (honly : OnlyReads reads)
      (hy : y ∈ x :: reads) : y.1.method ≠ "PUT" := by
    rcases List.mem_cons.1 hy with rfl | hy
    · rw [hx, method_existenceCheck]
      decide
    · rw [honly y hy]
      decide
  rcases hrest with ⟨-, failure, hbad⟩ | ⟨-, answer, others, rfl, honly, hanswer⟩ |
    ⟨reads, puts, rfl, honly, ⟨-, failure, hbad⟩ | ⟨existing, hplan⟩⟩
  · cases hbad
  · -- the only put is that of the creation
    have hcases (y : Call × Answer) (hy : y ∈ x :: (creation target, answer) :: others)
        (hmethod : y.1.method = "PUT") : y = (creation target, answer) := by
      rcases List.mem_cons.1 hy with rfl | hy
      · exact absurd hmethod (hput y [] onlyReads_nil List.mem_cons_self)
      rcases List.mem_cons.1 hy with rfl | hy
      · rfl
      · exact absurd hmethod (hput y others honly (List.mem_cons_of_mem x hy))
    have hmem : (creation target, answer) ∈ x :: (creation target, answer) :: others :=
      List.mem_cons_of_mem x List.mem_cons_self
    rcases hanswer rfl with hacknowledged | hsaid
    · refine Or.inl ⟨Or.inl ⟨answer, hmem, hacknowledged⟩, ?_⟩
      rintro ⟨other, hother, hsaid⟩
      obtain rfl := (Prod.ext_iff.1 (hcases _ hother method_creation)).2
      exact absurd hacknowledged (by simp [hsaid.not_acknowledges])
    · refine Or.inr ⟨⟨answer, hmem, hsaid⟩, fun y hy hmethod => ?_⟩
      rw [hcases y hy hmethod]
      exact hsaid.not_acknowledges
  · cases hbad
  · refine Or.inl ⟨Or.inr ?_, ?_⟩
    · have hmerged := mergedWhole_of_putPlan (x :: reads) hplan
      rwa [List.cons_append] at hmerged
    · rintro ⟨answer, hmem, -⟩
      rw [← List.cons_append] at hmem
      rcases List.mem_append.1 hmem with hread | hmem
      · exact absurd method_creation (hput _ reads honly hread)
      · obtain ⟨entry, -, hupdate⟩ := (runs_putPlan hplan).1 _ hmem
        exact absurd (congrArg Call.path hupdate).symm (path_mappingUpdate_ne _ _)

/-- A target that has something to apply is not applied where nothing is put. -/
lemma NothingPut.not_applied (h : NothingPut calls) (htarget : target.mappings ≠ []) :
    ¬ (CreatedWhole target calls ∨ MergedWhole target calls) := by
  rintro (⟨answer, hmem, hanswer⟩ | ⟨existing, hmerged⟩)
  · exact absurd hanswer (by simp [h _ hmem rfl])
  · obtain ⟨entry, hentry⟩ := List.exists_mem_of_ne_nil _ htarget
    obtain ⟨answer, hmem, hanswer⟩ := hmerged entry hentry
    exact absurd hanswer (by simp [h _ hmem rfl])

/-- **What a merge applies.**  A merge that succeeds has applied the whole target, unless there is
something to apply and it lost the race to create the index; then it has put nothing. -/
theorem merge_applies_iff (serve : ω → Call → Answer × ω) (policy : Compatibility)
    (target : IndexSchema) (options : SchemaOptions) (s : Shared) (outside : ω) :
    let t := (Activity.ofAction (merge policy target options)).transcript serve s outside
    t.result = .ok () →
      ((CreatedWhole target t.calls ∨ MergedWhole target t.calls) ↔
        (LostRace target t.calls → target.mappings = [])) ∧
      (LostRace target t.calls → NothingPut t.calls) := by
  intro t hok
  have hruns := Action.runs_transcript serve (merge policy target options) s outside
  rw [hok] at hruns
  rcases runs_merge_ok hruns with ⟨happlied, hnot⟩ | ⟨hlost, hnothing⟩
  · exact ⟨⟨fun _ hlost => absurd hlost hnot, fun _ => happlied⟩, fun hlost => absurd hlost hnot⟩
  · refine ⟨⟨fun happlied _ => ?_, fun hempty => Or.inr ⟨[], ?_⟩⟩, fun _ => hnothing⟩
    · by_contra htarget
      exact hnothing.not_applied htarget happlied
    · rw [hempty hlost]
      simp

/-- A target with one entity type. -/
def bookSchema : IndexSchema :=
  ⟨"library", [("book", ⟨"strict", .field "id" idAttributes .empty .empty⟩)]⟩

/-- An index that nobody else creates is created with the whole target. -/
theorem merge_applies_iff_created :
    let t := (Activity.ofAction (merge default bookSchema default)).transcript Manager.shelf default
      false
    t.result = .ok () ∧
      ((CreatedWhole bookSchema t.calls ∨ MergedWhole bookSchema t.calls) ↔
        (LostRace bookSchema t.calls → bookSchema.mappings = [])) ∧
      (LostRace bookSchema t.calls → NothingPut t.calls) :=
  ⟨rfl, merge_applies_iff Manager.shelf default bookSchema default default false rfl⟩

/-- A service on which an index appears between the question for it and its creation. -/
def overtaken (call : Call) : Answer :=
  if call.method = "HEAD" then .reply 404 .empty
  else if call.method = "PUT" then
    .reply 400 (.json (.object
      [("error", .object [("type", .text "resource_already_exists_exception")])]))
  else .reply 200 .empty

/-- A merge that loses the race to create the index succeeds and has applied nothing. -/
theorem merge_loses_race :
    let t := (Activity.ofAction (merge default bookSchema default)).transcript
      (fun (_ : Unit) call => (overtaken call, ())) default ()
    t.result = .ok () ∧ ¬ (CreatedWhole bookSchema t.calls ∨ MergedWhole bookSchema t.calls) := by
  intro t
  have hcalls : t.calls.map (fun x => (x.1.method, x.2.acknowledges)) =
    [("HEAD", false), ("PUT", false), ("GET", true)] := rfl
  have hnothing : NothingPut t.calls := by
    intro x hx hmethod
    have hmem := List.mem_map_of_mem (f := fun x => (x.1.method, x.2.acknowledges)) hx
    rw [hcalls] at hmem
    simpa [hmethod] using hmem
  exact ⟨rfl, hnothing.not_applied (by simp [bookSchema])⟩

end SearchIndex.Schema
