/-
# The calls of schema operations

A schema operation asks first whether the index exists and goes on by the answer.  The lemmas here
give the calls of each operation in order, as far as the answers decide them, and say what must have
been acknowledged for the operation to succeed.
-/
import SearchIndex.Proofs.Schema.Access

namespace SearchIndex.Schema

variable {index : String} {policy : Compatibility} {target : IndexSchema} {options : SchemaOptions}
  {calls : List (Call × Answer)}

/-- The index was asked for and found missing. -/
def FoundMissing (index : String) (x : Call × Answer) : Prop :=
  x.1 = existenceCheck index ∧ ∃ body, x.2 = .reply 404 body

/-- The index was asked for and found. -/
def FoundPresent (index : String) (x : Call × Answer) : Prop :=
  x.1 = existenceCheck index ∧ ∃ status body, x.2 = .reply status body ∧ status ≠ 404

/-- The calls only read. -/
def OnlyReads (calls : List (Call × Answer)) : Prop := ∀ x ∈ calls, x.1.method = "GET"

lemma onlyReads_nil : OnlyReads [] := by simp [OnlyReads]

lemma onlyReads_healthCheck (answer : Answer) :
    OnlyReads [(healthCheck index options, answer)] := by
  simp [OnlyReads, healthCheck]

lemma onlyReads_inspection (health mappings : Answer) :
    OnlyReads ([(healthCheck index options, health)] ++ [(mappingsQuery index, mappings)]) := by
  simp [OnlyReads, healthCheck, mappingsQuery, Call.plain]

/-- An operation that starts by asking for an index: the question alone if it gets no usable answer,
and else what follows on it. -/
lemma runs_exists_bind {α : Type} {f : Bool → Action α} {result : Except Failure α}
    (h : (exists? index >>= f).Runs calls result) :
    (∃ answer failure, calls = [(existenceCheck index, answer)] ∧ result = .error failure) ∨
    (∃ x rest, FoundPresent index x ∧ calls = x :: rest ∧ (f true).Runs rest result) ∨
    ∃ x rest, FoundMissing index x ∧ calls = x :: rest ∧ (f false).Runs rest result := by
  rcases Action.runs_bind.1 h with ⟨failure, hexists, rfl⟩ |
    ⟨found, before, after, hexists, hafter, rfl⟩
  · obtain ⟨answer, rfl, -⟩ := runs_exists hexists
    exact Or.inl ⟨answer, failure, rfl, rfl⟩
  · obtain ⟨answer, rfl, hanswer⟩ := runs_exists hexists
    obtain ⟨status, body, rfl, rfl⟩ := hanswer found rfl
    by_cases hstatus : status = 404
    · subst hstatus
      exact Or.inr (Or.inr ⟨_, after, ⟨rfl, body, rfl⟩, rfl, hafter⟩)
    · rw [decide_eq_true hstatus] at hafter
      exact Or.inr (Or.inl ⟨_, after, ⟨rfl, status, body, rfl, hstatus⟩, rfl, hafter⟩)

/-- Waiting for the health of an index, before something that makes no call, only reads. -/
lemma onlyReads_of_awaitHealth {α : Type} {f : Unit → Action α} (hf : ∀ u, (f u).IsSilent)
    {result : Except Failure α} (h : (awaitHealth index options >>= f).Runs calls result) :
    OnlyReads calls := by
  rcases Action.runs_bind.1 h with ⟨failure, hhealth, rfl⟩ |
    ⟨u, before, after, hhealth, hafter, rfl⟩
  · obtain ⟨answer, rfl⟩ := runs_awaitHealth hhealth
    exact onlyReads_healthCheck answer
  · obtain ⟨answer, rfl⟩ := runs_awaitHealth hhealth
    obtain rfl := hf u after _ hafter
    exact onlyReads_healthCheck answer

/-- The creation of an index before something that only reads.  It succeeds only if the service
acknowledges the creation, or says that the index exists where that is no failure. -/
lemma runs_create_bind {α : Type} {mayExist : Bool} {f : Bool → Action α}
    (hf : ∀ created calls result, (f created).Runs calls result → OnlyReads calls)
    {result : Except Failure α} (h : (create target mayExist >>= f).Runs calls result) :
    ∃ answer rest, calls = (creation target, answer) :: rest ∧ OnlyReads rest ∧
      ∀ a, result = .ok a →
        answer.acknowledges = true ∨ mayExist = true ∧ SaysExisting answer := by
  rcases Action.runs_bind.1 h with ⟨failure, hcreate, rfl⟩ |
    ⟨created, before, after, hcreate, hafter, rfl⟩
  · obtain ⟨answer, rfl, -⟩ := runs_create hcreate
    exact ⟨answer, [], rfl, onlyReads_nil, fun _ hresult => nomatch hresult⟩
  · obtain ⟨answer, rfl, hanswer⟩ := runs_create hcreate
    refine ⟨answer, after, rfl, hf created after result hafter, fun _ _ => ?_⟩
    rcases hanswer created rfl with ⟨-, hacknowledged⟩ | ⟨-, hmay, hsaid⟩
    · exact Or.inl hacknowledged
    · exact Or.inr ⟨hmay, hsaid⟩

/-- A new index is created by the first call. -/
lemma runs_createNew {result : Except Failure Unit}
    (h : (createNew target options).Runs calls result) :
    ∃ answer rest, calls = (creation target, answer) :: rest ∧ OnlyReads rest := by
  obtain ⟨answer, rest, rfl, hrest, -⟩ := runs_create_bind (fun _ calls result hhealth => by
    obtain ⟨answer, rfl⟩ := runs_awaitHealth hhealth
    exact onlyReads_healthCheck answer) h
  exact ⟨answer, rest, rfl, hrest⟩

/-- An index that may exist is asked for, and created directly after that if it is missing. -/
lemma runs_createIfAbsent {result : Except Failure Bool}
    (h : (createIfAbsent target options).Runs calls result) :
    ∃ x rest, calls = x :: rest ∧ x.1 = existenceCheck target.name ∧
      (OnlyReads rest ∨ FoundMissing target.name x ∧
        ∃ answer others, rest = (creation target, answer) :: others ∧ OnlyReads others) := by
  rcases runs_exists_bind h with ⟨answer, failure, rfl, rfl⟩ | ⟨x, rest, hx, rfl, hrest⟩ |
    ⟨x, rest, hx, rfl, hrest⟩
  · exact ⟨_, [], rfl, rfl, Or.inl onlyReads_nil⟩
  · rw [if_pos rfl, Action.runs_note_bind] at hrest
    exact ⟨x, rest, rfl, hx.1, Or.inl (onlyReads_of_awaitHealth (fun _ => .pure) hrest)⟩
  · rw [if_neg Bool.false_ne_true] at hrest
    obtain ⟨answer, others, rfl, hothers, -⟩ := runs_create_bind (fun _ _ _ hhealth =>
      onlyReads_of_awaitHealth (fun _ => .pure) hhealth) hrest
    exact ⟨x, _, rfl, hx.1, Or.inr ⟨hx, answer, others, rfl, hothers⟩⟩

/-- Dropping an index asks for it, and deletes it directly after that if it is found. -/
lemma runs_dropIfExisting {result : Except Failure Bool}
    (h : (dropIfExisting index options).Runs calls result) :
    ∃ x rest, calls = x :: rest ∧ x.1 = existenceCheck index ∧
      (rest = [] ∨ FoundPresent index x ∧ ∃ answer, rest = [(deletion index options, answer)]) := by
  rcases runs_exists_bind h with ⟨answer, failure, rfl, rfl⟩ | ⟨x, rest, hx, rfl, hrest⟩ |
    ⟨x, rest, hx, rfl, hrest⟩
  · exact ⟨_, [], rfl, rfl, Or.inl rfl⟩
  · rw [if_pos rfl] at hrest
    obtain ⟨answer, rfl⟩ := runs_drop hrest
    exact ⟨x, _, rfl, hx.1, Or.inr ⟨hx, answer, rfl⟩⟩
  · rw [if_neg Bool.false_ne_true, Action.runs_note_bind] at hrest
    obtain ⟨rfl, -⟩ := Action.runs_pure.1 hrest
    exact ⟨x, [], rfl, hx.1, Or.inl rfl⟩

/-- The health and then the mappings of an index are read, before something that is done with the
mappings. -/
lemma runs_inspect {α : Type} {f : Option (Table TypeMapping) → Action α}
    {result : Except Failure α} (h : Action.Runs (do
      awaitHealth index options
      let found ← mappings? index
      f found) calls result) :
    ∃ reads rest, calls = reads ++ rest ∧ OnlyReads reads ∧
      ((rest = [] ∧ ∃ failure, result = .error failure) ∨
        ∃ found, (f found).Runs rest result) := by
  rcases Action.runs_bind.1 h with ⟨failure, hhealth, rfl⟩ |
    ⟨u, first, rest, hhealth, hrest, rfl⟩
  · obtain ⟨answer, rfl⟩ := runs_awaitHealth hhealth
    exact ⟨_, [], (List.append_nil _).symm, onlyReads_healthCheck answer,
      Or.inl ⟨rfl, failure, rfl⟩⟩
  · obtain ⟨answer, rfl⟩ := runs_awaitHealth hhealth
    rcases Action.runs_bind.1 hrest with ⟨failure, hfound, rfl⟩ |
      ⟨found, second, others, hfound, hothers, rfl⟩
    · obtain ⟨reply, rfl⟩ := runs_mappings hfound
      exact ⟨_, [], (List.append_nil _).symm, onlyReads_inspection answer reply,
        Or.inl ⟨rfl, failure, rfl⟩⟩
    · obtain ⟨reply, rfl⟩ := runs_mappings hfound
      exact ⟨_, others, (List.append_assoc _ _ _).symm, onlyReads_inspection answer reply,
        Or.inr ⟨found, hothers⟩⟩

/-- Checking a schema only asks and reads. -/
lemma runs_validate {result : Except Failure Unit}
    (h : (validate policy target options).Runs calls result) :
    ∃ x rest, calls = x :: rest ∧ x.1 = existenceCheck target.name ∧ OnlyReads rest := by
  rcases runs_exists_bind h with ⟨answer, failure, rfl, rfl⟩ | ⟨x, rest, hx, rfl, hrest⟩ |
    ⟨x, rest, hx, rfl, hrest⟩
  · exact ⟨_, [], rfl, rfl, onlyReads_nil⟩
  · obtain ⟨reads, others, rfl, hreads, ⟨rfl, -⟩ | ⟨found, hothers⟩⟩ := runs_inspect hrest
    · exact ⟨x, _, rfl, hx.1, by rwa [List.append_nil]⟩
    · obtain rfl : others = [] := by
        refine Action.IsSilent.bind .ofExcept (fun mismatches => ?_) others result hothers
        dsimp only
        split
        · exact .note
        · exact .bind .note fun _ => .bind .throw fun _ => .note
      exact ⟨x, _, rfl, hx.1, by rwa [List.append_nil]⟩
  · obtain ⟨rfl, -⟩ := Action.runs_throw_bind.1 hrest
    exact ⟨x, [], rfl, hx.1, onlyReads_nil⟩

/-- How a merge goes on, once it is known whether the index exists.  A missing index is created;
into one that is found the planned mappings are put, after its health and its mappings have been
read. -/
lemma runs_merge {result : Except Failure Unit}
    (h : (merge policy target options).Runs calls result) :
    ∃ x rest, calls = x :: rest ∧ x.1 = existenceCheck target.name ∧
      ((rest = [] ∧ ∃ failure, result = .error failure) ∨
      (FoundMissing target.name x ∧
        ∃ answer others, rest = (creation target, answer) :: others ∧ OnlyReads others ∧
          (result = .ok () → answer.acknowledges = true ∨ SaysExisting answer)) ∨
      ∃ reads puts, rest = reads ++ puts ∧ OnlyReads reads ∧
        ((puts = [] ∧ ∃ failure, result = .error failure) ∨
        ∃ existing, (putPlan target.name (Merge.plan target existing)).Runs puts result)) := by
  rcases runs_exists_bind h with ⟨answer, failure, rfl, rfl⟩ | ⟨x, rest, hx, rfl, hrest⟩ |
    ⟨x, rest, hx, rfl, hrest⟩
  · exact ⟨_, [], rfl, rfl, Or.inl ⟨rfl, failure, rfl⟩⟩
  · refine ⟨x, rest, rfl, hx.1, Or.inr (Or.inr ?_)⟩
    rw [if_pos rfl] at hrest
    obtain ⟨reads, puts, rfl, hreads, hstop | ⟨found, hputs⟩⟩ := runs_inspect hrest
    · exact ⟨reads, puts, rfl, hreads, Or.inl hstop⟩
    · refine ⟨reads, puts, rfl, hreads, ?_⟩
      dsimp only at hputs
      split at hputs
      · exact Or.inr ⟨_, hputs⟩
      · obtain ⟨rfl, rfl⟩ := Action.runs_throw_bind.1 hputs
        exact Or.inl ⟨rfl, _, rfl⟩
  · rw [if_neg Bool.false_ne_true, Action.runs_note_bind] at hrest
    obtain ⟨answer, others, rfl, hothers, hanswer⟩ := runs_create_bind (fun _ _ _ hhealth => by
      obtain ⟨answer, rfl⟩ := runs_awaitHealth hhealth
      exact onlyReads_healthCheck answer) hrest
    refine ⟨x, _, rfl, hx.1, Or.inr (Or.inl ⟨hx, answer, others, rfl, hothers, fun hresult => ?_⟩)⟩
    rcases hanswer () hresult with hacknowledged | ⟨-, hsaid⟩
    · exact Or.inl hacknowledged
    · exact Or.inr hsaid

end SearchIndex.Schema
