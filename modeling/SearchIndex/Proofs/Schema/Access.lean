/-
# The calls of schema accesses

Each access to the schema of an index is one call, so a run of an access is that call with its
answer, and what comes of it depends on the answer alone.  The lemmas here say so for each access;
the operations are made of these.
-/
import SearchIndex.Schema.Strategy
import SearchIndex.Proofs.Service.Runs
import SearchIndex.Proofs.Manager.Bind

namespace SearchIndex

/-- The service acknowledged a call: it answered, and not with an error. -/
def Answer.acknowledges : Answer → Bool
  | reply status _ => isSuccess status
  | unreachable _ | unsent _ => false

lemma Answer.acknowledges_of_judge {answer : Answer} {method path : String} {response : Response}
    (h : answer.judge method path [] = .ok response) : answer.acknowledges = true := by
  cases answer with
  | unreachable reason => cases h
  | unsent reason => cases h
  | reply status body =>
    by_cases hstatus : isSuccess status = true
    · exact hstatus
    · simp [judge, hstatus] at h

/-- An answer that acknowledges a call is judged a success. -/
lemma Answer.exists_judge_of_acknowledges {answer : Answer} (h : answer.acknowledges = true)
    (method path : String) : ∃ response, answer.judge method path [] = .ok response := by
  cases answer with
  | unreachable reason => cases h
  | unsent reason => cases h
  | reply status body => exact ⟨_, judge_ok h⟩

/-- A call that fails with an answer of the service was answered by that status and body, which is
no success. -/
lemma Answer.reply_of_judge {answer : Answer} {method path : String} {problem : RemoteProblem}
    {status : Int} {body : Json}
    (h : answer.judge method path [] = .error (.remote problem status body)) :
    ∃ payload, answer = .reply status payload ∧ answer.acknowledges = false ∧
      payload.decode = body := by
  cases answer with
  | unreachable reason => cases h
  | unsent reason => cases h
  | reply status' payload =>
    by_cases hstatus : isSuccess status' = true
    · simp [judge, hstatus] at h
    · simp only [judge, hstatus, List.not_mem_nil, decide_false, Bool.or_false, Bool.false_eq_true,
        if_false, Except.error.injEq, Failure.remote.injEq] at h
      obtain ⟨-, rfl, rfl⟩ := h
      exact ⟨payload, rfl, by simpa [acknowledges] using hstatus, rfl⟩

namespace Schema

variable {index : String} {options : SchemaOptions} {calls : List (Call × Answer)}

@[simp] lemma method_existenceCheck : (existenceCheck index).method = "HEAD" := rfl

@[simp] lemma method_creation {target : IndexSchema} : (creation target).method = "PUT" := rfl

@[simp] lemma path_creation {target : IndexSchema} :
    (creation target).path = indexPath target.name := rfl

@[simp] lemma method_mappingUpdate {entityType : String} {mapping : TypeMapping} :
    (mappingUpdate index entityType mapping).method = "PUT" := rfl

/-- The mapping of an entity type is put under the name of the type. -/
lemma mappingUpdate_eq (index entityType : String) (mapping : TypeMapping) :
    mappingUpdate index entityType mapping =
      ⟨"PUT", "/" ++ index ++ "/_mapping/" ++ entityType, none, .json mapping.toRemote⟩ := by
  simp [mappingUpdate, indexPath, String.append_assoc, toString]

/-- The mapping of an entity type is never put to the path of the index itself. -/
lemma path_mappingUpdate_ne (entityType : String) (mapping : TypeMapping) :
    (mappingUpdate index entityType mapping).path ≠ indexPath index := by
  intro h
  have hlength := congrArg String.length h
  simp [mappingUpdate, String.length_append, toString] at hlength

/-- Asking whether an index exists is one call.  If the answer decides it, it is a reply, and the
index is missing exactly if the status is 404. -/
lemma runs_exists {result : Except Failure Bool} (h : (exists? index).Runs calls result) :
    ∃ answer, calls = [(existenceCheck index, answer)] ∧
      ∀ found, result = .ok found →
        ∃ status body, answer = .reply status body ∧ found = decide (status ≠ 404) := by
  rw [exists?, bind_pure_comp, Action.runs_map] at h
  obtain ⟨r, hrequest, rfl⟩ := h
  obtain ⟨answer, rfl, rfl⟩ := Action.runs_request.1 hrequest
  refine ⟨answer, rfl, fun found hfound => ?_⟩
  cases answer with
  | unreachable reason => cases hfound
  | unsent reason => cases hfound
  | reply status body =>
    rw [Answer.judge] at hfound
    split at hfound
    · exact ⟨status, body, rfl, (Except.ok.inj hfound).symm⟩
    · cases hfound

/-- An answer that says that the index exists already. -/
def SaysExisting (answer : Answer) : Prop :=
  ∃ status body, answer = .reply status body ∧ answer.acknowledges = false ∧
    reportsExisting status body.decode = .ok true

/-- The creation has ended early with a failure, or by leaving alone an index that exists. -/
def LeavesExisting (mayExist : Bool) (answer : Answer) (ended : Except Failure (Except Bool Unit)) :
    Prop :=
  (∃ failure, ended = .error failure) ∨
    ended = .ok (.error false) ∧ mayExist = true ∧ SaysExisting answer

/-- A failure that goes on ends the creation without a call. -/
lemma runs_rethrow {mayExist : Bool} {answer : Answer} {failure : Failure}
    {ended : Except Failure (Except Bool Unit)}
    (h : Action.Runs (do let unreached ← throw failure; ExceptT.run (pure unreached)) calls ended) :
    calls = [] ∧ LeavesExisting mayExist answer ended := by
  obtain ⟨rfl, rfl⟩ := Action.runs_throw_bind.1 h
  exact ⟨rfl, Or.inl ⟨failure, rfl⟩⟩

/-- What follows a call that fails with an answer of the service makes no call.  It fails as well,
unless the index may exist and the answer says that it does. -/
lemma runs_onExisting {mayExist : Bool} {text : String} {failure : Failure} {status : Int}
    {payload : Payload} {ended : Except Failure (Except Bool Unit)}
    (hnot : (Answer.reply status payload).acknowledges = false)
    (h : Action.Runs (do
      let existing ← Action.ofExcept (reportsExisting status payload.decode)
      if mayExist && existing then
        Action.note .info .access text
        pure (.error false)
      else
        let unreached ← throw failure
        ExceptT.run (pure unreached)) calls ended) :
    calls = [] ∧ LeavesExisting mayExist (.reply status payload) ended := by
  rcases Action.runs_bind.1 h with ⟨f, hreport, rfl⟩ | ⟨existing, first, rest, hreport, hrest, rfl⟩
  · exact ⟨(Action.runs_ofExcept.1 hreport).1, Or.inl ⟨f, rfl⟩⟩
  obtain ⟨rfl, hexisting⟩ := Action.runs_ofExcept.1 hreport
  by_cases hboth : (mayExist && existing) = true
  · obtain ⟨hmay, rfl⟩ := Bool.and_eq_true_iff.1 hboth
    rw [if_pos hboth] at hrest
    have hkept := Action.runs_note_bind.1 hrest
    obtain ⟨rfl, rfl⟩ := Action.runs_pure.1 hkept
    exact ⟨rfl, Or.inr ⟨rfl, hmay, status, payload, rfl, hnot, hexisting.symm⟩⟩
  · rw [if_neg hboth] at hrest
    exact runs_rethrow hrest

/-- Creating an index is one call.  It succeeds if the service acknowledges the call, or says that
the index exists already where that is no failure. -/
lemma runs_create {target : IndexSchema} {mayExist : Bool} {result : Except Failure Bool}
    (h : (create target mayExist).Runs calls result) :
    ∃ answer, calls = [(creation target, answer)] ∧
      ∀ created, result = .ok created →
        (created = true ∧ answer.acknowledges = true) ∨
        (created = false ∧ mayExist = true ∧ SaysExisting answer) := by
  rw [create] at h
  obtain ⟨ended, before, after, htry, hend, rfl⟩ := Program.runs_bind.1 h
  clear h
  rcases Action.runs_tryCatch.1 htry with ⟨x, hbody, rfl⟩ |
    ⟨failure, calls, others, hbody, hhandle, rfl⟩
  · -- the answer is a success, which is noted
    rcases Action.runs_bind.1 hbody with ⟨_, _, hbad⟩ | ⟨response, first, rest, hrequest, hx, rfl⟩
    · cases hbad
    · obtain ⟨answer, rfl, hanswer⟩ := Action.runs_request.1 hrequest
      obtain ⟨rfl, hunit⟩ := Action.runs_pure.1 hx
      obtain rfl := Except.ok.inj hunit
      change Action.Runs (Action.note .info .access _ >>= fun _ => pure true) after result at hend
      have hcreated := Action.runs_note_bind.1 hend
      obtain ⟨rfl, rfl⟩ := Action.runs_pure.1 hcreated
      exact ⟨answer, rfl, fun created hcreated => Or.inl
        ⟨(Except.ok.inj hcreated).symm, Answer.acknowledges_of_judge hanswer.symm⟩⟩
  · -- the answer is a failure, and what follows makes no call
    rcases Action.runs_bind.1 hbody with ⟨_, hrequest, hfailure⟩ | ⟨_, first, rest, _, hx, rfl⟩
    · obtain rfl := Except.error.inj hfailure
      obtain ⟨answer, rfl, hanswer⟩ := Action.runs_request.1 hrequest
      have hended : others = [] ∧ LeavesExisting mayExist answer ended := by
        cases failure with
        | remote problem status body =>
          obtain ⟨payload, rfl, hnot, rfl⟩ := Answer.reply_of_judge hanswer.symm
          exact runs_onExisting hnot hhandle
        | _ => exact runs_rethrow hhandle
      obtain ⟨rfl, ⟨f, rfl⟩ | ⟨rfl, hmay, hsaid⟩⟩ := hended
      · obtain ⟨rfl, rfl⟩ := Program.runs_done.1 hend
        exact ⟨answer, rfl, fun _ hresult => nomatch hresult⟩
      · obtain ⟨rfl, rfl⟩ := Program.runs_done.1 hend
        exact ⟨answer, rfl, fun created hcreated => Or.inr
          ⟨(Except.ok.inj hcreated).symm, hmay, hsaid⟩⟩
    · cases (Action.runs_pure.1 hx).2

/-- The call that reads the mappings of an index. -/
def mappingsQuery (index : String) : Call := .plain "GET" (indexPath index ++ "/_mapping")

/-- Waiting for the health of an index is one call. -/
lemma runs_awaitHealth {result : Except Failure Unit}
    (h : (awaitHealth index options).Runs calls result) :
    ∃ answer, calls = [(healthCheck index options, answer)] := by
  obtain ⟨answer, hcalls, -⟩ := Action.runs_request_bind (fun response => by
    refine .bind .ofExcept fun members => ?_
    dsimp only
    split
    · exact .bind .throw fun _ => .note
    · exact .note) h
  exact ⟨answer, hcalls⟩

/-- Reading the mappings of an index is one call. -/
lemma runs_mappings {result : Except Failure (Option (Table TypeMapping))}
    (h : (mappings? index).Runs calls result) :
    ∃ answer, calls = [(mappingsQuery index, answer)] := by
  obtain ⟨answer, hcalls, -⟩ := Action.runs_request_bind (fun response => by
    split
    · exact .pure
    · exact .bind .ofExcept fun _ => .pure) h
  exact ⟨answer, hcalls⟩

/-- Deleting an index is one call. -/
lemma runs_drop {result : Except Failure Bool} (h : (drop index options).Runs calls result) :
    ∃ answer, calls = [(deletion index options, answer)] := by
  obtain ⟨answer, hcalls, -⟩ := Action.runs_request_bind (fun response => by
    split
    · exact .pure
    · exact .bind .note fun _ => .pure) h
  exact ⟨answer, hcalls⟩

/-- Putting the mapping of an entity type is one call, which succeeds exactly if it is
acknowledged. -/
lemma runs_putMapping {entityType : String} {mapping : TypeMapping} {result : Except Failure Unit}
    (h : (putMapping index entityType mapping).Runs calls result) :
    ∃ answer, calls = [(mappingUpdate index entityType mapping, answer)] ∧
      (result = .ok () ↔ answer.acknowledges = true) := by
  rcases Action.runs_bind.1 h with ⟨failure, hrequest, rfl⟩ |
    ⟨response, first, rest, hrequest, hnote, rfl⟩
  · obtain ⟨answer, rfl, hjudge⟩ := Action.runs_request.1 hrequest
    refine ⟨answer, rfl, iff_of_false nofun fun hacknowledged => ?_⟩
    obtain ⟨response, hsuccess⟩ := Answer.exists_judge_of_acknowledges hacknowledged _ _
    cases hjudge.trans hsuccess
  · obtain ⟨answer, rfl, hjudge⟩ := Action.runs_request.1 hrequest
    obtain ⟨rfl, rfl⟩ := Action.runs_note.1 hnote
    exact ⟨answer, rfl, iff_of_true rfl (Answer.acknowledges_of_judge hjudge.symm)⟩

/-- A planned mapping is put by one call.  What is done with a failure makes no call and fails
again. -/
lemma runs_tryPut {entityType : String} {mapping : TypeMapping} {result : Except Failure Unit}
    {handle : Failure → Action Unit}
    (hhandle : ∀ failure calls result, (handle failure).Runs calls result →
      calls = [] ∧ ∃ f, result = .error f)
    (h : Action.Runs (tryCatch (putMapping index entityType mapping) handle) calls result) :
    ∃ answer, calls = [(mappingUpdate index entityType mapping, answer)] ∧
      (result = .ok () ↔ answer.acknowledges = true) := by
  rcases Action.runs_tryCatch.1 h with ⟨x, hput, rfl⟩ | ⟨failure, before, after, hput, hafter, rfl⟩
  · exact runs_putMapping hput
  · obtain ⟨answer, rfl, hanswer⟩ := runs_putMapping hput
    obtain ⟨rfl, f, rfl⟩ := hhandle failure after result hafter
    exact ⟨answer, rfl, iff_of_false nofun fun hacknowledged => nomatch hanswer.2 hacknowledged⟩

/-! ## Planned mappings -/

/-- Planned mappings are put in turn, one call each, until the service refuses one.  Each is put
under the name of its entity type, in the form of the service. -/
inductive PutsInTurn (index : String) : Table TypeMapping → List (Call × Answer) → Prop where
  | done : PutsInTurn index [] []
  /-- Nothing is put after a mapping that is refused. -/
  | refused {entry : String × TypeMapping} {rest : Table TypeMapping} {answer : Answer}
      (hanswer : answer.acknowledges = false) :
      PutsInTurn index (entry :: rest)
        [(⟨"PUT", "/" ++ index ++ "/_mapping/" ++ entry.1, none, .json entry.2.toRemote⟩, answer)]
  | next {entry : String × TypeMapping} {rest : Table TypeMapping} {answer : Answer}
      {calls : List (Call × Answer)} (hanswer : answer.acknowledges = true)
      (hrest : PutsInTurn index rest calls) :
      PutsInTurn index (entry :: rest)
        ((⟨"PUT", "/" ++ index ++ "/_mapping/" ++ entry.1, none, .json entry.2.toRemote⟩, answer) ::
          calls)

/-- The calls that put planned mappings, those that are not made after a refusal included. -/
def updates (index : String) (plan : Table TypeMapping) : List Call :=
  plan.map fun entry =>
    ⟨"PUT", "/" ++ index ++ "/_mapping/" ++ entry.1, none, .json entry.2.toRemote⟩

namespace PutsInTurn

variable {plan : Table TypeMapping}

lemma prefix_updates (h : PutsInTurn index plan calls) :
    calls.map Prod.fst <+: updates index plan := by
  induction h with
  | done => exact List.nil_prefix
  | refused => exact (List.prefix_cons_inj _).2 List.nil_prefix
  | next _ _ ih => exact (List.prefix_cons_inj _).2 ih

/-- What is put is planned. -/
lemma exists_entry (h : PutsInTurn index plan calls) {x : Call × Answer} (hx : x ∈ calls) :
    ∃ entry ∈ plan, x.1 = mappingUpdate index entry.1 entry.2 := by
  obtain ⟨entry, hmem, hupdate⟩ :=
    List.mem_map.1 (h.prefix_updates.subset (List.mem_map_of_mem (f := Prod.fst) hx))
  exact ⟨entry, hmem, hupdate.symm.trans (mappingUpdate_eq index entry.1 entry.2).symm⟩

/-- Where nothing is refused, all that is planned is put. -/
lemma map_fst_of_acknowledged (h : PutsInTurn index plan calls)
    (hall : ∀ x ∈ calls, x.2.acknowledges = true) : calls.map Prod.fst = updates index plan := by
  induction h with
  | done => rfl
  | refused hanswer => simp [hanswer] at hall
  | next _ _ ih =>
    exact congrArg (List.cons _) (ih fun x hx => hall x (List.mem_cons_of_mem _ hx))

end PutsInTurn

/-- Putting planned mappings is putting them in turn, which succeeds exactly if nothing is
refused. -/
lemma putsInTurn_of_runs {plan : Table TypeMapping} {result : Except Failure Unit}
    (h : (putPlan index plan).Runs calls result) :
    PutsInTurn index plan calls ∧
      (result = .ok () ↔ ∀ x ∈ calls, x.2.acknowledges = true) := by
  induction plan generalizing calls with
  | nil =>
    obtain ⟨rfl, rfl⟩ := Action.runs_pure.1 h
    exact ⟨.done, iff_of_true rfl nofun⟩
  | cons entry rest ih =>
    obtain ⟨entityType, mapping⟩ := entry
    rw [putPlan] at h
    obtain ⟨put, before, after, hput, hrest, rfl⟩ := Program.runs_bind.1 h
    obtain ⟨answer, rfl, hanswer⟩ := runs_tryPut (fun failure calls result hfailed => by
      split at hfailed
      · obtain ⟨rfl, rfl⟩ := Action.runs_throw.1 hfailed
        exact ⟨rfl, _, rfl⟩
      · obtain ⟨rfl, rfl⟩ := Action.runs_throw.1 hfailed
        exact ⟨rfl, _, rfl⟩) hput
    rw [mappingUpdate_eq]
    cases put with
    | error failure =>
      obtain ⟨rfl, rfl⟩ := Program.runs_done.1 hrest
      have hrefused : answer.acknowledges = false :=
        Bool.eq_false_iff.2 fun hacknowledged => nomatch hanswer.2 hacknowledged
      exact ⟨.refused hrefused, iff_of_false nofun (by simp [hrefused])⟩
    | ok u =>
      obtain ⟨hcalls, hok⟩ := ih hrest
      refine ⟨.next (hanswer.1 rfl) hcalls, ?_⟩
      simp only [List.singleton_append, List.forall_mem_cons, hok, hanswer.1 rfl, true_and]

/-- Putting planned mappings makes only calls that put one of them.  It succeeds only if every
planned mapping has been put and acknowledged. -/
lemma runs_putPlan {plan : Table TypeMapping} {result : Except Failure Unit}
    (h : (putPlan index plan).Runs calls result) :
    (∀ x ∈ calls, ∃ entry ∈ plan, x.1 = mappingUpdate index entry.1 entry.2) ∧
      (result = .ok () → ∀ entry ∈ plan, ∃ answer,
        (mappingUpdate index entry.1 entry.2, answer) ∈ calls ∧ answer.acknowledges = true) := by
  obtain ⟨hputs, hok⟩ := putsInTurn_of_runs h
  refine ⟨fun x hx => hputs.exists_entry hx, fun hresult entry hmem => ?_⟩
  have hall := hok.1 hresult
  have hupdate : mappingUpdate index entry.1 entry.2 ∈ calls.map Prod.fst := by
    rw [hputs.map_fst_of_acknowledged hall, mappingUpdate_eq]
    exact List.mem_map_of_mem hmem
  obtain ⟨⟨_, answer⟩, hx, rfl⟩ := List.mem_map.1 hupdate
  exact ⟨answer, hx, hall _ hx⟩

end Schema

end SearchIndex
