/-
# Merging into an index that is there

Before it changes anything, a merge asks for the index, waits for its health and reads its mappings.
A service describes an index if it answers all of that (`Schema.Describes`); the answers may be any
that the library takes for it, and asking may change the state of the service.

From then on everything depends on the mappings that were read.  With conflicts the merge ends there
(`Describes.transcript_merge_of_conflicts`), and without any it puts what is planned
(`Describes.transcript_merge`).
-/
import SearchIndex.Schema.Operation
import SearchIndex.Proofs.Mapping.Report
import SearchIndex.Proofs.Schema.Access
import SearchIndex.Proofs.Service.Served

namespace SearchIndex

variable {ω α : Type} {serve : ω → Call → Answer × ω} {outside after : ω}

/-- As an activity, an action ends as it is served, and its calls are those of a run of it. -/
lemma Action.exists_transcript {a : Action α} {result : Except Failure α}
    (h : a.served serve outside = (result, after)) (s : Shared) : ∃ s' calls,
    (Activity.ofAction a).transcript serve s outside = ⟨result, s', after, calls⟩ ∧
      a.Runs calls result := by
  obtain ⟨log, calls, ht⟩ := transcript_of_served h s
  have hruns := runs_transcript serve a s outside
  rw [ht] at hruns
  exact ⟨_, calls, ht, hruns⟩

namespace Schema

variable {index : String} {target : IndexSchema} {options : SchemaOptions}
  {existing : Table TypeMapping} {policy : Compatibility}

/-- The calls that find out about an index. -/
def inspection (index : String) (options : SchemaOptions) : List Call :=
  [existenceCheck index, healthCheck index options, mappingsQuery index]

/-- Finding out about an index puts nothing. -/
lemma method_ne_of_mem_inspection {call : Call} (h : call ∈ inspection index options) :
    call.method ≠ "PUT" := by
  simp only [inspection, List.mem_cons, List.not_mem_nil, or_false] at h
  rcases h with rfl | rfl | rfl <;> simp [healthCheck, mappingsQuery, Call.plain]

/-- Before the service the index exists, becomes as healthy as it has to be, and has some mappings.
The service is in the second state once it has been asked for all that. -/
def Describes (serve : ω → Call → Answer × ω) (index : String) (options : SchemaOptions)
    (existing : Table TypeMapping) (outside after : ω) : Prop :=
  ∃ asked awaited found,
    (exists? index).served serve outside = (.ok true, asked) ∧
      (awaitHealth index options).served serve asked = (.ok (), awaited) ∧
      (mappings? index).served serve awaited = (.ok found, after) ∧ found.getD [] = existing

namespace Describes

variable (h : Describes serve target.name options existing outside after)
include h

/-- A merge finds out about the index and goes on with what it has found: it puts what is planned if
there is no conflict, and ends otherwise. -/
lemma exists_transcript_merge (policy : Compatibility) (s : Shared) : ∃ s' reads,
    reads.map Prod.fst = inspection target.name options ∧
      let t := (Activity.ofAction (merge policy target options)).transcript serve s outside
      let puts := (Activity.ofAction
        (putPlan target.name (Merge.plan target existing))).transcript serve s' after
      let found := Merge.conflicts policy target existing
      (found = [] → t.result = puts.result ∧ t.outside = puts.outside ∧
        t.calls = reads ++ puts.calls) ∧
      (found ≠ [] → t.calls = reads ∧
        t.result = .error (.mergeConflict target.name (found.map Conflict.message))) := by
  obtain ⟨asked, awaited, found, hexists, hhealth, hfound, rfl⟩ := h
  obtain ⟨s₁, first, ht₁, hruns₁⟩ := Action.exists_transcript hexists s
  obtain ⟨s₂, second, ht₂, hruns₂⟩ := Action.exists_transcript hhealth s₁
  obtain ⟨s₃, third, ht₃, hruns₃⟩ := Action.exists_transcript hfound s₂
  obtain ⟨existence, rfl, -⟩ := runs_exists hruns₁
  obtain ⟨health, rfl⟩ := runs_awaitHealth hruns₂
  obtain ⟨mappings, rfl⟩ := runs_mappings hruns₃
  refine ⟨s₃, [(existenceCheck target.name, existence), (healthCheck target.name options, health),
    (mappingsQuery target.name, mappings)], rfl, ?_⟩
  rw [merge, Activity.ofAction_bind, Activity.transcript_bind, ht₁, Transcript.andThen_ok,
    if_pos rfl, Activity.ofAction_bind, Activity.transcript_bind, ht₂, Transcript.andThen_ok,
    Activity.ofAction_bind, Activity.transcript_bind, ht₃, Transcript.andThen_ok]
  refine ⟨fun hnone => ?_, fun hsome => ?_⟩
  · simp [hnone]
  · simp [hsome]

/-- Without conflicts, a merge puts the planned mappings in turn, after it has found out about the
index. -/
lemma exists_puts (hnone : Merge.conflicts policy target existing = []) (s : Shared) :
    let t := (Activity.ofAction (merge policy target options)).transcript serve s outside
    ∃ reads writes, t.calls = reads ++ writes ∧
      reads.map Prod.fst = inspection target.name options ∧
      PutsInTurn target.name (Merge.plan target existing) writes ∧
      (t.result = .ok () ↔ ∀ x ∈ writes, x.2.acknowledges = true) := by
  intro t
  obtain ⟨s', reads, hreads, hgoesOn, -⟩ := h.exists_transcript_merge policy s
  obtain ⟨hresult, -, hcalls⟩ := hgoesOn hnone
  obtain ⟨hputs, hok⟩ := putsInTurn_of_runs
    (Action.runs_transcript serve (putPlan target.name (Merge.plan target existing)) s' after)
  exact ⟨reads, _, hcalls, hreads, hputs, hresult ▸ hok⟩

end Describes

/-- A service with an index that was created from a target.  It is healthy, of which it tells those
who ask with parameters, and takes every change. -/
def reporting (kept : IndexSchema) (_ : Unit) (call : Call) : Answer × Unit :=
  match call.params with
  | some _ => (.reply 200 (.json (.object [("status", .text "green")])), ())
  | none => (.reply 200 (.json (.object [(kept.name, kept.toRemote)])), ())

/-- Such a service describes the index. -/
lemma describes_reporting (kept : IndexSchema) (options : SchemaOptions) :
    Describes (reporting kept) kept.name options kept.reported () () := by
  have hbody : Table.get? [(kept.name, kept.toRemote)] kept.name = some kept.toRemote := if_pos rfl
  have hread := mappingsOf_toRemote hbody
  have hrequest : (Action.request (mappingsQuery kept.name) [404]).served (reporting kept) () =
      (.ok ⟨200, .object [(kept.name, kept.toRemote)]⟩, ()) := rfl
  have hthere : ¬ (200 : Int) = 404 := by decide
  refine ⟨(), (), some kept.reported, rfl, rfl, (Action.served_bind_of_ok hrequest).trans ?_, rfl⟩
  rw [if_neg hthere, hread]
  rfl

end Schema

end SearchIndex
