/-
# Runs of programs

A run of a program is a path through its tree: the calls that are made, each with an answer that may
come, and the result at the end.  Nothing is assumed of the answers, so what holds of every run
holds whatever the service does, and whatever others do to it in between.

A run of one program after another is a run of each (`runs_bind`); the other lemmas give the runs of
the programs out of which all actions are made.  Every transcript of an action is a run of it
(`runs_transcript`).
-/
import Mathlib.Tactic
import SearchIndex.Proofs.Concurrency.Transcript

namespace SearchIndex

variable {ω α β : Type}

namespace Program

/-- The runs of a program: the calls with their answers, and the result. -/
inductive Runs : Program α → List (Call × Answer) → α → Prop where
  | done (result : α) : Runs (.done result) [] result
  | call {request : Call} {next : Answer → Program α} {calls : List (Call × Answer)} {result : α}
      (answer : Answer) (h : Runs (next answer) calls result) :
      Runs (.call request next) ((request, answer) :: calls) result
  | log {entry : Log.Entry} {next : Program α} {calls : List (Call × Answer)} {result : α}
      (h : Runs next calls result) : Runs (.log entry next) calls result

variable {calls : List (Call × Answer)} {result : α}

@[simp] lemma runs_done {a : α} : Runs (.done a) calls result ↔ calls = [] ∧ result = a := by
  constructor
  · rintro ⟨⟩
    exact ⟨rfl, rfl⟩
  · rintro ⟨rfl, rfl⟩
    exact .done _

@[simp] lemma runs_call {request : Call} {next : Answer → Program α} :
    Runs (.call request next) calls result ↔
      ∃ answer rest, calls = (request, answer) :: rest ∧ Runs (next answer) rest result := by
  constructor
  · rintro (_ | ⟨answer, h⟩)
    exact ⟨answer, _, rfl, h⟩
  · rintro ⟨answer, rest, rfl, h⟩
    exact .call answer h

@[simp] lemma runs_log {entry : Log.Entry} {next : Program α} :
    Runs (.log entry next) calls result ↔ Runs next calls result := by
  constructor
  · rintro (_ | _ | h)
    exact h
  · exact .log

/-- A run of one program after another is a run of the first followed by one of the second. -/
lemma runs_bind {p : Program α} {f : α → Program β} {result : β} :
    Runs (p >>= f) calls result ↔
      ∃ a before after, Runs p before a ∧ Runs (f a) after result ∧ calls = before ++ after := by
  induction p generalizing calls with
  | done a => simp
  | call request next ih =>
    simp only [bind_call, runs_call, ih]
    constructor
    · rintro ⟨answer, rest, rfl, a, before, after, hp, hf, rfl⟩
      exact ⟨a, _, after, ⟨answer, before, rfl, hp⟩, hf, rfl⟩
    · rintro ⟨a, before, after, ⟨answer, rest, rfl, hp⟩, hf, rfl⟩
      exact ⟨answer, _, rfl, a, rest, after, hp, hf, rfl⟩
  | log entry next ih => simp only [bind_log, runs_log, ih]

/-- Running a program against a service that keeps a record is a run. -/
lemma runs_run (serve : ω → Call → Answer × ω) (p : Program α) (outside : ω)
    (earlier : List (Call × Answer)) :
    ∃ calls, (p.run (recording serve) (outside, earlier)).2.2 = earlier ++ calls ∧
      Runs p calls (p.run (recording serve) (outside, earlier)).1 := by
  induction p generalizing outside earlier with
  | done a => exact ⟨[], (List.append_nil _).symm, .done a⟩
  | call request next ih =>
    obtain ⟨calls, hcalls, h⟩ := ih (serve outside request).1 (serve outside request).2
      (earlier ++ [(request, (serve outside request).1)])
    refine ⟨(request, (serve outside request).1) :: calls, ?_, .call _ h⟩
    rw [List.append_assoc, List.singleton_append] at hcalls
    exact hcalls
  | log entry next ih =>
    obtain ⟨calls, hcalls, h⟩ := ih outside earlier
    exact ⟨calls, hcalls, .log h⟩

end Program

namespace Action

/-- The runs of an action: the calls with their answers, and the value or failure. -/
def Runs (a : Action α) (calls : List (Call × Answer)) (result : Except Failure α) : Prop :=
  Program.Runs a.run calls result

variable {calls : List (Call × Answer)} {result : Except Failure α}

@[simp] lemma runs_pure {a : α} :
    Runs (pure a : Action α) calls result ↔ calls = [] ∧ result = .ok a := Program.runs_done

@[simp] lemma runs_throw {failure : Failure} :
    Runs (throw failure : Action α) calls result ↔ calls = [] ∧ result = .error failure :=
  Program.runs_done

@[simp] lemma runs_ofExcept {e : Except Failure α} :
    Runs (ofExcept e) calls result ↔ calls = [] ∧ result = e := Program.runs_done

@[simp] lemma runs_note {level : Log.Level} {source : Log.Source} {text : String}
    {result : Except Failure Unit} :
    Runs (note level source text) calls result ↔ calls = [] ∧ result = .ok () :=
  Program.runs_log.trans Program.runs_done

/-- A request is one call, whose answer is judged. -/
@[simp] lemma runs_request {call : Call} {ignored : List Int} {result : Except Failure Response} :
    Runs (request call ignored) calls result ↔
      ∃ answer, calls = [(call, answer)] ∧ result = answer.judge call.method call.path ignored := by
  refine Program.runs_call.trans (exists_congr fun answer => ?_)
  constructor
  · rintro ⟨rest, rfl, h⟩
    cases answer with
    | reply status body =>
      -- a reply is logged before it is judged
      obtain ⟨rfl, rfl⟩ := Program.runs_done.1 (Program.runs_log.1 h)
      exact ⟨rfl, rfl⟩
    | unreachable reason =>
      obtain ⟨rfl, rfl⟩ := Program.runs_done.1 h
      exact ⟨rfl, rfl⟩
    | unsent reason =>
      obtain ⟨rfl, rfl⟩ := Program.runs_done.1 h
      exact ⟨rfl, rfl⟩
  · rintro ⟨rfl, rfl⟩
    refine ⟨[], rfl, ?_⟩
    cases answer with
    | reply status body => exact .log (.done _)
    | unreachable reason => exact .done _
    | unsent reason => exact .done _

/-- An action after another runs only if the first one has a value. -/
@[simp] lemma runs_bind {a : Action α} {f : α → Action β} {result : Except Failure β} :
    Runs (a >>= f) calls result ↔
      (∃ failure, Runs a calls (.error failure) ∧ result = .error failure) ∨
      ∃ x before after, Runs a before (.ok x) ∧ Runs (f x) after result ∧
        calls = before ++ after := by
  refine Program.runs_bind.trans ?_
  constructor
  · rintro ⟨r, before, after, ha, hf, rfl⟩
    cases r with
    | error failure =>
      obtain ⟨rfl, rfl⟩ := Program.runs_done.1 hf
      exact Or.inl ⟨failure, by rwa [List.append_nil], rfl⟩
    | ok x => exact Or.inr ⟨x, before, after, ha, hf, rfl⟩
  · rintro (⟨failure, ha, rfl⟩ | ⟨x, before, after, ha, hf, rfl⟩)
    · exact ⟨.error failure, calls, [], ha, .done _, (List.append_nil _).symm⟩
    · exact ⟨.ok x, before, after, ha, hf, rfl⟩

/-- An action after another that has a value in the end: both have one. -/
lemma runs_bind_ok {a : Action α} {f : α → Action β} {y : β} :
    Runs (a >>= f) calls (.ok y) ↔
      ∃ x before after, Runs a before (.ok x) ∧ Runs (f x) after (.ok y) ∧
        calls = before ++ after := by
  simp

/-- Nothing follows a failure. -/
lemma runs_throw_bind {failure : Failure} {f : α → Action β} {result : Except Failure β} :
    Runs (throw failure >>= f) calls result ↔ calls = [] ∧ result = .error failure := by
  simp

/-- A log record leaves no trace in a run. -/
lemma runs_note_bind {level : Log.Level} {source : Log.Source} {text : String}
    {f : Unit → Action β} {result : Except Failure β} :
    Runs (note level source text >>= f) calls result ↔ Runs (f ()) calls result := by
  rw [runs_bind]
  constructor
  · rintro (⟨failure, hnote, rfl⟩ | ⟨u, before, after, hnote, hf, rfl⟩)
    · cases (runs_note.1 hnote).2
    · rw [(runs_note.1 hnote).1, List.nil_append]
      exact hf
  · intro hf
    exact Or.inr ⟨(), [], calls, runs_note.2 ⟨rfl, rfl⟩, hf, rfl⟩

@[simp] lemma runs_map {f : α → β} {a : Action α} {result : Except Failure β} :
    Runs (f <$> a) calls result ↔ ∃ r, Runs a calls r ∧ result = r.map f := by
  rw [← bind_pure_comp, runs_bind]
  constructor
  · rintro (⟨failure, ha, rfl⟩ | ⟨x, before, after, ha, hf, rfl⟩)
    · exact ⟨_, ha, rfl⟩
    · obtain ⟨rfl, rfl⟩ := runs_pure.1 hf
      exact ⟨_, by rwa [List.append_nil], rfl⟩
  · rintro ⟨failure | x, ha, rfl⟩
    · exact Or.inl ⟨failure, ha, rfl⟩
    · exact Or.inr ⟨x, calls, [], ha, runs_pure.2 ⟨rfl, rfl⟩, (List.append_nil _).symm⟩

/-- What follows a failure runs after it; a value is kept. -/
lemma runs_tryCatch {a : Action α} {handle : Failure → Action α} :
    Runs (tryCatch a handle) calls result ↔
      (∃ x, Runs a calls (.ok x) ∧ result = .ok x) ∨
      ∃ failure before after, Runs a before (.error failure) ∧ Runs (handle failure) after result ∧
        calls = before ++ after := by
  refine Program.runs_bind.trans ?_
  constructor
  · rintro ⟨r, before, after, ha, hf, rfl⟩
    cases r with
    | ok x =>
      obtain ⟨rfl, rfl⟩ := Program.runs_done.1 hf
      exact Or.inl ⟨x, by rwa [List.append_nil], rfl⟩
    | error failure => exact Or.inr ⟨failure, before, after, ha, hf, rfl⟩
  · rintro (⟨x, ha, rfl⟩ | ⟨failure, before, after, ha, hf, rfl⟩)
    · exact ⟨.ok x, calls, [], ha, .done _, (List.append_nil _).symm⟩
    · exact ⟨.error failure, before, after, ha, hf, rfl⟩

/-! ## Actions without calls -/

/-- No run of the action makes a call. -/
def IsSilent (a : Action α) : Prop := ∀ calls result, Runs a calls result → calls = []

namespace IsSilent

lemma pure {a : α} : IsSilent (pure a) := fun _ _ h => (runs_pure.1 h).1

lemma throw {failure : Failure} : IsSilent (throw failure : Action α) :=
  fun _ _ h => (runs_throw.1 h).1

lemma ofExcept {e : Except Failure α} : IsSilent (ofExcept e) :=
  fun _ _ h => (runs_ofExcept.1 h).1

lemma note {level : Log.Level} {source : Log.Source} {text : String} :
    IsSilent (note level source text) := fun _ _ h => (runs_note.1 h).1

lemma bind {a : Action α} {f : α → Action β} (ha : IsSilent a) (hf : ∀ x, IsSilent (f x)) :
    IsSilent (a >>= f) := by
  intro calls result h
  rcases runs_bind.1 h with ⟨failure, hfailed, rfl⟩ | ⟨x, before, after, hbefore, hafter, rfl⟩
  · exact ha calls _ hfailed
  · rw [ha before _ hbefore, hf x after _ hafter, List.append_nil]

end IsSilent

/-- An action before something that makes no call makes all the calls. -/
lemma runs_of_runs_bind {a : Action α} {f : α → Action β} (hf : ∀ x, IsSilent (f x))
    {result : Except Failure β} (h : Runs (a >>= f) calls result) : ∃ r, Runs a calls r := by
  rcases runs_bind.1 h with ⟨failure, hfailed, rfl⟩ | ⟨x, before, after, hbefore, hafter, rfl⟩
  · exact ⟨_, hfailed⟩
  · obtain rfl := hf x after _ hafter
    exact ⟨_, by rwa [List.append_nil]⟩

/-- A request before something that makes no call is one call.  There is a value only if the answer
to that call is judged a success. -/
lemma runs_request_bind {call : Call} {ignored : List Int} {f : Response → Action α}
    (hf : ∀ response, IsSilent (f response)) (h : Runs (request call ignored >>= f) calls result) :
    ∃ answer, calls = [(call, answer)] ∧ ∀ a, result = .ok a →
      ∃ response, answer.judge call.method call.path ignored = .ok response := by
  rcases runs_bind.1 h with ⟨failure, hfailed, rfl⟩ |
    ⟨response, before, after, hbefore, hafter, rfl⟩
  · obtain ⟨answer, rfl, -⟩ := runs_request.1 hfailed
    exact ⟨answer, rfl, fun _ hresult => nomatch hresult⟩
  · obtain ⟨answer, rfl, hanswer⟩ := runs_request.1 hbefore
    obtain rfl := hf response after _ hafter
    exact ⟨answer, rfl, fun _ _ => ⟨response, hanswer.symm⟩⟩

/-- Every transcript of an action is a run of it. -/
lemma runs_transcript (serve : ω → Call → Answer × ω) (a : Action α) (s : Shared) (outside : ω) :
    Runs a ((Activity.ofAction a).transcript serve s outside).calls
      ((Activity.ofAction a).transcript serve s outside).result := by
  obtain ⟨log, hlog⟩ := Task.runAlone_ofProgram (recording serve) a.run (outside, [])
  obtain ⟨calls, hcalls, h⟩ := Program.runs_run serve a.run outside []
  have ht : (Activity.ofAction a).transcript serve s outside =
      ⟨(a.run.run (recording serve) (outside, [])).1, { s with log := s.log ++ log },
        (a.run.run (recording serve) (outside, [])).2.1,
        (a.run.run (recording serve) (outside, [])).2.2⟩ := by
    rw [Activity.transcript, Activity.run, Activity.ofAction, ExceptT.run_mk, hlog s]
  rw [ht, hcalls, List.nil_append]
  exact h

end Action

end SearchIndex
