/-
# Transcripts of activities

An activity that runs alone against a service has a transcript: its result, what is shared after
it, and the calls that were made with their answers, in order.  The service is arbitrary.  It may
keep a state of its own and answer as it likes, so a statement about the transcripts against every
service is one about every sequence of answers.

The transcript of one activity after another is the transcript of the first followed by that of the
second (`Transcript.andThen`); the other lemmas give the transcripts of the activities out of which
all others are made.
-/
import Mathlib.Tactic
import SearchIndex.Concurrency.Schedule

namespace SearchIndex

variable {ω α β : Type} (serve : ω → Call → Answer × ω)

/-! ## Services that keep a record -/

/-- A service that keeps a record of the calls that it answers and of its answers. -/
def recording (outside : ω × List (Call × Answer)) (call : Call) :
    Answer × (ω × List (Call × Answer)) :=
  ((serve outside.1 call).1,
    (serve outside.1 call).2, outside.2 ++ [(call, (serve outside.1 call).1)])

/-- An outside with earlier calls put before its record. -/
def withEarlier (earlier : List (Call × Answer)) (outside : ω × List (Call × Answer)) :
    ω × List (Call × Answer) :=
  (outside.1, earlier ++ outside.2)

/-- What was recorded before a call has no influence on it. -/
lemma recording_withEarlier (earlier : List (Call × Answer)) (outside : ω × List (Call × Answer))
    (call : Call) :
    recording serve (withEarlier earlier outside) call =
      ((recording serve outside call).1,
        withEarlier earlier (recording serve outside call).2) := by
  simp [recording, withEarlier]

namespace Processor

lemma advance?_withEarlier (earlier : List (Call × Answer)) (p : Processor)
    (outside : ω × List (Call × Answer)) :
    p.advance? (recording serve) (withEarlier earlier outside) =
      (p.advance? (recording serve) outside).map fun r => (r.1, withEarlier earlier r.2) := by
  unfold advance?
  cases p.awaiting? with
  | none =>
    simp only
    split
    · rfl
    · cases p.workers.findIdx? Worker.isIdle <;> rfl
  | some waiting =>
    obtain ⟨i, call⟩ := waiting
    simp [recording_withEarlier]

lemma settleFor_withEarlier (earlier : List (Call × Answer)) (fuel : Nat) (p : Processor)
    (outside : ω × List (Call × Answer)) :
    p.settleFor (recording serve) fuel (withEarlier earlier outside) =
      ((p.settleFor (recording serve) fuel outside).1,
        withEarlier earlier (p.settleFor (recording serve) fuel outside).2) := by
  induction fuel generalizing p outside with
  | zero => rfl
  | succ fuel ih =>
    simp only [settleFor, advance?_withEarlier]
    cases p.advance? (recording serve) outside with
    | none => rfl
    | some r => exact ih r.1 r.2

end Processor

/-- What was recorded before a task has no influence on it. -/
lemma Task.runAlone_withEarlier (earlier : List (Call × Answer)) (t : Task Shared α) (s : Shared)
    (outside : ω × List (Call × Answer)) :
    t.runAlone (recording serve) s (withEarlier earlier outside) =
      ((t.runAlone (recording serve) s outside).1,
        (t.runAlone (recording serve) s outside).2.1,
        withEarlier earlier (t.runAlone (recording serve) s outside).2.2) := by
  induction t generalizing s outside with
  | done result => rfl
  | atomic change next ih => exact ih s (change s) outside
  | call request next ih =>
    simp only [runAlone, recording_withEarlier]
    exact ih _ s _
  | wait ready next ih =>
    simp only [runAlone, Processor.settle, Processor.settleFor_withEarlier]
    split
    · exact ih s outside
    · exact ih _ _

/-- A task after another runs from where the first one ended. -/
lemma Task.runAlone_bind (t : Task Shared α) (f : α → Task Shared β) (s : Shared) (outside : ω) :
    (t >>= f).runAlone serve s outside =
      (f (t.runAlone serve s outside).1).runAlone serve (t.runAlone serve s outside).2.1
        (t.runAlone serve s outside).2.2 := by
  induction t generalizing s outside with
  | done result => rfl
  | atomic change next ih => exact ih s (change s) outside
  | call request next ih => exact ih _ s _
  | wait ready next ih =>
    change (Task.wait ready (next >>= f)).runAlone serve s outside = _
    simp only [runAlone]
    split
    · exact ih s outside
    · exact ih _ _

/-! ## Transcripts -/

/-- What is seen of an activity that has run alone. -/
@[ext]
structure Transcript (ω α : Type) where
  /-- Its result. -/
  result : Except Failure α
  /-- What is shared after it. -/
  shared : Shared
  /-- The state of the service after it. -/
  outside : ω
  /-- The calls with their answers, in order. -/
  calls : List (Call × Answer)

namespace Transcript

/-- The transcript of an activity followed by another one, which has the value of the first and
does not run if there is none. -/
def andThen (t : Transcript ω α) (next : α → Shared → ω → Transcript ω β) : Transcript ω β :=
  match t.result with
  | .ok a =>
    let later := next a t.shared t.outside
    { later with calls := t.calls ++ later.calls }
  | .error failure => ⟨.error failure, t.shared, t.outside, t.calls⟩

@[simp] lemma andThen_ok (a : α) (s : Shared) (outside : ω) (calls : List (Call × Answer))
    (next : α → Shared → ω → Transcript ω β) :
    (⟨.ok a, s, outside, calls⟩ : Transcript ω α).andThen next =
      { next a s outside with calls := calls ++ (next a s outside).calls } := rfl

@[simp] lemma andThen_error (failure : Failure) (s : Shared) (outside : ω)
    (calls : List (Call × Answer)) (next : α → Shared → ω → Transcript ω β) :
    (⟨.error failure, s, outside, calls⟩ : Transcript ω α).andThen next =
      ⟨.error failure, s, outside, calls⟩ := rfl

end Transcript

namespace Activity

/-- The transcript of an activity that runs alone. -/
def transcript (a : Activity α) (s : Shared) (outside : ω) : Transcript ω α :=
  let r := a.run (recording serve) s (outside, [])
  ⟨r.1, r.2.1, r.2.2.1, r.2.2.2⟩

variable {serve} {s : Shared} {outside : ω}

@[simp] lemma transcript_bind (a : Activity α) (f : α → Activity β) :
    (a >>= f).transcript serve s outside =
      (a.transcript serve s outside).andThen fun x s' outside' =>
        (f x).transcript serve s' outside' := by
  have hrun : (a >>= f).run (recording serve) s (outside, []) =
      Task.runAlone (recording serve)
        (ExceptT.bindCont f (a.run (recording serve) s (outside, [])).1)
        (a.run (recording serve) s (outside, [])).2.1
        (a.run (recording serve) s (outside, [])).2.2 :=
    Task.runAlone_bind _ _ _ _ _
  rw [transcript, hrun, transcript]
  generalize a.run (recording serve) s (outside, []) = r
  obtain ⟨_ | x, s', o⟩ := r
  · rfl
  · -- the second activity starts with the record of the first one
    have hearlier := Task.runAlone_withEarlier serve o.2 (f x) s' (o.1, [])
    simp only [withEarlier, List.append_nil, Prod.mk.eta] at hearlier
    simp only [ExceptT.bindCont, Transcript.andThen_ok, transcript, run, ExceptT.run]
    rw [hearlier]

@[simp] lemma transcript_pure (a : α) :
    (pure a : Activity α).transcript serve s outside = ⟨.ok a, s, outside, []⟩ := rfl

@[simp] lemma transcript_throw (failure : Failure) :
    (throw failure : Activity α).transcript serve s outside =
      ⟨.error failure, s, outside, []⟩ := rfl

@[simp] lemma transcript_look :
    look.transcript serve s outside = ⟨.ok s, s, outside, []⟩ := rfl

@[simp] lemma transcript_change (f : Shared → Shared) :
    (change f).transcript serve s outside = ⟨.ok (), f s, outside, []⟩ := rfl

@[simp] lemma transcript_step (f : Shared → Shared × α) :
    (step f).transcript serve s outside = ⟨.ok (f s).2, (f s).1, outside, []⟩ := rfl

@[simp] lemma transcript_ofExcept (e : Except Failure α) :
    (ofExcept e).transcript serve s outside = ⟨e, s, outside, []⟩ := rfl

@[simp] lemma transcript_call (request : Call) :
    (call request).transcript serve s outside =
      ⟨.ok (serve outside request).1, s, (serve outside request).2,
        [(request, (serve outside request).1)]⟩ := rfl

@[simp] lemma transcript_map (f : α → β) (a : Activity α) :
    (f <$> a).transcript serve s outside =
      { a.transcript serve s outside with
        result := (a.transcript serve s outside).result.map f } := by
  rw [← bind_pure_comp, transcript_bind]
  obtain ⟨_ | x, s', outside', calls⟩ := a.transcript serve s outside
  · rfl
  · simp [Except.map]

@[simp] lemma transcript_note (level : Log.Level) (source : Log.Source) (text : String) :
    (note level source text).transcript serve s outside =
      ⟨.ok (), s.record ⟨level, source, text⟩, outside, []⟩ := rfl

end Activity

/-! ## Actions -/

/-- A program as a task runs as the program does, and changes nothing but the log.  What it writes
there does not depend on what is shared. -/
lemma Task.runAlone_ofProgram (p : Program α) (outside : ω) : ∃ log, ∀ s,
    (Task.ofProgram Shared.record p).runAlone serve s outside =
      ((p.run serve outside).1, { s with log := s.log ++ log }, (p.run serve outside).2) := by
  induction p generalizing outside with
  | done result =>
    refine ⟨[], fun s => ?_⟩
    rw [List.append_nil]
    rfl
  | call request next ih => exact ih (serve outside request).1 (serve outside request).2
  | log entry next ih =>
    obtain ⟨log, hlog⟩ := ih outside
    refine ⟨entry :: log, fun s => ?_⟩
    have hstep := hlog (s.record entry)
    rw [Shared.record, List.append_assoc, List.singleton_append] at hstep
    exact hstep

/-- One program after another, as tasks. -/
lemma Task.ofProgram_bind (record : Log.Entry → Shared → Shared) (p : Program α)
    (f : α → Program β) :
    Task.ofProgram record (p >>= f) =
      Task.ofProgram record p >>= fun a => Task.ofProgram record (f a) := by
  induction p with
  | done result => rfl
  | call request next ih => exact congrArg (Task.call request) (funext ih)
  | log entry next ih =>
    exact congrArg (Task.atomic (record entry)) (funext fun _ => ih)

namespace Activity

/-- An action changes nothing but the log, and nothing that is shared has an influence on it. -/
lemma transcript_ofAction (a : Action α) (outside : ω) : ∃ result outside' calls log, ∀ s,
    (ofAction a).transcript serve s outside =
      ⟨result, { s with log := s.log ++ log }, outside', calls⟩ := by
  obtain ⟨log, hlog⟩ := Task.runAlone_ofProgram (recording serve) a.run (outside, [])
  let r := Program.run (recording serve) a.run (outside, [])
  refine ⟨r.1, r.2.1, r.2.2, log, fun s => ?_⟩
  rw [transcript, run, ofAction, ExceptT.run_mk, hlog s]

@[simp] lemma ofAction_pure (a : α) : ofAction (pure a) = pure a := rfl

@[simp] lemma ofAction_throw (failure : Failure) :
    ofAction (throw failure : Action α) = throw failure := rfl

@[simp] lemma ofAction_ofExcept (e : Except Failure α) :
    ofAction (Action.ofExcept e) = ofExcept e := rfl

@[simp] lemma ofAction_note (level : Log.Level) (source : Log.Source) (text : String) :
    ofAction (Action.note level source text) = note level source text := rfl

@[simp] lemma ofAction_bind (a : Action α) (f : α → Action β) :
    ofAction (a >>= f) = ofAction a >>= fun x => ofAction (f x) := by
  refine (Task.ofProgram_bind Shared.record a.run (ExceptT.bindCont f)).trans ?_
  refine congrArg (Task.bind (Task.ofProgram Shared.record a.run)) (funext fun r => ?_)
  cases r <;> rfl

@[simp] lemma ofAction_map (f : α → β) (a : Action α) : ofAction (f <$> a) = f <$> ofAction a := by
  rw [← bind_pure_comp, ofAction_bind, ← bind_pure_comp]
  rfl

variable {serve} {s : Shared} {outside : ω}

/-- A request of an action is one call, whose answer is judged. -/
lemma transcript_request (request : Call) (ignored : List Int) : ∃ log,
    (ofAction (Action.request request ignored)).transcript serve s outside =
      ⟨(serve outside request).1.judge request.method request.path ignored,
        { s with log := s.log ++ log }, (serve outside request).2,
        [(request, (serve outside request).1)]⟩ := by
  cases hanswer : (serve outside request).1 with
  | reply status body =>
    refine ⟨[⟨.debug, .client, s!"{request.method} {request.path} -> {status}"⟩], ?_⟩
    simp only [transcript, run, ofAction, Action.request, ExceptT.run_mk, Task.ofProgram,
      Task.runAlone, recording, hanswer]
    rfl
  | unreachable | unsent =>
    refine ⟨[], ?_⟩
    simp only [transcript, run, ofAction, Action.request, ExceptT.run_mk, Task.ofProgram,
      Task.runAlone, recording, hanswer, List.append_nil]
    rfl

end Activity

end SearchIndex
