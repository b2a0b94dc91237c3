/-
# Actions before a service

A service that is a function of its state and the call decides what becomes of an action: its value
or failure, and the state of the service after it (`Action.served`).  What is served to an action
made of others is what is served to those, one after another; an activity that is an action comes
to the same (`Action.transcript_of_served`).
-/
import SearchIndex.Proofs.Service.Runs

namespace SearchIndex

variable {ω α β : Type} {serve : ω → Call → Answer × ω} {outside after : ω}

namespace Program

/-- A program after another one is run from where that one ended. -/
lemma run_bind (p : Program α) (f : α → Program β) (outside : ω) :
    (p >>= f).run serve outside =
      (f (p.run serve outside).1).run serve (p.run serve outside).2 := by
  induction p generalizing outside with
  | done a => rfl
  | call request next ih => exact ih (serve outside request).1 (serve outside request).2
  | log entry next ih => exact ih outside

/-- Keeping a record changes nothing of how a program runs. -/
lemma run_recording (serve : ω → Call → Answer × ω) (p : Program α) (outside : ω)
    (earlier : List (Call × Answer)) :
    ∃ calls, p.run (recording serve) (outside, earlier) =
      ((p.run serve outside).1, (p.run serve outside).2, calls) := by
  induction p generalizing outside earlier with
  | done a => exact ⟨earlier, rfl⟩
  | call request next ih => exact ih (serve outside request).1 (serve outside request).2 _
  | log entry next ih => exact ih outside earlier

end Program

namespace Action

/-- What becomes of an action before a service, and the state of the service after it. -/
def served (serve : ω → Call → Answer × ω) (a : Action α) (outside : ω) : Except Failure α × ω :=
  a.run.run serve outside

@[simp] lemma served_pure (a : α) :
    (pure a : Action α).served serve outside = (.ok a, outside) := rfl

@[simp] lemma served_ofExcept (e : Except Failure α) :
    (ofExcept e).served serve outside = (e, outside) := rfl

@[simp] lemma served_note (level : Log.Level) (source : Log.Source) (text : String) :
    (note level source text).served serve outside = (.ok (), outside) := rfl

/-- A request is answered by the service and the answer judged. -/
lemma served_request (call : Call) (ignored : List Int) :
    (request call ignored).served serve outside =
      ((serve outside call).1.judge call.method call.path ignored, (serve outside call).2) := by
  rw [served, request, ExceptT.run_mk, Program.run]
  obtain ⟨answer, after⟩ := serve outside call
  cases answer with
  | reply status body => rfl
  | unreachable reason => rfl
  | unsent reason => rfl

/-- An action after one that has a value is served from where that one ended. -/
lemma served_bind_of_ok {a : Action α} {f : α → Action β} {x : α}
    (h : a.served serve outside = (.ok x, after)) :
    (a >>= f).served serve outside = (f x).served serve after := by
  refine (Program.run_bind a.run (ExceptT.bindCont f) outside).trans ?_
  have hrun : a.run.run serve outside = (.ok x, after) := h
  rw [hrun]
  rfl

/-- Nothing is served after an action that has failed. -/
lemma served_bind_of_error {a : Action α} {f : α → Action β} {failure : Failure}
    (h : a.served serve outside = (.error failure, after)) :
    (a >>= f).served serve outside = (.error failure, after) := by
  refine (Program.run_bind a.run (ExceptT.bindCont f) outside).trans ?_
  have hrun : a.run.run serve outside = (.error failure, after) := h
  rw [hrun]
  rfl

/-- There is nothing to handle after an action that has a value. -/
lemma served_tryCatch_of_ok {a : Action α} {handle : Failure → Action α} {x : α}
    (h : a.served serve outside = (.ok x, after)) :
    (tryCatch a handle).served serve outside = (.ok x, after) := by
  refine (Program.run_bind a.run _ outside).trans ?_
  have hrun : a.run.run serve outside = (.ok x, after) := h
  rw [hrun]
  rfl

/-- As an activity, an action ends as it is served, and changes nothing but the log. -/
lemma transcript_of_served {a : Action α} {result : Except Failure α}
    (h : a.served serve outside = (result, after)) (s : Shared) : ∃ log calls,
    (Activity.ofAction a).transcript serve s outside =
      ⟨result, { s with log := log }, after, calls⟩ := by
  obtain ⟨log, hlog⟩ := Task.runAlone_ofProgram (recording serve) a.run (outside, [])
  obtain ⟨calls, hcalls⟩ := Program.run_recording serve a.run outside []
  have hrun : a.run.run serve outside = (result, after) := h
  rw [hrun] at hcalls
  refine ⟨s.log ++ log, calls, ?_⟩
  rw [Activity.transcript, Activity.run, Activity.ofAction, ExceptT.run_mk, hlog s, hcalls]

end Action

end SearchIndex
