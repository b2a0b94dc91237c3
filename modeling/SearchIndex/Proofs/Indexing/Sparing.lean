/-
# Tasks that spare the tickets

Carrying out requests at once, taking and giving up the processor and stopping the workers are not
about tickets: each atomic piece of such a task spares the processor, so the task is said to spare
it (`Task.Spares`).  What is made of sparing tasks is sparing, which is shown of each part of an
activity once.

While such a task runs, workers may go on wherever it waits, so that the processor drifts
(`Processor.Drifts`): what workers keep, and what is kept where nothing but monitors, users and
stopped workers change, is kept to the end of the task.
-/
import SearchIndex.Proofs.Concurrency.Completion
import SearchIndex.Proofs.Indexing.Custody

namespace SearchIndex

variable {α β : Type}

/-! ## Tasks -/

/-- The processor has been spared but for the work of its workers. -/
def Processor.Drifts : Processor → Processor → Prop :=
  Relation.ReflTransGen fun p p' => p.WorkersStep p' ∨ p.Spares p'

namespace Processor.Drifts

lemma of_spares {p p' : Processor} (h : p.Spares p') : p.Drifts p' := .single (Or.inr h)

lemma of_works {s s' : Shared} (h : s.Works s') : s.processor.Drifts s'.processor := by
  obtain ⟨p, hp, rfl⟩ := h
  exact Relation.ReflTransGen.mono (fun _ _ => Or.inl) _ _ hp

/-- What workers keep, and what is kept where tickets are spared, is kept. -/
lemma keeps {p p' : Processor} (h : p.Drifts p') {I : Processor → Prop} (hI : I p)
    (hworks : ∀ p p', I p → p.WorkersStep p' → I p') (hspares : ∀ p p', I p → p.Spares p' → I p') :
    I p' := by
  induction h with
  | refl => exact hI
  | tail _ hstep ih => exact hstep.elim (hworks _ _ ih) (hspares _ _ ih)

end Processor.Drifts

namespace Task

/-- Each atomic piece of a task spares the processor. -/
def Spares : Task Shared α → Prop
  | .done _ => True
  | .atomic change next =>
    (∀ s : Shared, s.processor.Spares (change s).processor) ∧ ∀ s, (next s).Spares
  | .call _ next => ∀ answer, (next answer).Spares
  | .wait _ next => next.Spares

lemma Spares.bind {t : Task Shared α} {f : α → Task Shared β} (ht : t.Spares)
    (hf : ∀ a, (f a).Spares) : (t >>= f).Spares := by
  induction t with
  | done a => exact hf a
  | atomic change next ih => exact ⟨ht.1, fun s => ih s (ht.2 s)⟩
  | call request next ih => exact fun answer => ih answer (ht answer)
  | wait ready next ih => exact ih ht

/-- Up to its first stop a sparing task spares the processor, and so does what is left of it. -/
lemma Spares.untilWait {t : Task Shared α} (ht : t.Spares) (s : Shared) :
    s.processor.Spares (t.untilWait s).2.processor ∧ (t.untilWait s).1.Spares := by
  induction t generalizing s with
  | done a => exact ⟨.refl _, trivial⟩
  | atomic change next ih =>
    obtain ⟨hspares, hrest⟩ := ih s (ht.2 s) (change s)
    exact ⟨(ht.1 s).trans hspares, hrest⟩
  | call request next => exact ⟨.refl _, ht⟩
  | wait ready next => exact ⟨.refl _, ht⟩

/-- While a sparing task runs to its end, the processor drifts. -/
lemma Spares.drifts {t : Task Shared α} {s s' : Shared} {trace : List (Call × Answer)} {result : α}
    (ht : t.Spares) (h : t.Completes s trace result s') : s.processor.Drifts s'.processor := by
  induction h with
  | done result s => exact .refl
  | @atomic change next s s' trace result h ih =>
    exact (Processor.Drifts.of_spares (ht.1 s)).trans (ih (ht.2 s))
  | call answer hworks h ih => exact (Processor.Drifts.of_works hworks).trans (ih (ht answer))
  | wait hworks hready h ih => exact (Processor.Drifts.of_works hworks).trans (ih ht)

lemma spares_ofProgram (p : Program α) : (ofProgram Shared.record p).Spares := by
  induction p with
  | done a => trivial
  | call request next ih => exact ih
  | log entry next ih => exact ⟨fun s => .refl _, fun _ => ih⟩

end Task

/-! ## Activities -/

namespace Activity

/-- Each atomic piece of an activity spares the processor. -/
def Spares (a : Activity α) : Prop := Task.Spares (ExceptT.run a)

lemma Spares.drifts {a : Activity α} {s s' : Shared} {trace : List (Call × Answer)}
    {result : Except Failure α} (ha : Spares a) (h : a.Ends s trace result s') :
    s.processor.Drifts s'.processor := Task.Spares.drifts ha h

lemma spares_pure (a : α) : Spares (pure a) := trivial

lemma spares_throw (failure : Failure) : Spares (throw failure : Activity α) := trivial

lemma spares_ofExcept (e : Except Failure α) : Spares (ofExcept e) := trivial

lemma spares_bind {a : Activity α} {f : α → Activity β} (ha : Spares a) (hf : ∀ x, Spares (f x)) :
    Spares (a >>= f) := by
  refine Task.Spares.bind ha fun r => ?_
  cases r with
  | error failure => trivial
  | ok x => exact hf x

lemma spares_look : Spares look := ⟨fun _ => .refl _, fun _ => trivial⟩

lemma spares_change {f : Shared → Shared} (hf : ∀ s : Shared, s.processor.Spares (f s).processor) :
    Spares (change f) := ⟨hf, fun _ => trivial⟩

lemma spares_step {f : Shared → Shared × α}
    (hf : ∀ s : Shared, s.processor.Spares (f s).1.processor) : Spares (step f) :=
  ⟨hf, fun _ => trivial⟩

lemma spares_attempt {f : Shared → Except Failure (Shared × α)}
    (hf : ∀ s after a, f s = .ok (after, a) → s.processor.Spares after.processor) :
    Spares (attempt f) := by
  refine ⟨fun s => ?_, fun _ => trivial⟩
  rw [attempted]
  split
  · rename_i after a hresult
    exact hf s after a hresult
  · exact .refl _

lemma spares_waitUntil (ready : Shared → Bool) : Spares (waitUntil ready) := trivial

lemma spares_call (request : Call) : Spares (call request) := fun _ => trivial

lemma spares_note (level : Log.Level) (source : Log.Source) (text : String) :
    Spares (note level source text) := spares_change fun _ => .refl _

lemma spares_ofAction (a : Action α) : Spares (ofAction a) := Task.spares_ofProgram a.run

end Activity

/-! ## What spares the tickets -/

namespace Execution

open Activity

lemma spares_report (group : List WorkRequest) (verdict : Verdict) :
    Spares (report group verdict) := by
  rw [report]
  dsimp only
  split
  · exact spares_pure ()
  · refine spares_bind (spares_step fun s => Processor.spares_notifyAll s.processor _)
      fun raised => ?_
    split
    · exact spares_bind (spares_throw _) fun _ => spares_throw _
    · exact spares_throw _

lemma spares_runGroups (groups : List (List WorkRequest)) : Spares (runGroups groups) := by
  induction groups with
  | nil => exact spares_pure ()
  | cons group rest ih =>
    exact spares_bind (spares_call _) fun answer => spares_bind (spares_report _ _) fun _ => ih

lemma spares_runNow (requests : List WorkRequest) : Spares (runNow requests) := by
  refine spares_bind spares_look fun s => spares_bind (spares_runGroups _) fun _ => ?_
  rw [refresh]
  dsimp only
  split
  · exact spares_pure ()
  · exact spares_bind (spares_call _) fun answer => spares_bind (spares_ofExcept _) fun _ =>
      spares_pure ()

lemma spares_shutdown : Spares shutdown := by
  have hstop : Spares (do
      change fun s => s.mapProcessor Processor.stop
      note .info .processor "Backend request processor shut down") :=
    spares_bind (spares_change fun s => Processor.spares_stop s.processor) fun _ => spares_note _ _ _
  have hcancel : Spares (do
      let anyWorker ← step fun s => (s.mapProcessor Processor.cancel, !s.processor.workers.isEmpty)
      if anyWorker then pause
      change fun s => s.mapProcessor Processor.stop
      note .info .processor "Backend request processor shut down") := by
    refine spares_bind (spares_step fun s => Processor.spares_cancel s.processor)
      fun anyWorker => ?_
    split
    · exact spares_bind (spares_waitUntil _) fun _ => hstop
    · exact hstop
  refine spares_bind spares_look fun s => ?_
  dsimp only
  split
  · split
    · exact hcancel
    · exact spares_bind (spares_waitUntil _) fun _ => hcancel
  · exact hcancel

lemma spares_release : Spares release := by
  refine spares_bind (spares_attempt fun s after last hafter => ?_) fun last => ?_
  · split at hafter
    · cases hafter
    · obtain ⟨rfl, -⟩ := Prod.mk.inj (Except.ok.inj hafter)
      exact Processor.spares_users s.processor _
  · split
    · exact spares_shutdown
    · exact spares_pure ()

end Execution

end SearchIndex
