/-
# Activities that leave the managers alone

Most of what a manager does between two looks at its own state leaves all managers as they are, and
nobody starts or stops using the processor (`Shared.SameHolders`).  An activity is tame if this
holds of each of its ends and if it also avoids certain failures (`Activity.IsTame`).  The second
part may rest on an assumption, because an activity may go on with an answer that it has got.

What is made of tame activities is tame, so that this is shown of each part of an activity once.
-/
import SearchIndex.Proofs.Concurrency.Completion
import SearchIndex.Proofs.Service.Failures

namespace SearchIndex

variable {α β : Type}

/-- The managers are the same, and the processor has as many users. -/
def Shared.SameHolders (s s' : Shared) : Prop :=
  s'.managers = s.managers ∧ s'.processor.users = s.processor.users

namespace Shared.SameHolders

variable {s s' s'' : Shared}

lemma refl (s : Shared) : s.SameHolders s := ⟨rfl, rfl⟩

lemma trans (h : s.SameHolders s') (h' : s'.SameHolders s'') : s.SameHolders s'' :=
  ⟨h'.1.trans h.1, h'.2.trans h.2⟩

end Shared.SameHolders

lemma Shared.Works.sameHolders {s s' : Shared} (h : s.Works s') : s.SameHolders s' :=
  ⟨h.frame.1, h.frame.2.2⟩

namespace Activity

/-- An activity that starts with certain managers, leaves them alone, and avoids certain failures if
something is assumed and no call of its own is answered with one of them. -/
def IsTame (bad : Failure → Prop) (assumed : Prop) (managers : Table Manager) (a : Activity α) :
    Prop :=
  ∀ s trace result s', a.Ends s trace result s' → s.managers = managers →
    s.SameHolders s' ∧ (assumed → (∀ x ∈ trace, x.2.Admits bad) → Avoids bad result)

namespace IsTame

variable {bad : Failure → Prop} {assumed : Prop} {managers : Table Manager}

/-- What follows an activity may assume of its value what the activity ensures when none of the
failures comes as an answer. -/
lemma bind_of {a : Activity α} {f : α → Activity β} (ensured : α → Prop)
    (ha : IsTame bad assumed managers a)
    (hensured : ∀ {s trace x s'}, a.Ends s trace (.ok x) s' → s.managers = managers → assumed →
      (∀ y ∈ trace, y.2.Admits bad) → ensured x)
    (hf : ∀ x, IsTame bad (assumed ∧ ensured x) managers (f x)) :
    IsTame bad assumed managers (a >>= f) := by
  intro s trace result s' h hs
  rcases ends_bind.1 h with ⟨failure, hfailed, rfl⟩ |
    ⟨x, s₁, before, after, hbefore, hafter, rfl⟩
  · obtain ⟨hsame, havoids⟩ := ha s trace _ s' hfailed hs
    exact ⟨hsame, fun hassumed htrace => (havoids hassumed htrace).error rfl⟩
  · obtain ⟨hsame, -⟩ := ha s before _ s₁ hbefore hs
    -- the managers are still those that it started with, so the rest is tame for them
    obtain ⟨hsame', havoids⟩ := hf x s₁ after result s' hafter (hsame.1.trans hs)
    refine ⟨hsame.trans hsame', fun hassumed htrace => ?_⟩
    have hx := hensured hbefore hs hassumed fun y hy => htrace y (List.mem_append_left after hy)
    exact havoids ⟨hassumed, hx⟩ fun y hy => htrace y (List.mem_append_right before hy)

lemma mono {a : Activity α} {weaker : Prop} (ha : IsTame bad weaker managers a)
    (hweaker : assumed → weaker) : IsTame bad assumed managers a := by
  intro s trace result s' h hs
  obtain ⟨hsame, havoids⟩ := ha s trace result s' h hs
  exact ⟨hsame, fun hassumed => havoids (hweaker hassumed)⟩

lemma bind {a : Activity α} {f : α → Activity β} (ha : IsTame bad assumed managers a)
    (hf : ∀ x, IsTame bad assumed managers (f x)) : IsTame bad assumed managers (a >>= f) :=
  ha.bind_of (fun _ => True) (fun _ _ _ _ => trivial) fun x => (hf x).mono And.left

/-- What follows a call may assume that its answer is none of the failures. -/
lemma call_bind {request : Call} {f : Answer → Activity β}
    (hf : ∀ answer, IsTame bad (assumed ∧ answer.Admits bad) managers (f answer)) :
    IsTame bad assumed managers (call request >>= f) := by
  refine bind_of (fun answer => answer.Admits bad) ?_ ?_ hf
  · intro s trace result s' h hs
    obtain ⟨answer, -, rfl, hworks⟩ := ends_call.1 h
    exact ⟨hworks.sameHolders, fun _ _ => avoids_ok answer⟩
  · intro s trace x s' h _ _ htrace
    obtain ⟨answer, rfl, hx, -⟩ := ends_call.1 h
    obtain rfl := Except.ok.inj hx
    exact htrace (request, x) List.mem_cons_self

/-- What follows a look at what is shared may use what it has seen of the managers. -/
lemma look_bind {f : Shared → Activity β}
    (hf : ∀ s, s.managers = managers → IsTame bad assumed managers (f s)) :
    IsTame bad assumed managers (look >>= f) := by
  intro s trace result s' h hs
  exact hf s hs s trace result s' (ends_look_bind.1 h) hs

lemma ofExcept {e : Except Failure α} (he : assumed → Avoids bad e) :
    IsTame bad assumed managers (ofExcept e) := by
  intro s trace result s' h hs
  obtain ⟨rfl, rfl, rfl⟩ := ends_ofExcept.1 h
  exact ⟨.refl _, fun hassumed _ => he hassumed⟩

lemma throw {failure : Failure} (hf : assumed → ¬bad failure) :
    IsTame bad assumed managers (throw failure : Activity α) :=
  ofExcept fun hassumed => avoids_error (hf hassumed)

lemma pure (a : α) : IsTame bad assumed managers (pure a : Activity α) :=
  ofExcept fun _ => avoids_ok a

lemma change {f : Shared → Shared} (hf : ∀ s : Shared, s.SameHolders (f s)) :
    IsTame bad assumed managers (change f) := by
  intro s trace result s' h hs
  obtain ⟨rfl, rfl, rfl⟩ := ends_change.1 h
  exact ⟨hf s, fun _ _ => avoids_ok ()⟩

lemma note (level : Log.Level) (source : Log.Source) (text : String) :
    IsTame bad assumed managers (note level source text) := change fun _ => ⟨rfl, rfl⟩

lemma step {f : Shared → Shared × α} (hf : ∀ s : Shared, s.SameHolders (f s).1) :
    IsTame bad assumed managers (step f) := by
  intro s trace result s' h hs
  obtain ⟨rfl, rfl, rfl⟩ := ends_step.1 h
  exact ⟨hf s, fun _ _ => avoids_ok _⟩

lemma attempt {f : Shared → Except Failure (Shared × α)}
    (hf : ∀ s after a, f s = .ok (after, a) → s.SameHolders after)
    (havoids : ∀ s, assumed → Avoids bad (f s)) : IsTame bad assumed managers (attempt f) := by
  intro s trace result s' h hs
  obtain ⟨rfl, rfl, rfl⟩ := ends_attempt.1 h
  refine ⟨?_, fun hassumed _ => (havoids s hassumed).map _⟩
  cases hresult : f s with
  | error failure =>
    rw [attempted, hresult]
    exact .refl s
  | ok done =>
    obtain ⟨after, a⟩ := done
    rw [attempted, hresult]
    exact hf s after a hresult

lemma waitUntil (ready : Shared → Bool) : IsTame bad assumed managers (waitUntil ready) := by
  intro s trace result s' h hs
  obtain ⟨rfl, rfl, hworks, -⟩ := ends_waitUntil.1 h
  exact ⟨hworks.sameHolders, fun _ _ => avoids_ok ()⟩

lemma ofAction {a : Action α} (ha : assumed → a.Avoids bad) :
    IsTame bad assumed managers (ofAction a) := by
  intro s trace result s' h hs
  obtain ⟨hruns, hmanagers, -, husers⟩ := ends_ofAction h
  exact ⟨⟨hmanagers, husers⟩, fun hassumed htrace => ha hassumed trace result hruns htrace⟩

/-- What becomes of an activity is looked at by what follows, which may assume that the failure is
none of the avoided ones. -/
lemma outcome_bind {a : Activity α} {f : Except Failure α → Activity β}
    (ha : IsTame bad assumed managers a)
    (hf : ∀ r, IsTame bad (assumed ∧ Avoids bad r) managers (f r)) :
    IsTame bad assumed managers (outcome a >>= f) := by
  refine bind_of (Avoids bad) ?_ ?_ hf
  · intro s trace result s' h hs
    obtain ⟨r, hends, rfl⟩ := ends_outcome.1 h
    exact ⟨(ha s trace r s' hends hs).1, fun _ _ => avoids_ok r⟩
  · intro s trace x s' h hs hassumed htrace
    obtain ⟨r, hends, hx⟩ := ends_outcome.1 h
    obtain rfl := Except.ok.inj hx
    exact (ha s trace x s' hends hs).2 hassumed htrace

end IsTame

end Activity

end SearchIndex
