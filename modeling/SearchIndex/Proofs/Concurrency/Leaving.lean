/-
# What activities leave behind

Before a service that is a function of its state and the call, an action keeps an invariant of the
service and, if it has a value, leaves the service as the value says (`Action.Leaves`).  The same is
said of activities that run alone, with what is shared (`Activity.Leaves`).  A failure is no value:
of it only the invariant is told.

What one activity leaves is what the next one finds (`Activity.leaves_bind`); the other lemmas are
about the activities out of which all others are made.
-/
import SearchIndex.Proofs.Service.Served

namespace SearchIndex

variable {ω α β : Type} {serve : ω → Call → Answer × ω}

/-! ## Served calls -/

/-- A service answers calls one after another, and ends in a state. -/
inductive Serves (serve : ω → Call → Answer × ω) : ω → List (Call × Answer) → ω → Prop where
  | nil (outside : ω) : Serves serve outside [] outside
  | cons {outside after : ω} (call : Call) {rest : List (Call × Answer)}
      (h : Serves serve (serve outside call).2 rest after) :
      Serves serve outside ((call, (serve outside call).1) :: rest) after

/-- A program that is run against a service makes calls which the service answers. -/
lemma Program.exists_serves (serve : ω → Call → Answer × ω) (p : Program α) (outside : ω) :
    ∃ calls, Runs p calls (p.run serve outside).1 ∧
      Serves serve outside calls (p.run serve outside).2 := by
  induction p generalizing outside with
  | done a => exact ⟨[], .done a, .nil outside⟩
  | call request next ih =>
    obtain ⟨calls, hruns, hserves⟩ := ih (serve outside request).1 (serve outside request).2
    exact ⟨_, .call _ hruns, .cons request hserves⟩
  | log entry next ih =>
    obtain ⟨calls, hruns, hserves⟩ := ih outside
    exact ⟨calls, .log hruns, hserves⟩

/-! ## Actions -/

namespace Action

variable {I pre : ω → Prop}

/-- Before a service, an action keeps an invariant, and if it has a value it leaves the service as
the value says. -/
def Leaves (serve : ω → Call → Answer × ω) (I pre : ω → Prop) (a : Action α)
    (post : α → ω → Prop) : Prop :=
  ∀ outside, I outside → pre outside → I (a.served serve outside).2 ∧
    ∀ x, (a.served serve outside).1 = .ok x → post x (a.served serve outside).2

lemma leaves_pure {a : α} {post : α → ω → Prop}
    (h : ∀ outside, I outside → pre outside → post a outside) :
    Leaves serve I pre (pure a) post := by
  intro outside hI hpre
  refine ⟨hI, fun x hx => ?_⟩
  obtain rfl := Except.ok.inj hx
  exact h outside hI hpre

lemma leaves_throw {failure : Failure} {post : α → ω → Prop} :
    Leaves serve I pre (throw failure) post :=
  fun _ hI _ => ⟨hI, fun _ hx => nomatch hx⟩

lemma leaves_throw_bind {failure : Failure} {f : α → Action β} {post : β → ω → Prop} :
    Leaves serve I pre (throw failure >>= f) post :=
  fun _ hI _ => ⟨hI, fun _ hx => nomatch hx⟩

lemma leaves_ofExcept {e : Except Failure α} {post : α → ω → Prop}
    (h : ∀ x outside, e = .ok x → I outside → pre outside → post x outside) :
    Leaves serve I pre (ofExcept e) post :=
  fun outside hI hpre => ⟨hI, fun x hx => h x outside hx hI hpre⟩

lemma leaves_note {level : Log.Level} {source : Log.Source} {text : String} :
    Leaves serve I pre (note level source text) fun _ => pre :=
  fun _ hI hpre => ⟨hI, fun _ _ => hpre⟩

/-- A request leaves what its answer says, if that is judged a success. -/
lemma leaves_request {call : Call} {ignored : List Int} {post : Response → ω → Prop}
    (h : ∀ outside, I outside → pre outside → I (serve outside call).2 ∧
      ∀ response, (serve outside call).1.judge call.method call.path ignored = .ok response →
        post response (serve outside call).2) :
    Leaves serve I pre (request call ignored) post := by
  intro outside hI hpre
  rw [served_request]
  exact h outside hI hpre

/-- What an action leaves is what the next one finds. -/
lemma leaves_bind {a : Action α} {f : α → Action β} {M : α → ω → Prop} {post : β → ω → Prop}
    (ha : Leaves serve I pre a M) (hf : ∀ x, Leaves serve I (M x) (f x) post) :
    Leaves serve I pre (a >>= f) post := by
  intro outside hI hpre
  obtain ⟨hI', hleft⟩ := ha outside hI hpre
  rcases hserved : a.served serve outside with ⟨failure | x, after⟩
  · have hbind : (a >>= f).served serve outside = (.error failure, after) := by
      refine (Program.run_bind a.run (ExceptT.bindCont f) outside).trans ?_
      have hrun : a.run.run serve outside = (.error failure, after) := hserved
      rw [hrun]
      rfl
    rw [hserved] at hI'
    rw [hbind]
    exact ⟨hI', fun _ hx => nomatch hx⟩
  · rw [hserved] at hI' hleft
    rw [served_bind_of_ok hserved]
    exact hf x after hI' (hleft x rfl)

/-- What is done about a failure finds the invariant and nothing else. -/
lemma leaves_tryCatch {a : Action α} {handle : Failure → Action α} {post : α → ω → Prop}
    (ha : Leaves serve I pre a post)
    (hhandle : ∀ failure, Leaves serve I (fun _ => True) (handle failure) post) :
    Leaves serve I pre (tryCatch a handle) post := by
  intro outside hI hpre
  obtain ⟨hI', hpost⟩ := ha outside hI hpre
  rcases hserved : a.served serve outside with ⟨failure | x, after⟩
  · have hcatch : (tryCatch a handle).served serve outside =
        (handle failure).served serve after := by
      refine (Program.run_bind a.run _ outside).trans ?_
      have hrun : a.run.run serve outside = (.error failure, after) := hserved
      rw [hrun]
      rfl
    rw [hserved] at hI'
    rw [hcatch]
    exact hhandle failure after hI' trivial
  · have hcatch : (tryCatch a handle).served serve outside = (.ok x, after) := by
      refine (Program.run_bind a.run _ outside).trans ?_
      have hrun : a.run.run serve outside = (.ok x, after) := hserved
      rw [hrun]
      rfl
    rw [hserved] at hI' hpost
    rw [hcatch]
    exact ⟨hI', hpost⟩

end Action

/-! ## Activities -/

namespace Activity

variable {I pre : Shared → ω → Prop}

/-- Run alone before a service, an activity keeps an invariant, and if it has a value it leaves
things as the value says. -/
def Leaves (serve : ω → Call → Answer × ω) (I pre : Shared → ω → Prop) (a : Activity α)
    (post : α → Shared → ω → Prop) : Prop :=
  ∀ s outside, I s outside → pre s outside →
    I (a.run serve s outside).2.1 (a.run serve s outside).2.2 ∧
      ∀ x, (a.run serve s outside).1 = .ok x →
        post x (a.run serve s outside).2.1 (a.run serve s outside).2.2

lemma leaves_pure {a : α} {post : α → Shared → ω → Prop}
    (h : ∀ s outside, I s outside → pre s outside → post a s outside) :
    Leaves serve I pre (pure a) post := by
  intro s outside hI hpre
  refine ⟨hI, fun x hx => ?_⟩
  obtain rfl := Except.ok.inj hx
  exact h s outside hI hpre

lemma leaves_throw {failure : Failure} {post : α → Shared → ω → Prop} :
    Leaves serve I pre (throw failure) post :=
  fun _ _ hI _ => ⟨hI, fun _ hx => nomatch hx⟩

lemma leaves_throw_bind {failure : Failure} {f : α → Activity β} {post : β → Shared → ω → Prop} :
    Leaves serve I pre (throw failure >>= f) post :=
  fun _ _ hI _ => ⟨hI, fun _ hx => nomatch hx⟩

lemma leaves_ofExcept {e : Except Failure α} {post : α → Shared → ω → Prop}
    (h : ∀ x s outside, e = .ok x → I s outside → pre s outside → post x s outside) :
    Leaves serve I pre (ofExcept e) post :=
  fun s outside hI hpre => ⟨hI, fun x hx => h x s outside hx hI hpre⟩

lemma leaves_look {post : Shared → Shared → ω → Prop}
    (h : ∀ s outside, I s outside → pre s outside → post s s outside) :
    Leaves serve I pre look post := by
  intro s outside hI hpre
  refine ⟨hI, fun x hx => ?_⟩
  obtain rfl := Except.ok.inj hx
  exact h s outside hI hpre

lemma leaves_step {f : Shared → Shared × α} {post : α → Shared → ω → Prop}
    (h : ∀ s outside, I s outside → pre s outside →
      I (f s).1 outside ∧ post (f s).2 (f s).1 outside) :
    Leaves serve I pre (step f) post := by
  intro s outside hI hpre
  obtain ⟨hI', hpost⟩ := h s outside hI hpre
  refine ⟨hI', fun x hx => ?_⟩
  obtain rfl := Except.ok.inj hx
  exact hpost

lemma leaves_change {f : Shared → Shared} {post : Unit → Shared → ω → Prop}
    (h : ∀ s outside, I s outside → pre s outside → I (f s) outside ∧ post () (f s) outside) :
    Leaves serve I pre (change f) post := by
  intro s outside hI hpre
  obtain ⟨hI', hpost⟩ := h s outside hI hpre
  exact ⟨hI', fun _ _ => hpost⟩

lemma leaves_attempt {f : Shared → Except Failure (Shared × α)} {post : α → Shared → ω → Prop}
    (h : ∀ s outside, I s outside → pre s outside → ∀ after x, f s = .ok (after, x) →
      I after outside ∧ post x after outside) :
    Leaves serve I pre (attempt f) post := by
  intro s outside hI hpre
  have hrun : (attempt f).run serve s outside = ((f s).map (·.2), attempted f s, outside) := rfl
  rw [hrun]
  rcases hf : f s with failure | ⟨after, x⟩
  · rw [attempted, hf]
    exact ⟨hI, fun _ hx => nomatch hx⟩
  · obtain ⟨hI', hpost⟩ := h s outside hI hpre after x hf
    rw [attempted, hf]
    refine ⟨hI', fun y hy => ?_⟩
    obtain rfl := Except.ok.inj hy
    exact hpost

/-- What an activity leaves is what the next one finds. -/
lemma leaves_bind {a : Activity α} {f : α → Activity β} {M : α → Shared → ω → Prop}
    {post : β → Shared → ω → Prop} (ha : Leaves serve I pre a M)
    (hf : ∀ x, Leaves serve I (M x) (f x) post) : Leaves serve I pre (a >>= f) post := by
  intro s outside hI hpre
  obtain ⟨hI', hleft⟩ := ha s outside hI hpre
  have hbind : (a >>= f).run serve s outside =
      Task.runAlone serve (ExceptT.bindCont f (a.run serve s outside).1)
        (a.run serve s outside).2.1 (a.run serve s outside).2.2 :=
    Task.runAlone_bind serve _ _ _ _
  rw [hbind]
  rcases hrun : a.run serve s outside with ⟨failure | x, s', after⟩
  · rw [hrun] at hI'
    exact ⟨hI', fun _ hx => nomatch hx⟩
  · rw [hrun] at hI' hleft
    exact hf x s' after hI' (hleft x rfl)

/-- The failure of an activity is not that of the whole, and what its value says is still true. -/
lemma leaves_outcome {a : Activity α} {post : α → Shared → ω → Prop}
    (h : Leaves serve I pre a post) :
    Leaves serve I pre (outcome a) fun r s outside => ∀ x, r = .ok x → post x s outside := by
  intro s outside hI hpre
  obtain ⟨hI', hpost⟩ := h s outside hI hpre
  have hrun : (outcome a).run serve s outside =
      (.ok (a.run serve s outside).1, (a.run serve s outside).2) :=
    Task.runAlone_bind serve (ExceptT.run a) _ _ _
  rw [hrun]
  refine ⟨hI', fun r hr => ?_⟩
  obtain rfl := Except.ok.inj hr
  exact hpost

lemma Leaves.mono {pre' : Shared → ω → Prop} {a : Activity α} {post post' : α → Shared → ω → Prop}
    (h : Leaves serve I pre a post)
    (hpre : ∀ s outside, I s outside → pre' s outside → pre s outside)
    (hpost : ∀ x s outside, I s outside → post x s outside → post' x s outside) :
    Leaves serve I pre' a post' := by
  intro s outside hI hfound
  obtain ⟨hI', hleft⟩ := h s outside hI (hpre s outside hI hfound)
  exact ⟨hI', fun x hx => hpost x _ _ hI' (hleft x hx)⟩

/-- What is found may be a fact of its own. -/
lemma leaves_of_fact {fact : Prop} {a : Activity α} {post : α → Shared → ω → Prop}
    (h : fact → Leaves serve I (fun _ _ => True) a post) :
    Leaves serve I (fun _ _ => fact) a post :=
  fun s outside hI hfact => h hfact s outside hI trivial

lemma leaves_of_fact_and {fact : Prop} {a : Activity α} {post : α → Shared → ω → Prop}
    (h : fact → Leaves serve I pre a post) :
    Leaves serve I (fun s outside => fact ∧ pre s outside) a post :=
  fun s outside hI hfound => h hfound.1 s outside hI hfound.2

lemma leaves_of_exists {ι : Type} {pre : ι → Shared → ω → Prop} {a : Activity α}
    {post : α → Shared → ω → Prop} (h : ∀ i, Leaves serve I (pre i) a post) :
    Leaves serve I (fun s outside => ∃ i, pre i s outside) a post := by
  rintro s outside hI ⟨i, hpre⟩
  exact h i s outside hI hpre

/-- An invariant that is found may take the place of a weaker one. -/
lemma leaves_of_stronger {J : Shared → ω → Prop} {a : Activity α} {post : α → Shared → ω → Prop}
    (hJ : ∀ s outside, J s outside → I s outside) (h : Leaves serve J pre a post) :
    Leaves serve I (fun s outside => J s outside ∧ pre s outside) a post := by
  rintro s outside - ⟨hfound, hpre⟩
  obtain ⟨hJ', hpost⟩ := h s outside hfound hpre
  exact ⟨hJ _ _ hJ', hpost⟩

/-! ### Invariants alone -/

/-- Run alone before a service, an activity keeps an invariant. -/
def Keeps (serve : ω → Call → Answer × ω) (I : Shared → ω → Prop) (a : Activity α) : Prop :=
  Leaves serve I (fun _ _ => True) a fun _ _ _ => True

lemma keeps_pure {a : α} : Keeps serve I (pure a) := leaves_pure fun _ _ _ _ => trivial

lemma keeps_throw {failure : Failure} : Keeps serve I (throw failure : Activity α) := leaves_throw

lemma keeps_look : Keeps serve I look := leaves_look fun _ _ _ _ => trivial

lemma keeps_change {f : Shared → Shared} (h : ∀ s outside, I s outside → I (f s) outside) :
    Keeps serve I (change f) := leaves_change fun s outside hI _ => ⟨h s outside hI, trivial⟩

lemma keeps_step {f : Shared → Shared × α} (h : ∀ s outside, I s outside → I (f s).1 outside) :
    Keeps serve I (step f) := leaves_step fun s outside hI _ => ⟨h s outside hI, trivial⟩

lemma keeps_attempt {f : Shared → Except Failure (Shared × α)}
    (h : ∀ s outside, I s outside → ∀ after x, f s = .ok (after, x) → I after outside) :
    Keeps serve I (attempt f) :=
  leaves_attempt fun s outside hI _ after x hf => ⟨h s outside hI after x hf, trivial⟩

lemma keeps_bind {a : Activity α} {f : α → Activity β} (ha : Keeps serve I a)
    (hf : ∀ x, Keeps serve I (f x)) : Keeps serve I (a >>= f) := leaves_bind ha hf

lemma keeps_outcome {a : Activity α} (h : Keeps serve I a) : Keeps serve I (outcome a) :=
  (leaves_outcome h).mono (fun _ _ _ hpre => hpre) fun _ _ _ _ _ => trivial

/-- What an invariant includes is left as it is found. -/
lemma Keeps.leaves {K : Shared → Prop} {J P : ω → Prop} {a : Activity α}
    (h : Keeps serve (fun s outside => K s ∧ J outside ∧ P outside) a) :
    Leaves serve (fun s outside => K s ∧ J outside) (fun _ => P) a fun _ _ => P := by
  rintro s outside ⟨hK, hJ⟩ hP
  obtain ⟨⟨hK', hJ', hP'⟩, -⟩ := h s outside ⟨hK, hJ, hP⟩ trivial
  exact ⟨⟨hK', hJ'⟩, fun _ _ => hP'⟩

/-! ### Actions as activities -/

/-- An action leaves the service as it does before it, and what is shared as it was, but for the
log. -/
lemma leaves_ofAction {K : Shared → Prop} {J P : ω → Prop} {a : Action α} {post : α → ω → Prop}
    (hlog : ∀ s log, K s → K { s with log := log }) (h : Action.Leaves serve J P a post) :
    Leaves serve (fun s outside => K s ∧ J outside) (fun _ => P) (ofAction a) fun x _ => post x := by
  rintro s outside ⟨hK, hJ⟩ hP
  obtain ⟨log, hrun⟩ := Task.runAlone_ofProgram serve a.run outside
  have hserved : (ofAction a).run serve s outside =
      ((a.served serve outside).1, { s with log := s.log ++ log }, (a.served serve outside).2) :=
    hrun s
  obtain ⟨hJ', hpost⟩ := h outside hJ hP
  rw [hserved]
  exact ⟨⟨hlog s _ hK, hJ'⟩, hpost⟩

end Activity

end SearchIndex
