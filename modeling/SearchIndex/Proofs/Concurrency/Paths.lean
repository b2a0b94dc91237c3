/-
# Paths through tasks

Where a task gives up its turn, others may do anything to what is shared.  What can be said of the
task all the same is which way it goes through its own tree: which calls it makes, with which
answers, and with which result it ends (`Task.Path`).  In a world the calls of a task with their
answers can be read from the history, and they make a path of the task (`World.Run.path`).
-/
import SearchIndex.Proofs.Concurrency.Interleaving

namespace SearchIndex

variable {σ α β ε ρ : Type}

/-! ## Tasks -/

namespace Task

/-- A way through a task to its end, whatever is shared at each point: the calls with their answers,
and the result. -/
inductive Path : Task σ α → List (Call × Answer) → α → Prop where
  | done (result : α) : Path (.done result) [] result
  | atomic {change : σ → σ} {next : σ → Task σ α} {trace : List (Call × Answer)} {result : α}
      (s : σ) (h : Path (next s) trace result) : Path (.atomic change next) trace result
  | call {request : Call} {next : Answer → Task σ α} {trace : List (Call × Answer)} {result : α}
      (answer : Answer) (h : Path (next answer) trace result) :
      Path (.call request next) ((request, answer) :: trace) result
  | wait {ready : σ → Bool} {next : Task σ α} {trace : List (Call × Answer)} {result : α}
      (h : Path next trace result) : Path (.wait ready next) trace result

variable {trace : List (Call × Answer)}

lemma path_done {a result : α} (h : (done a : Task σ α).Path trace result) :
    trace = [] ∧ result = a := by
  cases h
  exact ⟨rfl, rfl⟩

/-- A path through one task after another goes through both. -/
lemma path_bind {t : Task σ α} {f : α → Task σ β} {result : β} (h : (t >>= f).Path trace result) :
    ∃ a before after, t.Path before a ∧ (f a).Path after result ∧ trace = before ++ after := by
  induction t generalizing trace with
  | done a => exact ⟨a, [], trace, .done a, h, rfl⟩
  | atomic change next ih =>
    cases h with
    | atomic s h =>
      obtain ⟨a, before, after, ht, hf, rfl⟩ := ih s h
      exact ⟨a, before, after, .atomic s ht, hf, rfl⟩
  | call request next ih =>
    cases h with
    | call answer h =>
      obtain ⟨a, before, after, ht, hf, rfl⟩ := ih answer h
      exact ⟨a, (request, answer) :: before, after, .call answer ht, hf, rfl⟩
  | wait ready next ih =>
    cases h with
    | wait h =>
      obtain ⟨a, before, after, ht, hf, rfl⟩ := ih h
      exact ⟨a, before, after, .wait ht, hf, rfl⟩

/-- What is left of a task at its first stop is on the way through it. -/
lemma Path.of_untilWait {t : Task σ α} {s : σ} {result : α}
    (h : (t.untilWait s).1.Path trace result) : t.Path trace result := by
  induction t generalizing s with
  | done a => exact h
  | atomic change next ih => exact .atomic s (ih s h)
  | call request next => exact h
  | wait ready next => exact h

/-- The call whose answer a task waits for. -/
def awaitedCall? : Task σ α → Option Call
  | call request _ => some request
  | _ => none

end Task

namespace Activity

/-- A way through an activity to its end. -/
def Path (a : Activity α) (trace : List (Call × Answer)) (result : Except Failure α) : Prop :=
  Task.Path (ExceptT.run a) trace result

variable {trace : List (Call × Answer)}

/-- One activity after another has a value only if both have. -/
lemma path_bind_ok {a : Activity α} {f : α → Activity β} {y : β}
    (h : (a >>= f).Path trace (.ok y)) :
    ∃ x before after, a.Path before (.ok x) ∧ (f x).Path after (.ok y) ∧
      trace = before ++ after := by
  obtain ⟨r, before, after, ha, hf, rfl⟩ := Task.path_bind h
  cases r with
  | error failure => cases (Task.path_done hf).2
  | ok x => exact ⟨x, before, after, ha, hf, rfl⟩

/-- A look at what is shared is followed by what is made of it. -/
lemma path_look_bind {f : Shared → Activity β} {result : Except Failure β}
    (h : (look >>= f).Path trace result) : ∃ s, (f s).Path trace result := by
  cases h with
  | atomic s h => exact ⟨s, h⟩

/-- A call is followed by what is made of its answer. -/
lemma path_call_bind {request : Call} {f : Answer → Activity β} {result : Except Failure β}
    (h : (call request >>= f).Path trace result) :
    ∃ answer rest, (f answer).Path rest result ∧ trace = (request, answer) :: rest := by
  cases h with
  | call answer h => exact ⟨answer, _, h, rfl⟩

end Activity

/-! ## Worlds -/

namespace World

variable {task : ε → Task Shared ρ} {s : Shared} {history : List (Event ε × World ρ)}
  {w w' : World ρ} {event : Event ε}

/-- What is read from a history, event by event, given the world before each. -/
def gather (read : World ρ → Event ε → List β) : World ρ → List (Event ε × World ρ) → List β
  | _, [] => []
  | w, (event, w') :: rest => read w event ++ gather read w' rest

/-- The world that a history leads to. -/
def reached (w : World ρ) (history : List (Event ε × World ρ)) : World ρ :=
  (history.getLast?.map Prod.snd).getD w

lemma Run.reached_eq (hrun : Run task s history w) : reached ⟨s, []⟩ history = w := by
  cases hrun with
  | begin => rfl
  | snoc _ _ => simp [reached]

lemma gather_concat (read : World ρ → Event ε → List β) (w : World ρ)
    (history : List (Event ε × World ρ)) (event : Event ε) (w' : World ρ) :
    gather read w (history ++ [(event, w')]) =
      gather read w history ++ read (reached w history) event := by
  induction history generalizing w with
  | nil => simp [gather, reached]
  | cons x rest ih =>
    have hreached : reached w (x :: rest) = reached x.2 rest := by
      cases rest with
      | nil => rfl
      | cons y rest => simp [reached, List.getLast?_eq_some_getLast]
    rw [List.cons_append, gather, ih, gather, hreached, List.append_assoc]

lemma Run.gather_snoc (hrun : Run task s history w) (read : World ρ → Event ε → List β)
    (event : Event ε) (w' : World ρ) :
    gather read ⟨s, []⟩ (history ++ [(event, w')]) =
      gather read ⟨s, []⟩ history ++ read w event := by
  rw [gather_concat, hrun.reached_eq]

/-- What starts at an event. -/
def launched? : Event ε → Option ε
  | .start errand => some errand
  | .resume _ | .reply _ _ | .take _ | .answer _ _ | .forget _ => none

/-- What has been started, in order; each has the number of its task. -/
def launched (history : List (Event ε × World ρ)) : List ε :=
  history.filterMap fun x => launched? x.1

lemma launched_snoc (history : List (Event ε × World ρ)) (event : Event ε) (w' : World ρ) :
    launched (history ++ [(event, w')]) = launched history ++ (launched? event).toList := by
  cases event <;> simp [launched, launched?]

/-- The call of a task that is answered at an event. -/
def repliesTo (k : Nat) (w : World ρ) : Event ε → List (Call × Answer)
  | .reply j answer =>
    if j = k then ((w.tasks[k]?.bind Task.awaitedCall?).map (·, answer)).toList else []
  | .start _ | .resume _ | .take _ | .answer _ _ | .forget _ => []

/-- The calls of a task with their answers, in order. -/
def exchanges (s : Shared) (k : Nat) (history : List (Event ε × World ρ)) :
    List (Call × Answer) :=
  gather (repliesTo k) ⟨s, []⟩ history

/-- What the calls of tasks say about the way that they have gone. -/
structure HasPaths (task : ε → Task Shared ρ) (s : Shared) (history : List (Event ε × World ρ))
    (w : World ρ) : Prop where
  length_eq : (launched history).length = w.tasks.length
  /-- A task that has not started has made no call. -/
  none_before : ∀ k, w.tasks.length ≤ k → exchanges s k history = []
  /-- The calls of a task come before those on the way that is left. -/
  path : ∀ k errand t, (launched history)[k]? = some errand → w.tasks[k]? = some t →
    ∀ trace result, t.Path trace result → (task errand).Path (exchanges s k history ++ trace) result

/-- A task has gone on: it made some calls, and what is left of it is on the way. -/
lemma HasPaths.go_on (h : HasPaths task s history w) (hrun : Run task s history w) {k : Nat}
    {t : Task Shared ρ} (hk : w.tasks[k]? = some t) {next : Task Shared ρ}
    (hevent : launched? event = none) (hothers : ∀ j, j ≠ k → repliesTo j w event = [])
    (hnext : ∀ trace result, next.Path trace result →
      t.Path (repliesTo k w event ++ trace) result) :
    HasPaths task s (history ++ [(event, w.continued k next)]) (w.continued k next) := by
  have hlt : k < w.tasks.length := (List.getElem?_eq_some_iff.1 hk).1
  have hlaunched : launched (history ++ [(event, w.continued k next)]) = launched history := by
    rw [launched_snoc, hevent, Option.toList_none, List.append_nil]
  have hexchanges (j : Nat) : exchanges s j (history ++ [(event, w.continued k next)]) =
      exchanges s j history ++ repliesTo j w event := hrun.gather_snoc _ _ _
  refine ⟨?_, fun j hj => ?_, fun j errand t' hj ht' trace result hpath => ?_⟩
  · rw [hlaunched, h.length_eq, continued, List.length_set]
  · rw [continued, List.length_set] at hj
    rw [hexchanges, h.none_before j hj, hothers j (by omega), List.append_nil]
  · rw [hlaunched] at hj
    rw [hexchanges, List.append_assoc]
    rw [continued] at ht'
    by_cases hjk : j = k
    · subst hjk
      rw [List.getElem?_set_self hlt] at ht'
      obtain rfl := Option.some.inj ht'
      exact h.path j errand t hj hk _ result (hnext _ _ hpath.of_untilWait)
    · rw [List.getElem?_set_ne (Ne.symm hjk)] at ht'
      rw [hothers j hjk, List.nil_append]
      exact h.path j errand t' hj ht' trace result hpath

/-- Workers have gone on, and tasks stand where they stood. -/
lemma HasPaths.worked (h : HasPaths task s history w) (hrun : Run task s history w) (p : Processor)
    (hevent : launched? event = none) (hreplies : ∀ j, repliesTo j w event = []) :
    HasPaths task s (history ++ [(event, w.worked p)]) (w.worked p) := by
  have hlaunched : launched (history ++ [(event, w.worked p)]) = launched history := by
    rw [launched_snoc, hevent, Option.toList_none, List.append_nil]
  have hexchanges (j : Nat) : exchanges s j (history ++ [(event, w.worked p)]) =
      exchanges s j history := by
    rw [exchanges, hrun.gather_snoc, hreplies, List.append_nil, ← exchanges]
  refine ⟨by rw [hlaunched, h.length_eq]; rfl, fun j hj => ?_, fun j errand t hj ht => ?_⟩
  · rw [hexchanges]
    exact h.none_before j hj
  · rw [hexchanges]
    rw [hlaunched] at hj
    exact h.path j errand t hj ht

/-- The calls of each task are those on its way. -/
lemma Run.hasPaths (hrun : Run task s history w) : HasPaths task s history w := by
  induction hrun with
  | begin => exact ⟨rfl, fun k _ => rfl, fun k errand t hk => by simp [launched] at hk⟩
  | @snoc history w w' event hrun hstep ih =>
    cases hstep with
    | start errand =>
      have hlaunched (w' : World ρ) : launched (history ++ [(.start errand, w')]) =
          launched history ++ [errand] := launched_snoc _ _ _
      have hexchanges (j : Nat) (w' : World ρ) :
          exchanges s j (history ++ [(.start errand, w')]) = exchanges s j history := by
        rw [exchanges, hrun.gather_snoc]
        exact List.append_nil _
      refine ⟨by simp [hlaunched, ih.length_eq, started], fun k hk => ?_,
        fun k other t hother ht trace result hpath => ?_⟩
      · rw [hexchanges]
        refine ih.none_before k ?_
        simp only [started, List.length_append, List.length_singleton] at hk
        omega
      · rw [hlaunched] at hother
        rw [hexchanges]
        rw [started] at ht
        by_cases hk : k < w.tasks.length
        · rw [List.getElem?_append_left (by rwa [ih.length_eq])] at hother
          rw [List.getElem?_append_left hk] at ht
          exact ih.path k other t hother ht trace result hpath
        · -- the task has just started
          have hlast : k = w.tasks.length := by
            have hlt := (List.getElem?_eq_some_iff.1 ht).1
            rw [List.length_append, List.length_singleton] at hlt
            omega
          subst hlast
          rw [← ih.length_eq, List.getElem?_concat_length] at hother
          rw [List.getElem?_concat_length] at ht
          obtain rfl := Option.some.inj hother
          obtain rfl := Option.some.inj ht
          rw [ih.none_before _ le_rfl, List.nil_append]
          exact hpath.of_untilWait
    | resume hk hready =>
      exact ih.go_on hrun hk rfl (fun j _ => rfl) fun trace result hpath => .wait hpath
    | @reply k request next hk answer =>
      have hself : repliesTo k w (.reply k answer : Event ε) = [(request, answer)] := by
        simp [repliesTo, hk, Task.awaitedCall?]
      refine ih.go_on hrun hk rfl (fun j hj => ?_) fun trace result hpath => ?_
      · exact if_neg (Ne.symm hj)
      · rw [hself]
        exact .call answer hpath
    | take hi hqueue => exact ih.worked hrun _ rfl fun j => rfl
    | answer hi hcall answer => exact ih.worked hrun _ rfl fun j => rfl
    | forget hdone => exact ih.worked hrun _ rfl fun j => rfl

/-- The calls of a task that has come to its end are a path of it. -/
theorem Run.path (hrun : Run task s history w) {k : Nat} {errand : ε} {result : ρ}
    (herrand : (launched history)[k]? = some errand) (hk : w.tasks[k]? = some (.done result)) :
    (task errand).Path (exchanges s k history) result := by
  have hpath := hrun.hasPaths.path k errand _ herrand hk [] result (.done result)
  rwa [List.append_nil] at hpath

end World

end SearchIndex
