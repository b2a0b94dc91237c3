/-
# Activities that run to their end

An activity that has run to its end has made calls and has a result, and has left something behind
in what is shared.  Wherever it waited or called, the workers of the request processor may have gone
on (`Shared.Works`): how far, and which answers came, is left open.  So what holds of every end of
an activity (`Activity.Ends`) holds whatever the service does and however far the workers get.

An end of one activity after another is an end of each (`Activity.ends_bind`); the other lemmas give
the ends of the activities out of which all others are made.
-/
import SearchIndex.Proofs.Concurrency.Interleaving
import SearchIndex.Proofs.Service.Runs

namespace SearchIndex

variable {α β : Type}

/-! ## Workers -/

namespace Processor

/-- Workers go on by one step: an idle one takes a batch, an answer comes to one that waits for it,
or the callback of a ticket that is done runs. -/
inductive WorkersStep (p : Processor) : Processor → Prop where
  | take {i : Nat} (hi : p.workers[i]? = some .idle) (hqueue : p.isQueueEmpty = false) :
      WorkersStep p (p.takeBatch i)
  | answer {i : Nat} {worker : Worker} (hi : p.workers[i]? = some worker)
      (hcall : (awaitedCall? worker).isSome) (answer : Answer) :
      WorkersStep p (p.answered i answer)
  | forget {t : Ticket} (hdone : (p.outcome t.serial).isDone = true) : WorkersStep p (p.forget t)

/-! ### Users -/

section Users

variable (p : Processor)

@[simp] lemma users_notifyFailed (r : WorkRequest) (failure : Failure) :
    (p.notifyFailed r failure).1.users = p.users := by
  unfold notifyFailed
  split <;> rfl

@[simp] lemma users_fail (t : Ticket) (failure : Failure) :
    (p.fail t failure).1.users = p.users := by
  have hnotify := users_notifyFailed (p.record t.request.index failure) t.request failure
  rw [fail]
  split
  · rfl
  · rcases hnotified : (p.record t.request.index failure).notifyFailed t.request failure with
      ⟨after, _ | _⟩ <;> (rw [hnotified] at hnotify; exact hnotify)

@[simp] lemma users_failAll (failure : Failure) (batch : List Ticket) :
    (p.failAll failure batch).1.users = p.users := by
  induction batch generalizing p with
  | nil => rfl
  | cons t rest ih =>
    have hfail := users_fail p t failure
    rw [failAll]
    rcases hfailed : p.fail t failure with ⟨after, _ | _⟩
    · rw [hfailed] at hfail
      exact (ih after).trans hfail
    · rw [hfailed] at hfail
      exact hfail

@[simp] lemma users_acknowledge (batch : List Ticket) : (p.acknowledge batch).users = p.users := by
  induction batch generalizing p with
  | nil => rfl
  | cons t rest ih =>
    rw [acknowledge]
    split <;> exact ih _

@[simp] lemma users_collapse (i : Nat) (batch : List Ticket) :
    (p.collapse i batch).users = p.users := by
  have hfail := users_failAll p (.misfit .monitorFailed) batch
  rw [collapse]
  rcases hfailed : p.failAll (.misfit .monitorFailed) batch with ⟨after, _ | _⟩ <;>
    (rw [hfailed] at hfail; exact hfail)

@[simp] lemma users_applyVerdict (group : List Ticket) (failures : List (Option Failure)) :
    (p.applyVerdict group failures).1.users = p.users := by
  induction group generalizing p failures with
  | nil => rfl
  | cons t rest ih =>
    cases failures with
    | nil => rfl
    | cons verdict others =>
      cases verdict with
      | none =>
        have hrest := ih p others
        rw [applyVerdict]
        rcases happlied : p.applyVerdict rest others with ⟨after, _ | _⟩ <;>
          (rw [happlied] at hrest; exact hrest)
      | some failure =>
        have hfail := users_fail p t failure
        rw [applyVerdict]
        rcases hfailed : p.fail t failure with ⟨after, _ | _⟩
        · rw [hfailed] at hfail
          exact (ih after others).trans hfail
        · rw [hfailed] at hfail
          exact hfail

@[simp] lemma users_proceed (i : Nat) (batch acknowledged : List Ticket)
    (rest : List (List Ticket)) : (p.proceed i batch acknowledged rest).users = p.users := by
  cases rest with
  | cons group rest => rfl
  | nil =>
    rw [proceed]
    split
    · exact users_acknowledge p acknowledged
    · rfl

@[simp] lemma users_onAnswer (i : Nat) (answer : Answer) :
    (p.onAnswer i answer).users = p.users := by
  rw [onAnswer]
  split
  · rename_i batch acknowledged group rest hi
    let failures :=
      (judgeGroup (group.map Ticket.request) answer).failures (group.map Ticket.request)
    have happly := users_applyVerdict p group failures
    dsimp only
    rcases happlied : p.applyVerdict group failures with ⟨after, _ | succeeded⟩
    · rw [happlied] at happly
      exact (users_collapse after i batch).trans happly
    · rw [happlied] at happly
      exact (users_proceed after i batch _ rest).trans happly
  · rename_i batch acknowledged hi
    dsimp only
    split
    · exact users_acknowledge p acknowledged
    · rename_i failure _
      have hfail := users_failAll p failure acknowledged
      rcases hfailed : p.failAll failure acknowledged with ⟨after, _ | _⟩
      · rw [hfailed] at hfail
        exact hfail
      · rw [hfailed] at hfail
        exact (users_collapse after i batch).trans hfail
  · rfl

@[simp] lemma users_takeBatch (i : Nat) : (p.takeBatch i).users = p.users := by
  rw [takeBatch]
  split
  · rfl
  · dsimp only
    split <;> rfl

/-- Workers are no users of the processor. -/
lemma WorkersStep.users_eq {p' : Processor} (h : p.WorkersStep p') : p'.users = p.users := by
  cases h with
  | take hi hqueue => exact users_takeBatch p _
  | answer hi hcall answer => exact users_onAnswer p _ answer
  | forget hdone => rfl

end Users

end Processor

/-- The workers have gone on, by any number of steps. -/
def Shared.Works (s s' : Shared) : Prop :=
  ∃ p, Relation.ReflTransGen Processor.WorkersStep s.processor p ∧ s' = { s with processor := p }

/-- What workers leave alone. -/
lemma Shared.Works.frame {s s' : Shared} (h : s.Works s') :
    s'.managers = s.managers ∧ s'.policy = s.policy ∧
      s'.processor.users = s.processor.users := by
  obtain ⟨p, hp, rfl⟩ := h
  refine ⟨rfl, rfl, ?_⟩
  change p.users = s.processor.users
  induction hp with
  | refl => rfl
  | tail _ hstep ih => exact (hstep.users_eq).trans ih

lemma Shared.Works.refl (s : Shared) : s.Works s := ⟨s.processor, .refl, rfl⟩

/-! ## Tasks -/

/-- A task has run to its end: the calls that it made with their answers, its result, and what is
shared then. -/
inductive Task.Completes : Task Shared α → Shared → List (Call × Answer) → α → Shared → Prop where
  | done (result : α) (s : Shared) : Completes (.done result) s [] result s
  | atomic {change : Shared → Shared} {next : Shared → Task Shared α} {s s' : Shared}
      {trace : List (Call × Answer)} {result : α}
      (h : Completes (next s) (change s) trace result s') :
      Completes (.atomic change next) s trace result s'
  | call {request : Call} {next : Answer → Task Shared α} {s s₁ s' : Shared}
      {trace : List (Call × Answer)} {result : α} (answer : Answer) (hworks : s.Works s₁)
      (h : Completes (next answer) s₁ trace result s') :
      Completes (.call request next) s ((request, answer) :: trace) result s'
  | wait {ready : Shared → Bool} {next : Task Shared α} {s s₁ s' : Shared}
      {trace : List (Call × Answer)} {result : α} (hworks : s.Works s₁) (hready : ready s₁ = true)
      (h : Completes next s₁ trace result s') : Completes (.wait ready next) s trace result s'

namespace Task

variable {s s' : Shared} {trace : List (Call × Answer)}

lemma completes_done {a result : α} :
    (done a : Task Shared α).Completes s trace result s' ↔ trace = [] ∧ result = a ∧ s' = s := by
  constructor
  · rintro ⟨⟩
    exact ⟨rfl, rfl, rfl⟩
  · rintro ⟨rfl, rfl, rfl⟩
    exact .done _ _

lemma completes_atomic {change : Shared → Shared} {next : Shared → Task Shared α} {result : α} :
    (atomic change next).Completes s trace result s' ↔
      (next s).Completes (change s) trace result s' := by
  constructor
  · rintro (_ | h)
    exact h
  · exact .atomic

/-- A task after another has run to its end if both have. -/
lemma completes_bind {t : Task Shared α} {f : α → Task Shared β} {result : β} :
    (t >>= f).Completes s trace result s' ↔
      ∃ a s₁ before after, t.Completes s before a s₁ ∧ (f a).Completes s₁ after result s' ∧
        trace = before ++ after := by
  constructor
  · -- by induction on the first task, whose pieces come first in every end of both
    intro h
    induction t generalizing s trace with
    | done a => exact ⟨a, s, [], trace, .done a s, h, rfl⟩
    | atomic change next ih =>
      cases h with
      | atomic h =>
        obtain ⟨a, s₁, before, after, ht, hf, rfl⟩ := ih s h
        exact ⟨a, s₁, before, after, .atomic ht, hf, rfl⟩
    | call request next ih =>
      cases h with
      | call answer hworks h =>
        obtain ⟨a, s₁, before, after, ht, hf, rfl⟩ := ih answer h
        exact ⟨a, s₁, (request, answer) :: before, after, .call answer hworks ht, hf, rfl⟩
    | wait ready next ih =>
      cases h with
      | wait hworks hready h =>
        obtain ⟨a, s₁, before, after, ht, hf, rfl⟩ := ih h
        exact ⟨a, s₁, before, after, .wait hworks hready ht, hf, rfl⟩
  · rintro ⟨a, s₁, before, after, ht, hf, rfl⟩
    induction ht with
    | done a s => exact hf
    | atomic _ ih => exact .atomic (ih hf)
    | call answer hworks _ ih => exact .call answer hworks (ih hf)
    | wait hworks hready _ ih => exact .wait hworks hready (ih hf)

/-- A task that never waits and makes no call runs to its end at once. -/
lemma completes_of_untilWait {t : Task Shared α} {a : α} (h : (t.untilWait s).1 = .done a) :
    t.Completes s [] a (t.untilWait s).2 := by
  induction t generalizing s with
  | done b =>
    obtain rfl := Task.done.inj h
    exact .done b s
  | atomic change next ih => exact .atomic (ih s h)
  | call request next => cases h
  | wait ready next => cases h

end Task

/-! ## Activities -/

namespace Activity

/-- An activity has run to its end, with a value or a failure. -/
def Ends (a : Activity α) (s : Shared) (trace : List (Call × Answer)) (result : Except Failure α)
    (s' : Shared) : Prop :=
  Task.Completes (ExceptT.run a) s trace result s'

variable {s s' : Shared} {trace : List (Call × Answer)} {result : Except Failure α}

lemma ends_pure {a : α} :
    (pure a : Activity α).Ends s trace result s' ↔ trace = [] ∧ result = .ok a ∧ s' = s :=
  Task.completes_done

lemma ends_throw {failure : Failure} : (throw failure : Activity α).Ends s trace result s' ↔
    trace = [] ∧ result = .error failure ∧ s' = s :=
  Task.completes_done

lemma ends_ofExcept {e : Except Failure α} :
    (ofExcept e).Ends s trace result s' ↔ trace = [] ∧ result = e ∧ s' = s :=
  Task.completes_done

/-- An atomic piece is done at once. -/
lemma completes_atomic_done {change : Shared → Shared} {value : Shared → α} {result : α} :
    (Task.atomic change fun s => .done (value s)).Completes s trace result s' ↔
      trace = [] ∧ result = value s ∧ s' = change s :=
  Task.completes_atomic.trans Task.completes_done

lemma ends_change {f : Shared → Shared} {result : Except Failure Unit} :
    (change f).Ends s trace result s' ↔ trace = [] ∧ result = .ok () ∧ s' = f s :=
  completes_atomic_done

lemma ends_step {f : Shared → Shared × α} :
    (step f).Ends s trace result s' ↔ trace = [] ∧ result = .ok (f s).2 ∧ s' = (f s).1 :=
  completes_atomic_done

lemma ends_attempt {f : Shared → Except Failure (Shared × α)} :
    (attempt f).Ends s trace result s' ↔
      trace = [] ∧ result = (f s).map (·.2) ∧ s' = attempted f s :=
  completes_atomic_done

lemma ends_note {level : Log.Level} {source : Log.Source} {text : String}
    {result : Except Failure Unit} : (note level source text).Ends s trace result s' ↔
      trace = [] ∧ result = .ok () ∧ s' = s.record ⟨level, source, text⟩ :=
  ends_change

lemma ends_waitUntil {ready : Shared → Bool} {result : Except Failure Unit} :
    (waitUntil ready).Ends s trace result s' ↔
      trace = [] ∧ result = .ok () ∧ s.Works s' ∧ ready s' = true := by
  constructor
  · rintro (_ | _ | _ | ⟨hworks, hready, h⟩)
    obtain ⟨rfl, rfl, rfl⟩ := Task.completes_done.1 h
    exact ⟨rfl, rfl, hworks, hready⟩
  · rintro ⟨rfl, rfl, hworks, hready⟩
    exact .wait hworks hready (.done _ _)

lemma ends_call {request : Call} {result : Except Failure Answer} :
    (call request).Ends s trace result s' ↔
      ∃ answer, trace = [(request, answer)] ∧ result = .ok answer ∧ s.Works s' := by
  constructor
  · rintro (_ | _ | ⟨answer, hworks, h⟩)
    obtain ⟨rfl, rfl, rfl⟩ := Task.completes_done.1 h
    exact ⟨answer, rfl, rfl, hworks⟩
  · rintro ⟨answer, rfl, rfl, hworks⟩
    exact .call answer hworks (.done _ _)

/-- An activity after another runs only if the first one has a value. -/
lemma ends_bind {a : Activity α} {f : α → Activity β} {result : Except Failure β} :
    (a >>= f).Ends s trace result s' ↔
      (∃ failure, a.Ends s trace (.error failure) s' ∧ result = .error failure) ∨
      ∃ x s₁ before after, a.Ends s before (.ok x) s₁ ∧ (f x).Ends s₁ after result s' ∧
        trace = before ++ after := by
  refine Task.completes_bind.trans ?_
  constructor
  · rintro ⟨r, s₁, before, after, ha, hf, rfl⟩
    cases r with
    | error failure =>
      obtain ⟨rfl, rfl, rfl⟩ := Task.completes_done.1 hf
      exact Or.inl ⟨failure, by rwa [List.append_nil], rfl⟩
    | ok x => exact Or.inr ⟨x, s₁, before, after, ha, hf, rfl⟩
  · rintro (⟨failure, ha, rfl⟩ | ⟨x, s₁, before, after, ha, hf, rfl⟩)
    · exact ⟨.error failure, s', trace, [], ha, .done _ _, (List.append_nil _).symm⟩
    · exact ⟨.ok x, s₁, before, after, ha, hf, rfl⟩

/-- Looking at what is shared comes before everything else. -/
lemma ends_look_bind {f : Shared → Activity β} {result : Except Failure β} :
    (look >>= f).Ends s trace result s' ↔ (f s).Ends s trace result s' :=
  Task.completes_atomic

/-- A change comes before everything else. -/
lemma ends_change_bind {f : Shared → Shared} {g : Unit → Activity β} {result : Except Failure β} :
    (change f >>= g).Ends s trace result s' ↔ (g ()).Ends (f s) trace result s' :=
  Task.completes_atomic

/-- A change with a result comes before what follows on the result. -/
lemma ends_step_bind {f : Shared → Shared × α} {g : α → Activity β} {result : Except Failure β} :
    (step f >>= g).Ends s trace result s' ↔ (g (f s).2).Ends (f s).1 trace result s' :=
  Task.completes_atomic

/-- Nothing follows a failure. -/
lemma ends_error_bind {failure : Failure} {f : α → Activity β} {result : Except Failure β} :
    (ofExcept (.error failure) >>= f).Ends s trace result s' ↔
      trace = [] ∧ result = .error failure ∧ s' = s :=
  Task.completes_done

/-- A value is passed on. -/
lemma ends_ok_bind {x : α} {f : α → Activity β} {result : Except Failure β} :
    (ofExcept (.ok x) >>= f).Ends s trace result s' ↔ (f x).Ends s trace result s' := Iff.rfl

/-- An attempt comes before what follows on its value, if it has one. -/
lemma ends_attempt_bind {f : Shared → Except Failure (Shared × α)} {g : α → Activity β}
    {result : Except Failure β} :
    (attempt f >>= g).Ends s trace result s' ↔
      (ofExcept ((f s).map (·.2)) >>= g).Ends (attempted f s) trace result s' :=
  Task.completes_atomic

/-- What becomes of an activity whose failure is not that of the whole. -/
lemma ends_outcome {a : Activity α} {result : Except Failure (Except Failure α)} :
    (outcome a).Ends s trace result s' ↔ ∃ r, a.Ends s trace r s' ∧ result = .ok r := by
  refine Task.completes_bind.trans ?_
  constructor
  · rintro ⟨r, s₁, before, after, ha, hdone, rfl⟩
    obtain ⟨rfl, rfl, rfl⟩ := Task.completes_done.1 hdone
    exact ⟨r, by rwa [List.append_nil], rfl⟩
  · rintro ⟨r, ha, rfl⟩
    exact ⟨r, s', trace, [], ha, .done _ _, (List.append_nil _).symm⟩

/-- What follows an activity whose failure is not that of the whole runs in any case. -/
lemma ends_outcome_bind {a : Activity α} {f : Except Failure α → Activity β}
    {result : Except Failure β} :
    (outcome a >>= f).Ends s trace result s' ↔
      ∃ r s₁ before after, a.Ends s before r s₁ ∧ (f r).Ends s₁ after result s' ∧
        trace = before ++ after := by
  rw [ends_bind]
  constructor
  · rintro (⟨failure, hfailed, rfl⟩ | ⟨x, s₁, before, after, hbefore, hafter, rfl⟩)
    · obtain ⟨r, -, hr⟩ := ends_outcome.1 hfailed
      cases hr
    · obtain ⟨r, ha, hr⟩ := ends_outcome.1 hbefore
      obtain rfl := Except.ok.inj hr
      exact ⟨x, s₁, before, after, ha, hafter, rfl⟩
  · rintro ⟨r, s₁, before, after, ha, hf, rfl⟩
    exact Or.inr ⟨r, s₁, before, after, ends_outcome.2 ⟨r, ha, rfl⟩, hf, rfl⟩

lemma completes_ofProgram {p : Program α} {result : α}
    (h : (Task.ofProgram Shared.record p).Completes s trace result s') :
    Program.Runs p trace result ∧ s'.managers = s.managers ∧ s'.policy = s.policy ∧
      s'.processor.users = s.processor.users := by
  induction p generalizing s trace with
  | done a =>
    obtain ⟨rfl, rfl, rfl⟩ := Task.completes_done.1 h
    exact ⟨.done _, rfl, rfl, rfl⟩
  | call request next ih =>
    cases h with
    | call answer hworks h =>
      obtain ⟨hruns, hmanagers, hpolicy, husers⟩ := ih answer h
      obtain ⟨hmanagers', hpolicy', husers'⟩ := hworks.frame
      exact ⟨.call answer hruns, hmanagers.trans hmanagers', hpolicy.trans hpolicy',
        husers.trans husers'⟩
  | log entry next ih =>
    cases h with
    | atomic h =>
      obtain ⟨hruns, hframe⟩ := ih h
      exact ⟨.log hruns, hframe⟩

/-- An action runs as it does alone, and of what is shared only the log and the work of the workers
change. -/
lemma ends_ofAction {a : Action α} (h : (ofAction a).Ends s trace result s') :
    a.Runs trace result ∧ s'.managers = s.managers ∧ s'.policy = s.policy ∧
      s'.processor.users = s.processor.users :=
  completes_ofProgram h

end Activity

end SearchIndex
