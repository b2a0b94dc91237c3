/-
# Clients that take turns

Several clients call one service, each in the course of a program of its own.  The service carries
out one call at a time and is a function of its state and the call; which client makes the next call
is left open (`Clients.Run`).  What a client does besides its calls concerns nobody else, so a client
always stands at its next call or is done.

Whatever the order, clients whose programs make few calls are done after few calls
(`Clients.Run.length_le`).  In a `Race` each client is undecided, has won or has lost, and the first
one to close what is open wins.  The main result, `Race.isRaced_of_run`, says that every race comes
to its end, with one winner.
-/
import SearchIndex.Proofs.Service.Served

namespace SearchIndex

variable {ω α : Type}

namespace Program

/-- A program without the log records before its next call. -/
def unlogged : Program α → Program α
  | log _ next => next.unlogged
  | p => p

@[simp] lemma unlogged_done (a : α) : (done a : Program α).unlogged = done a := rfl

@[simp] lemma unlogged_call (request : Call) (next : Answer → Program α) :
    (call request next).unlogged = call request next := rfl

@[simp] lemma unlogged_log (entry : Log.Entry) (next : Program α) :
    (log entry next).unlogged = next.unlogged := rfl

/-- A program stands at its next call or is done, apart from log records. -/
lemma unlogged_cases (p : Program α) :
    (∃ a, p.unlogged = done a) ∨ ∃ request next, p.unlogged = call request next := by
  induction p with
  | done a => exact Or.inl ⟨a, rfl⟩
  | call request next => exact Or.inr ⟨request, next, rfl⟩
  | log entry next ih => exact ih

lemma runs_unlogged {p : Program α} {calls : List (Call × Answer)} {a : α} :
    Runs p.unlogged calls a ↔ Runs p calls a := by
  induction p with
  | done b => rfl
  | call request next => rfl
  | log entry next ih => rw [unlogged_log, ih, runs_log]

/-- No run of the program makes more than `n` calls. -/
def MakesAtMost (n : Nat) (p : Program α) : Prop :=
  ∀ calls a, Runs p calls a → calls.length ≤ n

lemma exists_runs (p : Program α) : ∃ calls a, Runs p calls a := by
  induction p with
  | done a => exact ⟨[], a, .done a⟩
  | call request next ih =>
    obtain ⟨calls, a, h⟩ := ih (.unreachable "")
    exact ⟨_, a, .call _ h⟩
  | log entry next ih =>
    obtain ⟨calls, a, h⟩ := ih
    exact ⟨calls, a, .log h⟩

/-- Each call leaves one less. -/
lemma MakesAtMost.next {n : Nat} {request : Call} {next : Answer → Program α}
    (h : (call request next).MakesAtMost n) (answer : Answer) :
    ∃ m, n = m + 1 ∧ (next answer).unlogged.MakesAtMost m := by
  have hlater (calls : List (Call × Answer)) (a : α) (hruns : Runs (next answer) calls a) :
      calls.length + 1 ≤ n := h _ a (.call answer hruns)
  obtain ⟨calls, a, hruns⟩ := (next answer).exists_runs
  have hn := hlater calls a hruns
  refine ⟨n - 1, by omega, fun calls a hruns => ?_⟩
  have hlength := hlater calls a (runs_unlogged.1 hruns)
  omega

end Program

namespace Action

variable {β : Type} {call : Call} {ignored : List Int}

/-- A request stands at its call.  Once that is answered, what follows goes on with the answer as it
is judged. -/
lemma exists_unlogged_request_bind (call : Call) (ignored : List Int) (f : Response → Action β) :
    ∃ next, (request call ignored >>= f).run.unlogged = .call call next ∧ ∀ answer,
      (next answer).unlogged =
        (ofExcept (answer.judge call.method call.path ignored) >>= f).run.unlogged := by
  refine ⟨_, rfl, fun answer => ?_⟩
  cases answer with
  | reply status body => rfl
  | unreachable reason => rfl
  | unsent reason => rfl

end Action

/-- Clients, and the service that they call. -/
structure Clients (ω α : Type) where
  /-- The state of the service. -/
  outside : ω
  /-- What is left of the program of each client. -/
  programs : List (Program α)

namespace Clients

variable {serve : ω → Call → Answer × ω} {outside : ω} {programs : List (Program α)}
  {history : List (Nat × Call × Answer)} {c : Clients ω α}

/-- The clients at the start. -/
def starting (outside : ω) (programs : List (Program α)) : Clients ω α :=
  ⟨outside, programs.map Program.unlogged⟩

/-- Client `k` has called the service, and goes on with the answer to its next call. -/
def answered (c : Clients ω α) (k : Nat) (next : Answer → Program α) (response : Answer × ω) :
    Clients ω α :=
  ⟨response.2, c.programs.set k (next response.1).unlogged⟩

/-- All clients are done. -/
def IsOver (c : Clients ω α) : Prop := ∀ p ∈ c.programs, ∃ a, p = .done a

/-- The calls that clients have made so far, one after another, and where that has led. -/
inductive Run (serve : ω → Call → Answer × ω) (outside : ω) (programs : List (Program α)) :
    List (Nat × Call × Answer) → Clients ω α → Prop where
  | begin : Run serve outside programs [] (starting outside programs)
  | snoc {history : List (Nat × Call × Answer)} {c : Clients ω α} {k : Nat} {request : Call}
      {next : Answer → Program α} (hrun : Run serve outside programs history c)
      (hk : c.programs[k]? = some (.call request next)) :
      Run serve outside programs (history ++ [(k, request, (serve c.outside request).1)])
        (c.answered k next (serve c.outside request))

/-- What has been called and where that has led, once client `k` has made its next call, if it has
one. -/
def turn (serve : ω → Call → Answer × ω) (so : List (Nat × Call × Answer) × Clients ω α) (k : Nat) :
    List (Nat × Call × Answer) × Clients ω α :=
  match so.2.programs[k]? with
  | some (.call request next) =>
    (so.1 ++ [(k, request, (serve so.2.outside request).1)],
      so.2.answered k next (serve so.2.outside request))
  | _ => so

/-- Clients run when they take their turns in any order. -/
lemma Run.turns (so : List (Nat × Call × Answer) × Clients ω α) (order : List Nat)
    (hrun : Run serve outside programs so.1 so.2) :
    Run serve outside programs (order.foldl (turn serve) so).1 (order.foldl (turn serve) so).2 := by
  induction order generalizing so with
  | nil => exact hrun
  | cons k order ih =>
    refine ih _ ?_
    rw [turn]
    split
    next hk => exact hrun.snoc hk
    next => exact hrun

/-- The program of a client after client `k` has gone on. -/
lemma getElem?_answered {k j : Nat} {p p' : Program α} {next : Answer → Program α}
    {response : Answer × ω} (hk : c.programs[k]? = some p)
    (hj : (c.answered k next response).programs[j]? = some p') :
    (j = k ∧ p' = (next response.1).unlogged) ∨ (j ≠ k ∧ c.programs[j]? = some p') := by
  have hlt : k < c.programs.length := (List.getElem?_eq_some_iff.1 hk).1
  change (c.programs.set k _)[j]? = some p' at hj
  by_cases hjk : k = j
  · subst hjk
    rw [List.getElem?_set_self hlt] at hj
    exact Or.inl ⟨rfl, (Option.some.inj hj).symm⟩
  · rw [List.getElem?_set_ne hjk] at hj
    exact Or.inr ⟨Ne.symm hjk, hj⟩

lemma Run.length_programs (hrun : Run serve outside programs history c) :
    c.programs.length = programs.length := by
  induction hrun with
  | begin => exact List.length_map _
  | snoc _ _ ih => exact List.length_set.trans ih

/-- Until all clients are done, one of them can make its next call. -/
lemma Run.isOver_or_exists_call (hrun : Run serve outside programs history c) :
    c.IsOver ∨ ∃ (k : Nat) (request : Call) (next : Answer → Program α),
      c.programs[k]? = some (.call request next) := by
  -- every client stands at a call or is done, because its log records are written
  have hstands : ∀ p ∈ c.programs,
      (∃ a, p = Program.done a) ∨ ∃ request next, p = Program.call request next := by
    induction hrun with
    | begin =>
      intro p hp
      obtain ⟨q, -, rfl⟩ := List.mem_map.1 hp
      exact q.unlogged_cases
    | snoc _ _ ih =>
      intro p hp
      rcases List.mem_or_eq_of_mem_set hp with hp | rfl
      · exact ih p hp
      · exact Program.unlogged_cases _
  by_cases hover : c.IsOver
  · exact Or.inl hover
  · rw [IsOver] at hover
    push Not at hover
    obtain ⟨p, hp, hnot⟩ := hover
    obtain ⟨request, next, rfl⟩ := (hstands p hp).resolve_left fun ⟨a, ha⟩ => hnot a ha
    obtain ⟨k, hk⟩ := List.getElem?_of_mem hp
    exact Or.inr ⟨k, request, next, hk⟩

/-- Clients make no more calls than their programs do. -/
lemma Run.length_le {n : Nat} (hprograms : ∀ p ∈ programs, p.MakesAtMost n)
    (hrun : Run serve outside programs history c) : history.length ≤ n * programs.length := by
  -- `left` says how many calls each client has left; each call takes one of them away
  suffices hleft : ∃ left : Nat → Nat,
      (∀ (k : Nat) (p : Program α), c.programs[k]? = some p → p.MakesAtMost (left k)) ∧
      history.length + ∑ k ∈ Finset.range programs.length, left k ≤ n * programs.length by
    obtain ⟨left, -, hsum⟩ := hleft
    omega
  induction hrun with
  | begin =>
    refine ⟨fun _ => n, fun k p hp => ?_, by simp [mul_comm]⟩
    obtain ⟨q, hq, rfl⟩ := List.mem_map.1 (List.mem_of_getElem? hp)
    exact fun calls a hruns => hprograms q hq calls a (Program.runs_unlogged.1 hruns)
  | @snoc history c k request next hrun hk ih =>
    obtain ⟨left, hmakes, hsum⟩ := ih
    obtain ⟨m, hm, hnext⟩ := (hmakes k _ hk).next (serve c.outside request).1
    have hlt : k < programs.length := by
      rw [← hrun.length_programs]
      exact (List.getElem?_eq_some_iff.1 hk).1
    refine ⟨Function.update left k m, fun j p hj => ?_, ?_⟩
    · obtain ⟨rfl, rfl⟩ | ⟨hne, hp⟩ := getElem?_answered hk hj
      · rwa [Function.update_self]
      · rw [Function.update_of_ne hne]
        exact hmakes j p hp
    · have hless : ∑ j ∈ Finset.range programs.length, Function.update left k m j <
          ∑ j ∈ Finset.range programs.length, left j := by
        refine Finset.sum_lt_sum (fun j _ => ?_) ⟨k, Finset.mem_range.2 hlt, ?_⟩
        · by_cases hj : j = k
          · rw [hj, Function.update_self]
            omega
          · rw [Function.update_of_ne hj]
        · rw [Function.update_self]
          omega
      rw [List.length_append, List.length_singleton]
      omega

end Clients

/-! ## Races -/

/-- A race of clients for something that is open at first.  A client is undecided until it closes
what is open, and then has won, or finds it closed, and then has lost.  It may make further calls
then, and its result says which one it is. -/
structure Race (serve : ω → Call → Answer × ω) where
  /-- It is open. -/
  isOpen : ω → Prop
  /-- It is closed, as client `k` has left it. -/
  isClosedBy : Nat → ω → Prop
  /-- A client is undecided with what is left of its program. -/
  undecided : Nat → Program (Except Failure Bool) → Prop
  /-- A client has won or lost. -/
  decided : Bool → Program (Except Failure Bool) → Prop
  /-- Nobody is done without a decision. -/
  not_undecided_done : ∀ {k result}, ¬ undecided k (.done result)
  /-- The result tells the decision. -/
  eq_of_decided_done : ∀ {won result}, decided won (.done result) → result = .ok won
  /-- While it is open, an undecided client leaves it open, or closes it and wins. -/
  step_open : ∀ {outside k request next}, isOpen outside → undecided k (.call request next) →
    let (answer, after) := serve outside request
    (isOpen after ∧ undecided k (next answer).unlogged) ∨
      (isClosedBy k after ∧ decided true (next answer).unlogged)
  /-- Once it is closed it stays as it is, and an undecided client can only lose. -/
  step_closed : ∀ {outside j k request next}, isClosedBy j outside →
    undecided k (.call request next) →
    let (answer, after) := serve outside request
    isClosedBy j after ∧
      (undecided k (next answer).unlogged ∨ decided false (next answer).unlogged)
  /-- A client that has won or lost changes nothing any more. -/
  step_decided : ∀ {outside j won request next}, isClosedBy j outside →
    decided won (.call request next) →
    let (answer, after) := serve outside request
    isClosedBy j after ∧ decided won (next answer).unlogged

/-- Client `k` has won, and all others have lost: each has succeeded, and only the result of client
`k` is true. -/
def Clients.IsWonBy (c : Clients ω (Except Failure Bool)) (k : Nat) : Prop :=
  k < c.programs.length ∧
    ∀ (j : Nat) (p : Program (Except Failure Bool)), c.programs[j]? = some p →
      p = .done (.ok (decide (j = k)))

/-- How a race goes, in which nobody makes more than `n` calls: it goes on until it is over, which
it is after so many calls at the latest, and who is done has succeeded.  In the end one client has
won it, and `isClosedBy` says how that client leaves things. -/
structure Clients.IsRaced (c : Clients ω (Except Failure Bool))
    (history : List (Nat × Call × Answer)) (n : Nat) (isClosedBy : Nat → ω → Prop) : Prop where
  bounded : history.length ≤ n * c.programs.length
  goesOn : c.IsOver ∨ ∃ (k : Nat) (request : Call) (next : Answer → Program (Except Failure Bool)),
    c.programs[k]? = some (.call request next)
  succeeds : ∀ (k : Nat) (result : Except Failure Bool), c.programs[k]? = some (.done result) →
    ∃ won, result = .ok won
  won : c.IsOver → ∃ k, c.IsWonBy k ∧ isClosedBy k c.outside

namespace Race

variable {serve : ω → Call → Answer × ω} {outside : ω}
  {programs : List (Program (Except Failure Bool))} {history : List (Nat × Call × Answer)}
  {c : Clients ω (Except Failure Bool)} (race : Race serve)

/-- It is open and everybody is undecided, or one client has closed it and nobody else has won. -/
def Stands (c : Clients ω (Except Failure Bool)) : Prop :=
  (race.isOpen c.outside ∧ ∀ (k : Nat) (p : Program (Except Failure Bool)),
    c.programs[k]? = some p → race.undecided k p) ∨
  ∃ k, race.isClosedBy k c.outside ∧ (∃ p, c.programs[k]? = some p ∧ race.decided true p) ∧
    ∀ (j : Nat) (p : Program (Except Failure Bool)), j ≠ k → c.programs[j]? = some p →
      race.undecided j p ∨ race.decided false p

variable {race}

/-- One more call keeps the race as it should stand. -/
lemma Stands.answered {k : Nat} {request : Call} {next : Answer → Program (Except Failure Bool)}
    (h : race.Stands c) (hk : c.programs[k]? = some (.call request next)) :
    race.Stands (c.answered k next (serve c.outside request)) := by
  have hlt : k < c.programs.length := (List.getElem?_eq_some_iff.1 hk).1
  have hself : (c.answered k next (serve c.outside request)).programs[k]? =
      some (next (serve c.outside request).1).unlogged := List.getElem?_set_self hlt
  rcases h with ⟨hopen, hundecided⟩ | ⟨winner, hclosed, ⟨p, hp, hwon⟩, hothers⟩
  · rcases race.step_open hopen (hundecided k _ hk) with ⟨hstill, hnext⟩ | ⟨hclosed, hwon⟩
    · refine Or.inl ⟨hstill, fun j q hq => ?_⟩
      obtain ⟨rfl, rfl⟩ | ⟨-, hq⟩ := Clients.getElem?_answered hk hq
      · exact hnext
      · exact hundecided j q hq
    · refine Or.inr ⟨k, hclosed, ⟨_, hself, hwon⟩, fun j q hj hq => ?_⟩
      obtain ⟨rfl, -⟩ | ⟨-, hq⟩ := Clients.getElem?_answered hk hq
      · exact absurd rfl hj
      · exact Or.inl (hundecided j q hq)
  · -- it stays closed, whoever makes the call
    have hcall : race.isClosedBy winner (serve c.outside request).2 ∧
        (k = winner → race.decided true (next (serve c.outside request).1).unlogged) ∧
        (k ≠ winner → race.undecided k (next (serve c.outside request).1).unlogged ∨
          race.decided false (next (serve c.outside request).1).unlogged) := by
      by_cases hkw : k = winner
      · subst hkw
        obtain rfl := Option.some.inj (hp.symm.trans hk)
        obtain ⟨hstill, hnext⟩ := race.step_decided hclosed hwon
        exact ⟨hstill, fun _ => hnext, fun hne => absurd rfl hne⟩
      · rcases hothers k _ hkw hk with hundecided | hlost
        · obtain ⟨hstill, hnext⟩ := race.step_closed hclosed hundecided
          exact ⟨hstill, fun heq => absurd heq hkw, fun _ => hnext⟩
        · obtain ⟨hstill, hnext⟩ := race.step_decided hclosed hlost
          exact ⟨hstill, fun heq => absurd heq hkw, fun _ => Or.inr hnext⟩
    obtain ⟨hstill, hself', hother⟩ := hcall
    refine Or.inr ⟨winner, hstill, ?_, fun j q hj hq => ?_⟩
    · by_cases hkw : k = winner
      · subst hkw
        exact ⟨_, hself, hself' rfl⟩
      · refine ⟨p, ?_, hwon⟩
        change (c.programs.set k _)[winner]? = some p
        rw [List.getElem?_set_ne hkw, hp]
    · obtain ⟨rfl, rfl⟩ | ⟨-, hq⟩ := Clients.getElem?_answered hk hq
      · exact hother hj
      · exact hothers j q hj hq

/-- A race stands as it should in every order of calls. -/
lemma stands_of_run (hopen : race.isOpen outside)
    (hundecided : ∀ (k : Nat) (p : Program (Except Failure Bool)), programs[k]? = some p →
      race.undecided k p.unlogged)
    (hrun : Clients.Run serve outside programs history c) : race.Stands c := by
  induction hrun with
  | begin =>
    refine Or.inl ⟨hopen, fun k p hp => ?_⟩
    rw [Clients.starting, List.getElem?_map, Option.map_eq_some_iff] at hp
    obtain ⟨q, hq, rfl⟩ := hp
    exact hundecided k q hq
  | snoc _ hk ih => exact ih.answered hk

/-- In a race that is over, one client has won. -/
lemma Stands.exists_isWonBy (h : race.Stands c) (hsome : c.programs ≠ []) (hover : c.IsOver) :
    ∃ k, c.IsWonBy k ∧ race.isClosedBy k c.outside := by
  rcases h with ⟨-, hundecided⟩ | ⟨k, hclosed, ⟨p, hp, hwon⟩, hothers⟩
  · -- somebody is done, and so is not undecided
    obtain ⟨p, hp⟩ := List.exists_mem_of_ne_nil c.programs hsome
    obtain ⟨j, hj⟩ := List.getElem?_of_mem hp
    obtain ⟨result, rfl⟩ := hover p hp
    exact absurd (hundecided j _ hj) race.not_undecided_done
  · refine ⟨k, ⟨(List.getElem?_eq_some_iff.1 hp).1, fun j q hq => ?_⟩, hclosed⟩
    obtain ⟨result, rfl⟩ := hover q (List.mem_of_getElem? hq)
    by_cases hj : j = k
    · subst hj
      obtain rfl := Option.some.inj (hp.symm.trans hq)
      rw [race.eq_of_decided_done hwon, decide_eq_true rfl]
    · rcases hothers j _ hj hq with hundecided | hlost
      · exact absurd hundecided race.not_undecided_done
      · rw [race.eq_of_decided_done hlost, decide_eq_false hj]

/-- Who is done in a race has succeeded. -/
lemma Stands.exists_eq_ok {k : Nat} {result : Except Failure Bool} (h : race.Stands c)
    (hk : c.programs[k]? = some (.done result)) : ∃ won, result = .ok won := by
  rcases h with ⟨-, hundecided⟩ | ⟨winner, -, ⟨p, hp, hwon⟩, hothers⟩
  · exact absurd (hundecided k _ hk) race.not_undecided_done
  · by_cases hkw : k = winner
    · subst hkw
      obtain rfl := Option.some.inj (hp.symm.trans hk)
      exact ⟨_, race.eq_of_decided_done hwon⟩
    · rcases hothers k _ hkw hk with hundecided | hlost
      · exact absurd hundecided race.not_undecided_done
      · exact ⟨_, race.eq_of_decided_done hlost⟩

/-- Every race of at least one client comes to its end, with one winner. -/
lemma isRaced_of_run {n : Nat} (hopen : race.isOpen outside) (hsome : programs ≠ [])
    (hundecided : ∀ (k : Nat) (p : Program (Except Failure Bool)), programs[k]? = some p →
      race.undecided k p.unlogged)
    (hfew : ∀ p ∈ programs, p.MakesAtMost n)
    (hrun : Clients.Run serve outside programs history c) :
    c.IsRaced history n race.isClosedBy where
  bounded := by
    rw [hrun.length_programs]
    exact hrun.length_le hfew
  goesOn := hrun.isOver_or_exists_call
  succeeds k result := (stands_of_run hopen hundecided hrun).exists_eq_ok
  won := by
    refine (stands_of_run hopen hundecided hrun).exists_isWonBy ?_
    rw [← List.length_pos_iff, hrun.length_programs]
    exact List.length_pos_iff.2 hsome

end Race

end SearchIndex
