/-
# All calls of the request processor

Besides submitting and awaiting requests, clients carry out requests at once, take and give up the
processor, and the last of them stops its workers.  A `Duty` is any of these calls.  In a world of
duties every task waits to put a genuine ticket in the queue, or awaits at least those tickets of
its scope that are not done, or spares the tickets altogether (`World.StandsAt`).
-/
import SearchIndex.Proofs.Concurrency.Paths
import SearchIndex.Proofs.Indexing.Sparing

namespace SearchIndex

/-- A call of the request processor. -/
inductive Duty where
  /-- A request is handed to the workers. -/
  | submit (request : WorkRequest)
  /-- The asynchronous requests of one index, or of all, are awaited. -/
  | await (scope : Option String)
  /-- Requests are carried out at once. -/
  | perform (requests : List WorkRequest)
  /-- The processor gets one more user. -/
  | acquire
  /-- The processor loses a user. -/
  | release
  /-- The workers are stopped. -/
  | shutdown

namespace Duty

/-- A duty as a task. -/
def task : Duty → Errand.Rest
  | submit r => (Errand.submit r).task
  | await scope => (Errand.await scope).task
  | perform requests => ExceptT.run (do Execution.runNow requests; return none)
  | acquire =>
    ExceptT.run (do Activity.change fun s => s.mapProcessor Execution.acquire; return none)
  | release => ExceptT.run (do Execution.release; return none)
  | shutdown => ExceptT.run (do Execution.shutdown; return none)

/-- The request that is submitted. -/
def request? : Duty → Option WorkRequest
  | submit r => some r
  | await _ | perform _ | acquire | release | shutdown => none

/-- Whether a duty is about tickets. -/
def isAboutTickets : Duty → Bool
  | submit _ | await _ => true
  | perform _ | acquire | release | shutdown => false

/-- The requests that some duties submit, in order. -/
def submitted (duties : List Duty) : List WorkRequest := duties.filterMap request?

/-- What is not about tickets spares them. -/
lemma spares_task {duty : Duty} (h : duty.isAboutTickets = false) : duty.task.Spares := by
  have hreturn {a : Activity Unit} (ha : a.Spares) :
      Activity.Spares (do a; return (none : Option Ticket)) :=
    Activity.spares_bind ha fun _ => Activity.spares_pure none
  cases duty with
  | submit r => cases h
  | await scope => cases h
  | perform requests => exact hreturn (Execution.spares_runNow requests)
  | acquire => exact hreturn (Activity.spares_change fun s => Processor.spares_users s.processor _)
  | release => exact hreturn Execution.spares_release
  | shutdown => exact hreturn Execution.spares_shutdown

end Duty

namespace World

/-- Events with the worlds after them, where tasks are duties. -/
abbrev DutyHistory := List (Event Duty × OfErrands)

variable {history : DutyHistory} {w w' : OfErrands} {event : Event Duty}

/-- The requests that have been submitted, in order. -/
abbrev submissions (history : DutyHistory) : List WorkRequest :=
  Duty.submitted (launched history)

lemma submissions_snoc (history : DutyHistory) (event : Event Duty) (w' : OfErrands) :
    submissions (history ++ [(event, w')]) =
      submissions history ++ ((launched? event).bind Duty.request?).toList := by
  rw [submissions, launched_snoc, Duty.submitted, List.filterMap_append]
  cases launched? event with
  | none => rfl
  | some duty =>
    cases hrequest : duty.request? <;> simp [Duty.submitted, hrequest]

lemma submissions_snoc_of_none (history : DutyHistory) {event : Event Duty}
    (hevent : launched? event = none) (w' : OfErrands) :
    submissions (history ++ [(event, w')]) = submissions history := by
  rw [submissions_snoc, hevent]
  exact List.append_nil _

/-! ## Where duties stand -/

/-- The event is one of the task of a number, given the world after it. -/
def IsOf (w' : OfErrands) (k : Nat) : Event Duty → Prop
  | .start _ => k + 1 = w'.tasks.length
  | .resume j | .reply j _ => j = k
  | .take _ | .answer _ _ | .forget _ => False

/-- A task that awaited requests has ended with a failure that one of them, of the given number and
index, had come to by then. -/
inductive IsRaised (history : DutyHistory) (n : Nat) (index : String) (failure : Failure) :
    Prop where
  | intro (event : Event Duty) (w : OfErrands) (k : Nat) (scope : Option String) (first : Failure)
      (others : List Failure) (hmem : (event, w) ∈ history) (hevent : w.IsOf k event)
      (hduty : (launched history)[k]? = some (.await scope))
      (hends : w.tasks[k]? = some (.done (.error (.asynchronous scope first others))))
      (hcovers : covers scope index = true) (hcarries : failure ∈ first :: others)
      (hfailed : w.shared.processor.outcome n = .failed failure)

lemma IsRaised.snoc {n : Nat} {index : String} {failure : Failure}
    (h : IsRaised history n index failure) (event : Event Duty) (w' : OfErrands) :
    IsRaised (history ++ [(event, w')]) n index failure := by
  obtain ⟨e, w, k, scope, first, others, hmem, hevent, hduty, hends, hcovers, hcarries, hfailed⟩ := h
  refine ⟨e, w, k, scope, first, others, List.mem_append_left _ hmem, hevent, ?_, hends, hcovers,
    hcarries, hfailed⟩
  rw [launched_snoc, List.getElem?_append_left (List.getElem?_eq_some_iff.1 hduty).1]
  exact hduty

/-- Where the task of a duty can stand, given the requests that were accepted before it. -/
inductive StandsAt (history : DutyHistory) (p : Processor) (before : List WorkRequest) :
    Duty → Errand.Rest → Prop where
  /-- A genuine ticket waits to be put in the queue. -/
  | puts (r : WorkRequest) (t : Ticket) (hgenuine : t.IsGenuine (submissions history)) :
      StandsAt history p before (.submit r) (Errand.putting t)
  | submitted (r : WorkRequest) (result : Except Failure (Option Ticket)) :
      StandsAt history p before (.submit r) (.done result)
  /-- Whatever was accepted before and is not done is waited for. -/
  | awaits (scope : Option String) (waiting : List Nat)
      (hwaits : ∀ n r, before[n]? = some r → covers scope r.index = true → ¬ p.IsDone n →
        n ∈ waiting) :
      StandsAt history p before (.await scope) (Errand.awaiting scope waiting)
  /-- Whatever was accepted before is done, and its failures have been raised. -/
  | awaited (scope : Option String) (result : Except Failure (Option Ticket))
      (hdone : ∀ n r, before[n]? = some r → covers scope r.index = true → p.IsDone n ∧
        ∀ failure, p.outcome n = .failed failure → IsRaised history n r.index failure) :
      StandsAt history p before (.await scope) (.done result)
  /-- What is left spares the tickets. -/
  | aside {duty : Duty} (haside : duty.isAboutTickets = false) {t : Errand.Rest}
      (hspares : t.Spares) : StandsAt history p before duty t

/-- A task that stands still does so while others go on. -/
lemma StandsAt.snoc {p p' : Processor} {before : List WorkRequest} {duty : Duty} {t : Errand.Rest}
    (h : StandsAt history p before duty t) (hkept : ∀ n, p.IsDone n → p'.outcome n = p.outcome n)
    (event : Event Duty) (w' : OfErrands) :
    StandsAt (history ++ [(event, w')]) p' before duty t := by
  have hdone (n : Nat) (hn : p.IsDone n) : p'.IsDone n := by
    rw [Processor.IsDone, hkept n hn]
    exact hn
  cases h with
  | puts r t hgenuine =>
    refine .puts r t ?_
    rw [submissions_snoc]
    exact hgenuine.append _
  | submitted r result => exact .submitted r result
  | awaits scope waiting hwaits =>
    exact .awaits scope waiting fun n r hr hcovers hnot => hwaits n r hr hcovers (mt (hdone n) hnot)
  | awaited scope result hall =>
    refine .awaited scope result fun n r hr hcovers => ?_
    obtain ⟨hn, hraised⟩ := hall n r hr hcovers
    refine ⟨hdone n hn, fun failure hfailed => (hraised failure ?_).snoc event w'⟩
    rwa [hkept n hn] at hfailed
  | aside haside hspares => exact .aside haside hspares

/-- Each duty has a task, which stands where it can. -/
structure HasDuties (history : DutyHistory) (w : OfErrands) : Prop where
  length_eq : (launched history).length = w.tasks.length
  stands : ∀ k duty t, (launched history)[k]? = some duty → w.tasks[k]? = some t →
    StandsAt history w.shared.processor (Duty.submitted ((launched history).take k)) duty t

namespace HasDuties

/-- A new duty has a new task. -/
lemma start (h : HasDuties history w) {duty : Duty} {t : Errand.Rest} {s' : Shared}
    (hkept : ∀ n, w.shared.processor.IsDone n →
      s'.processor.outcome n = w.shared.processor.outcome n) (w'' : OfErrands)
    (hat : StandsAt (history ++ [(.start duty, w'')]) s'.processor (submissions history) duty t) :
    HasDuties (history ++ [(.start duty, w'')]) (⟨s', w.tasks ++ [t]⟩ : OfErrands) := by
  have hlaunched : launched (history ++ [(.start duty, w'')]) = launched history ++ [duty] :=
    launched_snoc _ _ _
  refine ⟨by simp [hlaunched, h.length_eq], fun k other rest hother hrest => ?_⟩
  rw [hlaunched] at hother ⊢
  have hk : k < w.tasks.length + 1 := by
    simpa using (List.getElem?_eq_some_iff.1 hrest).1
  rw [List.take_append_of_le_length (by rw [h.length_eq]; omega)]
  by_cases hlast : k = w.tasks.length
  · subst hlast
    obtain rfl : duty = other := by simpa [← h.length_eq] using hother
    obtain rfl : t = rest := by simpa using hrest
    rwa [← h.length_eq, List.take_length]
  · have hlt : k < w.tasks.length := by omega
    rw [List.getElem?_append_left (by rwa [h.length_eq])] at hother
    rw [List.getElem?_append_left hlt] at hrest
    exact (h.stands k other rest hother hrest).snoc hkept _ _

/-- Tasks stand where they stood, but for one that has gone on. -/
lemma go_on (h : HasDuties history w) {event : Event Duty} (hevent : launched? event = none)
    {k : Nat} {duty : Duty} {t : Errand.Rest} {s' : Shared}
    (hduty : (launched history)[k]? = some duty)
    (hkept : ∀ n, w.shared.processor.IsDone n →
      s'.processor.outcome n = w.shared.processor.outcome n) (w'' : OfErrands)
    (hat : StandsAt (history ++ [(event, w'')]) s'.processor
      (Duty.submitted ((launched history).take k)) duty t) :
    HasDuties (history ++ [(event, w'')]) (⟨s', w.tasks.set k t⟩ : OfErrands) := by
  have hlaunched : launched (history ++ [(event, w'')]) = launched history := by
    rw [launched_snoc, hevent, Option.toList_none, List.append_nil]
  refine ⟨by rw [hlaunched, h.length_eq, List.length_set], fun j other rest hother hrest => ?_⟩
  rw [hlaunched] at hother ⊢
  by_cases hjk : k = j
  · subst hjk
    have hlt : k < w.tasks.length := h.length_eq ▸ (List.getElem?_eq_some_iff.1 hduty).1
    rw [List.getElem?_set_self hlt] at hrest
    obtain rfl := Option.some.inj hrest
    obtain rfl := Option.some.inj (hduty.symm.trans hother)
    exact hat
  · rw [List.getElem?_set_ne hjk] at hrest
    exact (h.stands j other rest hother hrest).snoc hkept _ _

/-- Tasks stand where they stood while workers go on. -/
lemma worked (h : HasDuties history w) {event : Event Duty} (hevent : launched? event = none)
    {p : Processor}
    (hkept : ∀ n, w.shared.processor.IsDone n → p.outcome n = w.shared.processor.outcome n) :
    HasDuties (history ++ [(event, w.worked p)]) (w.worked p) := by
  have hlaunched : launched (history ++ [(event, w.worked p)]) = launched history := by
    rw [launched_snoc, hevent, Option.toList_none, List.append_nil]
  refine ⟨by rw [hlaunched, h.length_eq]; rfl, fun k duty t hduty ht => ?_⟩
  rw [hlaunched] at hduty ⊢
  exact (h.stands k duty t hduty ht).snoc hkept _ _

end HasDuties

end World

end SearchIndex
