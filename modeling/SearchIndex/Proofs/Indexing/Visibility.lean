/-
# Acknowledged means visible

A write whose index is refreshed after each write is not acknowledged before that has happened.  The
main result, `World.visible_of_acknowledged`, says so for all calls of the request processor in
every interleaving, whatever the service answers and whatever monitors do.  Where requests carried
out at once end without a failure, their task has sent all of them, group by group, and after that
has refreshed the index of each that asks for it (`AreRefreshed`).  Where a request that was handed
to the workers is acknowledged, a worker has sent its group and then refreshed its index
(`IsRefreshedBy`).  Whoever awaits an index and comes to an end leaves none of its requests
undecided: each is acknowledged, and then visible, or has failed, and then its failure has been
raised.

The calls of a task, or of a worker, come one after another, so the order of their answers is that
in which they were sent.
-/
import SearchIndex.Proofs.Indexing.Carrying
import SearchIndex.Proofs.Indexing.Duty

namespace SearchIndex

/-! ## Refreshing -/

/-- The index of a request that asks for it is among those that are refreshed. -/
lemma mem_refreshedIndexes {requests : List WorkRequest} {r : WorkRequest} (hr : r ∈ requests)
    (hrefresh : r.refresh = true) : r.index ∈ refreshedIndexes requests := by
  refine (perm_sortTexts _).mem_iff.2 (List.mem_eraseDups.2 (List.mem_map.2 ⟨r, ?_, rfl⟩))
  exact List.mem_filter.2 ⟨hr, hrefresh⟩

/-- A call has refreshed an index: its path names the index, alone or with others, and the service
has answered with a status below 400. -/
inductive HasRefreshed (index : String) : Call × Answer → Prop where
  | intro {indexes : List String} {status : Int} {body : Payload} (hindex : index ∈ indexes)
      (hstatus : status < 400) :
      HasRefreshed index
        (⟨"POST", "/" ++ ",".intercalate indexes ++ "/_refresh", none, .none⟩, .reply status body)

/-- An accepted call to refresh indexes has refreshed each of them. -/
lemma Answer.Accepts.hasRefreshed {answer : Answer} {indexes : List String}
    (h : answer.Accepts (refreshCall indexes)) {index : String} (hindex : index ∈ indexes) :
    HasRefreshed index (refreshCall indexes, answer) := by
  obtain ⟨response, hjudge⟩ := h
  obtain ⟨status, body, rfl, haccepted, -⟩ := Answer.judge_eq_ok_iff.1 hjudge
  exact .intro hindex (haccepted.resolve_right List.not_mem_nil)

/-- The calls of a task have carried out requests: first they carry the requests, group by group and
in order, and later the index of each request that asks for it is refreshed. -/
inductive AreRefreshed (exchanges : List (Call × Answer)) (requests : List WorkRequest) : Prop where
  | intro (sent later : List (Call × Answer)) (hexchanges : exchanges = sent ++ later)
      (hsent : Carry (sent.map Prod.fst) requests)
      (hlater : ∀ r ∈ requests, r.refresh = true → ∃ x ∈ later, HasRefreshed r.index x)

/-- Among the calls of a worker, one that sends a group with a ticket in it comes before one that
refreshes the index of the ticket. -/
inductive IsRefreshedBy (answered : List (Worker × Answer)) (n : Nat) (r : WorkRequest) : Prop where
  | intro (t : Ticket) (sending refreshing : Worker) (sent asked : Call) (answer accepting : Answer)
      (hticket : t.serial = n ∧ t.request = r) (hgroup : t ∈ sending.inCall)
      (hsending : Processor.awaitedCall? sending = some sent)
      (hsends : sent.Sends (sending.inCall.map Ticket.request))
      (hrefreshing : Processor.awaitedCall? refreshing = some asked)
      (hrefreshed : HasRefreshed r.index (asked, accepting))
      (hbefore : [(sending, answer), (refreshing, accepting)].Sublist answered)

lemma IsRefreshedBy.append {answered : List (Worker × Answer)} {n : Nat} {r : WorkRequest}
    (h : IsRefreshedBy answered n r) (more : List (Worker × Answer)) :
    IsRefreshedBy (answered ++ more) n r := by
  obtain ⟨t, sending, refreshing, sent, asked, answer, accepting, hticket, hgroup, hsending, hsends,
    hrefreshing, hrefreshed, hbefore⟩ := h
  exact ⟨t, sending, refreshing, sent, asked, answer, accepting, hticket, hgroup, hsending, hsends,
    hrefreshing, hrefreshed, hbefore.trans (List.sublist_append_left _ _)⟩

/-! ## At once -/

namespace Execution

open Activity

/-- A report that does not fail makes no call. -/
lemma path_report {group : List WorkRequest} {verdict : Verdict} {trace : List (Call × Answer)}
    (h : (report group verdict).Path trace (.ok ())) : trace = [] := by
  unfold report at h
  dsimp only at h
  split at h
  · exact (Task.path_done h).1
  · -- what was to be told is a failure, which is raised in any case
    obtain ⟨raised, before, after, -, hraised, -⟩ := path_bind_ok h
    cases raised with
    | true =>
      rw [if_pos rfl] at hraised
      obtain ⟨_, first, rest, hthrow, -, -⟩ := path_bind_ok hraised
      cases (Task.path_done hthrow).2
    | false =>
      rw [if_neg Bool.false_ne_true] at hraised
      cases (Task.path_done hraised).2

/-- Groups that are carried out without a failure are sent in order. -/
lemma path_runGroups {groups : List (List WorkRequest)} {trace : List (Call × Answer)}
    (h : (runGroups groups).Path trace (.ok ())) :
    trace.map Prod.fst = groups.map groupCall := by
  induction groups generalizing trace with
  | nil =>
    rw [(Task.path_done h).1]
    rfl
  | cons first rest ih =>
    obtain ⟨answer, after, hafter, rfl⟩ := path_call_bind h
    obtain ⟨_, reported, later, hreported, hrest, rfl⟩ := path_bind_ok hafter
    obtain rfl := path_report hreported
    exact congrArg _ (ih hrest)

/-- A refresh that ends without a failure has refreshed the indexes that requests ask for. -/
lemma path_refresh {requests : List WorkRequest} {trace : List (Call × Answer)}
    (h : (refresh requests).Path trace (.ok ())) {r : WorkRequest} (hr : r ∈ requests)
    (hrefresh : r.refresh = true) : ∃ x ∈ trace, HasRefreshed r.index x := by
  have hindex := mem_refreshedIndexes hr hrefresh
  have hnot : (refreshedIndexes requests).isEmpty = false :=
    List.isEmpty_eq_false_iff.2 (List.ne_nil_of_mem hindex)
  rw [refresh] at h
  dsimp only at h
  rw [hnot, if_neg Bool.false_ne_true] at h
  obtain ⟨answer, after, hafter, rfl⟩ := path_call_bind h
  obtain ⟨response, before, later, hjudged, -, -⟩ := path_bind_ok hafter
  obtain ⟨-, hjudge⟩ := Task.path_done hjudged
  have haccepts : answer.Accepts (refreshCall (refreshedIndexes requests)) :=
    ⟨response, hjudge.symm⟩
  exact ⟨_, List.mem_cons_self, haccepts.hasRefreshed hindex⟩

/-- Requests that are carried out at once, without a failure, are sent and then refreshed. -/
lemma path_runNow {requests : List WorkRequest} {trace : List (Call × Answer)}
    (h : (runNow requests).Path trace (.ok ())) : AreRefreshed trace requests := by
  obtain ⟨s, hrun⟩ := path_look_bind h
  obtain ⟨_, before, after, hgroups, hrefreshed, rfl⟩ := path_bind_ok hrun
  refine ⟨before, after, rfl, ?_, fun r hr hrefresh => path_refresh hrefreshed hr hrefresh⟩
  rw [path_runGroups hgroups]
  exact Carry.groups _ requests

end Execution

/-! ## Workers -/

/-- The tickets that a worker is to acknowledge once its batch is refreshed. -/
def Worker.acknowledged : Worker → List Ticket
  | sending _ acknowledged _ _ => acknowledged
  | refreshing _ acknowledged => acknowledged
  | idle | dead => []

/-- A worker takes over as succeeded only what it has sent. -/
lemma Worker.Turns.mem_acknowledged {answer : Answer} {worker next : Worker}
    {acknowledged : List Ticket} (h : worker.Turns answer next acknowledged) {t : Ticket}
    (ht : t ∈ next.acknowledged) : t ∈ worker.acknowledged ∨ t ∈ worker.inCall := by
  cases h with
  | sends hgroup => exact (List.mem_append.1 ht).imp_right fun h => hgroup h
  | asks hgroup => exact (List.mem_append.1 ht).imp_right fun h => hgroup h
  | skips hgroup hnone => exact absurd ht List.not_mem_nil
  | refreshed haccepts => exact absurd ht List.not_mem_nil
  | fails hnext => rcases hnext with rfl | rfl <;> exact absurd ht List.not_mem_nil

/-- A ticket whose request asks for a refresh is acknowledged only after that. -/
lemma Worker.Turns.refreshed_of_mem {answer : Answer} {worker next : Worker}
    {acknowledged : List Ticket} (h : worker.Turns answer next acknowledged) {t : Ticket}
    (ht : t ∈ acknowledged) (hrefresh : t.request.refresh = true) :
    t ∈ worker.acknowledged ∧ ∃ indexes,
      Processor.awaitedCall? worker = some (refreshCall indexes) ∧ t.request.index ∈ indexes ∧
        answer.Accepts (refreshCall indexes) := by
  have hindex : t.request.index ∈ Processor.batchIndexes acknowledged :=
    mem_refreshedIndexes (List.mem_map_of_mem ht) hrefresh
  cases h with
  | sends hgroup => exact absurd ht List.not_mem_nil
  | asks hgroup => exact absurd ht List.not_mem_nil
  | skips hgroup hnone =>
    rw [hnone] at hindex
    exact absurd hindex List.not_mem_nil
  | refreshed haccepts => exact ⟨ht, _, rfl, hindex, haccepts⟩
  | fails hnext => exact absurd ht List.not_mem_nil

namespace Processor

variable {p p' : Processor}

/-- No ticket has been settled, and no worker has made any progress with its batch, but for those
that begin anew. -/
structure Rests (p p' : Processor) : Prop where
  outcome_eq : ∀ n, p'.outcome n = p.outcome n
  recorded_eq : ∀ index, p'.recorded index = p.recorded index
  workers : ∀ (i : Nat) (worker : Worker), p'.workers[i]? = some worker →
    p.workers[i]? = some worker ∨ worker.acknowledged = [] ∧ worker.SendsGroups

lemma rests_of_eq (houtcome : ∀ n, p'.outcome n = p.outcome n)
    (hfailures : p'.failures = p.failures) (hworkers : p'.workers = p.workers) : p.Rests p' where
  outcome_eq := houtcome
  recorded_eq index := by rw [recorded, recorded, unreported, unreported, hfailures]
  workers i worker hi := Or.inl (hworkers ▸ hi)

lemma Spares.rests (h : p.Spares p') : p.Rests p' where
  outcome_eq := h.outcome_eq
  recorded_eq index := by rw [recorded, recorded, unreported, unreported, h.failures_eq]
  workers i worker hi := (h.getElem?_workers hi).imp_right fun hdead => by
    rw [hdead]
    exact ⟨rfl, trivial⟩

lemma rests_accept (r : WorkRequest) (s : Shared) :
    s.processor.Rests (Execution.accept r s).1.processor where
  outcome_eq := outcome_accept r s
  recorded_eq index := by rw [recorded, recorded, unreported, unreported, failures_accept]
  workers i worker hi := by
    rw [workers_accept, Processor.start] at hi
    dsimp only at hi
    split at hi
    · obtain rfl := List.eq_of_mem_replicate (List.mem_of_getElem? hi)
      exact Or.inr ⟨rfl, trivial⟩
    · exact Or.inl hi

lemma rests_takeBatch (i : Nat) (hqueue : p.isQueueEmpty = false) : p.Rests (p.takeBatch i) := by
  obtain ⟨q, batch, left, group, rest, hq, htickets, hgroups, htake⟩ := takeBatch_eq_groups i hqueue
  rw [htake]
  refine ⟨fun n => rfl, fun index => rfl, fun j worker hj => ?_⟩
  by_cases hij : i = j
  · subst hij
    have hlt : i < p.workers.length := by
      simpa [setWorker] using (List.getElem?_eq_some_iff.1 hj).1
    simp only [setWorker] at hj
    rw [List.getElem?_set_self hlt] at hj
    obtain rfl := Option.some.inj hj
    exact Or.inr ⟨rfl, Worker.sendsGroups_of_groups_eq hgroups⟩
  · simp only [setWorker] at hj
    rw [List.getElem?_set_ne hij] at hj
    exact Or.inl hj

/-! ### Reports -/

lemma recorded_clearReported_of_not_covers {scope : Option String} {index : String}
    (h : covers scope index = false) : (p.clearReported scope).recorded index = p.recorded index := by
  cases scope with
  | none => cases h
  | some own =>
    have hne : own ≠ index := by simpa [covers] using h
    simp [clearReported, unreported, Table.get?_erase_of_ne _ hne]

/-- What is recorded for an index is reported to whoever awaits it. -/
lemma mem_unreported {scope : Option String} {index : String} {failure : Failure}
    (h : failure ∈ p.recorded index) (hcovers : covers scope index = true) :
    failure ∈ p.unreported scope := by
  cases scope with
  | some own =>
    obtain rfl : own = index := by simpa [covers] using hcovers
    exact h
  | none =>
    rw [recorded, unreported] at h
    cases hknown : Table.get? p.failures index with
    | none => simp [hknown] at h
    | some failures =>
      rw [hknown] at h
      exact List.mem_flatMap.2 ⟨_, Table.mem_of_get?_eq_some hknown, h⟩

lemma workers_clearReported (p : Processor) (scope : Option String) :
    (p.clearReported scope).workers = p.workers := by
  cases scope <;> rfl

end Processor

/-! ## Worlds -/

namespace World

variable {s : Shared} {history : DutyHistory} {w w' : OfErrands} {event : Event Duty}

/-- The answer that a worker receives at an event, with where it stood. -/
def answerTo (i : Nat) (w : OfErrands) : Event Duty → List (Worker × Answer)
  | .answer j answer =>
    if j = i then ((w.shared.processor.workers[i]?).map (·, answer)).toList else []
  | .start _ | .resume _ | .reply _ _ | .take _ | .forget _ => []

/-- The answers that a worker has received, in order, with where it stood. -/
def answersTo (s : Shared) (i : Nat) (history : DutyHistory) : List (Worker × Answer) :=
  gather (answerTo i) ⟨s, []⟩ history

/-- What is known of the tickets: they are in good hands, a worker acknowledges only what it has
sent and refreshed, and a failure is recorded until it is raised. -/
structure IsReliable (s : Shared) (history : DutyHistory) (w : OfErrands) : Prop where
  faithful : w.shared.processor.IsFaithful (submissions history)
  groups : ∀ (i : Nat) (worker : Worker), w.shared.processor.workers[i]? = some worker →
    worker.SendsGroups
  sent : ∀ (i : Nat) (worker : Worker), w.shared.processor.workers[i]? = some worker →
    ∀ t ∈ worker.acknowledged, ∃ x ∈ answersTo s i history, t ∈ x.1.inCall ∧ x.1.SendsGroups
  visible : ∀ n r, (submissions history)[n]? = some r →
    w.shared.processor.outcome n = .acknowledged → r.refresh = true →
    ∃ i, IsRefreshedBy (answersTo s i history) n r
  recorded : ∀ n r failure, (submissions history)[n]? = some r →
    w.shared.processor.outcome n = .failed failure →
    failure ∈ w.shared.processor.recorded r.index ∨ IsRaised history n r.index failure
  duties : HasDuties history w

lemma answersTo_snoc_of_none (hrun : Run Duty.task s history w) {i : Nat}
    (hanswer : answerTo i w event = []) (w' : OfErrands) :
    answersTo s i (history ++ [(event, w')]) = answersTo s i history := by
  rw [answersTo, hrun.gather_snoc, hanswer, List.append_nil, ← answersTo]

lemma answersTo_snoc_self (hrun : Run Duty.task s history w) {i : Nat} {worker : Worker}
    (hi : w.shared.processor.workers[i]? = some worker) (answer : Answer) (w' : OfErrands) :
    answersTo s i (history ++ [(.answer i answer, w')]) =
      answersTo s i history ++ [(worker, answer)] := by
  rw [answersTo, hrun.gather_snoc]
  simp [answerTo, hi, answersTo]

lemma answersTo_snoc_of_ne (hrun : Run Duty.task s history w) {i j : Nat} (hij : i ≠ j)
    (answer : Answer) (w' : OfErrands) :
    answersTo s j (history ++ [(.answer i answer, w')]) = answersTo s j history :=
  answersTo_snoc_of_none hrun (by simp [answerTo, hij]) w'

/-- A request keeps its number while others are submitted. -/
lemma getElem?_submissions {k n : Nat} {r : WorkRequest}
    (h : (Duty.submitted ((launched history).take k))[n]? = some r) :
    (submissions history)[n]? = some r := by
  have hpast : Duty.submitted ((launched history).take k) <+: submissions history :=
    (List.take_prefix k _).filterMap _
  obtain ⟨rest, hrest⟩ := hpast
  rwa [← hrest, List.getElem?_append_left (List.getElem?_eq_some_iff.1 h).1]

namespace IsReliable

/-- A request that is done has been submitted before. -/
lemma getElem?_of_isDone (h : IsReliable s history w) {n : Nat} {r : WorkRequest}
    (hr : (submissions (history ++ [(event, w')]))[n]? = some r)
    (hdone : w.shared.processor.IsDone n) : (submissions history)[n]? = some r := by
  have hlt : n < (submissions history).length := by
    by_contra hge
    rw [← h.faithful.numbered] at hge
    have hnone := List.getElem?_eq_none (Nat.le_of_not_lt hge)
    rw [Processor.IsDone, Processor.outcome, List.getD_eq_getElem?_getD, hnone] at hdone
    cases hdone
  rwa [submissions_snoc, List.getElem?_append_left hlt] at hr

/-- Where no worker receives an answer and no failure is raised, nothing happens to what has been
sent, acknowledged and recorded. -/
lemma rest (h : IsReliable s history w) (hrun : Run Duty.task s history w)
    (hanswer : ∀ i, answerTo i w event = [])
    (hrests : w.shared.processor.Rests w'.shared.processor)
    (hfaithful : w'.shared.processor.IsFaithful (submissions (history ++ [(event, w')])))
    (hduties : HasDuties (history ++ [(event, w')]) w') :
    IsReliable s (history ++ [(event, w')]) w' := by
  have hanswers (i : Nat) : answersTo s i (history ++ [(event, w')]) = answersTo s i history :=
    answersTo_snoc_of_none hrun (hanswer i) w'
  have hdone {n : Nat} {outcome : Outcome} (hn : w'.shared.processor.outcome n = outcome)
      (hisDone : outcome.isDone = true) : w.shared.processor.IsDone n := by
    rw [hrests.outcome_eq] at hn
    rw [Processor.IsDone, hn]
    exact hisDone
  refine ⟨hfaithful, fun i worker hi => ?_, fun i worker hi t ht => ?_,
    fun n r hr hn hrefresh => ?_, fun n r failure hr hn => ?_, hduties⟩
  · exact (hrests.workers i worker hi).elim (h.groups i worker) And.right
  · rw [hanswers]
    rcases hrests.workers i worker hi with hi | ⟨hnone, -⟩
    · exact h.sent i worker hi t ht
    · rw [hnone] at ht
      exact absurd ht List.not_mem_nil
  · have hr' := h.getElem?_of_isDone hr (hdone hn rfl)
    rw [hrests.outcome_eq] at hn
    obtain ⟨i, hvisible⟩ := h.visible n r hr' hn hrefresh
    exact ⟨i, (hanswers i).symm ▸ hvisible⟩
  · have hr' := h.getElem?_of_isDone hr (hdone hn rfl)
    rw [hrests.outcome_eq] at hn
    rw [hrests.recorded_eq]
    exact (h.recorded n r failure hr' hn).imp_right fun hraised => hraised.snoc event w'

/-- What a worker has acknowledged after an answer, it has sent before. -/
lemma sent_answer (h : IsReliable s history w) (hrun : Run Duty.task s history w) {i j : Nat}
    {worker next other : Worker} {acknowledged : List Ticket} {answer : Answer} {w' : OfErrands}
    (hi : w.shared.processor.workers[i]? = some worker)
    (hturns : worker.Turns answer next acknowledged)
    (hj : (w.shared.processor.workers.set i next)[j]? = some other) :
    ∀ t ∈ other.acknowledged, ∃ x ∈ answersTo s j (history ++ [(.answer i answer, w')]),
      t ∈ x.1.inCall ∧ x.1.SendsGroups := by
  intro t ht
  by_cases hij : i = j
  · subst hij
    rw [List.getElem?_set_self (List.getElem?_eq_some_iff.1 hi).1] at hj
    obtain rfl := Option.some.inj hj
    rw [answersTo_snoc_self hrun hi]
    rcases hturns.mem_acknowledged ht with ht | ht
    · obtain ⟨x, hx, hmem⟩ := h.sent i worker hi t ht
      exact ⟨x, List.mem_append_left _ hx, hmem⟩
    · exact ⟨(worker, answer), List.mem_append_right _ (List.mem_singleton_self _), ht,
        h.groups i worker hi⟩
  · rw [List.getElem?_set_ne hij] at hj
    rw [answersTo_snoc_of_ne hrun hij]
    exact h.sent j other hj t ht

/-- A request that a worker acknowledges with an answer was sent before its refresh. -/
lemma isRefreshedBy_answer (h : IsReliable s history w) (hrun : Run Duty.task s history w)
    {i : Nat} {worker next : Worker} {acknowledged : List Ticket} {answer : Answer}
    {w' : OfErrands} (hi : w.shared.processor.workers[i]? = some worker)
    (hturns : worker.Turns answer next acknowledged) {t : Ticket} (ht : t ∈ acknowledged)
    (hrefresh : t.request.refresh = true) :
    IsRefreshedBy (answersTo s i (history ++ [(.answer i answer, w')])) t.serial t.request := by
  obtain ⟨hheld, indexes, hawaited, hindex, haccepts⟩ := hturns.refreshed_of_mem ht hrefresh
  obtain ⟨x, hx, hsent, hgroups⟩ := h.sent i worker hi t hheld
  obtain ⟨sent, hsending, hsends⟩ := hgroups.exists_sends (List.ne_nil_of_mem hsent)
  refine ⟨t, x.1, worker, sent, _, x.2, answer, ⟨rfl, rfl⟩, hsent, hsending, hsends, hawaited,
    haccepts.hasRefreshed hindex, ?_⟩
  rw [answersTo_snoc_self hrun hi]
  exact (List.singleton_sublist.2 hx).append (.refl [(worker, answer)])

/-- What a worker has been told is not taken back. -/
lemma isRefreshedBy_later (hrun : Run Duty.task s history w) {i j n : Nat} {r : WorkRequest}
    {worker : Worker} {answer : Answer} {w' : OfErrands}
    (hi : w.shared.processor.workers[i]? = some worker)
    (hvisible : IsRefreshedBy (answersTo s j history) n r) :
    IsRefreshedBy (answersTo s j (history ++ [(.answer i answer, w')])) n r := by
  by_cases hij : i = j
  · subst hij
    rw [answersTo_snoc_self hrun hi]
    exact hvisible.append _
  · rwa [answersTo_snoc_of_ne hrun hij]

/-- A worker that receives an answer acknowledges what it has sent and refreshed, and records what
fails. -/
lemma answer (h : IsReliable s history w) (hrun : Run Duty.task s history w) {i : Nat}
    {worker : Worker} (hi : w.shared.processor.workers[i]? = some worker)
    (hcall : (Processor.awaitedCall? worker).isSome) (answer : Answer) :
    IsReliable s
      (history ++ [(.answer i answer, w.worked (w.shared.processor.answered i answer))])
      (w.worked (w.shared.processor.answered i answer)) := by
  obtain ⟨next, acknowledged, hturned⟩ := Processor.exists_turns hi hcall answer
  let after : Processor := w.shared.processor.answered i answer
  have hsettles : w.shared.processor.Settles (worker.batch ++ worker.undecided) acknowledged after :=
    hturned.settles.trans_eq rfl rfl
  have hworkers : after.workers = w.shared.processor.workers.set i next := hturned.workers_eq
  have hsubmissions : submissions (history ++ [(.answer i answer, w.worked after)]) =
      submissions history := submissions_snoc_of_none history rfl _
  have hgenuine (t : Ticket) (ht : t ∈ worker.batch ++ worker.undecided) :
      t.IsGenuine (submissions history) :=
    h.faithful.working worker (List.mem_of_getElem? hi) t ht
  refine ⟨?_, fun j other hj => ?_, fun j other hj => ?_, fun n r hr hn hrefresh => ?_,
    fun n r failure hr hn => ?_, h.duties.worked rfl hsettles.outcome_eq⟩
  · rw [hsubmissions]
    exact h.faithful.answered hi hcall answer
  · change after.workers[j]? = some other at hj
    rw [hworkers] at hj
    by_cases hij : i = j
    · subst hij
      rw [List.getElem?_set_self (List.getElem?_eq_some_iff.1 hi).1] at hj
      obtain rfl := Option.some.inj hj
      exact hturned.turns.sendsGroups (h.groups i worker hi)
    · rw [List.getElem?_set_ne hij] at hj
      exact h.groups j other hj
  · change after.workers[j]? = some other at hj
    rw [hworkers] at hj
    exact h.sent_answer hrun hi hturned.turns hj
  · rw [hsubmissions] at hr
    rcases hsettles.acknowledged_of n hn with hn | ⟨t, ht, rfl⟩
    · obtain ⟨j, hvisible⟩ := h.visible n r hr hn hrefresh
      exact ⟨j, isRefreshedBy_later hrun hi hvisible⟩
    · have hmem := hturned.turns.acknowledged_subset ht
      obtain rfl : t.request = r :=
        Option.some.inj ((hgenuine t (List.mem_append_right _ hmem)).symm.trans hr)
      exact ⟨i, h.isRefreshedBy_answer hrun hi hturned.turns ht hrefresh⟩
  · rw [hsubmissions] at hr
    rcases hsettles.failed_of n failure hn with hn | ⟨t, ht, rfl, hrecorded⟩
    · refine (h.recorded n r failure hr hn).imp (fun hmem => ?_) fun hraised => hraised.snoc _ _
      exact hsettles.recorded_subset r.index hmem
    · obtain rfl : t.request = r := Option.some.inj ((hgenuine t ht).symm.trans hr)
      exact Or.inl hrecorded

/-- A task that awaits requests has come to its end. -/
lemma report (h : IsReliable s history w) (hrun : Run Duty.task s history w)
    {scope : Option String} {k : Nat} {tasks : List Errand.Rest}
    (hw' : w' = ⟨w.shared.mapProcessor (·.clearReported scope), tasks⟩)
    (hanswer : ∀ i, answerTo i w event = [])
    (hsubmissions : submissions (history ++ [(event, w')]) = submissions history)
    (hevent : w'.IsOf k event)
    (hduty : (launched (history ++ [(event, w')]))[k]? = some (.await scope))
    (hends : w'.tasks[k]? =
      some (.done (Errand.reported scope (w.shared.processor.unreported scope))))
    (hduties : (∀ n r failure, (submissions history)[n]? = some r → covers scope r.index = true →
        w.shared.processor.outcome n = .failed failure →
        IsRaised (history ++ [(event, w')]) n r.index failure) →
      HasDuties (history ++ [(event, w')]) w') :
    IsReliable s (history ++ [(event, w')]) w' := by
  have hprocessor : w'.shared.processor = w.shared.processor.clearReported scope := by rw [hw']; rfl
  have houtcome (n : Nat) : w'.shared.processor.outcome n = w.shared.processor.outcome n := by
    rw [hprocessor, Processor.outcome_clearReported]
  have hanswers (i : Nat) : answersTo s i (history ++ [(event, w')]) = answersTo s i history :=
    answersTo_snoc_of_none hrun (hanswer i) w'
  -- what is recorded of the scope is raised now
  have hraised (n : Nat) (r : WorkRequest) (failure : Failure)
      (hr : (submissions history)[n]? = some r) (hcovers : covers scope r.index = true)
      (hn : w.shared.processor.outcome n = .failed failure) :
      IsRaised (history ++ [(event, w')]) n r.index failure := by
    rcases h.recorded n r failure hr hn with hmem | hraised
    · have hreported := Processor.mem_unreported hmem hcovers
      cases hunreported : w.shared.processor.unreported scope with
      | nil =>
        rw [hunreported] at hreported
        exact absurd hreported List.not_mem_nil
      | cons first others =>
        rw [hunreported] at hreported hends
        exact ⟨event, w', k, scope, first, others, by simp, hevent, hduty, hends, hcovers,
          hreported, (houtcome n).trans hn⟩
    · exact hraised.snoc event w'
  refine ⟨?_, fun i worker hi => ?_, fun i worker hi t ht => ?_, fun n r hr hn hrefresh => ?_,
    fun n r failure hr hn => ?_, hduties hraised⟩
  · rw [hsubmissions, hprocessor]
    exact h.faithful.clearReported scope
  · rw [hprocessor, Processor.workers_clearReported] at hi
    exact h.groups i worker hi
  · rw [hprocessor, Processor.workers_clearReported] at hi
    rw [hanswers]
    exact h.sent i worker hi t ht
  · rw [hsubmissions] at hr
    obtain ⟨i, hvisible⟩ := h.visible n r hr ((houtcome n).symm.trans hn) hrefresh
    exact ⟨i, (hanswers i).symm ▸ hvisible⟩
  · rw [hsubmissions] at hr
    rw [houtcome] at hn
    cases hcovers : covers scope r.index with
    | true => exact Or.inr (hraised n r failure hr hcovers hn)
    | false =>
      rw [hprocessor, Processor.recorded_clearReported_of_not_covers hcovers]
      exact (h.recorded n r failure hr hn).imp_right fun hraised => hraised.snoc event w'

/-! ### Steps -/

/-- A request is submitted. -/
lemma submit (h : IsReliable s history w) (hrun : Run Duty.task s history w) (r : WorkRequest) :
    IsReliable s (history ++ [(.start (.submit r), w.started (Duty.submit r).task)])
      (w.started (Duty.submit r).task) := by
  have hstarted : w.started (Duty.submit r).task = _ := started_submit w r
  obtain ⟨hfaithful, hgenuine⟩ := h.faithful.accept r
  have hrests := Processor.rests_accept r w.shared
  have hsubmissions (w'' : OfErrands) :
      submissions (history ++ [(.start (.submit r), w'')]) = submissions history ++ [r] := by
    rw [submissions_snoc]
    rfl
  rw [hstarted]
  refine h.rest hrun (fun i => rfl) hrests (by rw [hsubmissions]; exact hfaithful)
    (h.duties.start (fun n _ => hrests.outcome_eq n) _ ?_)
  split
  · exact .submitted r _
  · exact .puts r _ (by rw [hsubmissions]; exact hgenuine)

/-- Requests that nobody has to wait for are done. -/
lemma isDone_of_waiting (h : IsReliable s history w) {scope : Option String} {n : Nat}
    {r : WorkRequest} (hr : (submissions history)[n]? = some r)
    (hcovers : covers scope r.index = true)
    (hwaiting : ∀ m ∈ w.shared.processor.waitingTickets scope, w.shared.processor.IsDone m) :
    w.shared.processor.IsDone n := by
  by_contra hnot
  exact hnot (hwaiting n (h.faithful.mem_waitingTickets hr hnot hcovers))

/-- Requests are awaited. -/
lemma await (h : IsReliable s history w) (hrun : Run Duty.task s history w)
    (scope : Option String) :
    IsReliable s (history ++ [(.start (.await scope), w.started (Duty.await scope).task)])
      (w.started (Duty.await scope).task) := by
  have hsubmissions (w'' : OfErrands) :
      submissions (history ++ [(.start (.await scope), w'')]) = submissions history := by
    rw [submissions_snoc]
    exact List.append_nil _
  have hstarted : (Duty.await scope).task.untilWait w.shared =
      if (w.shared.processor.waitingTickets scope).isEmpty then
        (Errand.reporting scope).untilWait w.shared
      else (Errand.awaiting scope (w.shared.processor.waitingTickets scope), w.shared) :=
    Errand.untilWait_await scope w.shared
  rw [started, hstarted]
  by_cases hempty : (w.shared.processor.waitingTickets scope).isEmpty = true
  · -- nothing has to be waited for, so failures are raised at once
    rw [if_pos hempty, Errand.untilWait_reporting_eq]
    have hnone := List.isEmpty_iff.1 hempty
    refine h.report hrun (k := w.tasks.length) rfl (fun i => rfl) (hsubmissions _)
      (by simp [IsOf]) ?_ List.getElem?_concat_length fun hraised =>
      h.duties.start (fun n _ => Processor.outcome_clearReported _ scope n) _ ?_
    · rw [launched_snoc, ← h.duties.length_eq]
      exact List.getElem?_concat_length
    · refine .awaited scope _ fun n r hr hcovers => ?_
      have hdone : w.shared.processor.IsDone n := h.isDone_of_waiting hr hcovers fun m hm => by
        rw [hnone] at hm
        exact absurd hm List.not_mem_nil
      refine ⟨?_, fun failure hfailed => hraised n r failure hr hcovers ?_⟩
      · rwa [Processor.IsDone, Shared.mapProcessor, Processor.outcome_clearReported]
      · rwa [Shared.mapProcessor, Processor.outcome_clearReported] at hfailed
  · rw [if_neg hempty]
    refine h.rest hrun (fun i => rfl) (Processor.rests_of_eq (fun n => rfl) rfl rfl)
      (by rw [hsubmissions]; exact h.faithful) (h.duties.start (fun n _ => rfl) _ ?_)
    exact .awaits scope _ fun n r hr hcovers hnot => h.faithful.mem_waitingTickets hr hnot hcovers

/-- Something starts that is not about tickets. -/
lemma start_aside (h : IsReliable s history w) (hrun : Run Duty.task s history w) {duty : Duty}
    (haside : duty.isAboutTickets = false) :
    IsReliable s (history ++ [(.start duty, w.started duty.task)]) (w.started duty.task) := by
  obtain ⟨hspares, hrest⟩ := (Duty.spares_task haside).untilWait w.shared
  have hsubmissions (w'' : OfErrands) :
      submissions (history ++ [(.start duty, w'')]) = submissions history := by
    rw [submissions_snoc]
    cases duty with
    | submit r => cases haside
    | await scope => cases haside
    | _ => exact List.append_nil _
  exact h.rest hrun (fun i => rfl) hspares.rests
    (by rw [hsubmissions]; exact h.faithful.of_spares hspares)
    (h.duties.start (fun n _ => hspares.outcome_eq n) _ (.aside haside hrest))

/-- A task goes on that is not about tickets. -/
lemma go_on_aside (h : IsReliable s history w) (hrun : Run Duty.task s history w) {k : Nat}
    {duty : Duty} (hduty : (launched history)[k]? = some duty)
    (haside : duty.isAboutTickets = false) {next : Errand.Rest} (hnext : next.Spares)
    {event : Event Duty} (hevent : launched? event = none) (hanswer : ∀ i, answerTo i w event = []) :
    IsReliable s (history ++ [(event, w.continued k next)]) (w.continued k next) := by
  obtain ⟨hspares, hrest⟩ := hnext.untilWait w.shared
  exact h.rest hrun hanswer hspares.rests
    (by rw [submissions_snoc_of_none _ hevent]; exact h.faithful.of_spares hspares)
    (h.duties.go_on hevent hduty (fun n _ => hspares.outcome_eq n) _ (.aside haside hrest))

/-- A task that waited goes on. -/
lemma resume (h : IsReliable s history w) (hrun : Run Duty.task s history w) {k : Nat}
    {ready : Shared → Bool} {next : Errand.Rest} (hk : w.tasks[k]? = some (.wait ready next))
    (hready : ready w.shared = true) :
    IsReliable s (history ++ [(.resume k, w.continued k next)]) (w.continued k next) := by
  have hlt : k < w.tasks.length := (List.getElem?_eq_some_iff.1 hk).1
  obtain ⟨duty, hduty⟩ : ∃ duty, (launched history)[k]? = some duty :=
    ⟨_, List.getElem?_eq_getElem (h.duties.length_eq.symm ▸ hlt)⟩
  have hsubmissions (w'' : OfErrands) :
      submissions (history ++ [(.resume k, w'')]) = submissions history :=
    submissions_snoc_of_none history rfl w''
  have hplace := h.duties.stands k duty _ hduty hk
  -- the task is a variable here, so that its place can be split into cases
  generalize htask : Task.wait ready next = t at hplace
  cases hplace with
  | puts r t hgenuine =>
    obtain ⟨-, rfl⟩ := Task.wait.inj htask
    have hput : w.continued k (Errand.enqueuing t) =
        ⟨w.shared.mapProcessor (·.enqueue t), w.tasks.set k (.done (.ok (some t)))⟩ := rfl
    have hrests : w.shared.processor.Rests (w.shared.processor.enqueue t) :=
      Processor.rests_of_eq (fun n => rfl) rfl rfl
    rw [hput]
    refine h.rest hrun (fun i => rfl) hrests
      (by rw [hsubmissions]; exact h.faithful.enqueue hgenuine) ?_
    refine h.duties.go_on rfl hduty (fun n _ => ?_) _ (.submitted r _)
    exact hrests.outcome_eq n
  | submitted r result => cases htask
  | awaits scope waiting hwaits =>
    obtain ⟨rfl, rfl⟩ := Task.wait.inj htask
    have hdone (n : Nat) (hn : n ∈ waiting) : w.shared.processor.IsDone n :=
      List.all_eq_true.1 hready n hn
    rw [continued, Errand.untilWait_reporting_eq]
    refine h.report hrun (k := k) rfl (fun i => rfl) (hsubmissions _) rfl ?_
      (List.getElem?_set_self hlt) fun hraised =>
      h.duties.go_on rfl hduty (fun n _ => Processor.outcome_clearReported _ scope n) _ ?_
    · rw [launched_snoc]
      exact (List.append_nil (launched history)).symm ▸ hduty
    · refine .awaited scope _ fun n r hr hcovers => ?_
      have hbefore : (submissions history)[n]? = some r := getElem?_submissions hr
      have hn : w.shared.processor.IsDone n := by
        by_contra hnot
        exact hnot (hdone n (hwaits n r hr hcovers hnot))
      refine ⟨?_, fun failure hfailed => hraised n r failure hbefore hcovers ?_⟩
      · rwa [Processor.IsDone, Shared.mapProcessor, Processor.outcome_clearReported]
      · rwa [Shared.mapProcessor, Processor.outcome_clearReported] at hfailed
  | awaited scope result hdone => cases htask
  | aside haside hspares =>
    subst htask
    have hnext : next.Spares := hspares
    exact h.go_on_aside hrun hduty haside hnext rfl fun i => rfl

/-- What happens next leaves the tickets in good hands. -/
lemma step (h : IsReliable s history w) (hrun : Run Duty.task s history w)
    (hstep : Step Duty.task w event w') : IsReliable s (history ++ [(event, w')]) w' := by
  cases hstep with
  | start duty =>
    cases duty with
    | submit r => exact h.submit hrun r
    | await scope => exact h.await hrun scope
    | _ => exact h.start_aside hrun rfl
  | resume hk hready => exact h.resume hrun hk hready
  | @reply k request next hk answer =>
    have hlt : k < w.tasks.length := (List.getElem?_eq_some_iff.1 hk).1
    obtain ⟨duty, hduty⟩ : ∃ duty, (launched history)[k]? = some duty :=
      ⟨_, List.getElem?_eq_getElem (h.duties.length_eq.symm ▸ hlt)⟩
    -- only what is not about tickets stands at a call
    cases h.duties.stands k duty _ hduty hk with
    | aside haside hspares =>
      have hanswer (i : Nat) : answerTo i w (.reply k answer) = [] := rfl
      exact h.go_on_aside hrun hduty haside (hspares answer) rfl hanswer
  | @take i hi hqueue =>
    have hrests := Processor.rests_takeBatch i hqueue
    exact h.rest hrun (fun i => rfl) hrests
      (by rw [submissions_snoc_of_none _ rfl]; exact h.faithful.takeBatch i hqueue)
      (h.duties.worked rfl fun n _ => hrests.outcome_eq n)
  | answer hi hcall answer => exact h.answer hrun hi hcall answer
  | forget hdone =>
    exact h.rest hrun (fun i => rfl) (Processor.rests_of_eq (fun n => rfl) rfl rfl)
      (by rw [submissions_snoc_of_none _ rfl]; exact h.faithful.forget hdone)
      (h.duties.worked rfl fun n _ => rfl)

end IsReliable

/-- Along every run the tickets are in good hands, whatever the monitors do. -/
lemma Run.isReliable (hunused : s.processor.IsUnused) (hrun : Run Duty.task s history w) :
    IsReliable s history w := by
  induction hrun with
  | begin =>
    obtain ⟨hqueue, hworkers, hpending, houtcomes⟩ := hunused
    refine ⟨⟨by rw [houtcomes]; rfl, fun t ht => ?_, fun worker hworker => ?_, fun n r hr => ?_⟩,
      fun i worker hi => ?_, fun i worker hi => ?_, fun n r hr => ?_, fun n r failure hr => ?_,
      ⟨rfl, fun k duty t hduty => ?_⟩⟩
    · rw [Processor.queued, hqueue] at ht
      exact absurd ht List.not_mem_nil
    · rw [hworkers] at hworker
      exact absurd hworker List.not_mem_nil
    · cases hr
    · rw [hworkers] at hi
      cases hi
    · rw [hworkers] at hi
      cases hi
    · cases hr
    · cases hr
    · cases hduty
  | snoc hrun hstep ih => exact ih.step hrun hstep

/-- **Acknowledged means visible.**  Whatever calls of the request processor there are, in whatever
interleaving with the workers, and whatever the service answers and the monitors do: where requests
that are carried out at once end without a failure, all of them have been sent, and after that the
index of each one that asks for it has been refreshed; the same holds of a request that was handed
to the workers, once it is acknowledged.  Whoever has awaited an index finds each request for it
that was accepted before, and asks for a refresh, acknowledged and visible, or failed and raised by
then. -/
theorem visible_of_acknowledged (hunused : s.processor.IsUnused)
    (hrun : Run Duty.task s history w) :
    (∀ k requests, (launched history)[k]? = some (.perform requests) →
      w.tasks[k]? = some (.done (.ok none)) → AreRefreshed (exchanges s k history) requests) ∧
    (∀ n r, (submissions history)[n]? = some r → w.shared.processor.outcome n = .acknowledged →
      r.refresh = true → ∃ i, IsRefreshedBy (answersTo s i history) n r) ∧
    ∀ k index result, (launched history)[k]? = some (.await (some index)) →
      w.tasks[k]? = some (.done result) → ∀ n r,
        (Duty.submitted ((launched history).take k))[n]? = some r → r.index = index →
        r.refresh = true →
        (w.shared.processor.outcome n = .acknowledged ∧
          ∃ i, IsRefreshedBy (answersTo s i history) n r) ∨
        ∃ failure, w.shared.processor.outcome n = .failed failure ∧
          IsRaised history n index failure := by
  have h := hrun.isReliable hunused
  refine ⟨fun k requests hduty hdone => ?_, h.visible, ?_⟩
  · have hpath : Activity.Path (do Execution.runNow requests; return (none : Option Ticket))
        (exchanges s k history) (.ok none) := hrun.path hduty hdone
    obtain ⟨_, before, after, hperformed, hreturn, htrace⟩ := Activity.path_bind_ok hpath
    obtain ⟨rfl, -⟩ := Task.path_done hreturn
    rw [List.append_nil] at htrace
    exact htrace ▸ Execution.path_runNow hperformed
  · intro k index result hduty hdone n r hr hindex hrefresh
    have hr' : (submissions history)[n]? = some r := getElem?_submissions hr
    have hplace := h.duties.stands k _ _ hduty hdone
    -- the task is a variable here, so that its place can be split into cases
    generalize htask : (Task.done result : Errand.Rest) = t at hplace
    cases hplace with
    | awaits scope waiting hwaits => cases htask
    | awaited scope result hall =>
      obtain ⟨hisDone, hraised⟩ := hall n r hr (by simp [covers, hindex])
      cases houtcome : w.shared.processor.outcome n with
      | waiting =>
        rw [Processor.IsDone, houtcome] at hisDone
        cases hisDone
      | acknowledged => exact Or.inl ⟨rfl, h.visible n r hr' houtcome hrefresh⟩
      | failed failure => exact Or.inr ⟨failure, rfl, hindex ▸ hraised failure houtcome⟩
    | aside haside hspares => cases haside

/-- Documents are deleted at once, and again by a worker whom another task awaits. -/
theorem visible_of_acknowledged_twice :
    let s := Shared.fresh ⟨1, 100, 0⟩ default
    let request : WorkRequest :=
      ⟨"books", "POST", "/books/book/_delete_by_query", some [("conflicts", .text "proceed")],
        some [("query", Operation.purgeQuery none)], none, [404], true, none⟩
    ∃ history w, Run Duty.task s history w ∧ w.tasks[2]? = some (.done (.ok none)) ∧
      (exchanges s 0 history).map (fun x => x.1.path) =
        ["/books/book/_delete_by_query", "/books/_refresh"] ∧
      AreRefreshed (exchanges s 0 history) [request] ∧
      ∃ i, IsRefreshedBy (answersTo s i history) 0 request := by
  intro s request
  let t : Ticket := ⟨0, 0, request⟩
  let stage (queue : Queue) (worker : Worker) (outcome : Outcome) : OfErrands :=
    ⟨{ s with processor :=
        ⟨⟨1, 100, 0⟩, 0, some queue, [worker], [("books", ⟨0, [0]⟩)], 1, [outcome], [], []⟩ },
      [.done (.ok none), .done (.ok (some t))]⟩
  let accepted : Answer := .reply 200 .empty
  have hbegin : Run Duty.task s [] ⟨s, []⟩ := .begin
  have hstarted := hbegin.snoc (.start (.perform [request]))
  have hsent := hstarted.snoc (.reply (k := 0) rfl accepted)
  have hends := hsent.snoc (.reply (k := 0) rfl accepted)
  have hperformed : Run Duty.task s _ ⟨s, [.done (.ok none)]⟩ := hends
  have hsubmitted : Run Duty.task s _ (stage ⟨[t], 1, 0⟩ .idle .waiting) :=
    hperformed.snoc (.start (Duty.submit request))
  have htaken : Run Duty.task s _ (stage ⟨[], 1, 0⟩ (.sending [t] [] [t] []) .waiting) :=
    hsubmitted.snoc (.take (i := 0) rfl rfl)
  have hanswered : Run Duty.task s _ (stage ⟨[], 1, 0⟩ (.refreshing [t] [t]) .waiting) :=
    htaken.snoc (.answer (i := 0) rfl rfl accepted)
  have hrefreshed : Run Duty.task s _ (stage ⟨[], 0, 1⟩ .idle .acknowledged) :=
    hanswered.snoc (.answer (i := 0) rfl rfl accepted)
  have hforgotten := hrefreshed.snoc (.forget (t := t) rfl)
  have hawaited := hforgotten.snoc (.start (.await (some "books")))
  obtain ⟨hsync, hasync, -⟩ := visible_of_acknowledged ⟨rfl, rfl, rfl, rfl⟩ hawaited
  exact ⟨_, _, hawaited, rfl, rfl, hsync 0 [request] rfl rfl, hasync 0 request rfl rfl rfl⟩

end World

end SearchIndex
