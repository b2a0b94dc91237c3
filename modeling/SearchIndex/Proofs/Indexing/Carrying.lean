/-
# What calls carry

Requests are sent in calls, each of which carries a group of them.  `Call.Sends` says what such a
call looks like, word by word, and `Carry` that calls carry some requests in order, however these
are cut into groups, so the same requests may be carried by different calls.  What the service reads
from the calls is the same then (`Carry.deliveries?_eq`).

Requests that are carried out at once are carried in order by the calls before the refresh, unless
one of them fails (`carry_of_runNow_ok`).
-/
import SearchIndex.Proofs.Indexing.Delivery
import SearchIndex.Proofs.Indexing.FirstFailure
import SearchIndex.Proofs.Indexing.Settling

namespace SearchIndex

/-- A call sends a group of requests.  A request without a bulk action has a call of its own.  Those
with one share a bulk call, of which the lines are the action and the source, if there is one, of
each of them in turn. -/
inductive Call.Sends : Call → List WorkRequest → Prop where
  | alone {r : WorkRequest} (haction : r.bulkAction = none) :
      Sends ⟨r.method, r.path, r.params,
        match r.body with
        | some body => .json (.object body)
        | none => .none⟩ [r]
  | shared {group : List WorkRequest} (hne : group ≠ [])
      (haction : ∀ r ∈ group, ∃ action, r.bulkAction = some action) :
      Sends ⟨"POST", "/_bulk", none,
        .lines ((group.flatMap fun r => r.bulkAction.toList ++ r.body.toList).map .object)⟩ group

/-- The lines of a bulk call are those of its requests. -/
lemma flatMap_lines_eq {group : List WorkRequest}
    (h : ∀ r ∈ group, ∃ action, r.bulkAction = some action) :
    group.flatMap WorkRequest.lines =
      (group.flatMap fun r => r.bulkAction.toList ++ r.body.toList).map Json.object := by
  rw [List.map_flatMap]
  refine List.flatMap_congr fun r hr => ?_
  obtain ⟨action, haction⟩ := h r hr
  cases hbody : r.body <;> simp [WorkRequest.lines, haction, hbody]

/-- The call of a group sends it. -/
lemma sends_groupCall {limit : Nat} {group : List WorkRequest}
    (h : IsGroup WorkRequest.isBulkable limit group) : (groupCall group).Sends group := by
  rcases h.single?_cases with ⟨r, rfl, hr, hsingle⟩ | ⟨hall, -, hsingle⟩
  · rw [groupCall, hsingle]
    exact .alone (by simpa [WorkRequest.isBulkable] using hr)
  · have hactions (r : WorkRequest) (hr : r ∈ group) : ∃ action, r.bulkAction = some action :=
      Option.isSome_iff_exists.1 (hall r hr)
    rw [groupCall, hsingle]
    dsimp only
    rw [bulkCall, flatMap_lines_eq hactions]
    exact .shared h.1 hactions

/-- Only the call of a group sends it. -/
lemma Call.Sends.eq_groupCall {call : Call} {group : List WorkRequest} (h : call.Sends group) :
    call = groupCall group ∧ IsGroup WorkRequest.isBulkable group.length group := by
  cases h with
  | @alone r haction =>
    have halone : r.isBulkable = false := by rw [WorkRequest.isBulkable, haction]; rfl
    have hsingle : single? [r] = some r := single?_eq_some_iff.2 ⟨rfl, halone⟩
    refine ⟨?_, List.cons_ne_nil _ _, Or.inl ⟨r, rfl, halone⟩⟩
    rw [groupCall, hsingle]
    rfl
  | shared hne haction =>
    have hall : ∀ r ∈ group, r.isBulkable = true := fun r hr =>
      Option.isSome_iff_exists.2 (haction r hr)
    have hgroup : IsGroup WorkRequest.isBulkable group.length group :=
      ⟨hne, Or.inr ⟨List.all_eq_true.2 hall, le_refl _⟩⟩
    have hsingle : single? group = none := by
      rcases hgroup.single?_cases with ⟨r, rfl, hr, -⟩ | ⟨-, -, hsingle⟩
      · exact absurd hr (by simp [hall r List.mem_cons_self])
      · exact hsingle
    refine ⟨?_, hgroup⟩
    rw [groupCall, hsingle]
    dsimp only
    rw [bulkCall, flatMap_lines_eq haction]

/-- Calls carry requests: each sends a group, and the groups are the requests in order. -/
def Carry (calls : List Call) (requests : List WorkRequest) : Prop :=
  ∃ gs : List (List WorkRequest), List.Forall₂ Call.Sends calls gs ∧ gs.flatten = requests

namespace Carry

variable {calls calls' : List Call} {requests requests' : List WorkRequest}

lemma nil : Carry [] [] := ⟨[], .nil, rfl⟩

lemma append (h : Carry calls requests) (h' : Carry calls' requests') :
    Carry (calls ++ calls') (requests ++ requests') := by
  obtain ⟨gs, hgs, rfl⟩ := h
  obtain ⟨gs', hgs', rfl⟩ := h'
  exact ⟨gs ++ gs', List.rel_append hgs hgs', List.flatten_append⟩

/-- The call of a group carries the group. -/
lemma groupCall {limit : Nat} {group : List WorkRequest}
    (h : IsGroup WorkRequest.isBulkable limit group) : Carry [SearchIndex.groupCall group] group :=
  ⟨[group], .cons (sends_groupCall h) .nil, List.append_nil group⟩

/-- The calls of the groups of requests carry the requests. -/
lemma groups (limit : Nat) (requests : List WorkRequest) :
    Carry ((SearchIndex.groups WorkRequest.isBulkable limit requests).map SearchIndex.groupCall)
      requests := by
  refine ⟨_, ?_, flatten_groups WorkRequest.isBulkable limit requests⟩
  exact List.forall₂_map_left_iff.2
    (List.forall₂_same.2 fun g hg => sends_groupCall (isGroup_of_mem_groups hg))

/-- Calls that send groups are the calls of these. -/
lemma eq_map_groupCall {gs : List (List WorkRequest)} (h : List.Forall₂ Call.Sends calls gs) :
    calls = gs.map SearchIndex.groupCall ∧
      ∀ g ∈ gs, IsGroup WorkRequest.isBulkable g.length g := by
  induction h with
  | nil => exact ⟨rfl, by simp⟩
  | cons hcall _ ih =>
    obtain ⟨hfirst, hgroup⟩ := hcall.eq_groupCall
    exact ⟨by rw [List.map_cons, ← hfirst, ← ih.1], List.forall_mem_cons.2 ⟨hgroup, ih.2⟩⟩

/-- The service reads from calls what they carry. -/
lemma deliveries?_eq (h : Carry calls requests) (hregular : ∀ r ∈ requests, r.IsRegular) :
    deliveries? calls = some (requests.map WorkRequest.delivery) := by
  obtain ⟨gs, hgs, rfl⟩ := h
  obtain ⟨rfl, hgroups⟩ := eq_map_groupCall hgs
  exact deliveries?_map_groupCall fun g hg =>
    deliveries?_groupCall (fun r hr => hregular r (List.mem_flatten_of_mem hg hr)) (hgroups g hg)

end Carry

/-- There is no call to refresh, or one. -/
lemma Refreshes.calls_eq {requests : List WorkRequest} {refreshing : List (Call × Answer)}
    {result : Except Failure Unit} (h : Refreshes requests refreshing result) :
    refreshing.map Prod.fst = [] ∨
      refreshing.map Prod.fst = [refreshCall (refreshedIndexes requests)] := by
  cases h with
  | nothing => exact Or.inl rfl
  | asked => exact Or.inr rfl

variable {ω : Type}

/-- Requests that are carried out at once without a failure are carried by the calls that are made,
and only a call to refresh comes after these. -/
lemma carry_of_runNow_ok (serve : ω → Call → Answer × ω) (requests : List WorkRequest) (s : Shared)
    (outside : ω) (hquiet : s.processor.HasQuietMonitors)
    (hok : ((Execution.runNow requests).transcript serve s outside).result = .ok ()) :
    ∃ work refreshing, Carry work requests ∧
      (refreshing = [] ∨ refreshing = [refreshCall (refreshedIndexes requests)]) ∧
      ((Execution.runNow requests).transcript serve s outside).calls.map Prod.fst =
        work ++ refreshing := by
  obtain ⟨sent, refreshing, result, outside', hsent, hrefresh, hrun⟩ | ⟨_, _, _, _, _, _, _, _, _,
    _, _, hrun⟩ := transcript_runNow serve requests s outside hquiet
  · refine ⟨(sent.map answered).map Prod.fst, refreshing.map Prod.fst, ?_, hrefresh.calls_eq, ?_⟩
    · have hwork : (sent.map answered).map Prod.fst = (sent.map Prod.fst).map groupCall := by
        simp [answered, Function.comp_def]
      rw [hwork, hsent.groups_eq]
      exact .groups _ requests
    · rw [hrun, List.map_append]
  · rw [hrun] at hok
    cases hok

/-! ## Workers -/

namespace Worker

/-- A worker sends groups. -/
def SendsGroups : Worker → Prop
  | sending _ _ group rest =>
    ∀ g ∈ group :: rest, ∃ limit, IsGroup (fun t : Ticket => t.request.isBulkable) limit g
  | idle | refreshing .. | dead => True

/-- The requests of a group of tickets are a group. -/
lemma isGroup_requests {limit : Nat} {group : List Ticket}
    (h : IsGroup (fun t : Ticket => t.request.isBulkable) limit group) :
    IsGroup WorkRequest.isBulkable limit (group.map Ticket.request) := by
  obtain ⟨hne, ⟨t, rfl, ht⟩ | ⟨hall, hlength⟩⟩ := h
  · exact ⟨List.cons_ne_nil _ _, Or.inl ⟨t.request, rfl, ht⟩⟩
  · exact ⟨by simpa using hne, Or.inr ⟨by simpa using hall, by simpa using hlength⟩⟩

/-- The call of a worker sends the tickets that are in call, if there are any. -/
lemma SendsGroups.exists_sends {worker : Worker} (h : worker.SendsGroups)
    (hcall : worker.inCall ≠ []) : ∃ call, Processor.awaitedCall? worker = some call ∧
      call.Sends (worker.inCall.map Ticket.request) := by
  cases worker with
  | idle => exact absurd rfl hcall
  | refreshing batch acknowledged => exact absurd rfl hcall
  | dead => exact absurd rfl hcall
  | sending batch acknowledged group rest =>
    obtain ⟨_, hgroup⟩ := h group List.mem_cons_self
    exact ⟨_, rfl, sends_groupCall (isGroup_requests hgroup)⟩

/-- The groups that a worker sends after an answer are those that were left before. -/
lemma Turns.sendsGroups {answer : Answer} {worker next : Worker} {acknowledged : List Ticket}
    (h : worker.Turns answer next acknowledged) (hworker : worker.SendsGroups) :
    next.SendsGroups := by
  cases h with
  | sends => exact (List.forall_mem_cons.1 hworker).2
  | asks => trivial
  | skips => trivial
  | refreshed => trivial
  | fails hnext => rcases hnext with rfl | rfl <;> trivial

/-- A worker that has taken a batch sends its groups. -/
lemma sendsGroups_of_groups_eq {limit : Nat} {batch group : List Ticket}
    {rest : List (List Ticket)}
    (hgroups : groups (fun t : Ticket => t.request.isBulkable) limit batch = group :: rest) :
    (sending batch [] group rest).SendsGroups := by
  intro g hg
  rw [← hgroups] at hg
  exact ⟨_, isGroup_of_mem_groups hg⟩

end Worker

end SearchIndex
