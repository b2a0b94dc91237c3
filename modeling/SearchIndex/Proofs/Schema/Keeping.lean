/-
# A service that keeps an index

A service keeps an index if it stores the body with which the index is created, reports it as the
mappings of the index, says of the index that it is healthy, and forgets it when it is deleted
(`Schema.KeepsIndex`).  Nothing is asked of its answers to other calls.  Before such a service each
schema operation ends as it is meant to, and what is stored afterwards is what the operation is for.
-/
import SearchIndex.Proofs.Service.Served
import SearchIndex.Proofs.Schema.Access
import SearchIndex.Proofs.Schema.Fitting
import SearchIndex.Proofs.Mapping.Report

namespace SearchIndex

/-- An answer is a success and brings a value. -/
def Answer.Brings (answer : Answer) (value : Json) : Prop :=
  ∃ status payload, answer = .reply status payload ∧ isSuccess status = true ∧
    payload.decode = value

/-- A request ends with the value that its answer brings. -/
lemma Answer.Brings.served_request {ω : Type} {serve : ω → Call → Answer × ω} {outside : ω}
    {call : Call} {value : Json} (h : (serve outside call).1.Brings value) (ignored : List Int) :
    ∃ status, isSuccess status = true ∧ (Action.request call ignored).served serve outside =
      (.ok ⟨status, value⟩, (serve outside call).2) := by
  obtain ⟨status, payload, hanswer, hsuccess, rfl⟩ := h
  refine ⟨status, hsuccess, ?_⟩
  rw [Action.served_request, hanswer, judge_ok hsuccess]

lemma Answer.exists_brings {answer : Answer} (h : answer.acknowledges = true) :
    ∃ value, answer.Brings value := by
  cases answer with
  | unreachable reason => cases h
  | unsent reason => cases h
  | reply status payload => exact ⟨_, status, payload, rfl, h, rfl⟩

lemma ne_of_isSuccess {status other : Int} (h : isSuccess status = true) (hother : 400 ≤ other) :
    status ≠ other := by
  have hlt : status < 400 := by simpa [isSuccess] using h
  omega

namespace Schema

variable {ω : Type} {serve : ω → Call → Answer × ω} {index : String} {body : Json}
  {stored : ω → Option Json} {outside : ω}

/-- A service keeps an index that is created with a body: `stored` is what it has of the index, if
there is one. -/
structure KeepsIndex (serve : ω → Call → Answer × ω) (index : String) (body : Json)
    (stored : ω → Option Json) : Prop where
  /-- An index that is not there is reported as missing. -/
  missing : ∀ outside, stored outside = none →
    ∃ payload, (serve outside (existenceCheck index)).1 = .reply 404 payload
  /-- One that is there is reported. -/
  found : ∀ outside, stored outside ≠ none →
    (serve outside (existenceCheck index)).1.acknowledges = true
  /-- Asking changes nothing. -/
  stored_exists : ∀ outside, stored (serve outside (existenceCheck index)).2 = stored outside
  /-- An index is created with the body as it is. -/
  creates : ∀ outside, stored outside = none →
    (serve outside ⟨"PUT", indexPath index, none, .json body⟩).1.acknowledges = true ∧
      stored (serve outside ⟨"PUT", indexPath index, none, .json body⟩).2 = some body
  /-- An index is deleted. -/
  deletes : ∀ outside options, stored outside ≠ none →
    (serve outside (deletion index options)).1.acknowledges = true ∧
      stored (serve outside (deletion index options)).2 = none
  /-- An index that is there is as healthy as it is asked to be, in time. -/
  healthy : ∀ outside options, stored outside ≠ none →
    ∃ members, (serve outside (healthCheck index options)).1.Brings (.object members) ∧
      ((Table.get? members "timed_out").getD .null).isVacant = true ∧
      stored (serve outside (healthCheck index options)).2 = stored outside
  /-- The body with which an index was created is reported under the name of the index. -/
  reports : ∀ outside kept, stored outside = some kept →
    ∃ members, (serve outside (mappingsQuery index)).1.Brings (.object members) ∧
      Table.get? members index = some kept ∧
      stored (serve outside (mappingsQuery index)).2 = stored outside

namespace KeepsIndex

section

variable (h : KeepsIndex serve index body stored)
include h

/-! ## Accesses -/

lemma served_exists (outside : ω) : ∃ after,
    (exists? index).served serve outside = (.ok (stored outside).isSome, after) ∧
      stored after = stored outside := by
  refine ⟨(serve outside (existenceCheck index)).2, ?_, h.stored_exists outside⟩
  cases hstored : stored outside with
  | none =>
    obtain ⟨payload, hanswer⟩ := h.missing outside hstored
    have hrequest : (Action.request (existenceCheck index) [404]).served serve outside =
        (.ok ⟨404, payload.decode⟩, (serve outside (existenceCheck index)).2) := by
      rw [Action.served_request, hanswer]
      rfl
    exact Action.served_bind_of_ok hrequest
  | some kept =>
    obtain ⟨value, hvalue⟩ := Answer.exists_brings (h.found outside (by simp [hstored]))
    obtain ⟨status, hsuccess, hrequest⟩ := hvalue.served_request [404]
    refine (Action.served_bind_of_ok hrequest).trans ?_
    simp [ne_of_isSuccess hsuccess]

lemma served_create {target : IndexSchema} (hname : target.name = index)
    (hbody : target.toRemote = body) (mayExist : Bool) (hstored : stored outside = none) :
    ∃ after, (create target mayExist).served serve outside = (.ok true, after) ∧
      stored after = some body := by
  obtain ⟨hacknowledged, hafter⟩ := h.creates outside hstored
  have hcall : creation target = ⟨"PUT", indexPath index, none, .json body⟩ := by
    rw [creation, hname, hbody]
  rw [← hcall] at hacknowledged hafter
  refine ⟨(serve outside (creation target)).2, ?_, hafter⟩
  obtain ⟨value, status, payload, hanswer, hsuccess, -⟩ := Answer.exists_brings hacknowledged
  -- the answer is a success, so no failure has to be handled
  show Program.run serve (.call (creation target) _) outside = _
  rw [Program.run]
  generalize serve outside (creation target) = r at hanswer
  obtain ⟨answer, after⟩ := r
  subst hanswer
  simp only [Answer.judge_ok hsuccess]
  rfl

lemma served_drop (options : SchemaOptions) (hstored : stored outside ≠ none) :
    ∃ after, (drop index options).served serve outside = (.ok true, after) ∧
      stored after = none := by
  obtain ⟨hacknowledged, hafter⟩ := h.deletes outside options hstored
  refine ⟨(serve outside (deletion index options)).2, ?_, hafter⟩
  obtain ⟨value, hvalue⟩ := Answer.exists_brings hacknowledged
  obtain ⟨status, hsuccess, hrequest⟩ := hvalue.served_request [404]
  refine (Action.served_bind_of_ok hrequest).trans ?_
  rw [if_neg (ne_of_isSuccess hsuccess (by decide))]
  exact Action.served_bind_of_ok (Action.served_note _ _ _)

lemma served_awaitHealth (options : SchemaOptions) (hstored : stored outside ≠ none) :
    ∃ after, (awaitHealth index options).served serve outside = (.ok (), after) ∧
      stored after = stored outside := by
  obtain ⟨members, hvalue, htimely, hafter⟩ := h.healthy outside options hstored
  refine ⟨(serve outside (healthCheck index options)).2, ?_, hafter⟩
  obtain ⟨status, hsuccess, hrequest⟩ := hvalue.served_request [408]
  refine (Action.served_bind_of_ok hrequest).trans ?_
  have hmembers : membersOf (.object members) = .ok members := by cases members <;> rfl
  have hread : (Action.ofExcept (membersOf (.object members))).served serve
      (serve outside (healthCheck index options)).2 =
        (.ok members, (serve outside (healthCheck index options)).2) := by
    rw [hmembers, Action.served_ofExcept]
  refine (Action.served_bind_of_ok hread).trans ?_
  rw [if_neg (by simp [htimely, ne_of_isSuccess hsuccess])]
  rfl

lemma served_mappings {target : IndexSchema} (hbody : target.toRemote = body)
    (hstored : stored outside = some body) :
    ∃ after, (mappings? index).served serve outside = (.ok (some target.reported), after) ∧
      stored after = some body := by
  obtain ⟨members, hvalue, hget, hafter⟩ := h.reports outside body hstored
  refine ⟨(serve outside (mappingsQuery index)).2, ?_, hafter.trans hstored⟩
  obtain ⟨status, hsuccess, hrequest⟩ := hvalue.served_request [404]
  refine (Action.served_bind_of_ok hrequest).trans ?_
  rw [← hbody] at hget
  rw [if_neg (ne_of_isSuccess hsuccess (by decide)), mappingsOf_toRemote hget]
  rfl

/-! ## Operations -/

section Creating

variable {target : IndexSchema} (hname : target.name = index) (hbody : target.toRemote = body)
include hname hbody

lemma served_createNew (options : SchemaOptions) (hstored : stored outside = none) :
    ∃ after, (createNew target options).served serve outside = (.ok (), after) ∧
      stored after = some body := by
  obtain ⟨created, hcreate, hcreated⟩ := h.served_create hname hbody false hstored
  have hthere : stored created ≠ none := by simp [hcreated]
  obtain ⟨after, hhealth, hafter⟩ := h.served_awaitHealth options hthere
  refine ⟨after, ?_, hafter.trans hcreated⟩
  rw [createNew, Action.served_bind_of_ok hcreate, hname, hhealth]

lemma served_createIfAbsent (options : SchemaOptions) (hstored : stored outside = none) :
    ∃ after, (createIfAbsent target options).served serve outside = (.ok true, after) ∧
      stored after = some body := by
  obtain ⟨asked, hexists, hasked⟩ := h.served_exists outside
  obtain ⟨created, hcreate, hcreated⟩ :=
    h.served_create hname hbody true (hasked.trans hstored)
  have hthere : stored created ≠ none := by simp [hcreated]
  obtain ⟨after, hhealth, hafter⟩ := h.served_awaitHealth options hthere
  refine ⟨after, ?_, hafter.trans hcreated⟩
  rw [hstored] at hexists
  rw [createIfAbsent, hname, Action.served_bind_of_ok hexists, Option.isSome_none,
    if_neg (by decide), Action.served_bind_of_ok hcreate, Action.served_bind_of_ok hhealth,
    Action.served_pure]

end Creating

lemma served_dropIfExisting (options : SchemaOptions) (outside : ω) :
    ∃ dropped after, (dropIfExisting index options).served serve outside = (.ok dropped, after) ∧
      stored after = none := by
  obtain ⟨asked, hexists, hasked⟩ := h.served_exists outside
  cases hstored : stored outside with
  | none =>
    refine ⟨false, asked, ?_, hasked.trans hstored⟩
    rw [hstored] at hexists
    rw [dropIfExisting, Action.served_bind_of_ok hexists]
    rfl
  | some kept =>
    have hthere : stored asked ≠ none := by simp [hasked, hstored]
    obtain ⟨after, hdrop, hafter⟩ := h.served_drop options hthere
    refine ⟨true, after, ?_, hafter⟩
    rw [hstored] at hexists
    rw [dropIfExisting, Action.served_bind_of_ok hexists, Option.isSome_some, if_pos rfl, hdrop]

/-- A target is found valid if what is reported of the index is all that it asks for. -/
lemma served_validate {target wanted : IndexSchema} {policy : Compatibility}
    (hname : wanted.name = index) (hbody : target.toRemote = body)
    (hstored : stored outside = some body)
    (hcompare : Comparison.compare policy wanted target.reported = .ok [])
    (options : SchemaOptions) :
    ∃ after, (validate policy wanted options).served serve outside = (.ok (), after) := by
  obtain ⟨asked, hexists, hasked⟩ := h.served_exists outside
  have hthere : stored asked ≠ none := by simp [hasked, hstored]
  obtain ⟨awaited, hhealth, hawaited⟩ := h.served_awaitHealth options hthere
  have hkept : stored awaited = some body := hawaited.trans (hasked.trans hstored)
  obtain ⟨after, hmappings, -⟩ := h.served_mappings hbody hkept
  refine ⟨after, ?_⟩
  rw [hstored] at hexists
  have hvalid : (Action.ofExcept (Comparison.compare policy wanted target.reported)).served serve
      after = (.ok [], after) := by rw [hcompare, Action.served_ofExcept]
  rw [validate, hname, Action.served_bind_of_ok hexists, Option.isSome_some, if_pos rfl]
  refine (Action.served_bind_of_ok hhealth).trans ?_
  refine (Action.served_bind_of_ok hmappings).trans ?_
  exact (Action.served_bind_of_ok hvalid).trans (Action.served_note _ _ _)

end

end KeepsIndex

end Schema

end SearchIndex
