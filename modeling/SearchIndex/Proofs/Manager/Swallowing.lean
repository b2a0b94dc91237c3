/-
# Failures that destroying swallows

Every asynchronous request that fails should be told of once: by the next flush of its index, or by
the destruction of the manager.  `Session.TellsAll` says that of a session and an index: each call
has a share of the requests that have failed, which is what it raises, and what is in no share is
still recorded and waits for the next flush.

This does not hold of all sessions.  Destroying takes the recorded failures out first, and if
something fails that is done to the index then, they are dropped (`CallRecord.Swallows`).  The main
result, `Session.tellsAll_iff`, is that nothing else goes wrong.
-/
import SearchIndex.Proofs.Manager.Telling

namespace SearchIndex

variable {index : String}

/-- Whether a call of a manager waits for the asynchronous requests of its index. -/
def ManagerCall.awaits : ManagerCall → Bool
  | stream (.operation .flush) _ => true
  | flush => true
  | destroy => true
  | _ => false

namespace CallRecord

/-- The index of the manager that is called, once it is known. -/
def index? (r : CallRecord) : Option String := (r.before.manager r.name).actualName?

/-- A manager of the index is flushed or destroyed, in a state that allows it. -/
def Reports (r : CallRecord) (index : String) : Prop :=
  r.call.awaits = true ∧ r.call.isAllowed r.state = true ∧ r.index? = some index

instance (r : CallRecord) (index : String) : Decidable (r.Reports index) :=
  inferInstanceAs (Decidable (_ ∧ _ ∧ _))

/-- The failures of asynchronous requests for the index that the call raises. -/
def told (r : CallRecord) (index : String) : List Failure :=
  if r.Reports index then Failure.carriedBy r.result else []

/-- The numbers of the requests for the index that were accepted during the call. -/
def accepted (r : CallRecord) (index : String) : List Nat :=
  if r.index? = some index then
    List.range' r.before.processor.outcomes.length
      (r.after.processor.outcomes.length - r.before.processor.outcomes.length)
  else []

/-- A manager is destroyed, and something else fails than asynchronous requests. -/
def IsCut (r : CallRecord) : Prop :=
  r.call = .destroy ∧ ∃ failure, r.result = .error failure ∧ failure.isAsynchronous = false

end CallRecord

/-- The numbers of the requests for an index that were accepted in a session. -/
def Session.accepted (records : List CallRecord) (index : String) : List Nat :=
  records.flatMap fun r => r.accepted index

/-- After earlier calls, a manager of the index is destroyed and something else fails, although there
is something to tell: failures were recorded before, or a request has failed that was not done. -/
def CallRecord.Swallows (r : CallRecord) (earlier : List CallRecord) (index : String) : Prop :=
  r.Reports index ∧ r.IsCut ∧
    (r.before.processor.recorded index ≠ [] ∨
      ∃ n ∈ Session.accepted earlier index, ¬ r.before.processor.IsDone n ∧
        ∃ failure, r.after.processor.outcome n = .failed failure)

/-- The share of a call are requests that were accepted before, and the call raises their
failures. -/
structure CallRecord.Carries (r : CallRecord) (index : String) (p : Processor)
    (share : List Nat) : Prop where
  told_eq : share.map p.outcome = (r.told index).map .failed
  earlier : ∀ n ∈ share, n < r.before.processor.outcomes.length

/-- The calls of a session tell of each request for the index that has failed, unless its failure is
still recorded. -/
structure Session.TellsAll (records : List CallRecord) (p : Processor) (index : String)
    (shares : List (List Nat)) (still : List Nat) : Prop where
  /-- Each call raises the failures of its share. -/
  carried : List.Forall₂ (fun r share => r.Carries index p share) records shares
  /-- The other failures are recorded, in order. -/
  recorded_eq : still.map p.outcome = (p.recorded index).map .failed
  /-- Each failure is in one place, and each request that has failed is in one. -/
  once : (shares.flatten ++ still).Nodup
  mem_iff : ∀ n, n ∈ shares.flatten ++ still ↔
    n ∈ accepted records index ∧ ∃ failure, p.outcome n = .failed failure
  /-- What was accepted before a flush or the destruction of the manager is done, and does not wait
  for another one. -/
  settled : ∀ earlier r, earlier ++ [r] <+: records → r.Reports index →
    ∀ n ∈ accepted earlier index, p.IsDone n ∧ n ∉ still

/-! ## One call -/

namespace CallRecord

variable {r : CallRecord} {accepted : List WorkRequest} {told still : List Nat}

/-- What a call does to the books of an index. -/
inductive Books (r : CallRecord) (index : String) (accepted : List WorkRequest)
    (told still : List Nat) : Prop where
  /-- Requests may be accepted for the index of the manager, and some may fail. -/
  | goesOn (hnot : ¬ r.Reports index) (new : List WorkRequest) (more : List Nat)
      (hnew : ∀ q ∈ new, r.index? = some q.index)
      (hhand : r.after.processor.IsInHand [] (accepted ++ new))
      (howes : r.after.processor.Owes (accepted ++ new) index told (still ++ more))
  /-- All that is recorded is taken out, and raised unless the call is cut. -/
  | reports (hreports : r.Reports index) (more : List Nat)
      (hhand : r.after.processor.IsInHand [] accepted)
      (howes : r.after.processor.Owes accepted index (told ++ (still ++ more)) [])
      (hdone : ∀ n q, accepted[n]? = some q → q.index = index → r.after.processor.IsDone n)
      (hraised : (still ++ more).map r.after.processor.outcome =
        (Failure.carriedBy r.result).map .failed ∨ r.IsCut)

/-- A call that only drifts. -/
lemma books_of_drifts (hhand : r.before.processor.IsInHand [] accepted)
    (howes : r.before.processor.Owes accepted index told still) (hnot : ¬ r.Reports index)
    (hdrifts : r.before.processor.Drifts r.after.processor) :
    r.before.processor.Preserves r.after.processor ∧ r.Books index accepted told still := by
  obtain ⟨hhand', hpreserves, more, howes'⟩ := howes.drifts hhand hdrifts
  refine ⟨hpreserves, .goesOn hnot [] more (fun q hq => absurd hq List.not_mem_nil) ?_ ?_⟩
  · rwa [List.append_nil]
  · rwa [List.append_nil]

/-- A call that reports, of this index or of another one. -/
lemma books_of_reports {own : String} {found : List Failure} {s₁ : Shared}
    (hhand : r.before.processor.IsInHand [] accepted)
    (howes : r.before.processor.Owes accepted index told still) (hawaits : r.call.awaits = true)
    (hallowed : r.call.isAllowed r.state = true) (hindex : r.index? = some own)
    (hreports : r.before.Reports own found s₁)
    (hdrifts : s₁.processor.Drifts r.after.processor)
    (hresult : r.result = Failure.telling own found ∨ r.IsCut) :
    r.before.processor.Preserves r.after.processor ∧ r.Books index accepted told still := by
  by_cases hown : own = index
  · subst hown
    obtain ⟨hhand₁, hpreserves₁, hdone, more, howes₁, hfound⟩ := howes.of_reports hhand hreports
    obtain ⟨hhand₂, hpreserves₂, others, howes₂⟩ := howes₁.drifts hhand₁ hdrifts
    obtain rfl := howes₁.eq_nil_of_isDone hdone hpreserves₂ howes₂
    refine ⟨hpreserves₁.trans hpreserves₂, .reports ⟨hawaits, hallowed, hindex⟩ more hhand₂ howes₂
      (fun n q hq hq' => hpreserves₂.isDone (hdone n q hq hq')) (hresult.imp_left fun htelling => ?_)⟩
    rw [htelling, Failure.carriedBy_telling, ← hfound]
    refine List.map_congr_left fun n hn => ?_
    obtain ⟨-, failure, hfailure⟩ :=
      (howes₁.mem_iff n).1 (List.mem_append_left _ (List.mem_append_right _ hn))
    rw [hfailure, hpreserves₂.failed hfailure]
  · obtain ⟨hhand₁, hpreserves₁, more, howes₁⟩ := howes.of_reports_of_ne hhand hreports hown
    obtain ⟨hhand₂, hpreserves₂, others, howes₂⟩ := howes₁.drifts hhand₁ hdrifts
    rw [List.append_assoc] at howes₂
    refine ⟨hpreserves₁.trans hpreserves₂, .goesOn (fun hthis => ?_) [] (more ++ others)
      (fun q hq => absurd hq List.not_mem_nil) ?_ ?_⟩
    · exact hown (Option.some.inj (hindex.symm.trans hthis.2.2))
    · rwa [List.append_nil]
    · rwa [List.append_nil]

/-- An operation other than a flush is submitted. -/
lemma books_of_stream {offered : Offered} {monitor : Option String}
    (hhand : r.before.processor.IsInHand [] accepted)
    (howes : r.before.processor.Owes accepted index told still) (hnot : ¬ r.Reports index)
    (hsound : (r.before.manager r.name).IsSound) (hbound : r.state = .bound)
    (hoffered : offered ≠ .operation .flush)
    (h : (Manager.stream r.name offered monitor).Ends r.before r.trace r.result r.after) :
    r.before.processor.Preserves r.after.processor ∧ r.Books index accepted told still := by
  obtain ⟨c, hc, hserve⟩ := Manager.ends_serving_bind hsound hbound h
  have hindex : r.index? = some c.actualName := by
    rw [index?, Manager.actualName?, hc, Option.map_some]
  have hends : (Manager.visitFor c monitor offered >>= Execution.submitAny).Ends r.before r.trace
      r.result r.after := by
    cases offered with
    | other kind => exact hserve
    | operation operation =>
      cases operation with
      | flush => exact absurd rfl hoffered
      | _ => exact hserve
  rcases Activity.ends_bind.1 hends with ⟨failure, hvisit, -⟩ |
    ⟨request, s₁, before, after, hvisit, hend, -⟩
  · exact books_of_drifts hhand howes hnot ((Manager.spares_visitFor _ _ _).drifts hvisit)
  have hdrifts := (Manager.spares_visitFor c monitor offered).drifts hvisit
  cases request with
  | none =>
    obtain ⟨-, -, hsame⟩ := Activity.ends_pure.1 hend
    exact books_of_drifts hhand howes hnot (hsame ▸ hdrifts)
  | some q =>
    obtain ⟨hhand₁, hpreserves₁, more, howes₁⟩ := howes.drifts hhand hdrifts
    obtain ⟨result, hsubmit⟩ := Execution.ends_submitAny hend
    obtain ⟨hhand₂, hpreserves₂, others, howes₂⟩ :=
      Execution.owes_of_ends_submit hhand₁ howes₁ hsubmit
    rw [List.append_assoc] at howes₂
    refine ⟨hpreserves₁.trans hpreserves₂, .goesOn hnot [q] _ (fun q' hq' => ?_) hhand₂ howes₂⟩
    obtain rfl := List.mem_singleton.1 hq'
    rw [hindex, Manager.index_of_ends_visitFor hvisit]

/-- A flush, by whatever name. -/
lemma books_of_flush {monitor : Option String}
    (hhand : r.before.processor.IsInHand [] accepted)
    (howes : r.before.processor.Owes accepted index told still) (hawaits : r.call.awaits = true)
    (hallowed : r.call.isAllowed r.state = true) (hsound : (r.before.manager r.name).IsSound)
    (hbound : r.state = .bound)
    (h : (Manager.stream r.name (.operation .flush) monitor).Ends r.before r.trace r.result
      r.after) :
    r.before.processor.Preserves r.after.processor ∧ r.Books index accepted told still := by
  obtain ⟨c, hc, hawait⟩ := Manager.ends_serving_bind hsound hbound h
  obtain ⟨found, hreports, hresult⟩ := Execution.ends_awaitCompletion hawait
  have hindex : r.index? = some c.actualName := by
    rw [index?, Manager.actualName?, hc, Option.map_some]
  exact books_of_reports hhand howes hawaits hallowed hindex hreports .refl (Or.inl hresult)

/-- Destroying, whether or not it is cut. -/
lemma books_of_destroy (hhand : r.before.processor.IsInHand [] accepted)
    (howes : r.before.processor.Owes accepted index told still) (hcall : r.call = .destroy)
    (hallowed : r.call.isAllowed r.state = true) (hsound : (r.before.manager r.name).IsSound)
    (h : (r.call.activity r.name).Ends r.before r.trace r.result r.after) :
    r.before.processor.Preserves r.after.processor ∧ r.Books index accepted told still := by
  have hactive : r.state.isActive = true := by
    rw [hcall] at hallowed
    exact hallowed
  have hends : (Manager.destroy r.name).Ends r.before r.trace r.result r.after := by
    rw [hcall] at h
    exact h
  obtain ⟨c, found, s₁, hc, hreports, hdrifts, hresult⟩ := Manager.ends_destroy hsound hactive hends
  have hindex : r.index? = some c.actualName := by
    rw [index?, Manager.actualName?, hc, Option.map_some]
  exact books_of_reports hhand howes (by rw [hcall]; rfl) hallowed hindex hreports hdrifts
    (hresult.imp_right fun hcut => ⟨hcall, hcut⟩)

/-- A call that is refused does nothing. -/
lemma books_of_refused (hhand : r.before.processor.IsInHand [] accepted)
    (howes : r.before.processor.Owes accepted index told still) (horderly : r.IsOrderly)
    (hrefused : r.call.isAllowed r.state ≠ true) :
    r.before.processor.Preserves r.after.processor ∧ r.Books index accepted told still := by
  obtain ⟨-, hsame, -⟩ := horderly.refused (Bool.eq_false_iff.2 hrefused)
  refine books_of_drifts hhand howes (fun hreports => hrefused hreports.2.1) ?_
  rw [hsame]
  exact .refl

/-- Every call keeps the books. -/
lemma books (haccounted : r.before.IsAccounted)
    (h : (r.call.activity r.name).Ends r.before r.trace r.result r.after)
    (hhand : r.before.processor.IsInHand [] accepted)
    (howes : r.before.processor.Owes accepted index told still) :
    r.before.processor.Preserves r.after.processor ∧ r.Books index accepted told still := by
  have hsound := haccounted.sound r.name
  have horderly : r.IsOrderly :=
    (r.call.effect_of_ends hsound haccounted.users_ne_zero h).isOrderly haccounted
  by_cases hallowed : r.call.isAllowed r.state = true
  · have hdrifts (hawaits : r.call.awaits = false) (hspares : (r.call.activity r.name).Spares) :
        r.before.processor.Preserves r.after.processor ∧ r.Books index accepted told still := by
      refine books_of_drifts hhand howes (fun hreports => ?_) (hspares.drifts h)
      cases hawaits.symm.trans hreports.1
    have hstream {offered : Offered} {monitor : Option String} (hawaits : r.call.awaits = false)
        (hbound : r.state = .bound) (hoffered : offered ≠ .operation .flush)
        (hends : (Manager.stream r.name offered monitor).Ends r.before r.trace r.result r.after) :
        r.before.processor.Preserves r.after.processor ∧ r.Books index accepted told still := by
      refine books_of_stream hhand howes (fun hreports => ?_) hsound hbound hoffered hends
      cases hawaits.symm.trans hreports.1
    cases hcall : r.call with
    | setUp own properties multitenancy =>
      rw [hcall] at hdrifts
      exact hdrifts rfl (Manager.spares_setUp own properties multitenancy)
    | addContained entityType =>
      rw [hcall] at hdrifts
      exact hdrifts rfl (Manager.spares_addContained entityType)
    | bind descriptors =>
      rw [hcall] at hdrifts
      exact hdrifts rfl (Manager.spares_bind_manager descriptors)
    | perform operations monitor =>
      rw [hcall] at hdrifts
      exact hdrifts rfl (Manager.spares_perform operations monitor)
    | stream offered monitor =>
      rw [hcall] at h hstream hallowed
      have hbound : r.state = .bound := of_decide_eq_true hallowed
      by_cases hoffered : offered = .operation .flush
      · subst hoffered
        have hflush : (Manager.stream r.name (.operation .flush) monitor).Ends r.before r.trace
          r.result r.after := h
        exact books_of_flush hhand howes (by rw [hcall]; rfl) (by rwa [hcall]) hsound hbound hflush
      · refine hstream ?_ hbound hoffered h
        cases offered with
        | other kind => rfl
        | operation operation =>
          cases operation with
          | flush => exact absurd rfl hoffered
          | _ => rfl
    | flush =>
      rw [hcall] at h hallowed
      have hflush : (Manager.stream r.name (.operation .flush) none).Ends r.before r.trace r.result
        r.after := h
      exact books_of_flush hhand howes (by rw [hcall]; rfl) (by rwa [hcall]) hsound
        (of_decide_eq_true hallowed) hflush
    | optimize =>
      rw [hcall] at h hstream hallowed
      have hoptimize : (Manager.stream r.name (.operation .optimize) none).Ends r.before r.trace
        r.result r.after := h
      refine hstream rfl (of_decide_eq_true hallowed) (fun hflush => ?_) hoptimize
      cases hflush
    | destroy => exact books_of_destroy hhand howes hcall hallowed hsound h
  · exact books_of_refused hhand howes horderly hallowed

/-- There is something to tell exactly if something was recorded or has failed since. -/
lemma ne_nil_iff {more numbers : List Nat}
    (howes : r.before.processor.Owes accepted index told still)
    (hpreserves : r.before.processor.Preserves r.after.processor)
    (howes' : r.after.processor.Owes accepted index (told ++ (still ++ more)) [])
    (hnumbers : ∀ n, n ∈ numbers ↔ ∃ q, accepted[n]? = some q ∧ q.index = index) :
    still ++ more ≠ [] ↔ r.before.processor.recorded index ≠ [] ∨
      ∃ n ∈ numbers, ¬ r.before.processor.IsDone n ∧
        ∃ failure, r.after.processor.outcome n = .failed failure := by
  have hstill : still ≠ [] ↔ r.before.processor.recorded index ≠ [] := by
    rw [ne_eq, ne_eq, ← List.length_eq_zero_iff, ← List.length_eq_zero_iff]
    have hlength := congrArg List.length howes.recorded_eq
    rw [List.length_map, List.length_map] at hlength
    rw [hlength]
  have honce := howes'.once
  rw [List.append_nil, ← List.append_assoc] at honce
  have hmem (n : Nat) : n ∈ told ++ still ∨ n ∈ more ↔
      r.after.processor.HasFailed accepted index n := by
    rw [← howes'.mem_iff, List.append_nil, ← List.append_assoc, List.mem_append (s := told ++ still)]
  have hmore : more ≠ [] ↔ ∃ n ∈ numbers, ¬ r.before.processor.IsDone n ∧
      ∃ failure, r.after.processor.outcome n = .failed failure := by
    constructor
    · intro hne
      obtain ⟨n, hn⟩ := List.exists_mem_of_ne_nil more hne
      obtain ⟨haccepted, failure, hfailure⟩ := (hmem n).1 (Or.inr hn)
      refine ⟨n, (hnumbers n).2 haccepted, fun hdone => ?_, failure, hfailure⟩
      rw [hpreserves n hdone] at hfailure
      exact (List.nodup_append.1 honce).2.2 n ((howes.mem_iff n).2 ⟨haccepted, failure, hfailure⟩)
        n hn rfl
    · rintro ⟨n, hn, hnot, hfailed⟩ rfl
      rcases (hmem n).2 ⟨(hnumbers n).1 hn, hfailed⟩ with hknown | hnone
      · obtain ⟨-, failure, hfailure⟩ := (howes.mem_iff n).1 hknown
        refine hnot ?_
        rw [Processor.IsDone, hfailure]
        rfl
      · exact List.not_mem_nil hnone
  rw [← hmore, ← hstill]
  cases still <;> simp

/-- A call without a share in the index. -/
lemma carries_nil {p : Processor} (h : r.told index = []) : r.Carries index p [] where
  told_eq := by rw [h]; rfl
  earlier n hn := absurd hn List.not_mem_nil

lemma Carries.mono {p p' : Processor} {share : List Nat} (h : r.Carries index p share)
    (hpreserves : p.Preserves p') : r.Carries index p' share where
  told_eq := by
    rw [← h.told_eq]
    refine List.map_congr_left fun n hn => ?_
    have hfailed : p.outcome n ∈ (r.told index).map Outcome.failed :=
      h.told_eq ▸ List.mem_map_of_mem hn
    obtain ⟨failure, -, hfailure⟩ := List.mem_map.1 hfailed
    rw [← hfailure, hpreserves.failed hfailure.symm]
  earlier := h.earlier

/-- A call swallows what it has taken out and not raised. -/
lemma IsCut.carriedBy_eq_nil (h : r.IsCut) : Failure.carriedBy r.result = [] := by
  obtain ⟨-, failure, hfailure, hdirect⟩ := h
  rw [hfailure, Failure.carriedBy_error hdirect]

end CallRecord

/-! ## Sessions -/

namespace Session

variable {limits : ProcessorLimits} {policy : Compatibility} {records : List CallRecord}
  {r : CallRecord} {s : Shared} {p p' : Processor} {requests new : List WorkRequest}
  {shares : List (List Nat)} {lost still more : List Nat}

lemma accepted_concat (records : List CallRecord) (r : CallRecord) (index : String) :
    accepted (records ++ [r]) index = accepted records index ++ r.accepted index := by
  simp [accepted]

lemma accepted_subset {earlier : List CallRecord} (h : earlier <+: records) (index : String) :
    accepted earlier index ⊆ accepted records index := by
  obtain ⟨later, rfl⟩ := h
  rw [accepted, accepted, List.flatMap_append]
  exact List.subset_append_left _ _

/-- The calls of a session with those before each, when there is one more. -/
lemma prefix_concat {earlier : List CallRecord} {r' : CallRecord} :
    earlier ++ [r'] <+: records ++ [r] ↔
      (earlier = records ∧ r' = r) ∨ earlier ++ [r'] <+: records :=
  List.prefix_concat_iff.trans (or_congr_left List.append_singleton_inj)

/-- What has become of the requests for an index: each one that has failed is in the share of a
call, has been lost, or is recorded. -/
structure Accounts (records : List CallRecord) (p : Processor) (index : String)
    (requests : List WorkRequest) (shares : List (List Nat)) (lost still : List Nat) : Prop where
  hand : p.IsInHand [] requests
  owes : p.Owes requests index (shares.flatten ++ lost) still
  carried : List.Forall₂ (fun r share => r.Carries index p share) records shares
  numbers : ∀ n, n ∈ accepted records index ↔ ∃ q, requests[n]? = some q ∧ q.index = index
  settled : ∀ earlier r, earlier ++ [r] <+: records → r.Reports index →
    ∀ n ∈ accepted earlier index, p.IsDone n ∧ n ∉ still
  lost_iff : lost ≠ [] ↔ ∃ earlier r, earlier ++ [r] <+: records ∧ r.Swallows earlier index

namespace Accounts

/-- Time passes for the calls that have been made. -/
lemma settled_later (h : Accounts records p index requests shares lost still)
    (hpreserves : p.Preserves p')
    (howes : p'.Owes (requests ++ new) index (shares.flatten ++ lost) (still ++ more)) :
    ∀ earlier r, earlier ++ [r] <+: records → r.Reports index →
      ∀ n ∈ accepted earlier index, p'.IsDone n ∧ n ∉ still ++ more := by
  intro earlier r hpast hreports n hn
  obtain ⟨hdone, hnot⟩ := h.settled earlier r hpast hreports n hn
  have hrequest := (h.numbers n).1
    (accepted_subset ((List.prefix_append earlier [r]).trans hpast) index hn)
  refine ⟨hpreserves.isDone hdone, fun hmem => ?_⟩
  rcases List.mem_append.1 hmem with hmem | hmem
  · exact hnot hmem
  · exact howes.not_mem_of_isDone h.owes hrequest hdone hpreserves hmem

/-- Workers may go on between two calls. -/
lemma drifts (h : Accounts records p index requests shares lost still) (hdrifts : p.Drifts p') :
    ∃ more, Accounts records p' index requests shares lost (still ++ more) := by
  obtain ⟨hhand, hpreserves, more, howes⟩ := h.owes.drifts h.hand hdrifts
  have howes' : p'.Owes (requests ++ []) index (shares.flatten ++ lost) (still ++ more) := by
    rwa [List.append_nil]
  exact ⟨more, hhand, howes, h.carried.imp fun _ _ hr => hr.mono hpreserves, h.numbers,
    h.settled_later hpreserves howes', h.lost_iff⟩

/-- The requests of a call for the index are those that have been accepted during it. -/
lemma numbers_concat (h : Accounts records r.before.processor index requests shares lost still)
    (hhand : r.after.processor.IsInHand [] (requests ++ new))
    (hnew : ∀ q ∈ new, r.index? = some q.index) (n : Nat) :
    n ∈ accepted (records ++ [r]) index ↔
      ∃ q, (requests ++ new)[n]? = some q ∧ q.index = index := by
  have hbefore : r.before.processor.outcomes.length = requests.length := h.hand.faithful.numbered
  have hafter : r.after.processor.outcomes.length = (requests ++ new).length :=
    hhand.faithful.numbered
  have hduring : n ∈ r.accepted index ↔ r.index? = some index ∧
      requests.length ≤ n ∧ n < (requests ++ new).length := by
    rw [CallRecord.accepted]
    split
    · rename_i hindex
      rw [hbefore, hafter, List.mem_range'_1, List.length_append]
      simp only [hindex, true_and]
      omega
    · rename_i hindex
      simp [hindex]
  rw [accepted_concat, List.mem_append, h.numbers, hduring]
  constructor
  · rintro (⟨q, hq, hindex⟩ | ⟨hindex, hle, hlt⟩)
    · refine ⟨q, ?_, hindex⟩
      rw [List.getElem?_append_left (List.getElem?_eq_some_iff.1 hq).1, hq]
    · have hq := List.getElem?_eq_getElem hlt
      refine ⟨_, hq, ?_⟩
      rw [List.getElem?_append_right hle] at hq
      have hsame := (hnew _ (List.mem_of_getElem? hq)).symm.trans hindex
      exact Option.some.inj hsame
  · rintro ⟨q, hq, hindex⟩
    by_cases hlt : n < requests.length
    · rw [List.getElem?_append_left hlt] at hq
      exact Or.inl ⟨q, hq, hindex⟩
    · have hle := Nat.le_of_not_lt hlt
      refine Or.inr ⟨?_, hle, (List.getElem?_eq_some_iff.1 hq).1⟩
      rw [List.getElem?_append_right hle] at hq
      rw [hnew q (List.mem_of_getElem? hq), hindex]

lemma carried_concat (h : Accounts records p index requests shares lost still)
    (hpreserves : p.Preserves p') {share : List Nat} (hr : r.Carries index p' share) :
    List.Forall₂ (fun r share => r.Carries index p' share) (records ++ [r]) (shares ++ [share]) :=
  List.rel_append (h.carried.imp fun _ _ hr => hr.mono hpreserves) (.cons hr .nil)

/-- What is known after a call that does not swallow anything, or does. -/
lemma lost_iff_concat (h : Accounts records p index requests shares lost still)
    {found : List Nat} (hfound : found ≠ [] ↔ r.Swallows records index) :
    lost ++ found ≠ [] ↔
      ∃ earlier r', earlier ++ [r'] <+: records ++ [r] ∧ r'.Swallows earlier index := by
  have hsplit : lost ++ found ≠ [] ↔ lost ≠ [] ∨ found ≠ [] := by
    cases lost <;> simp
  rw [hsplit, h.lost_iff, hfound]
  constructor
  · rintro (⟨earlier, r', hpast, hswallows⟩ | hswallows)
    · exact ⟨earlier, r', prefix_concat.2 (Or.inr hpast), hswallows⟩
    · exact ⟨records, r, prefix_concat.2 (Or.inl ⟨rfl, rfl⟩), hswallows⟩
  · rintro ⟨earlier, r', hpast, hswallows⟩
    rcases prefix_concat.1 hpast with ⟨rfl, rfl⟩ | hpast
    · exact Or.inr hswallows
    · exact Or.inl ⟨earlier, r', hpast, hswallows⟩

/-- One more call. -/
lemma call (h : Accounts records r.before.processor index requests shares lost still)
    (hpreserves : r.before.processor.Preserves r.after.processor)
    (hbooks : r.Books index requests (shares.flatten ++ lost) still) :
    ∃ requests' shares' lost' still',
      Accounts (records ++ [r]) r.after.processor index requests' shares' lost' still' := by
  cases hbooks with
  | goesOn hnot new more hnew hhand howes =>
    refine ⟨requests ++ new, shares ++ [[]], lost, still ++ more, hhand, ?_,
      h.carried_concat hpreserves (CallRecord.carries_nil (if_neg hnot)),
      h.numbers_concat hhand hnew, fun earlier r' hpast hreports => ?_, ?_⟩
    · rwa [List.flatten_append, List.flatten_singleton, List.append_nil]
    · rcases prefix_concat.1 hpast with ⟨rfl, rfl⟩ | hpast
      · exact absurd hreports hnot
      · exact h.settled_later hpreserves howes earlier r' hpast hreports
    · have hnone : ([] : List Nat) ≠ [] ↔ r.Swallows records index :=
        ⟨fun hne => absurd rfl hne, fun hswallows => absurd hswallows.1 hnot⟩
      have hlost := h.lost_iff_concat hnone
      rwa [List.append_nil] at hlost
  | reports hreports more hhand howes hdone hraised =>
    have hhand' : r.after.processor.IsInHand [] (requests ++ []) := by rwa [List.append_nil]
    have hnumbers (n : Nat) : n ∈ accepted (records ++ [r]) index ↔
        ∃ q, requests[n]? = some q ∧ q.index = index := by
      rw [h.numbers_concat hhand' (fun q hq => absurd hq List.not_mem_nil) n, List.append_nil]
    have hsettled (earlier : List CallRecord) (r' : CallRecord)
        (hpast : earlier ++ [r'] <+: records ++ [r]) (hreports' : r'.Reports index) (n : Nat)
        (hn : n ∈ accepted earlier index) : r.after.processor.IsDone n ∧ n ∉ ([] : List Nat) := by
      have hmem := accepted_subset ((List.prefix_append earlier [r']).trans hpast) index hn
      obtain ⟨q, hq, hindex⟩ := (hnumbers n).1 hmem
      exact ⟨hdone n q hq hindex, List.not_mem_nil⟩
    have hfound := r.ne_nil_iff h.owes hpreserves howes h.numbers
    have htold : r.told index = Failure.carriedBy r.result := if_pos hreports
    by_cases hcut : r.IsCut
    · -- what has been found is lost
      have hlost : still ++ more ≠ [] ↔ r.Swallows records index :=
        hfound.trans ⟨fun hfound => ⟨hreports, hcut, hfound⟩, fun hswallows => hswallows.2.2⟩
      refine ⟨requests, shares ++ [[]], lost ++ (still ++ more), [], hhand, ?_,
        h.carried_concat hpreserves (CallRecord.carries_nil (htold.trans hcut.carriedBy_eq_nil)),
        hnumbers, hsettled, h.lost_iff_concat hlost⟩
      rwa [List.flatten_append, List.flatten_singleton, List.append_nil, ← List.append_assoc]
    · -- what has been found is raised
      have hnone : ([] : List Nat) ≠ [] ↔ r.Swallows records index :=
        ⟨fun hne => absurd rfl hne, fun hswallows => absurd hswallows.2.1 hcut⟩
      have hlost := h.lost_iff_concat hnone
      rw [List.append_nil] at hlost
      have hcarries : r.Carries index r.after.processor (still ++ more) := by
        refine ⟨htold ▸ hraised.resolve_right hcut, fun n hn => ?_⟩
        obtain ⟨⟨q, hq, -⟩, -⟩ := (howes.mem_iff n).1
          (List.mem_append_left _ (List.mem_append_right _ hn))
        rw [h.hand.faithful.numbered]
        exact (List.getElem?_eq_some_iff.1 hq).1
      refine ⟨requests, shares ++ [still ++ more], lost, [], hhand, ?_,
        h.carried_concat hpreserves hcarries, hnumbers, hsettled, hlost⟩
      rw [List.flatten_append, List.flatten_singleton]
      refine howes.perm ?_
      rw [List.append_assoc, List.append_assoc]
      exact List.perm_append_comm.append_left _

end Accounts

/-- In every session the requests for an index are accounted for. -/
lemma exists_accounts (h : Session limits policy records s) (index : String) :
    ∃ requests shares lost still,
      Accounts records s.processor index requests shares lost still := by
  induction h with
  | start =>
    have hnone (earlier : List CallRecord) (r : CallRecord) : ¬ earlier ++ [r] <+: [] := by simp
    exact ⟨[], [], [], [], Processor.isInHand_fresh limits, Processor.owes_fresh limits index, .nil,
      by simp [accepted], fun earlier r hpast => absurd hpast (hnone earlier r),
      by simp⟩
  | work h hworks ih =>
    obtain ⟨requests, shares, lost, still, haccounts⟩ := ih
    obtain ⟨more, hmore⟩ := haccounts.drifts (.of_works hworks)
    exact ⟨requests, shares, lost, _, hmore⟩
  | @call records s s' trace result h name call hends ih =>
    obtain ⟨requests, shares, lost, still, haccounts⟩ := ih
    let r : CallRecord := ⟨name, call, s, trace, result, s'⟩
    obtain ⟨hpreserves, hbooks⟩ :=
      r.books h.isAccounted hends haccounts.hand haccounts.owes
    exact haccounts.call hpreserves hbooks

/-- How many requests there are in the shares of all calls can be told from what the calls raise. -/
lemma length_flatten_of_carried
    (h : List.Forall₂ (fun r share => r.Carries index p share) records shares) :
    shares.flatten.length = (records.map fun r => (r.told index).length).sum := by
  induction h with
  | nil => rfl
  | cons hr _ ih =>
    have hlength := congrArg List.length hr.told_eq
    rw [List.length_map, List.length_map] at hlength
    rw [List.flatten_cons, List.length_append, ih, hlength, List.map_cons, List.sum_cons]

/-- Where nothing is lost, all is told or still recorded. -/
lemma Accounts.tellsAll (h : Accounts records p index requests shares [] still) :
    TellsAll records p index shares still := by
  have hflatten : shares.flatten ++ [] = shares.flatten := List.append_nil _
  have howes := h.owes
  rw [hflatten] at howes
  refine ⟨h.carried, howes.recorded_eq, howes.once, fun n => ?_, h.settled⟩
  rw [howes.mem_iff, h.numbers, Processor.HasFailed]

/-- Where all is told or still recorded, nothing is lost, whatever the shares are. -/
lemma Accounts.eq_nil_of_tellsAll {shares' : List (List Nat)} {still' : List Nat}
    (h : Accounts records p index requests shares lost still)
    (htells : TellsAll records p index shares' still') : lost = [] := by
  -- the same requests are counted twice
  have hperm : (shares'.flatten ++ still').Perm (shares.flatten ++ lost ++ still) := by
    refine (List.perm_ext_iff_of_nodup htells.once h.owes.once).2 fun n => ?_
    rw [htells.mem_iff, h.owes.mem_iff, h.numbers, Processor.HasFailed]
  have hlength := hperm.length_eq
  have hstill := congrArg List.length (htells.recorded_eq.trans h.owes.recorded_eq.symm)
  rw [List.length_map, List.length_map] at hstill
  rw [List.length_append, List.length_append, List.length_append,
    length_flatten_of_carried htells.carried, length_flatten_of_carried h.carried, hstill] at hlength
  exact List.length_eq_zero_iff.1 (by omega)

/-- **Only destroying swallows failures.**  In every session the calls tell of each request for an
index that has failed, once and as long as its failure is not recorded any longer, exactly if no
manager of the index has been destroyed in such a way that something else failed while there were
failures to tell. -/
theorem tellsAll_iff (h : Session limits policy records s) (index : String) :
    (∃ shares still, TellsAll records s.processor index shares still) ↔
      ∀ earlier r, earlier ++ [r] <+: records → ¬ r.Swallows earlier index := by
  obtain ⟨requests, shares, lost, still, haccounts⟩ := h.exists_accounts index
  constructor
  · rintro ⟨shares', still', htells⟩ earlier r hpast hswallows
    exact haccounts.lost_iff.2 ⟨earlier, r, hpast, hswallows⟩
      (haccounts.eq_nil_of_tellsAll htells)
  · intro hnone
    have hlost : lost = [] := by
      by_contra hne
      obtain ⟨earlier, r, hpast, hswallows⟩ := haccounts.lost_iff.1 hne
      exact hnone earlier r hpast hswallows
    subst hlost
    exact ⟨shares, still, haccounts.tellsAll⟩

end Session

/-! ## Sessions in which a request fails -/

variable {α : Type} {limits : ProcessorLimits} {policy : Compatibility} {records : List CallRecord}
  {s s' : Shared}

/-- A task that runs to its end with the given answers to its calls, while the workers rest. -/
def Task.fed : Task Shared α → Shared → List Answer → Option (List (Call × Answer) × α × Shared)
  | .done result, s, _ => some ([], result, s)
  | .atomic change next, s, answers => (next s).fed (change s) answers
  | .call request next, s, answer :: answers =>
    ((next answer).fed s answers).map fun x => ((request, answer) :: x.1, x.2)
  | .call _ _, _, [] => none
  | .wait ready next, s, answers => if ready s then next.fed s answers else none

lemma Task.completes_of_fed {t : Task Shared α} {answers : List Answer}
    {trace : List (Call × Answer)} {result : α}
    (h : t.fed s answers = some (trace, result, s')) : t.Completes s trace result s' := by
  induction t generalizing s answers trace with
  | done a =>
    obtain ⟨rfl, rfl, rfl⟩ : [] = trace ∧ a = result ∧ s = s' := by simpa [Task.fed] using h
    exact .done _ _
  | atomic change next ih => exact .atomic (ih s h)
  | call request next ih =>
    cases answers with
    | nil => cases h
    | cons answer answers =>
      obtain ⟨⟨calls, other, s₁⟩, hrest, heq⟩ := Option.map_eq_some_iff.1 h
      obtain ⟨rfl, hsame⟩ := Prod.mk.inj heq
      obtain ⟨rfl, rfl⟩ := Prod.mk.inj hsame
      exact .call answer (.refl s) (ih answer hrest)
  | wait ready next ih =>
    rw [Task.fed] at h
    split at h
    · rename_i hready
      exact .wait (.refl s) hready (ih h)
    · cases h

lemma Session.fed (h : Session limits policy records s) (name : String) (call : ManagerCall)
    (answers : List Answer) {trace : List (Call × Answer)} {result : Except Failure Unit}
    (hfed : Task.fed (ExceptT.run (call.activity name)) s answers = some (trace, result, s')) :
    Session limits policy (records ++ [⟨name, call, s, trace, result, s'⟩]) s' :=
  .call h name call (Task.completes_of_fed hfed)

lemma Session.flatten_eq_nil_of_carried {p : Processor} {shares : List (List Nat)}
    (h : List.Forall₂ (fun r share => r.Carries index p share) records shares)
    (hnone : ∀ r ∈ records, r.told index = []) : shares.flatten = [] := by
  rw [← List.length_eq_zero_iff, length_flatten_of_carried h]
  refine List.sum_eq_zero fun n hn => ?_
  obtain ⟨r, hr, rfl⟩ := List.mem_map.1 hn
  rw [hnone r hr, List.length_nil]

namespace Session.Loss

/-- The configuration of a manager that drops its index when it is destroyed. -/
def configuration : Configuration :=
  ⟨"library", "library", .recreateDelete, false, ⟨.green, 10000, false⟩⟩

/-- A document that is added. -/
def document : DocumentKey := ⟨"book", "1", none⟩

/-- The ticket of the request for that. -/
def ticket : Ticket := ⟨0, 0, Operation.write "library" false none document []⟩

/-- What it fails with. -/
def failure : Failure := .remote (.status "POST" "/_bulk") 503 .null

/-- The processor before the request is accepted. -/
def unused : Processor := { Processor.fresh ⟨1, 100, 0⟩ with users := 1 }

/-- The processor with the request, which one worker is there for. -/
def used (queue : Queue) (worker : Worker) (outcome : Outcome) (failures : Table (List Failure)) :
    Processor :=
  ⟨⟨1, 100, 0⟩, 1, some queue, [worker], [("library", ⟨0, [0]⟩)], 1, [outcome], failures, []⟩

/-- What is shared while there is one manager. -/
def shared (p : Processor) (state : Lifecycle) (log : List Log.Entry) : Shared :=
  ⟨p, [("library", ⟨state, some configuration, [], state.isActive⟩)], default, log⟩

/-- The request has failed, and nobody has been told. -/
lemma exists_failed : ∃ records log, Session ⟨1, 100, 0⟩ default records
      (shared (used ⟨[], 0, 1⟩ .idle (.failed failure) [("library", [failure])]) .bound log) ∧
    (∀ r ∈ records, r.name = "library" ∧ r.call.awaits = false) ∧
    Session.accepted records "library" = [0] := by
  have hstart : Session ⟨1, 100, 0⟩ default [] (.fresh ⟨1, 100, 0⟩ default) := .start
  have hset : Session ⟨1, 100, 0⟩ default _ (shared unused .initialized _) :=
    hstart.fed "library"
      (.setUp "library" (.settled ⟨none, .recreateDelete, .green, 10000, false⟩) false) [] rfl
  have hbound : Session ⟨1, 100, 0⟩ default _ (shared unused .bound _) :=
    hset.fed "library" (.bind [])
      [.reply 404 .empty, .reply 200 .empty, .reply 200 (.json (.object []))] rfl
  have hstreamed : Session ⟨1, 100, 0⟩ default _
      (shared (used ⟨[ticket], 1, 0⟩ .idle .waiting []) .bound _) :=
    hbound.fed "library" (.stream (.operation (.add document [])) none) [] rfl
  have htaken : Session ⟨1, 100, 0⟩ default _
      (shared (used ⟨[], 1, 0⟩ (.sending [ticket] [] [ticket] []) .waiting []) .bound _) :=
    hstreamed.work ⟨_, .single (.take (i := 0) rfl rfl), rfl⟩
  have hfailed : Session ⟨1, 100, 0⟩ default _
      (shared (used ⟨[], 0, 1⟩ .idle (.failed failure) [("library", [failure])]) .bound _) :=
    htaken.work ⟨_, .single (.answer (i := 0) rfl rfl (.reply 503 .empty)), rfl⟩
  refine ⟨_, _, hfailed, fun r hr => ?_, rfl⟩
  simp only [List.nil_append, List.cons_append, List.mem_cons, List.not_mem_nil, or_false] at hr
  rcases hr with rfl | rfl | rfl
  all_goals exact ⟨rfl, rfl⟩

end Session.Loss

open Session.Loss in
/-- The request is told of when the index is flushed. -/
theorem Session.tellsAll_of_flush : ∃ records s, Session ⟨1, 100, 0⟩ default records s ∧
    Session.accepted records "library" = [0] ∧ s.processor.outcome 0 = .failed failure ∧
    ∃ shares still, TellsAll records s.processor "library" shares still := by
  obtain ⟨records, log, hfailed, hrecords, haccepted⟩ := exists_failed
  have hflushed : Session ⟨1, 100, 0⟩ default _ (shared
      (used ⟨[], 0, 1⟩ .idle (.failed failure) []) .bound _) := hfailed.fed "library" .flush [] rfl
  refine ⟨_, _, hflushed, ?_, rfl, (hflushed.tellsAll_iff "library").2
    fun earlier r hpast hswallows => ?_⟩
  · rw [accepted_concat, haccepted]
    rfl
  · rcases prefix_concat.1 hpast with ⟨-, rfl⟩ | hpast
    · cases hswallows.2.1.1
    · have hawaits := (hrecords r (hpast.subset (by simp))).2
      rw [hswallows.2.1.1] at hawaits
      cases hawaits

open Session.Loss in
/-- The request is never told of when the manager is destroyed and its index cannot be dropped. -/
theorem Session.not_tellsAll_of_refusal : ∃ records s, Session ⟨1, 100, 0⟩ default records s ∧
    (∀ r ∈ records, r.name = "library") ∧ (s.manager "library").state = .destroyed ∧
    Session.accepted records "library" = [0] ∧ s.processor.outcome 0 = .failed failure ∧
    ¬ ∃ shares still, TellsAll records s.processor "library" shares still := by
  obtain ⟨records, log, hfailed, hrecords, haccepted⟩ := exists_failed
  let released : Processor :=
    ⟨⟨1, 100, 0⟩, 0, none, [], [("library", ⟨0, [0]⟩)], 1, [.failed failure], [], []⟩
  have hdestroyed : Session ⟨1, 100, 0⟩ default _ (shared released .destroyed _) :=
    hfailed.fed "library" .destroy [.reply 200 .empty, .reply 503 .empty] rfl
  refine ⟨_, _, hdestroyed, fun r hr => ?_, rfl, ?_, rfl, ?_⟩
  · rcases List.mem_append.1 hr with hr | hr
    · exact (hrecords r hr).1
    · rw [List.mem_singleton.1 hr]
  · rw [accepted_concat, haccepted]
    rfl
  · -- nothing is raised, and nothing is recorded
    rintro ⟨shares, still, htells⟩
    have hstill : still = [] := List.map_eq_nil_iff.1 htells.recorded_eq
    have hshares : shares.flatten = [] := by
      refine flatten_eq_nil_of_carried htells.carried fun r hr => ?_
      rcases List.mem_append.1 hr with hr | hr
      · exact if_neg fun hreports => by cases (hrecords r hr).2.symm.trans hreports.1
      · rw [List.mem_singleton.1 hr]
        rfl
    have hmem : 0 ∈ shares.flatten ++ still := by
      refine (htells.mem_iff 0).2 ⟨?_, failure, rfl⟩
      rw [accepted_concat, haccepted]
      exact List.mem_cons_self
    rw [hstill, hshares] at hmem
    exact absurd hmem List.not_mem_nil

end SearchIndex
