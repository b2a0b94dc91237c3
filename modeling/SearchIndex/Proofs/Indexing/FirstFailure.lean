/-
# Carrying out requests up to the first failure

Requests that are carried out at once are sent group by group.  The run ends with the first group in
which a request fails: nothing is sent after it, and no index is refreshed.  The monitors of the
requests that failed hear of it, in order, and the failure that is raised is that of the group.

`RunEnds` says this of a transcript, and `runNow_ends` that every run of `Execution.runNow` ends so,
whatever the service answers.
-/
import SearchIndex.Proofs.Concurrency.Transcript
import SearchIndex.Proofs.Indexing.Outcome

namespace SearchIndex

open Execution

variable {ω : Type} (serve : ω → Call → Answer × ω)

/-- The call of a group with the answer to it. -/
def answered (x : List WorkRequest × Answer) : Call × Answer := (groupCall x.1, x.2)

/-- Groups with answers by which all of their requests pass. -/
structure AllPass (gs : List (List WorkRequest)) (sent : List (List WorkRequest × Answer)) :
    Prop where
  groups_eq : sent.map Prod.fst = gs
  passes : ∀ x ∈ sent, GroupPasses x.1 x.2

lemma allPass_nil : AllPass [] [] := ⟨rfl, by simp⟩

lemma AllPass.cons {gs : List (List WorkRequest)} {sent : List (List WorkRequest × Answer)}
    (h : AllPass gs sent) {group : List WorkRequest} {answer : Answer}
    (hpass : GroupPasses group answer) : AllPass (group :: gs) ((group, answer) :: sent) :=
  ⟨by simp [h.groups_eq], by simpa using ⟨hpass, fun a b => h.passes (a, b)⟩⟩

/-- The calls and the result of the refresh after requests have passed: the indexes that ask for it
are refreshed by one call, whose failure is that of the run, and there is no call if none asks. -/
inductive Refreshes (requests : List WorkRequest) :
    List (Call × Answer) → Except Failure Unit → Prop where
  | nothing (h : refreshedIndexes requests = []) : Refreshes requests [] (.ok ())
  | asked (h : refreshedIndexes requests ≠ []) (answer : Answer) :
      Refreshes requests [(refreshCall (refreshedIndexes requests), answer)]
        ((answer.judge (refreshCall (refreshedIndexes requests)).method
          (refreshCall (refreshedIndexes requests)).path []).map fun _ => ())

variable {s : Shared}

/-- A report ends the run if a request failed, after all failures have been told. -/
lemma transcript_report (hq : s.processor.HasQuietMonitors) (group : List WorkRequest)
    (answer : Answer) (outside : ω) :
    (report group (judgeGroup group answer)).transcript serve s outside =
      match summary? (failedOf group answer) with
      | none => ⟨.ok (), s, outside, []⟩
      | some failure =>
        ⟨.error failure, s.mapProcessor (·.tell (toldOf (failedOf group answer))), outside,
          []⟩ := by
  unfold report
  change Activity.transcript serve (match summary? (failedOf group answer) with
    | none => pure ()
    | some failure => _) s outside = _
  cases summary? (failedOf group answer) with
  | none => simp
  | some failure =>
    simp [notifyAll_eq hq, Shared.mapProcessor, failedOf]

/-- The run of groups, with the failures told as one change of the processor. -/
lemma runGroups_ends (hq : s.processor.HasQuietMonitors) (gs : List (List WorkRequest))
    (hne : ∀ g ∈ gs, g ≠ []) (outside : ω) :
    (∃ sent, AllPass gs sent ∧ ∃ outside',
      (runGroups gs).transcript serve s outside =
        ⟨.ok (), s, outside', sent.map answered⟩) ∨
    ∃ before group rest sent answer told failure,
      gs = before ++ group :: rest ∧ AllPass before sent ∧
      GroupFails group answer told failure ∧ ∃ outside',
      (runGroups gs).transcript serve s outside =
        ⟨.error failure, s.mapProcessor (·.tell told), outside',
          sent.map answered ++ [(groupCall group, answer)]⟩ := by
  induction gs generalizing outside with
  | nil => exact Or.inl ⟨[], allPass_nil, outside, rfl⟩
  | cons group rest ih =>
    have hgroup := group_outcome (hne group List.mem_cons_self) (serve outside (groupCall group)).1
    have hrest := ih (fun g hg => hne g (List.mem_cons_of_mem group hg))
      (serve outside (groupCall group)).2
    simp only [runGroups, Activity.transcript_bind, Activity.transcript_call,
      Transcript.andThen_ok, transcript_report serve hq]
    obtain ⟨hpass, hnone⟩ | ⟨told, failure, hfails, htold, hsummary⟩ := hgroup
    · -- this group passes, so the run goes on with the rest
      simp only [hnone, summary?, Transcript.andThen_ok]
      obtain ⟨sent, hsent, outside', ht⟩ | ⟨before, last, others, sent, answer, told, failure,
        rfl, hsent, hfails, outside', ht⟩ := hrest
      · exact Or.inl ⟨_ :: sent, hsent.cons hpass, outside', by simp [ht, answered]⟩
      · exact Or.inr ⟨group :: before, last, others, _ :: sent, answer, told, failure, rfl,
          hsent.cons hpass, hfails, outside', by simp [ht, answered]⟩
    · -- this group fails, and the run ends with it
      simp only [hsummary, htold, Transcript.andThen_error]
      exact Or.inr ⟨[], group, rest, [], _, told, failure, rfl, allPass_nil, hfails, _, rfl⟩

lemma refresh_refreshes (requests : List WorkRequest) (s : Shared) (outside : ω) :
    ∃ refreshing result outside', Refreshes requests refreshing result ∧
      (refresh requests).transcript serve s outside = ⟨result, s, outside', refreshing⟩ := by
  by_cases h : refreshedIndexes requests = []
  · exact ⟨[], .ok (), outside, .nothing h, by simp [refresh, h]⟩
  · let call := refreshCall (refreshedIndexes requests)
    exact ⟨_, _, (serve outside call).2, .asked h (serve outside call).1, by
      simp [refresh, h, call]⟩

/-- The transcript of a run: every group passes and the indexes are refreshed, or some group is the
first that fails. -/
lemma transcript_runNow (requests : List WorkRequest) (s : Shared) (outside : ω)
    (hq : s.processor.HasQuietMonitors) :
    (∃ sent refreshing result outside',
      AllPass (groups WorkRequest.isBulkable s.processor.limits.maxBulkSize requests) sent ∧
      Refreshes requests refreshing result ∧
      (runNow requests).transcript serve s outside =
        ⟨result, s, outside', sent.map answered ++ refreshing⟩) ∨
    ∃ before group rest sent answer told failure outside',
      groups WorkRequest.isBulkable s.processor.limits.maxBulkSize requests =
        before ++ group :: rest ∧
      AllPass before sent ∧ GroupFails group answer told failure ∧
      (runNow requests).transcript serve s outside =
        ⟨.error failure, s.mapProcessor (·.tell told), outside',
          sent.map answered ++ [(groupCall group, answer)]⟩ := by
  have hne : ∀ g ∈ groups WorkRequest.isBulkable s.processor.limits.maxBulkSize requests, g ≠ [] :=
    fun g hg => (isGroup_of_mem_groups hg).1
  obtain ⟨sent, hsent, outside', ht⟩ | ⟨before, group, rest, sent, answer, told, failure, hgroups,
    hsent, hfails, outside', ht⟩ := runGroups_ends serve hq _ hne outside
  · obtain ⟨refreshing, result, outside'', hrefresh, ht'⟩ :=
      refresh_refreshes serve requests s outside'
    exact Or.inl ⟨sent, refreshing, result, outside'', hsent, hrefresh, by simp [runNow, ht, ht']⟩
  · exact Or.inr ⟨before, group, rest, sent, answer, told, failure, outside', hgroups, hsent,
      hfails, by simp [runNow, ht]⟩

end SearchIndex
