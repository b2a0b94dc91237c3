/-
# The groups of requests

Grouping makes nothing but groups: a request without a bulk action is alone, and requests with one
are at most as many as the limit says, where a limit of zero counts as one.  With `flatten_groups`
this says that the groups are the requests, cut into pieces that may be sent in one call each.

No other way of cutting them needs fewer calls (`groups_fewest`).  Filling a group up is never worse
than ending it early: what another way has sent by then is no more than the full group, and to send
less of a list takes no more groups than to send all of it.
-/
import Mathlib.Tactic
import SearchIndex.Indexing.Bulk

namespace SearchIndex

variable {α : Type} {bulkable : α → Bool} {limit : Nat}

/-- A single item is a group, whether or not it is bulkable. -/
lemma isGroup_singleton (x : α) (hlimit : 1 ≤ limit) : IsGroup bulkable limit [x] := by
  refine ⟨by simp, ?_⟩
  by_cases hx : bulkable x
  · exact Or.inr ⟨by simpa using hx, hlimit⟩
  · exact Or.inl ⟨x, rfl, by simpa using hx⟩

/-- Every piece that grouping makes is a group, provided that the group being filled holds bulkable
items only and fewer than the limit. -/
lemma isGroup_of_mem_groupsFrom (items current : List α) (hcurrent : current.all bulkable)
    (hlength : current.length < max 1 limit) {g : List α}
    (hg : g ∈ groupsFrom bulkable limit current items) :
    IsGroup bulkable (max 1 limit) g := by
  -- the group being filled is a group whenever it is given out
  have hfilled {c : List α} (hc : c.all bulkable) (hl : c.length ≤ max 1 limit)
      (hg : g ∈ if c.isEmpty then [] else [c]) : IsGroup bulkable (max 1 limit) g := by
    by_cases hne : c = []
    · simp [hne] at hg
    · simp only [List.isEmpty_iff, hne, if_false, List.mem_singleton] at hg
      exact hg ▸ ⟨hne, Or.inr ⟨hc, hl⟩⟩
  induction items generalizing current with
  | nil => exact hfilled hcurrent (by omega) (by simpa [groupsFrom] using hg)
  | cons x rest ih =>
    unfold groupsFrom at hg
    split at hg
    · rename_i hx
      have hall : (current ++ [x]).all bulkable := by simpa [hx] using hcurrent
      split at hg
      · rcases List.mem_cons.1 hg with rfl | hg
        · refine ⟨by simp, Or.inr ⟨hall, ?_⟩⟩
          rw [List.length_append, List.length_singleton]
          omega
        · exact ih [] (by simp) (by simp) hg
      · exact ih (current ++ [x]) hall (by simp; omega) hg
    · rcases List.mem_append.1 hg with hg | hg
      · exact hfilled hcurrent (by omega) hg
      · rcases List.mem_cons.1 hg with rfl | hg
        · exact isGroup_singleton x (by omega)
        · exact ih [] (by simp) (by simp) hg

/-- Grouping makes nothing but groups. -/
theorem isGroup_of_mem_groups {items g : List α} (hg : g ∈ groups bulkable limit items) :
    IsGroup bulkable (max 1 limit) g :=
  isGroup_of_mem_groupsFrom items [] (by simp) (by simp) hg

/-- A full group, a request that is sent alone, and the rest. -/
example : groups (· ≠ 0) 2 [1, 2, 3, 0, 4] = [[1, 2], [3], [0], [4]] := by decide

/-- Every grouped item is one of the items. -/
lemma mem_of_mem_groups {items g : List α} (hg : g ∈ groups bulkable limit items) {x : α}
    (hx : x ∈ g) : x ∈ items := by
  rw [← flatten_groups bulkable limit items]
  exact List.mem_flatten_of_mem hg hx

/-! ## The fewest groups -/

/-- A way of cutting a list into groups. -/
structure IsGrouping (bulkable : α → Bool) (limit : Nat) (items : List α) (gs : List (List α)) :
    Prop where
  flatten_eq : gs.flatten = items
  isGroup : ∀ g ∈ gs, IsGroup bulkable limit g

lemma IsGroup.length_le {g : List α} (hg : IsGroup bulkable limit g) :
    g.length ≤ max 1 limit := by
  obtain ⟨-, ⟨x, rfl, -⟩ | ⟨-, hlength⟩⟩ := hg
  · exact le_max_left 1 limit
  · exact hlength.trans (le_max_right 1 limit)

/-- What is left of a group is a group. -/
lemma IsGroup.of_append {front back : List α} (hg : IsGroup bulkable limit (front ++ back))
    (hback : back ≠ []) : IsGroup bulkable limit back := by
  obtain ⟨-, ⟨x, hx, hbulkable⟩ | ⟨hall, hlength⟩⟩ := hg
  · rcases List.append_eq_singleton_iff.1 hx with ⟨-, rfl⟩ | ⟨-, hnil⟩
    · exact ⟨hback, Or.inl ⟨x, rfl, hbulkable⟩⟩
    · exact absurd hnil hback
  · rw [List.all_append, Bool.and_eq_true] at hall
    rw [List.length_append] at hlength
    exact ⟨hback, Or.inr ⟨hall.2, by omega⟩⟩

/-- A group with an item that is not bulkable is that item. -/
lemma IsGroup.eq_singleton {g : List α} (hg : IsGroup bulkable limit g) {x : α} (hx : x ∈ g)
    (hbulkable : bulkable x = false) : g = [x] := by
  obtain ⟨-, ⟨y, rfl, -⟩ | ⟨hall, -⟩⟩ := hg
  · rw [List.mem_singleton.1 hx]
  · have hxall := List.all_eq_true.1 hall x hx
    rw [hbulkable] at hxall
    cases hxall

namespace IsGrouping

variable {items front back : List α} {g : List α} {gs more : List (List α)}

lemma nil : IsGrouping bulkable limit [] ([] : List (List α)) := ⟨rfl, by simp⟩

/-- The groups after the first one are a way of cutting what the first one leaves. -/
lemma tail (h : IsGrouping bulkable limit items (g :: more)) (hrest : more.flatten = back) :
    IsGrouping bulkable limit back more :=
  ⟨hrest, fun other hother => h.isGroup other (List.mem_cons_of_mem g hother)⟩

lemma cons (hg : IsGroup bulkable limit g) (h : IsGrouping bulkable limit items more) :
    IsGrouping bulkable limit (g ++ items) (g :: more) := by
  refine ⟨by rw [List.flatten_cons, h.flatten_eq], fun other hother => ?_⟩
  rcases List.mem_cons.1 hother with rfl | hother
  · exact hg
  · exact h.isGroup other hother

/-- The end of a list takes no more groups than the whole list. -/
lemma exists_drop (h : IsGrouping bulkable limit (front ++ back) gs) :
    ∃ gs', IsGrouping bulkable limit back gs' ∧ gs'.length ≤ gs.length := by
  induction gs generalizing front with
  | nil =>
    obtain ⟨-, rfl⟩ := List.append_eq_nil_iff.1 h.flatten_eq.symm
    exact ⟨[], nil, le_refl _⟩
  | cons g more ih =>
    have hg := h.isGroup g (List.mem_cons_self ..)
    rcases List.append_eq_append_iff.1 (List.flatten_cons.symm.trans h.flatten_eq) with
      ⟨front', rfl, hrest⟩ | ⟨left, rfl, hback⟩
    · -- the first group lies before the end
      obtain ⟨gs', hgs', hle⟩ := ih (h.tail hrest)
      exact ⟨gs', hgs', hle.trans (Nat.le_succ _)⟩
    · -- the end begins in the first group, and what is left of that is a group
      by_cases hleft : left = []
      · rw [hleft, List.nil_append] at hback
        exact ⟨more, h.tail hback.symm, Nat.le_succ _⟩
      · refine ⟨left :: more, ?_, le_refl _⟩
        rw [hback]
        exact (h.tail rfl).cons (hg.of_append hleft)

/-- Every way of cutting a list has an item that is not bulkable alone, between a way of cutting what
is before it and one of cutting what is after it. -/
lemma exists_split {x : α} (h : IsGrouping bulkable limit (front ++ x :: back) gs)
    (hx : bulkable x = false) : ∃ before after, gs = before ++ [x] :: after ∧
      IsGrouping bulkable limit front before ∧ IsGrouping bulkable limit back after := by
  induction gs generalizing front with
  | nil => exact absurd h.flatten_eq.symm (by simp)
  | cons g more ih =>
    have hg := h.isGroup g (List.mem_cons_self ..)
    have hflatten := List.flatten_cons.symm.trans h.flatten_eq
    rcases List.append_eq_append_iff.1 hflatten with ⟨front', rfl, hrest⟩ | ⟨left, rfl, hback⟩
    · -- the first group lies before the item
      obtain ⟨before, after, rfl, hbefore, hafter⟩ := ih (h.tail hrest)
      exact ⟨g :: before, after, rfl, hbefore.cons hg, hafter⟩
    · cases left with
      | nil =>
        -- the first group ends where the item stands
        have hrest : more.flatten = [] ++ x :: back := hback.symm
        obtain ⟨before, after, rfl, hbefore, hafter⟩ := ih (h.tail hrest)
        exact ⟨(front ++ []) :: before, after, rfl, by simpa using hbefore.cons hg, hafter⟩
      | cons y left =>
        -- the item is in the first group, which is the item alone
        obtain ⟨rfl, rfl⟩ := List.cons.inj hback
        have hsingle := hg.eq_singleton (List.mem_append_right front (List.mem_cons_self ..)) hx
        obtain ⟨rfl, hleft⟩ | ⟨-, hnil⟩ := List.append_eq_singleton_iff.1 hsingle
        · obtain ⟨-, rfl⟩ := List.cons.inj hleft
          exact ⟨[], more, rfl, nil, h.tail rfl⟩
        · cases hnil

end IsGrouping

/-- The first group of a way of cutting a list reaches no further than as many of its items as a
group may hold. -/
lemma IsGrouping.exists_cons {full rest : List α} {gs : List (List α)} (hfull : full ≠ [])
    (hlimit : limit ≤ full.length) (h : IsGrouping bulkable limit (full ++ rest) gs) :
    ∃ g more left, gs = g :: more ∧ IsGrouping bulkable limit (left ++ rest) more := by
  cases gs with
  | nil => exact absurd (List.append_eq_nil_iff.1 h.flatten_eq.symm).1 hfull
  | cons g more =>
    have hlength := (h.isGroup g (List.mem_cons_self ..)).length_le
    have hpos := List.length_pos_of_ne_nil hfull
    have hflatten := List.flatten_cons.symm.trans h.flatten_eq
    have hprefix : g <+: full := List.prefix_of_prefix_length_le
      (hflatten ▸ List.prefix_append g more.flatten) (List.prefix_append full rest) (by omega)
    obtain ⟨left, rfl⟩ := hprefix
    rw [List.append_assoc] at hflatten
    exact ⟨g, more, left, rfl, h.tail (List.append_cancel_left hflatten)⟩

/-- Cutting what is being filled and the items after it in another way takes no fewer groups. -/
lemma length_groupsFrom_le (items current : List α) {gs : List (List α)}
    (h : IsGrouping bulkable limit (current ++ items) gs) :
    (groupsFrom bulkable limit current items).length ≤ gs.length := by
  induction items generalizing current gs with
  | nil =>
    rw [groupsFrom]
    split
    · exact Nat.zero_le _
    · rename_i hcurrent
      rw [List.append_nil] at h
      have hgs : gs ≠ [] := by
        rintro rfl
        exact hcurrent (by rw [← h.flatten_eq]; rfl)
      exact List.length_pos_of_ne_nil hgs
  | cons x rest ih =>
    rw [groupsFrom]
    split
    · have hsnoc : current ++ x :: rest = current ++ [x] ++ rest := by simp
      rw [hsnoc] at h
      split
      · -- the group is full: another first group ends here or earlier
        rename_i hfull
        obtain ⟨g, more, left, rfl, hmore⟩ := h.exists_cons (by simp) (by simpa using hfull)
        obtain ⟨gs', hgs', hle⟩ := hmore.exists_drop
        exact Nat.succ_le_succ ((ih [] hgs').trans hle)
      · exact ih (current ++ [x]) h
    · -- the item stands alone in every way
      rename_i hx
      obtain ⟨before, after, rfl, hbefore, hafter⟩ := h.exists_split (Bool.eq_false_iff.2 hx)
      have hrest := ih [] hafter
      have hcurrent : (if current.isEmpty then [] else [current]).length ≤ before.length := by
        split
        · exact Nat.zero_le _
        · rename_i hcurrent
          refine List.length_pos_of_ne_nil ?_
          rintro rfl
          exact hcurrent (by rw [← hbefore.flatten_eq]; rfl)
      simp only [List.length_append, List.length_cons]
      omega

/-- The groups of a list are a way of cutting it, and no other one has fewer groups. -/
theorem groups_fewest (items : List α) (hlimit : 1 ≤ limit) :
    IsGrouping bulkable limit items (groups bulkable limit items) ∧
      ∀ gs, IsGrouping bulkable limit items gs →
        (groups bulkable limit items).length ≤ gs.length := by
  refine ⟨⟨flatten_groups bulkable limit items, fun g hg => ?_⟩, fun gs hgs => ?_⟩
  · have hgroup := isGroup_of_mem_groups hg
    rwa [max_eq_right hlimit] at hgroup
  · exact length_groupsFrom_le items [] hgs

/-- Two items share a group, the third waits for a partner in vain, as the next one is sent alone. -/
theorem groups_fewest_six :
    groups (fun n : Nat => n ≠ 0) 2 [1, 2, 3, 0, 4, 5] = [[1, 2], [3], [0], [4, 5]] ∧
      ∀ gs, IsGrouping (fun n : Nat => n ≠ 0) 2 [1, 2, 3, 0, 4, 5] gs → 4 ≤ gs.length := by
  have hlimit : 1 ≤ 2 := by decide
  exact ⟨rfl, (groups_fewest [1, 2, 3, 0, 4, 5] hlimit).2⟩

/-! ## The request that is sent alone -/

lemma single?_eq_some_iff {group : List WorkRequest} {r : WorkRequest} :
    single? group = some r ↔ group = [r] ∧ r.isBulkable = false := by
  unfold single?
  split
  · rename_i r'
    cases hr : r'.isBulkable
    · simp only [Bool.false_eq_true, if_false, Option.some.injEq, List.cons.injEq, and_true]
      exact ⟨fun h => ⟨h, h ▸ hr⟩, fun h => h.1⟩
    · simp only [if_true, reduceCtorEq, List.cons.injEq, and_true, false_iff, not_and]
      rintro rfl
      simp [hr]
  · rename_i h
    simp only [reduceCtorEq, false_iff, not_and]
    exact fun hr => absurd hr (h r)

/-- A group is either a single request that is sent alone, or a bulk call. -/
lemma IsGroup.single?_cases {group : List WorkRequest}
    (hg : IsGroup WorkRequest.isBulkable limit group) :
    (∃ r, group = [r] ∧ r.isBulkable = false ∧ single? group = some r) ∨
      ((∀ r ∈ group, r.isBulkable = true) ∧ group.length ≤ limit ∧ single? group = none) := by
  obtain ⟨-, ⟨r, rfl, hr⟩ | ⟨hall, hlength⟩⟩ := hg
  · exact Or.inl ⟨r, rfl, hr, by simp [single?, hr]⟩
  · rw [List.all_eq_true] at hall
    refine Or.inr ⟨hall, hlength, ?_⟩
    cases hs : single? group with
    | none => rfl
    | some r =>
      obtain ⟨rfl, hr⟩ := single?_eq_some_iff.1 hs
      simp [hall r (by simp)] at hr

end SearchIndex
