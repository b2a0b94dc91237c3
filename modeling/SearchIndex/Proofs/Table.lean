/-
# Laws of tables

Looking up, setting and erasing entries of an ordered table, and what is found or counted after
that.  A key that occurs twice would hide an entry, so the laws about all entries ask that none does
(`Table.IsDistinct`), and what is done to a table keeps that.
-/
import Mathlib.Tactic
import SearchIndex.Table

namespace SearchIndex.Table

variable {α β : Type} {t t' : List (String × α)} {key : String}

/-! ## Looking up -/

lemma get?_eq_none_iff : get? t key = none ↔ key ∉ keys t := by
  induction t with
  | nil => simp [keys]
  | cons entry rest ih =>
    by_cases hkey : entry.1 = key
    · simp [get?, keys, hkey]
    · simpa [get?, keys, hkey, eq_comm (a := key)] using ih

lemma mem_of_get?_eq_some {value : α} (h : get? t key = some value) : (key, value) ∈ t := by
  induction t with
  | nil => cases h
  | cons entry rest ih =>
    rw [get?] at h
    split at h
    · rename_i hkey
      subst hkey
      obtain rfl := Option.some.inj h
      exact List.mem_cons_self
    · exact List.mem_cons_of_mem _ (ih h)

/-- The entries of a table are what is found under their keys. -/
lemma get?_eq_some_iff (hdistinct : IsDistinct t) {value : α} :
    get? t key = some value ↔ (key, value) ∈ t := by
  refine ⟨mem_of_get?_eq_some, fun hmem => ?_⟩
  induction t with
  | nil => exact absurd hmem List.not_mem_nil
  | cons entry rest ih =>
    obtain ⟨hfresh, hrest⟩ := List.nodup_cons.1 hdistinct
    rcases List.mem_cons.1 hmem with rfl | hmem
    · simp [get?]
    · have hne : entry.1 ≠ key := by
        rintro rfl
        exact hfresh (List.mem_map.2 ⟨_, hmem, rfl⟩)
      rw [get?, if_neg hne]
      exact ih hrest hmem

lemma isDistinct_of_perm (h : t.Perm t') (hdistinct : IsDistinct t) : IsDistinct t' :=
  (h.map Prod.fst).nodup_iff.1 hdistinct

/-- What is found in a table does not depend on the order of its entries. -/
lemma get?_eq_of_perm (h : t.Perm t') (hdistinct : IsDistinct t) (key : String) :
    get? t key = get? t' key := by
  refine Option.ext fun value => ?_
  rw [get?_eq_some_iff hdistinct, get?_eq_some_iff (isDistinct_of_perm h hdistinct), h.mem_iff]

/-- What is found in a table of which the values have been changed, each by its key. -/
lemma get?_map (f : String → α → β) (t : List (String × α)) (key : String) :
    get? (t.map fun entry => (entry.1, f entry.1 entry.2)) key = (get? t key).map (f key) := by
  induction t with
  | nil => rfl
  | cons entry rest ih =>
    by_cases h : entry.1 = key
    · subst h
      simp [get?]
    · simpa [get?, h] using ih

lemma get?_mapValues (f : α → β) (t : List (String × α)) (key : String) :
    get? (mapValues f t) key = (get? t key).map f :=
  get?_map (fun _ => f) t key

/-! ## Sorting -/

/-- Where an entry is inserted depends on its key alone. -/
lemma insertSorted_mapValues (f : α → β) (entry : String × α) (t : List (String × α)) :
    insertSorted (entry.1, f entry.2) (mapValues f t) = mapValues f (insertSorted entry t) := by
  induction t with
  | nil => rfl
  | cons e rest ih =>
    rw [insertSorted]
    split
    · rename_i hlt
      have hcons : mapValues f (e :: rest) = (e.1, f e.2) :: mapValues f rest := rfl
      rw [hcons, insertSorted, if_pos hlt, ih]
      rfl
    · rename_i hnot
      have hcons : mapValues f (e :: rest) = (e.1, f e.2) :: mapValues f rest := rfl
      rw [hcons, insertSorted, if_neg hnot]
      rfl

lemma sorted_mapValues (f : α → β) (t : List (String × α)) :
    sorted (mapValues f t) = mapValues f (sorted t) := by
  induction t with
  | nil => rfl
  | cons e rest ih => exact (congrArg _ ih).trans (insertSorted_mapValues f e (sorted rest))

/-- Entries of different keys may be inserted in either order. -/
lemma insertSorted_comm {e f : String × α} (hne : e.1 ≠ f.1) (t : List (String × α)) :
    insertSorted e (insertSorted f t) = insertSorted f (insertSorted e t) := by
  have hlt : e.1 < f.1 ∧ ¬ f.1 < e.1 ∨ f.1 < e.1 ∧ ¬ e.1 < f.1 := by
    rcases Std.lt_trichotomy e.1 f.1 with hlt | heq | hlt
    · exact Or.inl ⟨hlt, String.lt_asymm hlt⟩
    · exact absurd heq hne
    · exact Or.inr ⟨hlt, String.lt_asymm hlt⟩
  induction t with
  | nil => rcases hlt with ⟨hlt, hnot⟩ | ⟨hlt, hnot⟩ <;> simp [insertSorted, hlt, hnot]
  | cons x rest ih =>
    by_cases he : x.1 < e.1 <;> by_cases hf : x.1 < f.1
    · simp [insertSorted, he, hf, ih]
    · have hbefore : f.1 < e.1 := Std.lt_of_le_of_lt (String.not_lt.1 hf) he
      simp [insertSorted, he, hf, hbefore]
    · have hbefore : e.1 < f.1 := Std.lt_of_le_of_lt (String.not_lt.1 he) hf
      simp [insertSorted, he, hf, hbefore]
    · rcases hlt with ⟨hlt, hnot⟩ | ⟨hlt, hnot⟩ <;> simp [insertSorted, he, hf, hlt, hnot]

/-- Sorting comes to the same whatever the order was before, as long as entries with the same key
are the same. -/
lemma sorted_eq_of_perm (h : t.Perm t') (hsame : ∀ e ∈ t, ∀ f ∈ t, e.1 = f.1 → e = f) :
    sorted t = sorted t' := by
  refine h.foldr_eq' (fun e he f hf rest => ?_) []
  by_cases hkey : f.1 = e.1
  · rw [hsame f hf e he hkey]
  · exact insertSorted_comm hkey rest

/-- Entries of a table with the same key are the same. -/
lemma IsDistinct.eq_of_key_eq (h : IsDistinct t) : ∀ e ∈ t, ∀ f ∈ t, e.1 = f.1 → e = f :=
  fun _ he _ hf => List.inj_on_of_nodup_map h he hf

/-- An entry is inserted where the order of the keys wants it. -/
lemma pairwise_insertSorted (h : t.Pairwise fun e f => e.1 ≤ f.1) (entry : String × α) :
    (insertSorted entry t).Pairwise fun e f => e.1 ≤ f.1 := by
  induction t with
  | nil => exact List.pairwise_singleton _ _
  | cons e rest ih =>
    obtain ⟨hfirst, hrest⟩ := List.pairwise_cons.1 h
    rw [insertSorted]
    split
    · rename_i hlt
      refine List.pairwise_cons.2 ⟨fun f hf => ?_, ih hrest⟩
      rcases List.mem_cons.1 ((perm_insertSorted entry rest).mem_iff.1 hf) with rfl | hf
      · exact String.not_lt.1 (String.lt_asymm hlt)
      · exact hfirst f hf
    · rename_i hnot
      have hle : entry.1 ≤ e.1 := String.not_lt.1 hnot
      refine List.pairwise_cons.2 ⟨fun f hf => ?_, h⟩
      rcases List.mem_cons.1 hf with rfl | hf
      · exact hle
      · exact String.le_trans hle (hfirst f hf)

/-- The keys of a sorted table are in order, and each comes once if it did so before. -/
lemma IsDistinct.pairwise_sorted (h : IsDistinct t) :
    (sorted t).Pairwise fun e f => e.1 < f.1 := by
  have hle : (sorted t).Pairwise fun e f => e.1 ≤ f.1 := by
    clear h
    induction t with
    | nil => exact .nil
    | cons e rest ih => exact pairwise_insertSorted ih e
  have hne : (sorted t).Pairwise fun e f => e.1 ≠ f.1 :=
    List.pairwise_map.1 (isDistinct_of_perm (perm_sorted t).symm h)
  exact hle.imp₂ (fun e f hle hne => Std.lt_of_le_of_ne hle hne) hne

/-! ## Setting -/

lemma isDistinct_set (h : IsDistinct t) (key : String) (value : α) :
    IsDistinct (set t key value) := by
  rw [IsDistinct, keys_set]
  split
  · exact h
  · rename_i hkey
    refine List.nodup_append.2 ⟨h, List.nodup_singleton key, fun a ha b hb => ?_⟩
    rintro rfl
    exact hkey (List.mem_singleton.1 hb ▸ ha)

lemma get?_append (t t' : List (String × α)) (key : String) :
    get? (t ++ t') key = (get? t key).or (get? t' key) := by
  induction t with
  | nil => rfl
  | cons entry rest ih =>
    by_cases hkey : entry.1 = key
    · simp [get?, hkey]
    · simpa [get?, hkey] using ih

/-- What is set on top of a table hides what was there, and later entries hide earlier ones. -/
lemma get?_overlay (t top : List (String × α)) (key : String) :
    get? (overlay t top) key = (get? top.reverse key).or (get? t key) := by
  induction top generalizing t with
  | nil => rfl
  | cons entry rest ih =>
    have hfirst : get? (set t entry.1 entry.2) key = (get? [entry] key).or (get? t key) := by
      by_cases hkey : entry.1 = key
      · subst hkey
        rw [get?_set_self]
        simp [get?]
      · rw [get?_set_of_ne t entry.2 hkey]
        simp [get?, hkey]
    have hstep : overlay t (entry :: rest) = overlay (set t entry.1 entry.2) rest := rfl
    rw [hstep, ih, hfirst, List.reverse_cons, get?_append, Option.or_assoc]

lemma isDistinct_overlay (h : IsDistinct t) (top : List (String × α)) :
    IsDistinct (overlay t top) := by
  induction top generalizing t with
  | nil => exact h
  | cons entry rest ih => exact ih (isDistinct_set h entry.1 entry.2)

/-- A value that is set under a new key comes last. -/
lemma set_of_not_mem (h : key ∉ keys t) (value : α) : set t key value = t ++ [(key, value)] := by
  induction t with
  | nil => rfl
  | cons entry rest ih =>
    obtain ⟨hne, hrest⟩ := not_or.1 (List.mem_cons.not.1 h)
    rw [set, if_neg (Ne.symm hne), ih hrest]
    rfl

/-- Setting a value counts for the new value and no longer for the old one. -/
lemma countP_set (p : α → Bool) (missing : α) (hmissing : p missing = false) (t : List (String × α))
    (key : String) (value : α) :
    (set t key value).countP (fun entry => p entry.2) +
        (p ((get? t key).getD missing)).toNat =
      t.countP (fun entry => p entry.2) + (p value).toNat := by
  induction t with
  | nil => simp [set, hmissing, List.countP_cons, Bool.toNat]
  | cons entry rest ih =>
    by_cases hkey : entry.1 = key
    · simp only [set, get?, hkey, if_true, List.countP_cons, Option.getD_some]
      cases p entry.2 <;> cases p value <;> rfl
    · simp only [set, get?, hkey, if_false, List.countP_cons]
      omega

/-! ## Erasing -/

lemma sublist_erase (t : List (String × α)) (key : String) : (erase t key).Sublist t := by
  induction t with
  | nil => exact .slnil
  | cons entry rest ih =>
    rw [erase]
    split
    · exact List.sublist_cons_self _ _
    · exact ih.cons_cons _

lemma isDistinct_erase (h : IsDistinct t) (key : String) : IsDistinct (erase t key) :=
  h.sublist ((sublist_erase t key).map _)

lemma get?_erase_of_ne {key other : String} (t : List (String × α)) (h : key ≠ other) :
    get? (erase t key) other = get? t other := by
  induction t with
  | nil => rfl
  | cons entry rest ih =>
    by_cases hkey : entry.1 = key
    · subst hkey
      simp [erase, get?, h]
    · simp [erase, get?, hkey, ih]

lemma get?_erase_self (h : IsDistinct t) : get? (erase t key) key = none := by
  induction t with
  | nil => rfl
  | cons entry rest ih =>
    obtain ⟨hfresh, hrest⟩ := List.nodup_cons.1 h
    by_cases hkey : entry.1 = key
    · subst hkey
      rw [erase, if_pos rfl]
      exact get?_eq_none_iff.2 hfresh
    · rw [erase, if_neg hkey, get?, if_neg hkey]
      exact ih hrest

/-! ## All values -/

/-- All values of a table, found by their keys. -/
lemma flatMap_keys {t : List (String × List β)} (h : IsDistinct t) :
    (keys t).flatMap (fun key => (get? t key).getD []) = t.flatMap Prod.snd := by
  induction t with
  | nil => rfl
  | cons entry rest ih =>
    obtain ⟨hfresh, hrest⟩ := List.nodup_cons.1 h
    have hfirst : (get? (entry :: rest) entry.1).getD [] = entry.2 := by simp [get?]
    have hothers : (keys rest).flatMap (fun key => (get? (entry :: rest) key).getD []) =
        (keys rest).flatMap fun key => (get? rest key).getD [] := by
      refine List.flatMap_congr fun key hkey => ?_
      have hne : entry.1 ≠ key := by
        rintro rfl
        exact hfresh hkey
      rw [get?, if_neg hne]
    calc (keys (entry :: rest)).flatMap (fun key => (get? (entry :: rest) key).getD [])
        = entry.2 ++ (keys rest).flatMap fun key => (get? (entry :: rest) key).getD [] := by
          rw [← hfirst]
          rfl
      _ = (entry :: rest).flatMap Prod.snd := by
          rw [hothers, ih hrest, List.flatMap_cons]

end SearchIndex.Table

namespace SearchIndex

lemma Table.keys_sorted {α : Type} (t : List (String × α)) :
    Table.keys (Table.sorted t) = sortTexts (Table.keys t) := by
  have hunit : (Table.keys t).map (fun key => (key, ())) = Table.mapValues (fun _ => ()) t := by
    simp [Table.keys, Table.mapValues, Function.comp_def]
  rw [sortTexts, hunit, Table.sorted_mapValues]
  simp [Table.keys, Table.mapValues, Function.comp_def]

/-- Texts are sorted the same way whatever their order was before. -/
lemma sortTexts_eq_of_perm {texts texts' : List String} (h : texts.Perm texts') :
    sortTexts texts = sortTexts texts' :=
  congrArg (List.map Prod.fst) (Table.sorted_eq_of_perm (h.map _) fun _ _ _ _ hkey =>
    Prod.ext hkey rfl)

end SearchIndex
