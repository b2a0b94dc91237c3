/-
# Ordered tables

A table with text keys that remembers the order in which its keys were first set: a list of pairs.
Setting a key that is there changes its value in place, a new key goes to the end.
-/

namespace SearchIndex

/-- A table from names to values, in the order in which the names were first set. -/
abbrev Table (α : Type) := List (String × α)

namespace Table

variable {α β : Type}

/-- The value of a key. -/
def get? (t : List (String × α)) (key : String) : Option α :=
  match t with
  | [] => none
  | (k, v) :: rest => if k = key then some v else get? rest key

/-- Whether the table has the key. -/
def has (t : List (String × α)) (key : String) : Bool := (get? t key).isSome

/-- The keys, in order. -/
def keys (t : List (String × α)) : List String := t.map (·.1)

/-- Sets the value of a key, in place when the key is there and at the end otherwise. -/
def set (t : List (String × α)) (key : String) (value : α) : List (String × α) :=
  match t with
  | [] => [(key, value)]
  | (k, v) :: rest => if k = key then (k, value) :: rest else (k, v) :: set rest key value

/-- The table without a key. -/
def erase (t : List (String × α)) (key : String) : List (String × α) :=
  match t with
  | [] => []
  | (k, v) :: rest => if k = key then rest else (k, v) :: erase rest key

/-- The first table with the entries of the second set on top of it, one after another. -/
def overlay (t : List (String × α)) (top : List (String × α)) : List (String × α) :=
  top.foldl (fun acc (k, v) => set acc k v) t

/-- Applies a function to every value. -/
def mapValues (f : α → β) (t : List (String × α)) : List (String × β) :=
  t.map fun (k, v) => (k, f v)

/-- Inserts an entry before the first one with a greater key. -/
def insertSorted (entry : String × α) : List (String × α) → List (String × α)
  | [] => [entry]
  | e :: rest => if e.1 < entry.1 then e :: insertSorted entry rest else entry :: e :: rest

/-- The entries in the order of their keys, compared by code points. -/
def sorted (t : List (String × α)) : List (String × α) := t.foldr insertSorted []

/-- No key occurs twice. -/
def IsDistinct (t : List (String × α)) : Prop := (keys t).Nodup

instance (t : List (String × α)) : Decidable (IsDistinct t) := by
  unfold IsDistinct; infer_instance

@[simp] theorem get?_nil (key : String) : get? ([] : List (String × α)) key = none := rfl

theorem get?_set_self (t : List (String × α)) (key : String) (value : α) :
    get? (set t key value) key = some value := by
  induction t with
  | nil => simp [set, get?]
  | cons e rest ih =>
    by_cases h : e.1 = key
    · simp [set, get?, h]
    · simp [set, get?, h, ih]

theorem get?_set_of_ne {key other : String} (t : List (String × α)) (value : α) (h : key ≠ other) :
    get? (set t key value) other = get? t other := by
  induction t with
  | nil => simp [set, get?, h]
  | cons e rest ih =>
    by_cases hk : e.1 = key
    · simp [set, get?, hk, h]
    · by_cases ho : e.1 = other
      · have h' : ¬ other = key := fun hh => h hh.symm
        simp [set, get?, ho, h']
      · simp [set, get?, hk, ho, ih]

theorem keys_set (t : List (String × α)) (key : String) (value : α) :
    keys (set t key value) = if key ∈ keys t then keys t else keys t ++ [key] := by
  induction t with
  | nil => simp [set, keys]
  | cons e rest ih =>
    by_cases h : e.1 = key
    · simp [set, keys, h]
    · have h' : ¬ key = e.1 := fun hh => h hh.symm
      simp only [keys] at ih
      by_cases hm : key ∈ rest.map (·.1)
      · simp only [set, h, keys, List.map_cons, if_false, ih, hm, if_true, List.mem_cons]
        simp
      · simp only [set, h, keys, List.map_cons, if_false, ih, hm, List.mem_cons]
        simp [h']

theorem perm_insertSorted (entry : String × α) (t : List (String × α)) :
    (insertSorted entry t).Perm (entry :: t) := by
  induction t with
  | nil => exact .refl _
  | cons e rest ih =>
    unfold insertSorted
    split
    · exact (ih.cons e).trans (.swap _ _ _)
    · exact .refl _

/-- Sorting loses nothing and adds nothing. -/
theorem perm_sorted (t : List (String × α)) : (sorted t).Perm t := by
  induction t with
  | nil => exact .refl _
  | cons e rest ih => exact (perm_insertSorted e (sorted rest)).trans (ih.cons e)

end Table

/-- The texts in order of their code points. -/
def sortTexts (texts : List String) : List String :=
  (Table.sorted (texts.map fun t => (t, ()))).map (·.1)

/-- Sorting texts loses nothing and adds nothing. -/
theorem perm_sortTexts (texts : List String) : (sortTexts texts).Perm texts := by
  have hperm := (Table.perm_sorted (texts.map fun t => (t, ()))).map Prod.fst
  simpa [sortTexts, Function.comp_def] using hperm

end SearchIndex
