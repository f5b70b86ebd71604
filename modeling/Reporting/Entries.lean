/-!
Entries in the order in which their keys were first inserted. Inserting a key again replaces what
it holds and leaves it in its place, so keys are distinct.
-/

namespace Reporting

def insertEntry {κ α : Type} [DecidableEq κ] (key : κ) (a : α) : List (κ × α) → List (κ × α)
  | [] => [(key, a)]
  | e :: es => if e.1 = key then (key, a) :: es else e :: insertEntry key a es

theorem keys_insertEntry {κ α : Type} [DecidableEq κ] (key : κ) (a : α) (es : List (κ × α)) :
    (insertEntry key a es).map Prod.fst =
      if key ∈ es.map Prod.fst then es.map Prod.fst else es.map Prod.fst ++ [key] := by
  induction es with
  | nil => simp [insertEntry]
  | cons e es ih =>
    by_cases he : e.1 = key
    · simp [insertEntry, he]
    · have he' : key ≠ e.1 := fun h => he h.symm
      by_cases hm : key ∈ es.map Prod.fst
      · rw [if_pos hm] at ih
        simp only [insertEntry, he, if_false, List.map_cons, ih, List.mem_cons, hm, or_true,
          if_true]
      · rw [if_neg hm] at ih
        simp only [insertEntry, he, if_false, List.map_cons, ih, List.mem_cons, he', hm, or_false,
          List.cons_append]

theorem nodup_insertEntry {κ α : Type} [DecidableEq κ] (key : κ) (a : α) {es : List (κ × α)}
    (h : (es.map Prod.fst).Nodup) : ((insertEntry key a es).map Prod.fst).Nodup := by
  rw [keys_insertEntry]
  split
  · exact h
  · rename_i hm
    rw [List.nodup_append]
    refine ⟨h, by simp, ?_⟩
    intro x hx y hy hxy
    rw [List.mem_singleton] at hy
    exact hm (hy ▸ hxy ▸ hx)

structure Entries (κ α : Type) where
  toList : List (κ × α)
  nodup : (toList.map Prod.fst).Nodup
  deriving Repr

namespace Entries

variable {κ α : Type}

def empty : Entries κ α := ⟨[], List.nodup_nil⟩

instance : Inhabited (Entries κ α) := ⟨empty⟩

def keys (e : Entries κ α) : List κ := e.toList.map Prod.fst

def values (e : Entries κ α) : List α := e.toList.map Prod.snd

def size (e : Entries κ α) : Nat := e.toList.length

def isEmpty (e : Entries κ α) : Bool := e.toList.isEmpty

variable [DecidableEq κ]

def get? (e : Entries κ α) (key : κ) : Option α := e.toList.lookup key

def contains (e : Entries κ α) (key : κ) : Bool := (e.get? key).isSome

def insert (e : Entries κ α) (key : κ) (a : α) : Entries κ α :=
  ⟨insertEntry key a e.toList, nodup_insertEntry key a e.nodup⟩

def ofList (es : List (κ × α)) : Entries κ α := es.foldl (fun e x => e.insert x.1 x.2) empty

def erase (e : Entries κ α) (key : κ) : Entries κ α :=
  ⟨e.toList.filter fun x => x.1 ≠ key, e.nodup.sublist (List.filter_sublist.map _)⟩

def filterKeys (e : Entries κ α) (isKept : κ → Bool) : Entries κ α :=
  ⟨e.toList.filter fun x => isKept x.1, e.nodup.sublist (List.filter_sublist.map _)⟩

theorem mem_keys_of_get? {e : Entries κ α} {key : κ} {a : α} (h : e.get? key = some a) :
    key ∈ e.keys := by
  obtain ⟨before, after, hlist, -⟩ := List.lookup_eq_some_iff.mp h
  have hmem : (key, a) ∈ e.toList := hlist ▸ List.mem_append_right before List.mem_cons_self
  exact List.mem_map_of_mem hmem

@[simp] theorem toList_insert (e : Entries κ α) (key : κ) (a : α) :
    (e.insert key a).toList = insertEntry key a e.toList := rfl

theorem keys_insert (e : Entries κ α) (key : κ) (a : α) :
    (e.insert key a).keys = if key ∈ e.keys then e.keys else e.keys ++ [key] :=
  keys_insertEntry key a e.toList

@[simp] theorem get?_insert_self (e : Entries κ α) (key : κ) (a : α) :
    (e.insert key a).get? key = some a := by
  show (insertEntry key a e.toList).lookup key = some a
  induction e.toList with
  | nil => simp [insertEntry]
  | cons x xs ih =>
    by_cases hx : x.1 = key
    · simp [insertEntry, hx]
    · have hb : (key == x.1) = false := by simpa using fun h => hx h.symm
      simp only [insertEntry, hx, if_false]
      rw [show x = (x.1, x.2) from rfl, List.lookup_cons, hb]
      exact ih

theorem get?_insert_of_ne (e : Entries κ α) {key other : κ} (a : α) (h : other ≠ key) :
    (e.insert key a).get? other = e.get? other := by
  show (insertEntry key a e.toList).lookup other = e.toList.lookup other
  induction e.toList with
  | nil =>
    have hk : (other == key) = false := by simpa using h
    simp [insertEntry, List.lookup_cons, hk]
  | cons x xs ih =>
    rw [show x = (x.1, x.2) from rfl]
    by_cases hx : x.1 = key
    · have hb : (other == x.1) = false := by simpa [hx] using h
      have hk : (other == key) = false := by simpa using h
      simp only [insertEntry, hx, if_true, List.lookup_cons, hk]
    · simp only [insertEntry, hx, if_false, List.lookup_cons, ih]

@[simp] theorem get?_erase_self (e : Entries κ α) (key : κ) : (e.erase key).get? key = none := by
  show (e.toList.filter fun x => x.1 ≠ key).lookup key = none
  induction e.toList with
  | nil => rfl
  | cons x xs ih =>
    by_cases hx : x.1 = key
    · simpa [hx] using ih
    · have hb : (key == x.1) = false := by simpa using fun h => hx h.symm
      simp only [List.filter_cons, ne_eq, hx, not_false_iff, decide_true, if_true]
      rw [show x = (x.1, x.2) from rfl, List.lookup_cons, hb]
      simpa using ih

theorem get?_erase_of_ne (e : Entries κ α) {key other : κ} (h : other ≠ key) :
    (e.erase key).get? other = e.get? other := by
  show (e.toList.filter fun x => x.1 ≠ key).lookup other = e.toList.lookup other
  induction e.toList with
  | nil => rfl
  | cons x xs ih =>
    by_cases hx : x.1 = key
    · have hb : (other == x.1) = false := by simpa [hx] using h
      rw [show x = (x.1, x.2) from rfl, List.lookup_cons, hb]
      simpa [hx] using ih
    · simp only [List.filter_cons, ne_eq, hx, not_false_iff, decide_true, if_true]
      rw [show x = (x.1, x.2) from rfl, List.lookup_cons, List.lookup_cons]
      simp only [ne_eq] at ih
      rw [ih]

end Entries

end Reporting
