import Mathlib.Data.List.Induction
import Mathlib.Data.List.Nodup
import Mathlib.Tactic.SplitIfs
import Reporting.Entries

/-! Entries inserted one after another. The keys stand in the order in which they are first met, and
what was inserted last under a key is what it holds. -/

namespace Reporting

structure FirstMet {α : Type} [DecidableEq α] (once all : List α) : Prop where
  mem_iff : ∀ a, a ∈ once ↔ a ∈ all
  ordered : once.Pairwise fun a b => all.idxOf a < all.idxOf b

namespace FirstMet

variable {α : Type} [DecidableEq α]

theorem nodup {once all : List α} (h : FirstMet once all) : once.Nodup :=
  h.ordered.imp fun hlt heq => absurd (heq ▸ hlt) (Nat.lt_irrefl _)

theorem eraseDups_concat (all : List α) (a : α) :
    (all ++ [a]).eraseDups = if a ∈ all then all.eraseDups else all.eraseDups ++ [a] := by
  rw [List.eraseDups_append]
  split_ifs with ha
  · simp [List.removeAll, ha]
  · simp [List.removeAll, ha, List.eraseDups_cons]

theorem ofEraseDups (all : List α) : FirstMet all.eraseDups all := by
  refine ⟨fun a => List.mem_eraseDups, ?_⟩
  induction all using List.reverseRecOn with
  | nil => exact List.Pairwise.nil
  | append_singleton all a ih =>
    -- what was met before keeps its place
    have hbefore : all.eraseDups.Pairwise fun b c => (all ++ [a]).idxOf b < (all ++ [a]).idxOf c := by
      refine ih.imp_of_mem fun {b c} hb hc hlt => ?_
      rw [List.idxOf_append_of_mem (List.mem_eraseDups.mp hb),
        List.idxOf_append_of_mem (List.mem_eraseDups.mp hc)]
      exact hlt
    rw [eraseDups_concat]
    split_ifs with ha
    · exact hbefore
    · refine List.pairwise_append.mpr ⟨hbefore, List.pairwise_singleton _ _, fun b hb c hc => ?_⟩
      have hb := List.mem_eraseDups.mp hb
      rw [List.mem_singleton.mp hc, List.idxOf_append_of_mem hb, List.idxOf_append_of_notMem ha]
      exact Nat.lt_add_right _ (List.idxOf_lt_length_of_mem hb)

end FirstMet

structure LastAt {α : Type} (p : α → Prop) (as : List α) (i : Nat) (a : α) : Prop where
  getElem? : as[i]? = some a
  holds : p a
  last : ∀ j b, i < j → as[j]? = some b → ¬p b

namespace LastAt

variable {α : Type} {p : α → Prop}

theorem concat_self (as : List α) {a : α} (ha : p a) : LastAt p (as ++ [a]) as.length a := by
  refine ⟨List.getElem?_concat_length, ha, ?_⟩
  intro j b hj hb
  have hlength := (List.getElem?_eq_some_iff.mp hb).1
  rw [List.length_append, List.length_singleton] at hlength
  omega

theorem concat_of_not {as : List α} {i : Nat} {a b : α} (h : LastAt p as i a) (hb : ¬p b) :
    LastAt p (as ++ [b]) i a := by
  have hi := (List.getElem?_eq_some_iff.mp h.getElem?).1
  refine ⟨(List.getElem?_append_left hi).trans h.getElem?, h.holds, ?_⟩
  intro j c hj hc
  by_cases hlt : j < as.length
  · exact h.last j c hj ((List.getElem?_append_left hlt).symm.trans hc)
  · rw [List.getElem?_append_right (Nat.le_of_not_lt hlt)] at hc
    have hmem := List.mem_of_getElem? hc
    rwa [List.mem_singleton.mp hmem]

theorem unique {as : List α} {i j : Nat} {a b : α} (h : LastAt p as i a)
    (h' : LastAt p as j b) : a = b := by
  have hij : i = j := by
    rcases Nat.lt_trichotomy i j with hlt | heq | hgt
    · exact absurd h'.holds (h.last j b hlt h'.getElem?)
    · exact heq
    · exact absurd h.holds (h'.last i a hgt h.getElem?)
  subst hij
  exact Option.some.inj (h.getElem?.symm.trans h'.getElem?)

end LastAt

/-- A list that keeps of all that was inserted what came last under each key, where the key came
first. -/
structure Keeps {κ α : Type} [DecidableEq κ] (inserted kept : List (κ × α)) : Prop where
  keys : FirstMet (kept.map Prod.fst) (inserted.map Prod.fst)
  last : ∀ key a, (key, a) ∈ kept ↔ ∃ i, LastAt (fun e => e.1 = key) inserted i (key, a)

section

variable {κ α β : Type} [DecidableEq κ]

theorem insertEntry_map (f : α → β) (key : κ) (a : α) (es : List (κ × α)) :
    insertEntry key (f a) (es.map fun e => (e.1, f e.2)) =
      (insertEntry key a es).map fun e => (e.1, f e.2) := by
  induction es with
  | nil => rfl
  | cons e es ih =>
    rw [List.map_cons, insertEntry, insertEntry]
    split_ifs
    · rfl
    · rw [List.map_cons, ih]

theorem insertEntry_of_not_mem {key : κ} (a : α) {es : List (κ × α)}
    (h : key ∉ es.map Prod.fst) : insertEntry key a es = es ++ [(key, a)] := by
  induction es with
  | nil => rfl
  | cons e es ih =>
    rw [List.map_cons, List.mem_cons, not_or] at h
    rw [insertEntry, if_neg fun heq => h.1 heq.symm, ih h.2, List.cons_append]

theorem modify_eq_insertEntry {key : κ} (a : α) {es : List (κ × α)} {i : Nat}
    (hnodup : (es.map Prod.fst).Nodup) (h : (es.map Prod.fst)[i]? = some key) :
    es.modify i (fun e => (e.1, a)) = insertEntry key a es := by
  induction es generalizing i with
  | nil => cases h
  | cons e es ih =>
    obtain ⟨hfirst, hnodup⟩ := List.nodup_cons.mp hnodup
    cases i with
    | zero =>
      have hkey : e.1 = key := Option.some.inj h
      rw [List.modify_zero_cons, insertEntry, if_pos hkey, hkey]
    | succ i =>
      have hkey : e.1 ≠ key := fun hkey => hfirst (hkey ▸ List.mem_of_getElem? h)
      rw [List.modify_succ_cons, insertEntry, if_neg hkey, ih hnodup h]

end

namespace Entries

variable {κ α β : Type} [DecidableEq κ]

theorem ofList_concat (es : List (κ × α)) (e : κ × α) :
    ofList (es ++ [e]) = (ofList es).insert e.1 e.2 := by
  rw [ofList, List.foldl_append]
  rfl

theorem keys_ofList (es : List (κ × α)) : (ofList es).keys = (es.map Prod.fst).eraseDups := by
  induction es using List.reverseRecOn with
  | nil => rfl
  | append_singleton es e ih =>
    rw [ofList_concat, keys_insert, List.map_append, List.map_singleton,
      FirstMet.eraseDups_concat, ih]
    simp only [List.mem_eraseDups]

theorem firstMet_keys_ofList (es : List (κ × α)) : FirstMet (ofList es).keys (es.map Prod.fst) := by
  rw [keys_ofList]
  exact FirstMet.ofEraseDups _

theorem mem_keys_ofList (es : List (κ × α)) (key : κ) :
    key ∈ (ofList es).keys ↔ key ∈ es.map Prod.fst :=
  (firstMet_keys_ofList es).mem_iff key

theorem exists_lastAt (es : List (κ × α)) {key : κ} (h : key ∈ (ofList es).keys) :
    ∃ i a, LastAt (fun e => e.1 = key) es i (key, a) ∧ (ofList es).get? key = some a := by
  induction es using List.reverseRecOn with
  | nil => cases h
  | append_singleton es e ih =>
    rw [ofList_concat]
    by_cases he : e.1 = key
    · subst he
      exact ⟨es.length, e.2, LastAt.concat_self es rfl, get?_insert_self _ _ _⟩
    · have hkey : key ∈ (ofList es).keys := by
        rw [mem_keys_ofList] at h ⊢
        rw [List.map_append, List.map_singleton, List.mem_append, List.mem_singleton] at h
        exact h.resolve_right fun heq => he heq.symm
      obtain ⟨i, a, hlast, hget⟩ := ih hkey
      refine ⟨i, a, hlast.concat_of_not he, ?_⟩
      rw [get?_insert_of_ne _ _ fun heq => he heq.symm, hget]

theorem get?_ofList_of_mem {es : List (κ × α)} (h : (es.map Prod.fst).Nodup) {key : κ} {a : α}
    (hmem : (key, a) ∈ es) : (ofList es).get? key = some a := by
  have hkey := (mem_keys_ofList es key).mpr (List.mem_map_of_mem hmem)
  obtain ⟨i, b, hlast, hget⟩ := exists_lastAt es hkey
  have heq := List.inj_on_of_nodup_map h (List.mem_of_getElem? hlast.getElem?) hmem rfl
  rw [hget, (Prod.mk.inj heq).2]

theorem get?_eq_some_iff {e : Entries κ α} {key : κ} {a : α} :
    e.get? key = some a ↔ (key, a) ∈ e.toList := by
  constructor
  · intro h
    obtain ⟨before, after, hlist, -⟩ := List.lookup_eq_some_iff.mp h
    rw [hlist]
    exact List.mem_append_right before List.mem_cons_self
  · intro h
    obtain ⟨before, after, hlist⟩ := List.append_of_mem h
    have hnodup := e.nodup
    rw [hlist, List.map_append, List.map_cons, List.nodup_append] at hnodup
    refine List.lookup_eq_some_iff.mpr ⟨before, after, hlist, fun x hx => ?_⟩
    simpa using (hnodup.2.2 x.1 (List.mem_map_of_mem hx) key List.mem_cons_self).symm

theorem get?_eq_none_iff {e : Entries κ α} {key : κ} : e.get? key = none ↔ key ∉ e.keys := by
  rw [get?, List.lookup_eq_none_iff, keys, List.mem_map]
  constructor
  · rintro h ⟨x, hx, rfl⟩
    exact absurd (h x hx) (by simp)
  · intro h x hx
    by_contra hkey
    exact h ⟨x, hx, (by simpa using hkey : key = x.1).symm⟩

theorem toList_ofList_map (f : α → β) (es : List (κ × α)) :
    (ofList (es.map fun e => (e.1, f e.2))).toList =
      (ofList es).toList.map fun e => (e.1, f e.2) := by
  induction es using List.reverseRecOn with
  | nil => rfl
  | append_singleton es e ih =>
    rw [List.map_append, List.map_singleton, ofList_concat, ofList_concat, toList_insert,
      toList_insert, ih]
    exact insertEntry_map f e.1 e.2 _

theorem get?_ofList_map (f : α → β) (es : List (κ × α)) (key : κ) :
    (ofList (es.map fun e => (e.1, f e.2))).get? key = ((ofList es).get? key).map f := by
  ext b
  rw [get?_eq_some_iff, toList_ofList_map, List.mem_map, Option.map_eq_some_iff]
  simp only [get?_eq_some_iff, Prod.mk.injEq]
  constructor
  · rintro ⟨e, he, rfl, rfl⟩
    exact ⟨e.2, he, rfl⟩
  · rintro ⟨a, ha, rfl⟩
    exact ⟨(key, a), ha, rfl, rfl⟩

theorem keeps_ofList (es : List (κ × α)) : Keeps es (ofList es).toList := by
  refine ⟨firstMet_keys_ofList es, fun key a => ?_⟩
  rw [← get?_eq_some_iff]
  constructor
  · intro h
    obtain ⟨i, b, hlast, hget⟩ := exists_lastAt es (mem_keys_of_get? h)
    rw [h] at hget
    exact ⟨i, Option.some.inj hget ▸ hlast⟩
  · rintro ⟨i, hlast⟩
    have hkey : key ∈ (ofList es).keys := (mem_keys_ofList es key).mpr
      (List.mem_map_of_mem (List.mem_of_getElem? hlast.getElem?))
    obtain ⟨j, b, hlast', hget⟩ := exists_lastAt es hkey
    rw [hget, (Prod.mk.inj (hlast.unique hlast')).2]

end Entries

end Reporting
