import Mathlib.Logic.Basic
import Mathlib.Tactic.SplitIfs
import Reporting.Catalog

/-! Which names a set of fields contains, those it was made of, and at which positions of a list such
names stand. -/

namespace Reporting

namespace FieldSet

theorem contains_empty (n : String) : empty.contains n = false :=
  Std.HashMap.contains_empty

theorem contains_insert (s : FieldSet) (name label n : String) :
    (s.insert name label).contains n = (name == n || s.contains n) := by
  unfold insert
  split
  · rename_i i hi
    -- a field that is there already keeps its place, and the index does not change
    have hname : s.contains name = true := by
      rw [contains, Std.HashMap.contains_eq_isSome_getElem?, hi]
      rfl
    show s.contains n = _
    by_cases hn : name = n
    · rw [← hn, hname, Bool.or_true]
    · rw [beq_eq_false_iff_ne.mpr hn, Bool.false_or]
  · exact Std.HashMap.contains_insert

theorem contains_foldl_insert (es : List (String × String)) (s : FieldSet) (n : String) :
    (es.foldl (fun s e => s.insert e.1 e.2) s).contains n = true ↔
      n ∈ es.map Prod.fst ∨ s.contains n = true := by
  induction es generalizing s with
  | nil => simp
  | cons e es ih =>
    rw [List.foldl_cons, ih, contains_insert, Bool.or_eq_true, beq_iff_eq, List.map_cons,
      List.mem_cons, eq_comm (b := n), or_assoc, or_left_comm]

theorem contains_ofList (es : List (String × String)) (n : String) :
    (ofList es).contains n = true ↔ n ∈ es.map Prod.fst := by
  rw [ofList, contains_foldl_insert, contains_empty]
  simp

def positions (s : FieldSet) (fields : List String) : List Nat :=
  (List.range fields.length).filter fun i => fields[i]?.any s.contains

theorem positions_cons (s : FieldSet) (f : String) (fields : List String) :
    s.positions (f :: fields) =
      (if s.contains f then [0] else []) ++ (s.positions fields).map (· + 1) := by
  have hshift : (fun i => (f :: fields)[i]?.any s.contains) ∘ Nat.succ =
      fun i => fields[i]?.any s.contains := by
    funext i
    rw [Function.comp_apply, List.getElem?_cons_succ]
  rw [positions, List.length_cons, List.range_succ_eq_map, List.filter_cons, List.filter_map, hshift,
    List.getElem?_cons_zero, Option.any_some]
  split_ifs <;> rfl

theorem mem_positions {s : FieldSet} {fields : List String} {i : Nat} :
    i ∈ s.positions fields ↔ ∃ f, fields[i]? = some f ∧ s.contains f = true := by
  rw [positions, List.mem_filter, List.mem_range, Option.any_eq_true]
  refine ⟨fun h => h.2, fun h => ⟨?_, h⟩⟩
  obtain ⟨f, hf, -⟩ := h
  exact (List.getElem?_eq_some_iff.mp hf).1

theorem mem_positions_take {s : FieldSet} {fields : List String} {n i : Nat} :
    i ∈ s.positions (fields.take n) ↔ i < n ∧ ∃ f, fields[i]? = some f ∧ s.contains f = true := by
  rw [mem_positions, List.getElem?_take]
  split_ifs with hi
  · rw [and_iff_right hi]
  · simp [hi]

theorem positions_eq_nil_iff {s : FieldSet} {fields : List String} :
    s.positions fields = [] ↔ ∀ f ∈ fields, s.contains f = false := by
  rw [List.eq_nil_iff_forall_not_mem]
  constructor
  · intro h f hf
    obtain ⟨i, hi⟩ := List.mem_iff_getElem?.mp hf
    exact Bool.eq_false_iff.mpr fun hs => h i (mem_positions.mpr ⟨f, hi, hs⟩)
  · intro h i hi
    obtain ⟨f, hf, hs⟩ := mem_positions.mp hi
    exact Bool.false_ne_true ((h f (List.mem_of_getElem? hf)).symm.trans hs)

end FieldSet

theorem Catalog.contains_fieldSet (c : Catalog) (n : String) :
    c.fieldSet.contains n = true ↔ n ∈ c.fields.map CatalogField.name := by
  rw [fieldSet, FieldSet.contains_ofList, List.map_map]
  rfl

theorem Catalog.contains_fieldSet_eq_false (c : Catalog) {n : String}
    (h : n ∉ c.fields.map CatalogField.name) : c.fieldSet.contains n = false :=
  Bool.eq_false_iff.mpr fun hn => h ((c.contains_fieldSet n).mp hn)

end Reporting
