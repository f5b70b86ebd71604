import Reporting.Cell
import Reporting.Plan.Projection
import Reporting.Proofs.Catalog.FieldSet
import Reporting.Proofs.Entries

/-! A set of fields finds its entries through an index and lists them as they stand. Whatever is
inserted, the two stay in step, so that the set is the list of entries that headers and rows are. -/

namespace Reporting

theorem getElem?_concat_eq_some_iff {α : Type} {as : List α} {a b : α} {i : Nat} :
    (as ++ [a])[i]? = some b ↔ as[i]? = some b ∨ i = as.length ∧ a = b := by
  rcases Nat.lt_trichotomy i as.length with hlt | rfl | hgt
  · rw [List.getElem?_append_left hlt]
    simp [Nat.ne_of_lt hlt]
  · simp
  · have hbehind : (as ++ [a]).length ≤ i := by
      rw [List.length_append]
      exact hgt
    rw [List.getElem?_eq_none hbehind, List.getElem?_eq_none (Nat.le_of_lt hgt)]
    simp [Nat.ne_of_gt hgt]

namespace FieldSet

/-- The index has exactly the names of the entries, each of which stands once, with their positions. -/
structure IsIndexed (s : FieldSet) : Prop where
  nodup : s.names.Nodup
  index : ∀ (name : String) (i : Nat), s.index[name]? = some i ↔ s.names[i]? = some name

theorem isIndexed_empty : empty.IsIndexed := by
  refine ⟨List.nodup_nil, fun name i => ?_⟩
  have hnone : empty.index[name]? = none := Std.HashMap.getElem?_empty
  rw [hnone]
  exact ⟨nofun, nofun⟩

variable {s : FieldSet} (name label : String)

theorem IsIndexed.index_eq_none_iff (h : s.IsIndexed) : s.index[name]? = none ↔ name ∉ s.names := by
  rw [List.mem_iff_getElem?, not_exists, Option.eq_none_iff_forall_ne_some]
  exact forall_congr' fun i => (h.index name i).not

theorem IsIndexed.toList_insert (h : s.IsIndexed) :
    (s.insert name label).toList = insertEntry name label s.toList := by
  unfold insert
  cases hi : s.index[name]? with
  | none =>
    rw [insertEntry_of_not_mem label ((h.index_eq_none_iff name).mp hi)]
    exact Array.toList_push
  | some i =>
    rw [← modify_eq_insertEntry label h.nodup ((h.index name i).mp hi)]
    exact Array.toList_modify

theorem IsIndexed.insert (h : s.IsIndexed) : (s.insert name label).IsIndexed := by
  have hnames : (s.insert name label).names = if name ∈ s.names then s.names else s.names ++ [name] := by
    rw [names, h.toList_insert, keys_insertEntry]
    rfl
  refine ⟨?_, fun other i => ?_⟩
  · rw [names, h.toList_insert]
    exact nodup_insertEntry name label h.nodup
  rw [hnames]
  unfold FieldSet.insert
  cases hi : s.index[name]? with
  | some j =>
    have hmem : name ∈ s.names := List.mem_of_getElem? ((h.index name j).mp hi)
    rw [if_pos hmem]
    exact h.index other i
  | none =>
    have hmem := (h.index_eq_none_iff name).mp hi
    have hsize : s.entries.size = s.names.length := (List.length_map Prod.fst).symm
    rw [if_neg hmem, getElem?_concat_eq_some_iff, ← h.index]
    show (s.index.insert name s.entries.size)[other]? = some i ↔ _
    rw [Std.HashMap.getElem?_insert, hsize]
    split_ifs with hother
    · have hother := eq_of_beq hother
      rw [← hother, hi, Option.some.injEq]
      simp [eq_comm]
    · have hother : name ≠ other := fun heq => hother (beq_of_eq heq)
      simp [hother]

structure Refines (s : FieldSet) (e : Entries String String) : Prop where
  indexed : s.IsIndexed
  toList_eq : s.toList = e.toList

theorem refines_empty : Refines empty .empty := ⟨isIndexed_empty, rfl⟩

theorem Refines.insert {e : Entries String String} (h : Refines s e) :
    Refines (s.insert name label) (e.insert name label) := by
  refine ⟨h.indexed.insert name label, ?_⟩
  rw [h.indexed.toList_insert, h.toList_eq, Entries.toList_insert]

theorem refines_foldl {e : Entries String String} (h : Refines s e) (es : List (String × String)) :
    Refines (es.foldl (fun s e => s.insert e.1 e.2) s) (es.foldl (fun s e => s.insert e.1 e.2) e) := by
  induction es generalizing s e with
  | nil => exact h
  | cons x es ih => exact ih (h.insert x.1 x.2)

theorem refines_ofList (es : List (String × String)) : Refines (ofList es) (.ofList es) :=
  refines_foldl refines_empty es

namespace Refines

variable {e : Entries String String} {name}

theorem label?_eq (h : Refines s e) : s.label? name = e.get? name := by
  ext label
  rw [Entries.get?_eq_some_iff, ← h.toList_eq, label?, Option.bind_eq_some_iff]
  simp only [h.indexed.index, Option.map_eq_some_iff]
  constructor
  · rintro ⟨i, hname, x, hx, rfl⟩
    have hi : s.toList[i]? = some x := by simpa [toList] using hx
    rw [names, List.getElem?_map, hi] at hname
    rw [← Option.some.inj hname]
    exact List.mem_of_getElem? hi
  · intro hmem
    obtain ⟨i, hi⟩ := List.mem_iff_getElem?.mp hmem
    refine ⟨i, ?_, (name, label), by simpa [toList] using hi, rfl⟩
    rw [names, List.getElem?_map, hi]
    rfl

end Refines

/-- Whatever is inserted, the set keeps its index and is the list in which each name stands where it
came first, with the label that came last. Headers and rows keep what is inserted in the same way, so
that they show and find the same. -/
theorem keeps_and_lookups_ofList (es : List (String × String)) (cells : List (String × Cell))
    (label : Cell → String) :
    (ofList es).IsIndexed ∧
    Keeps es (ofList es).toList ∧
    (∀ name, (ofList es).contains name = true ↔ name ∈ es.map Prod.fst) ∧
    (∀ name label, (ofList es).label? name = some label ↔ (name, label) ∈ (ofList es).toList) ∧
    (.ofList es : Headers).toList = (ofList es).toList ∧
    (∀ key, (.ofList es : Headers).get? key = (ofList es).label? key) ∧
    Keeps cells (.ofList cells : Row).toList ∧
    ((.ofList cells : Row).toList.map fun e => (e.1, label e.2)) =
      (ofList (cells.map fun e => (e.1, label e.2))).toList ∧
    ∀ key, ((.ofList cells : Row).get? key).map label =
      (ofList (cells.map fun e => (e.1, label e.2))).label? key := by
  have hset := refines_ofList es
  have hrow := refines_ofList (cells.map fun e => (e.1, label e.2))
  refine ⟨hset.indexed, ?_, contains_ofList es, fun name label => ?_, hset.toList_eq.symm,
    fun key => hset.label?_eq.symm, Entries.keeps_ofList cells, ?_, fun key => ?_⟩
  · rw [hset.toList_eq]
    exact Entries.keeps_ofList es
  · rw [hset.label?_eq, hset.toList_eq, Entries.get?_eq_some_iff]
  · rw [hrow.toList_eq, Entries.toList_ofList_map]
  · rw [hrow.label?_eq, Entries.get?_ofList_map]

end FieldSet

end Reporting
