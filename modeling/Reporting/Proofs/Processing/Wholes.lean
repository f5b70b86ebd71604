import Mathlib.Algebra.BigOperators.Group.List.Basic
import Mathlib.Algebra.Order.BigOperators.Group.List
import Reporting.Proofs.Processing.Cells

/-! Sums of integers. As long as all that is added up comes to at most `2 ^ 53`, every sum is the
integer it should be, and the sums of the rows come to the same as those of their columns. -/

namespace Reporting

theorem natAbs_sum_le (ns : List Int) : ns.sum.natAbs ≤ (ns.map Int.natAbs).sum := by
  induction ns with
  | nil => exact Nat.le_refl 0
  | cons n ns ih =>
    rw [List.map_cons, List.sum_cons, List.sum_cons]
    exact (Int.natAbs_add_le n ns.sum).trans (Nat.add_le_add_left ih _)

namespace Cell

def whole : Option Cell → Int
  | some (.int n) => n
  | _ => 0

def IsWhole : Option Cell → Prop
  | some (.int _) => True
  | some c => c.number? = none
  | none => True

instance : DecidablePred IsWhole
  | none => .isTrue trivial
  | some (.int _) => .isTrue trivial
  | some .null => inferInstanceAs (Decidable (number? .null = none))
  | some (.float x) => inferInstanceAs (Decidable (number? (.float x) = none))
  | some (.text s) => inferInstanceAs (Decidable (number? (.text s) = none))

theorem IsWhole.cases {cell : Option Cell} (h : IsWhole cell) :
    cell.bind number? = none ∧ whole cell = 0 ∨ cell = some (.int (whole cell)) := by
  rcases cell with _ | _ | n | x | s
  · exact .inl ⟨rfl, rfl⟩
  · exact .inl ⟨rfl, rfl⟩
  · exact .inr rfl
  · exact .inl ⟨h, rfl⟩
  · exact .inl ⟨h, rfl⟩

theorem exists_integers {cells : List (Option Cell)} (hwhole : ∀ c ∈ cells, IsWhole c)
    (hsmall : (cells.map fun c => (whole c).natAbs).sum ≤ twoTo 53) :
    ∃ ns : List Int,
      List.Forall₂ (fun x n => x.toInt? = some n) (cells.filterMap (·.bind number?)) ns ∧
      ns.sum = (cells.map whole).sum ∧
      (ns.map Int.natAbs).sum = (cells.map fun c => (whole c).natAbs).sum := by
  induction cells with
  | nil => exact ⟨[], .nil, rfl, rfl⟩
  | cons c cells ih =>
    rw [List.map_cons, List.sum_cons] at hsmall
    have hrest := ih (fun c hc => hwhole c (List.mem_cons_of_mem _ hc)) (by omega)
    obtain ⟨ns, hnumbers, hsum, hsize⟩ := hrest
    rcases (hwhole c List.mem_cons_self).cases with ⟨hnone, hzero⟩ | hint
    · refine ⟨ns, ?_, ?_, ?_⟩
      · rwa [List.filterMap_cons, hnone]
      · rw [List.map_cons, List.sum_cons, hzero, Int.zero_add, hsum]
      · rw [List.map_cons, List.sum_cons, hzero, Int.natAbs_zero, Nat.zero_add, hsize]
    · refine ⟨whole c :: ns, ?_, ?_, ?_⟩
      · have hread : c.bind number? = some (.ofInt (whole c)) := by rw [hint]; rfl
        rw [List.filterMap_cons, hread]
        exact .cons (Binary64.toInt?_ofInt (by omega)) hnumbers
      · rw [List.map_cons, List.sum_cons, List.sum_cons, hsum]
      · rw [List.map_cons, List.map_cons, List.sum_cons, List.sum_cons, hsize]

theorem ofSum_cells {cells : List (Option Cell)} (hwhole : ∀ c ∈ cells, IsWhole c)
    (hsmall : (cells.map fun c => (whole c).natAbs).sum ≤ twoTo 53) :
    ofSum (.sum (cells.filterMap (·.bind number?))) = .int (cells.map whole).sum := by
  obtain ⟨ns, hnumbers, hsum, hsize⟩ := exists_integers hwhole hsmall
  rw [← hsize] at hsmall
  have hword : ns.sum.natAbs < twoTo 63 :=
    ((natAbs_sum_le ns).trans hsmall).trans_lt (Nat.pow_lt_pow_right Nat.one_lt_two (by decide))
  rw [ofSum, Binary64.toInt?_sum hnumbers hsmall, ← hsum]
  exact if_pos hword

end Cell

namespace Totals

def rowSum (keys : List String) (r : Row) : Int :=
  (keys.map fun key => Cell.whole (r.get? key)).sum

def columnSum (rows : List Row) (key : String) : Int :=
  (rows.map fun r => Cell.whole (r.get? key)).sum

def rowSize (keys : List String) (r : Row) : Nat :=
  (keys.map fun key => (Cell.whole (r.get? key)).natAbs).sum

theorem natAbs_rowSum_le (keys : List String) (r : Row) : (rowSum keys r).natAbs ≤ rowSize keys r := by
  have h := natAbs_sum_le (keys.map fun key => Cell.whole (r.get? key))
  rwa [List.map_map] at h

theorem rowSize_le {keys : List String} {rows : List Row} {r : Row} (hr : r ∈ rows) :
    rowSize keys r ≤ (rows.map (rowSize keys)).sum :=
  List.single_le_sum (fun _ _ => Nat.zero_le _) _ (List.mem_map_of_mem hr)

theorem sum_rowSum (keys : List String) (rows : List Row) :
    (rows.map (rowSum keys)).sum = (keys.map (columnSum rows)).sum := by
  induction keys with
  | nil =>
    have hrow : rowSum [] = fun _ => 0 := rfl
    simp [hrow]
  | cons key keys ih =>
    have hrow : rowSum (key :: keys) = fun r => Cell.whole (r.get? key) + rowSum keys r := by
      funext r
      rw [rowSum, List.map_cons, List.sum_cons, rowSum]
    rw [hrow, List.sum_map_add, ih, List.map_cons, List.sum_cons, columnSum]

theorem rowTotal_of_whole {keys : List String} {r : Row}
    (hwhole : ∀ key ∈ keys, Cell.IsWhole (r.get? key)) (hsmall : rowSize keys r ≤ twoTo 53) :
    rowTotal keys r = .int (rowSum keys r) := by
  have hcells : ∀ c ∈ keys.map r.get?, Cell.IsWhole c := List.forall_mem_map.mpr hwhole
  have hsum := Cell.ofSum_cells hcells (by rwa [List.map_map])
  rw [List.filterMap_map, List.map_map] at hsum
  exact hsum

theorem columnTotal_of_whole {rows : List Row} {key : String}
    (hwhole : ∀ r ∈ rows, Cell.IsWhole (r.get? key))
    (hsmall : (rows.map fun r => (Cell.whole (r.get? key)).natAbs).sum ≤ twoTo 53) :
    columnTotal rows key = .int (columnSum rows key) := by
  have hcells : ∀ c ∈ rows.map (·.get? key), Cell.IsWhole c := List.forall_mem_map.mpr hwhole
  have hsum := Cell.ofSum_cells hcells (by rwa [List.map_map])
  rw [List.filterMap_map, List.map_map] at hsum
  exact hsum

theorem get?_columnTotals {keys : List String} (rows : List Row) {key : String} (h : key ∈ keys) :
    (columnTotals keys rows).bind (·.get? key) = some (columnTotal rows key) := by
  have hkeys : keys.isEmpty = false := List.isEmpty_eq_false_iff_exists_mem.mpr ⟨key, h⟩
  have hmem : key ∈ (Entries.ofList (keys.map fun key => (key, columnTotal rows key))).keys := by
    rw [Entries.mem_keys_ofList, List.map_map]
    exact List.mem_map.mpr ⟨key, h, rfl⟩
  obtain ⟨i, total, hlast, hget⟩ := Entries.exists_lastAt _ hmem
  -- a column listed twice has the same sum both times
  obtain ⟨listed, -, heq⟩ := List.mem_map.mp (List.mem_of_getElem? hlast.getElem?)
  obtain ⟨rfl, rfl⟩ := Prod.mk.inj heq
  rw [columnTotals, hkeys]
  exact hget

theorem columnTotal_addRowTotals_of_ne {keys : List String} {key : String}
    (h : key = rowTotalKey → keys = []) (rows : List Row) :
    columnTotal (addRowTotals keys rows) key = columnTotal rows key := by
  have hnumbers : columnNumbers (addRowTotals keys rows) key = columnNumbers rows key := by
    rw [addRowTotals_eq_map, columnNumbers, List.filterMap_map]
    exact List.filterMap_congr fun r _ => by
      rw [Function.comp_apply, get?_addRowTotal_of_ne h]
  rw [columnTotal, hnumbers, columnTotal]

theorem columnTotal_addRowTotals_self {keys : List String} (hkeys : keys ≠ []) {rows : List Row}
    (hwhole : ∀ r ∈ rows, ∀ key ∈ keys, Cell.IsWhole (r.get? key))
    (hsmall : (rows.map (rowSize keys)).sum ≤ twoTo 53) :
    columnTotal (addRowTotals keys rows) rowTotalKey = .int (rows.map (rowSum keys)).sum := by
  have hrow : ∀ r ∈ rows, (addRowTotal keys r).get? rowTotalKey = some (.int (rowSum keys r)) := by
    intro r hr
    rw [get?_addRowTotal_self hkeys,
      rowTotal_of_whole (hwhole r hr) ((rowSize_le hr).trans hsmall)]
  have hsize : ((addRowTotals keys rows).map fun r =>
      (Cell.whole (r.get? rowTotalKey)).natAbs).sum ≤ (rows.map (rowSize keys)).sum := by
    rw [addRowTotals_eq_map, List.map_map]
    refine List.sum_le_sum fun r hr => ?_
    rw [Function.comp_apply, hrow r hr]
    exact natAbs_rowSum_le keys r
  rw [columnTotal_of_whole ?_ (hsize.trans hsmall)]
  · rw [columnSum, addRowTotals_eq_map, List.map_map]
    congr 2
    refine List.map_congr_left fun r hr => ?_
    rw [Function.comp_apply, hrow r hr]
    rfl
  · rw [addRowTotals_eq_map]
    refine List.forall_mem_map.mpr fun r hr => ?_
    rw [hrow r hr]
    exact trivial

end Totals

def ProcessedReport.total? (r : ProcessedReport) (key : String) : Option Cell :=
  r.totals.bind (·.get? key)

namespace Processing

/-- The listings of columns whose cells are added up as they were fetched. The sums of the rows,
where they are taken, stand in the place of what was fetched under their key. -/
def listed (p : Processing) : List String :=
  p.addInRow ++ p.addColumns.filter fun key => p.addInRow.isEmpty || key != rowTotalKey

/-- Integers only are added up, and with each of them taken as often as its column is listed they
come to at most `2 ^ 53`. -/
structure AddsWhole (p : Processing) (rows : List Row) : Prop where
  whole : ∀ r ∈ rows, ∀ key ∈ p.listed, Cell.IsWhole (r.get? key)
  small : (rows.map (Totals.rowSize p.listed)).sum ≤ twoTo 53

instance (p : Processing) (rows : List Row) : Decidable (p.AddsWhole rows) :=
  decidable_of_iff ((∀ r ∈ rows, ∀ key ∈ p.listed, Cell.IsWhole (r.get? key)) ∧
    (rows.map (Totals.rowSize p.listed)).sum ≤ twoTo 53)
    ⟨fun h => ⟨h.1, h.2⟩, fun h => ⟨h.whole, h.small⟩⟩

variable {p : Processing} {rows : List Row}

theorem mem_listed_of_addColumns {key : String} (hkey : key ∈ p.addColumns)
    (h : key = rowTotalKey → p.addInRow = []) : key ∈ p.listed := by
  refine List.mem_append_right _ (List.mem_filter.mpr ⟨hkey, ?_⟩)
  rw [Bool.or_eq_true, List.isEmpty_iff, bne_iff_ne, or_iff_not_imp_right, not_not]
  exact h

theorem total?_eq (pagination : Option Pagination) {key : String} (hkey : key ∈ p.addColumns) :
    (p.report pagination rows).total? key =
      some (Totals.columnTotal (Totals.addRowTotals p.addInRow rows) key) :=
  Totals.get?_columnTotals _ hkey

namespace AddsWhole

theorem whole_addInRow (h : p.AddsWhole rows) :
    ∀ r ∈ rows, ∀ key ∈ p.addInRow, Cell.IsWhole (r.get? key) :=
  fun r hr key hkey => h.whole r hr key (List.mem_append_left _ hkey)

theorem small_addInRow (h : p.AddsWhole rows) :
    (rows.map (Totals.rowSize p.addInRow)).sum ≤ twoTo 53 := by
  refine (List.sum_le_sum fun r _ => ?_).trans h.small
  rw [Totals.rowSize, Totals.rowSize, listed, List.map_append, List.sum_append]
  exact Nat.le_add_right _ _

theorem small_column (h : p.AddsWhole rows) {key : String} (hkey : key ∈ p.listed) :
    (rows.map fun r => (Cell.whole (r.get? key)).natAbs).sum ≤ twoTo 53 := by
  refine (List.sum_le_sum fun r _ => ?_).trans h.small
  exact List.single_le_sum (fun _ _ => Nat.zero_le _) _
    (List.mem_map_of_mem (f := fun key => (Cell.whole (r.get? key)).natAbs) hkey)

theorem rowTotal_eq (h : p.AddsWhole rows) {r : Row} (hr : r ∈ rows) :
    Totals.rowTotal p.addInRow r = .int (Totals.rowSum p.addInRow r) :=
  Totals.rowTotal_of_whole (h.whole_addInRow r hr) ((Totals.rowSize_le hr).trans h.small_addInRow)

theorem total?_eq_columnSum (h : p.AddsWhole rows) (pagination : Option Pagination) {key : String}
    (hkey : key ∈ p.addColumns) (hsource : key = rowTotalKey → p.addInRow = []) :
    (p.report pagination rows).total? key = some (.int (Totals.columnSum rows key)) := by
  have hlisted := mem_listed_of_addColumns hkey hsource
  rw [total?_eq pagination hkey, Totals.columnTotal_addRowTotals_of_ne hsource,
    Totals.columnTotal_of_whole (fun r hr => h.whole r hr key hlisted) (h.small_column hlisted)]

end AddsWhole

theorem rows_report_none (p : Processing) (rows : List Row) :
    (p.report none rows).rows = (p.block rows).1 := by
  show [(⟨none, (p.block rows).1⟩ : Section)].flatMap Section.rows = _
  rw [List.flatMap_singleton]

theorem shown_report (p : Processing) (pagination : Option Pagination) (rows : List Row) :
    ∃ order : List Row, order.Perm rows ∧
      List.Forall₂ (Shown p.clear p.addInRow) order (p.report pagination rows).rows := by
  cases pagination with
  | none =>
    refine ⟨rows, .refl rows, ?_⟩
    rw [rows_report_none]
    exact shown_block p rows
  | some pagination =>
    have hfirst := FirstMet.ofEraseDups (rows.map (p.sectionName pagination))
    refine ⟨_, perm_flatMap_filter (p.sectionName pagination) hfirst.nodup
      fun r hr => (hfirst.mem_iff _).mpr (List.mem_map_of_mem hr), ?_⟩
    rw [ProcessedReport.rows, sections_report, List.flatMap_map]
    induction (rows.map (p.sectionName pagination)).eraseDups with
    | nil => exact .nil
    | cons name names ih =>
      rw [List.flatMap_cons, List.flatMap_cons]
      exact List.rel_append (shown_block p (p.sectionRows pagination rows name)) ih

/-- Every sum is the integer it should be, whatever is cleared and however the rows are parted, and
the sums of the rows come to what their columns come to. Blanking may hide a sum that is repeated,
and without columns to add up in a row there are no sums of rows. -/
theorem totals_of_addsWhole (h : p.AddsWhole rows) (pagination : Option Pagination) :
    (∀ r ∈ rows, Totals.rowTotal p.addInRow r = .int (Totals.rowSum p.addInRow r)) ∧
    (∃ order : List Row, order.Perm rows ∧ List.Forall₂ (fun r shown =>
      Shown p.clear p.addInRow r shown ∧ (p.addInRow ≠ [] →
        shown.get? rowTotalKey = some (.int (Totals.rowSum p.addInRow r)) ∨
          rowTotalKey ∈ p.clear ∧ shown.get? rowTotalKey = some (.text "")))
      order (p.report pagination rows).rows) ∧
    (∀ key ∈ p.addColumns, (key = rowTotalKey → p.addInRow = []) →
      (p.report pagination rows).total? key = some (.int (Totals.columnSum rows key))) ∧
    (p.addInRow ≠ [] → rowTotalKey ∈ p.addColumns →
      (p.report pagination rows).total? rowTotalKey =
        some (.int (rows.map (Totals.rowSum p.addInRow)).sum) ∧
      (rows.map (Totals.rowSum p.addInRow)).sum = (p.addInRow.map (Totals.columnSum rows)).sum) := by
  refine ⟨fun r hr => h.rowTotal_eq hr, ?_,
    fun key hkey hsource => h.total?_eq_columnSum pagination hkey hsource, fun hadd hkey => ⟨?_, ?_⟩⟩
  · obtain ⟨order, hperm, hshown⟩ := shown_report p pagination rows
    refine ⟨order, hperm, ?_⟩
    have hmem : ∀ r ∈ order, r ∈ rows := fun r hr => hperm.mem_iff.mp hr
    generalize (p.report pagination rows).rows = shown at hshown ⊢
    clear hperm
    induction hshown with
    | nil => exact .nil
    | cons hrow _ ih =>
      refine .cons ⟨hrow, ?_⟩ (ih fun r hr => hmem r (List.mem_cons_of_mem _ hr))
      rw [← h.rowTotal_eq (hmem _ List.mem_cons_self)]
      exact hrow.total
  · rw [total?_eq pagination hkey,
      Totals.columnTotal_addRowTotals_self hadd h.whole_addInRow h.small_addInRow]
  · exact Totals.sum_rowSum p.addInRow rows

theorem totals_of_quarters :
    (⟨["RowTotal"], ["Q1", "Q2"], ["Q1", "RowTotal"]⟩ : Processing).AddsWhole
      [.ofList [("Team", .text "Web"), ("Q1", .int 100), ("Q2", .int (-50))],
        .ofList [("Team", .text "Ops"), ("Q1", .int 25), ("Q2", .null)]] ∧
    ((⟨["RowTotal"], ["Q1", "Q2"], ["Q1", "RowTotal"]⟩ : Processing).report (some ⟨"Team", "$name"⟩)
      [.ofList [("Team", .text "Web"), ("Q1", .int 100), ("Q2", .int (-50))],
        .ofList [("Team", .text "Ops"), ("Q1", .int 25), ("Q2", .null)]]).total? "RowTotal" =
      some (.int 75) := by
  refine ⟨by decide, ?_⟩
  exact ((totals_of_addsWhole (by decide) (some ⟨"Team", "$name"⟩)).2.2.2 (by decide) (by decide)).1

/-- A column that goes by the name of the sums of the rows is a column like any other where no sums
of rows are taken, and where that column is cleared a sum may be hidden. -/
theorem not_forall_totals_whole :
    (¬∀ (p : Processing) (rows : List Row), rowTotalKey ∉ p.addInRow → p.AddsWhole rows →
      ∀ pagination, rowTotalKey ∈ p.addColumns → (p.report pagination rows).total? rowTotalKey =
        some (.int (p.addInRow.map (Totals.columnSum rows)).sum)) ∧
    ¬∀ (p : Processing) (rows : List Row), rowTotalKey ∉ p.addInRow → p.AddsWhole rows →
      ∀ pagination, p.addInRow ≠ [] → ∀ shown ∈ (p.report pagination rows).rows,
        ∃ n, shown.get? rowTotalKey = some (.int n) := by
  constructor
  · intro hall
    have h : (⟨[], [], [rowTotalKey]⟩ : Processing).AddsWhole [.ofList [(rowTotalKey, .int 5)]] := by
      decide
    have hfetched := h.total?_eq_columnSum none (List.mem_singleton_self rowTotalKey) fun _ => rfl
    rw [hall _ _ List.not_mem_nil h none (List.mem_singleton_self _)] at hfetched
    exact absurd hfetched (by decide)
  · intro hall
    let row : Row := .ofList [("A", .int 1)]
    have h : (⟨[rowTotalKey], ["A"], []⟩ : Processing).AddsWhole [row, row] := by decide
    have hsum : Totals.addRowTotal ["A"] row = row.insert rowTotalKey (.int 1) :=
      congrArg (row.insert rowTotalKey) (h.rowTotal_eq List.mem_cons_self)
    have hrows : ((⟨[rowTotalKey], ["A"], []⟩ : Processing).report none [row, row]).rows =
        [row.insert rowTotalKey (.int 1), row.insert rowTotalKey (.text "")] := by
      rw [rows_report_none, block_rows, List.map_cons, List.map_singleton, hsum]
      rfl
    have hlast := hall _ _ (by decide) h none (List.cons_ne_nil _ _)
      (row.insert rowTotalKey (.text ""))
    rw [hrows] at hlast
    obtain ⟨n, hn⟩ := hlast (List.mem_cons_of_mem _ List.mem_cons_self)
    cases hn

end Processing

end Reporting
