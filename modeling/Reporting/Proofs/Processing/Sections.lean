import Mathlib.Data.List.Perm.Basic
import Reporting.Processing
import Reporting.Proofs.Entries
import Reporting.Proofs.Text.Replacing

/-! Sections as parts of the rows. There is one for every text met in the column, in the order in
which the texts are first met, and it holds the rows that show the text in their own order. The sum
of a row looks at no other row, so it may be taken before the rows are parted or after. -/

namespace Reporting

theorem perm_flatMap_filter {α β : Type} [DecidableEq β] (name : α → β) {names : List β}
    (hnodup : names.Nodup) {as : List α} (hmem : ∀ a ∈ as, name a ∈ names) :
    (names.flatMap fun n => as.filter fun a => name a = n).Perm as := by
  induction names generalizing as with
  | nil =>
    have hnil : as = [] := List.eq_nil_iff_forall_not_mem.mpr fun a ha => List.not_mem_nil (hmem a ha)
    rw [hnil, List.flatMap_nil]
  | cons n names ih =>
    have hfresh := (List.nodup_cons.mp hnodup).1
    -- the rows of the other names are not among those of this one
    have hothers : ∀ m ∈ names, as.filter (fun a => name a = m) =
        (as.filter fun a => !decide (name a = n)).filter fun a => name a = m := by
      intro m hm
      rw [List.filter_filter]
      apply List.filter_congr
      intro a _
      by_cases ha : name a = m
      · have hne : m ≠ n := fun h => hfresh (h ▸ hm)
        simp [ha, hne]
      · simp [ha]
    have hrest : ∀ a ∈ as.filter fun a => !decide (name a = n), name a ∈ names := by
      intro a ha
      obtain ⟨ha, hne⟩ := List.mem_filter.mp ha
      exact (List.mem_cons.mp (hmem a ha)).resolve_left (by simpa using hne)
    rw [List.flatMap_cons, List.flatMap_congr hothers]
    exact ((ih (List.nodup_cons.mp hnodup).2 hrest).append_left _).trans
      (List.filter_append_perm _ _)

namespace Totals

def addRowTotal (keys : List String) (row : Row) : Row :=
  if keys.isEmpty then row else row.insert rowTotalKey (rowTotal keys row)

theorem addRowTotals_eq_map (keys : List String) (rows : List Row) :
    addRowTotals keys rows = rows.map (addRowTotal keys) := by
  unfold addRowTotals addRowTotal
  split_ifs
  · exact (List.map_id' rows).symm
  · rfl

def cellAt (addInRow : List String) (row : Row) (key : String) : Option Cell :=
  if key = rowTotalKey ∧ addInRow ≠ [] then some (rowTotal addInRow row) else row.get? key

theorem get?_addRowTotal (keys : List String) (row : Row) (key : String) :
    (addRowTotal keys row).get? key = cellAt keys row key := by
  cases keys with
  | nil => exact (if_neg fun h => h.2 rfl).symm
  | cons k keys =>
    show (row.insert rowTotalKey _).get? key = _
    by_cases hkey : key = rowTotalKey
    · rw [cellAt, if_pos ⟨hkey, List.cons_ne_nil k keys⟩, hkey, Entries.get?_insert_self]
    · rw [cellAt, if_neg fun h => hkey h.1, Entries.get?_insert_of_ne _ _ hkey]

end Totals

namespace Blanking

theorem length_rowsFrom (keys : List String) (last : Entries String Cell) (rs : List Row) :
    (rowsFrom keys last rs).length = rs.length := by
  induction rs generalizing last with
  | nil => rfl
  | cons r rs ih => exact congrArg (· + 1) (ih _)

theorem length_rows (keys : List String) (rs : List Row) : (rows keys rs).length = rs.length :=
  length_rowsFrom keys .empty rs

end Blanking

namespace Pagination

theorem addRow_of_mem {name : String} (r : Row) {names : List String} (rows : String → List Row)
    (hnodup : names.Nodup) (hmem : name ∈ names) :
    addRow name r (names.map fun n => (n, rows n)) =
      names.map fun n => (n, if name = n then rows n ++ [r] else rows n) := by
  induction names with
  | nil => cases hmem
  | cons n names ih =>
    obtain ⟨hfresh, hnodup⟩ := List.nodup_cons.mp hnodup
    by_cases hn : n = name
    · subst hn
      have hothers : names.map (fun m => (m, if n = m then rows m ++ [r] else rows m)) =
          names.map fun m => (m, rows m) :=
        List.map_congr_left fun m hm => by rw [if_neg fun h : n = m => hfresh (h ▸ hm)]
      simp only [List.map_cons, addRow, if_true, hothers]
    · have hmem := (List.mem_cons.mp hmem).resolve_left fun h => hn h.symm
      simp only [List.map_cons, addRow, if_neg hn, if_neg fun h : name = n => hn h.symm,
        ih hnodup hmem]

theorem addRow_of_not_mem {name : String} (r : Row) {names : List String}
    (rows : String → List Row) (hmem : name ∉ names) :
    addRow name r (names.map fun n => (n, rows n)) =
      (names.map fun n => (n, rows n)) ++ [(name, [r])] := by
  induction names with
  | nil => rfl
  | cons n names ih =>
    obtain ⟨hn, hmem⟩ := not_or.mp (List.mem_cons.not.mp hmem)
    simp only [List.map_cons, addRow, if_neg fun h : n = name => hn h.symm, ih hmem,
      List.cons_append]

theorem groups_concat (p : Pagination) (rs : List Row) (r : Row) :
    p.groups (rs ++ [r]) = addRow (p.name r) r (p.groups rs) := by
  rw [groups, List.foldl_append]
  rfl

theorem groups_eq (p : Pagination) (rs : List Row) :
    p.groups rs = (rs.map p.name).eraseDups.map fun n => (n, rs.filter fun r => p.name r = n) := by
  induction rs using List.reverseRecOn with
  | nil => rfl
  | append_singleton rs r ih =>
    have hfirst := FirstMet.ofEraseDups (rs.map p.name)
    rw [groups_concat, ih, List.map_append, List.map_singleton, FirstMet.eraseDups_concat]
    split_ifs with hmem
    · rw [addRow_of_mem r _ hfirst.nodup ((hfirst.mem_iff _).mpr hmem)]
      apply List.map_congr_left
      intro n _
      by_cases hn : p.name r = n <;> simp [List.filter_append, hn]
    · rw [addRow_of_not_mem r _ fun h => hmem ((hfirst.mem_iff _).mp h), List.map_append,
        List.map_singleton]
      have hnone : rs.filter (fun r' => p.name r' = p.name r) = [] :=
        List.filter_eq_nil_iff.mpr fun r' hr' h =>
          hmem (List.mem_map.mpr ⟨r', hr', of_decide_eq_true h⟩)
      have hothers : ∀ n ∈ (rs.map p.name).eraseDups,
          (rs ++ [r]).filter (fun r => p.name r = n) = rs.filter fun r => p.name r = n := by
        intro n hn
        have hne : p.name r ≠ n := fun h => hmem (h ▸ (hfirst.mem_iff n).mp hn)
        simp [List.filter_append, hne]
      congr 1
      · exact List.map_congr_left fun n hn => by rw [hothers n hn]
      · simp [List.filter_append, hnone]

end Pagination

namespace Processing

/-- The text of a cell without a format; where there is no cell, that of an empty one. -/
def textOf : Option Cell → String
  | none => ""
  | some .null => ""
  | some (.int n) => Text.ofInt n
  | some (.float x) => x.text
  | some (.text s) => s

def sectionName (p : Processing) (pagination : Pagination) (row : Row) : String :=
  textOf (Totals.cellAt p.addInRow row pagination.key)

theorem name_addRowTotal (p : Processing) (pagination : Pagination) (row : Row) :
    pagination.name (Totals.addRowTotal p.addInRow row) = p.sectionName pagination row := by
  rw [Pagination.name, Totals.get?_addRowTotal, sectionName]
  rcases Totals.cellAt p.addInRow row pagination.key with _ | (_ | _ | _ | _) <;> rfl

def sectionRows (p : Processing) (pagination : Pagination) (rows : List Row) (name : String) :
    List Row :=
  rows.filter fun row => p.sectionName pagination row = name

theorem block_rows (p : Processing) (rows : List Row) :
    (p.block rows).1 = Blanking.rows p.clear (rows.map (Totals.addRowTotal p.addInRow)) :=
  congrArg (Blanking.rows p.clear) (Totals.addRowTotals_eq_map p.addInRow rows)

theorem length_block (p : Processing) (rows : List Row) : (p.block rows).1.length = rows.length := by
  rw [block_rows, Blanking.length_rows, List.length_map]

theorem sections_report (p : Processing) (pagination : Pagination) (rows : List Row) :
    (p.report (some pagination) rows).sections =
      (rows.map (p.sectionName pagination)).eraseDups.map fun name =>
        ⟨some (pagination.title name), (p.block (p.sectionRows pagination rows name)).1⟩ := by
  have hnames : pagination.name ∘ Totals.addRowTotal p.addInRow = p.sectionName pagination :=
    funext (p.name_addRowTotal pagination)
  show ((pagination.groups _).map _).map _ = _
  rw [Totals.addRowTotals_eq_map, Pagination.groups_eq, List.map_map, List.map_map, List.map_map,
    hnames]
  apply List.map_congr_left
  intro name _
  -- rows with their sums have the name exactly where the rows as fetched come under it
  have hrows : (rows.map (Totals.addRowTotal p.addInRow)).filter (pagination.name · = name) =
      (p.sectionRows pagination rows name).map (Totals.addRowTotal p.addInRow) := by
    rw [List.filter_map, sectionRows, ← hnames]
    rfl
  rw [block_rows, ← hrows]
  rfl

/-- The section of one name: the name stands in the header wherever `$name` did, and the rows that
have the name are one block. -/
structure IsSection (p : Processing) (pagination : Pagination) (rows : List Row) (name : String)
    (s : Section) : Prop where
  title : ∀ title, s.title = some title ↔
    Text.Replaced "$name".toList name.toList pagination.header.toList title.toList
  rows : s.rows = (p.block (p.sectionRows pagination rows name)).1

theorem isSection_title (p : Processing) (pagination : Pagination) (rows : List Row)
    (name : String) :
    p.IsSection pagination rows name
      ⟨some (pagination.title name), (p.block (p.sectionRows pagination rows name)).1⟩ := by
  refine ⟨fun title => ?_, rfl⟩
  rw [Text.replaced_iff (by decide), Option.some_inj, Pagination.title, Text.replace,
    ← String.toList_inj, String.toList_ofList]

/-- A report in sections is the rows parted by their names, and each part taken as one block. -/
structure Parted (p : Processing) (pagination : Pagination) (rows : List Row)
    (names : List String) (report : ProcessedReport) : Prop where
  nodup : names.Nodup
  firstMet : FirstMet names (rows.map (p.sectionName pagination))
  sections : List.Forall₂ (p.IsSection pagination rows) names report.sections
  ne_nil : ∀ s ∈ report.sections, s.rows ≠ []
  perm : (names.flatMap (p.sectionRows pagination rows)).Perm rows
  length : report.rows.length = rows.length
  totals : report.totals = (p.block rows).2

/-- Sections part the rows and lose none; without pagination all rows are one block. -/
theorem report_parted (p : Processing) (rows : List Row) :
    (∀ pagination : Pagination,
      ∃ names, p.Parted pagination rows names (p.report (some pagination) rows)) ∧
    p.report none rows = ⟨[⟨none, (p.block rows).1⟩], (p.block rows).2⟩ := by
  refine ⟨fun pagination => ⟨(rows.map (p.sectionName pagination)).eraseDups, ?_⟩, rfl⟩
  have hfirst := FirstMet.ofEraseDups (rows.map (p.sectionName pagination))
  have hnamed : ∀ r ∈ rows, p.sectionName pagination r ∈
      (rows.map (p.sectionName pagination)).eraseDups :=
    fun r hr => (hfirst.mem_iff _).mpr (List.mem_map_of_mem hr)
  have hperm := perm_flatMap_filter (p.sectionName pagination) hfirst.nodup hnamed
  have hsections := sections_report p pagination rows
  refine ⟨hfirst.nodup, hfirst, ?_, ?_, hperm, ?_, rfl⟩
  · rw [hsections]
    exact List.forall₂_map_right_iff.mpr
      (List.forall₂_same.mpr fun name _ => p.isSection_title pagination rows name)
  · intro s hs
    rw [hsections] at hs
    obtain ⟨name, hname, rfl⟩ := List.mem_map.mp hs
    obtain ⟨r, hr, hrname⟩ := List.mem_map.mp ((hfirst.mem_iff name).mp hname)
    have hmem : r ∈ p.sectionRows pagination rows name :=
      List.mem_filter.mpr ⟨hr, decide_eq_true hrname⟩
    have hlength := length_block p (p.sectionRows pagination rows name)
    exact List.ne_nil_of_length_pos (hlength ▸ List.length_pos_of_mem hmem)
  · rw [ProcessedReport.rows, hsections, List.flatMap_map, ← hperm.length_eq,
      List.length_flatMap, List.length_flatMap]
    simp only [length_block, sectionRows]

end Processing

end Reporting
