import Reporting.Proofs.Processing.Cells

/-! Cells that lose their place in the sums. A text that spells out no finite number counts as
nothing, as a null does. A float that is no finite number is added up and takes the sum with it. -/

namespace Reporting

namespace Cell

inductive IsNonFinite : Cell → Prop
  | float {x : Binary64} : x.isFinite = false → IsNonFinite (.float x)
  | text {s : String} {x : Binary64} : Binary64.read? (Text.trim s.toList) = some x →
      x.isFinite = false → IsNonFinite (.text s)

def IsText (c : Cell) : Prop := ∃ s, c = .text s

theorem IsNonFinite.number?_of_text {s : String} (h : IsNonFinite (.text s)) :
    (Cell.text s).number? = none := by
  cases h with
  | text hread hx => simp [Cell.number?, hread, hx]

theorem ofSum_of_not_finite {x : Binary64} (h : x.isFinite = false) : ofSum x = .float x := by
  cases x with
  | nan => rfl
  | infinite negative => rfl
  | finite negative mantissa exponent canonical => cases h

end Cell

theorem Binary64.sum_singleton_of_not_finite {x : Binary64} (h : x.isFinite = false) :
    sum [x] = x := by
  cases x with
  | nan => rfl
  | infinite negative => rfl
  | finite negative mantissa exponent canonical => cases h

/-- A null stands for some cells with a property; all other cells are as before. -/
structure Nulled (p : Cell → Prop) (before after : Row) : Prop where
  columns : after.keys = before.keys
  cell : ∀ key, after.get? key = before.get? key ∨
    (∃ c, before.get? key = some c ∧ p c) ∧ after.get? key = some .null

theorem nulled_insert {p : Cell → Prop} (key : String) {c : Cell} {r : Row}
    (hkey : r.get? key = some c) (hc : p c) : Nulled p r (r.insert key .null) := by
  refine ⟨?_, fun other => ?_⟩
  · rw [Entries.keys_insert, if_pos (Entries.mem_keys_of_get? hkey)]
  · by_cases hother : other = key
    · subst hother
      exact .inr ⟨⟨c, hkey, hc⟩, Entries.get?_insert_self _ _ _⟩
    · exact .inl (Entries.get?_insert_of_ne _ _ hother)

namespace Totals

def SameNumbers (before after : Row) : Prop :=
  ∀ key, (after.get? key).bind Cell.number? = (before.get? key).bind Cell.number?

variable {before after : Row} {rows rows' : List Row}

theorem sameNumbers_of_nulled {p : Cell → Prop} (h : Nulled p before after)
    (hp : ∀ c, p c → c.number? = none) : SameNumbers before after := by
  intro key
  rcases h.cell key with hsame | ⟨⟨c, hbefore, hc⟩, hafter⟩
  · rw [hsame]
  · rw [hbefore, hafter, Option.bind_some, Option.bind_some, hp c hc]
    rfl

theorem rowTotal_congr (h : SameNumbers before after) (keys : List String) :
    rowTotal keys after = rowTotal keys before := by
  have hnumbers : numbers keys after = numbers keys before :=
    List.filterMap_congr fun key _ => h key
  rw [rowTotal, hnumbers, rowTotal]

theorem rowTotals_congr (h : List.Forall₂ SameNumbers rows rows') (keys : List String) :
    rows'.map (rowTotal keys) = rows.map (rowTotal keys) := by
  induction h with
  | nil => rfl
  | cons hrow _ ih => rw [List.map_cons, List.map_cons, rowTotal_congr hrow, ih]

theorem sameNumbers_addRowTotal (h : SameNumbers before after) (keys : List String) :
    SameNumbers (addRowTotal keys before) (addRowTotal keys after) := by
  intro key
  by_cases htotal : key = rowTotalKey → keys = []
  · rw [get?_addRowTotal_of_ne htotal, get?_addRowTotal_of_ne htotal]
    exact h key
  · obtain ⟨rfl, hkeys⟩ := Classical.not_imp.mp htotal
    rw [get?_addRowTotal_self hkeys, get?_addRowTotal_self hkeys, rowTotal_congr h]

theorem columnTotals_congr (h : List.Forall₂ SameNumbers rows rows') (keys : List String) :
    columnTotals keys rows' = columnTotals keys rows := by
  have hnumbers (key : String) : columnNumbers rows' key = columnNumbers rows key := by
    induction h with
    | nil => rfl
    | cons hrow _ ih =>
      unfold columnNumbers at ih ⊢
      rw [List.filterMap_cons, List.filterMap_cons, hrow key, ih]
  simp only [columnTotals, columnTotal, hnumbers]

theorem addRowTotals_congr (h : List.Forall₂ SameNumbers rows rows') (keys : List String) :
    List.Forall₂ SameNumbers (addRowTotals keys rows) (addRowTotals keys rows') := by
  rw [addRowTotals_eq_map, addRowTotals_eq_map]
  refine List.forall₂_map_left_iff.mpr (List.forall₂_map_right_iff.mpr ?_)
  exact h.imp fun _ _ hrow => sameNumbers_addRowTotal hrow keys

theorem rowTotal_ne_of_float {key : String} {x : Binary64} (hx : x.isFinite = false)
    (hbefore : before.get? key = some (.float x)) (hafter : after.get? key = some .null) :
    rowTotal [key] after ≠ rowTotal [key] before := by
  have hone : numbers [key] before = [x] := by simp [numbers, hbefore, Cell.number?]
  have hnone : numbers [key] after = [] := by simp [numbers, hafter, Cell.number?]
  rw [rowTotal, rowTotal, hone, hnone, Binary64.sum_singleton_of_not_finite hx,
    Cell.ofSum_of_not_finite hx]
  -- no number at all comes to an integer
  exact fun heq => Cell.noConfusion ((Cell.ofSum_zero true).symm.trans heq)

end Totals

namespace Processing

/-- Where nulls take the place of readings that are not finite, no sum shows it whatever is summed
up just if those readings stood in texts. -/
theorem totals_nulled_iff {rows rows' : List Row}
    (h : List.Forall₂ (Nulled Cell.IsNonFinite) rows rows') :
    (∀ p : Processing,
      rows'.map (Totals.rowTotal p.addInRow) = rows.map (Totals.rowTotal p.addInRow) ∧
      ∀ pagination, (p.report pagination rows').totals = (p.report pagination rows).totals) ↔
    List.Forall₂ (Nulled fun c => c.IsNonFinite ∧ c.IsText) rows rows' := by
  constructor
  · intro hsums
    have hcolumn (key : String) := (hsums ⟨[], [key], []⟩).1
    clear hsums
    induction h with
    | nil => exact .nil
    | cons hrow _ ih =>
      refine .cons ⟨hrow.columns, fun key => ?_⟩ (ih fun key => (List.cons.inj (hcolumn key)).2)
      rcases hrow.cell key with hsame | ⟨⟨c, hbefore, hc⟩, hafter⟩
      · exact .inl hsame
      · refine .inr ⟨⟨c, hbefore, hc, ?_⟩, hafter⟩
        cases hc with
        | float hx =>
          have hsum := (List.cons.inj (hcolumn key)).1
          exact absurd hsum (Totals.rowTotal_ne_of_float hx hbefore hafter)
        | text _ _ => exact ⟨_, rfl⟩
  · intro htexts p
    have hsame : List.Forall₂ Totals.SameNumbers rows rows' := by
      refine htexts.imp fun before after hrow => Totals.sameNumbers_of_nulled hrow ?_
      rintro c ⟨hc, s, rfl⟩
      exact hc.number?_of_text
    refine ⟨Totals.rowTotals_congr hsame p.addInRow, fun pagination => ?_⟩
    exact Totals.columnTotals_congr (Totals.addRowTotals_congr hsame p.addInRow) p.addColumns

theorem totals_eq_of_null_sales :
    ((⟨[], ["Sales"], ["Sales"]⟩ : Processing).report none
        [.ofList [("Region", .text "North"), ("Sales", .null)]]).totals =
      ((⟨[], ["Sales"], ["Sales"]⟩ : Processing).report none
        [.ofList [("Region", .text "North"), ("Sales", .text " NaN")]]).totals := by
  have hread : Binary64.read? (Text.trim " NaN".toList) = some .nan := by decide
  have hcell : (Cell.text " NaN").IsNonFinite := .text hread rfl
  have hrow {p : Cell → Prop} (hp : p (.text " NaN")) : Nulled p
      (.ofList [("Region", .text "North"), ("Sales", .text " NaN")])
      (.ofList [("Region", .text "North"), ("Sales", .null)]) := nulled_insert "Sales" rfl hp
  have hnulled := List.Forall₂.cons (hrow hcell) .nil
  exact ((totals_nulled_iff hnulled).mpr (.cons (hrow ⟨hcell, _, rfl⟩) .nil) _).2 none

theorem not_forall_totals_nulled :
    ¬∀ (rows rows' : List Row), List.Forall₂ (Nulled Cell.IsNonFinite) rows rows' →
      ∀ p : Processing,
        rows'.map (Totals.rowTotal p.addInRow) = rows.map (Totals.rowTotal p.addInRow) ∧
        ∀ pagination, (p.report pagination rows').totals = (p.report pagination rows).totals := by
  intro h
  let row : Row := .ofList [("A", .float .nan)]
  have hnulled : Nulled Cell.IsNonFinite row (row.insert "A" .null) :=
    nulled_insert "A" (show row.get? "A" = some (.float .nan) from rfl) (.float rfl)
  have hrow := (h _ _ (.cons hnulled .nil) ⟨[], ["A"], ["A"]⟩).1
  exact Totals.rowTotal_ne_of_float rfl rfl rfl (List.cons.inj hrow).1

end Processing

end Reporting
