import Reporting.Proofs.Binary64.Whole
import Reporting.Proofs.Processing.Sections

/-! Which cells processing may touch. Blanking puts empty texts into cleared columns and leaves all
else alone, and it comes last, so neither a sum nor a section depends on what is cleared. -/

namespace Reporting

theorem Cell.ofSum_zero (negative : Bool) : ofSum (.zero negative) = .int 0 := by
  rw [ofSum, Binary64.toInt?_zero]
  exact if_pos (twoTo_pos 63)

namespace Blanking

/-- Some cells under the keys hold an empty text instead; nothing else has changed. -/
structure Blanked (keys : List String) (before after : Row) : Prop where
  columns : after.keys = before.keys
  kept : ∀ key, key ∉ keys → after.get? key = before.get? key
  blank : ∀ key, after.get? key = before.get? key ∨ after.get? key = some (.text "")

theorem Blanked.refl (keys : List String) (r : Row) : Blanked keys r r :=
  ⟨rfl, fun _ _ => rfl, fun _ => .inl rfl⟩

theorem Blanked.trans {keys : List String} {a b c : Row} (hab : Blanked keys a b)
    (hbc : Blanked keys b c) : Blanked keys a c := by
  refine ⟨hbc.columns.trans hab.columns, ?_, ?_⟩
  · intro key hkey
    rw [hbc.kept key hkey, hab.kept key hkey]
  · intro key
    rcases hbc.blank key with hsame | hempty
    · rw [hsame]
      exact hab.blank key
    · exact .inr hempty

theorem Blanked.mono {keys keys' : List String} {a b : Row} (h : Blanked keys a b)
    (hsub : keys ⊆ keys') : Blanked keys' a b :=
  ⟨h.columns, fun key hkey => h.kept key fun hmem => hkey (hsub hmem), h.blank⟩

theorem blanked_insert {key : String} {r : Row} (hkey : key ∈ r.keys) :
    Blanked [key] r (r.insert key (.text "")) := by
  refine ⟨?_, ?_, ?_⟩
  · rw [Entries.keys_insert, if_pos hkey]
  · intro other hother
    exact Entries.get?_insert_of_ne _ _ (List.mem_singleton.not.mp hother)
  · intro other
    by_cases hother : other = key
    · right
      rw [hother, Entries.get?_insert_self]
    · exact .inl (Entries.get?_insert_of_ne _ _ hother)

theorem blanked_row (keys : List String) (last : Entries String Cell) (r : Row) :
    Blanked keys r (row keys last r).2 := by
  induction keys generalizing last r with
  | nil => exact .refl [] r
  | cons key keys ih =>
    have htail := List.subset_cons_self key keys
    unfold row
    cases hcell : r.get? key with
    | none => exact (ih last r).mono htail
    | some cell =>
      have hkey : [key] ⊆ key :: keys := List.cons_subset_cons key (List.nil_subset keys)
      dsimp only
      split
      · exact ((blanked_insert (Entries.mem_keys_of_get? hcell)).mono hkey).trans
          ((ih _ _).mono htail)
      · exact (ih _ r).mono htail

theorem forall₂_rowsFrom (keys : List String) (last : Entries String Cell) (rs : List Row) :
    List.Forall₂ (Blanked keys) rs (rowsFrom keys last rs) := by
  induction rs generalizing last with
  | nil => exact .nil
  | cons r rs ih => exact .cons (blanked_row keys last r) (ih _)

end Blanking

namespace Totals

theorem keys_addRowTotal (keys : List String) (r : Row) :
    (addRowTotal keys r).keys =
      if keys = [] ∨ rowTotalKey ∈ r.keys then r.keys else r.keys ++ [rowTotalKey] := by
  cases keys with
  | nil => rfl
  | cons key keys =>
    show (r.insert rowTotalKey _).keys = _
    rw [Entries.keys_insert]
    exact if_congr (by simp) rfl rfl

theorem get?_addRowTotal_self {keys : List String} (hkeys : keys ≠ []) (r : Row) :
    (addRowTotal keys r).get? rowTotalKey = some (rowTotal keys r) := by
  rw [get?_addRowTotal, cellAt, if_pos ⟨rfl, hkeys⟩]

theorem get?_addRowTotal_of_ne {keys : List String} {key : String}
    (h : key = rowTotalKey → keys = []) (r : Row) :
    (addRowTotal keys r).get? key = r.get? key := by
  rw [get?_addRowTotal, cellAt, if_neg fun hkey => hkey.2 (h hkey.1)]

end Totals

namespace Processing

/-- How a row comes out: with its sum as the last column unless it had one, with empty texts in
cleared columns only, and otherwise as it was fetched. -/
structure Shown (clear addInRow : List String) (fetched shown : Row) : Prop where
  columns : shown.keys =
    if addInRow = [] ∨ rowTotalKey ∈ fetched.keys then fetched.keys
    else fetched.keys ++ [rowTotalKey]
  kept : ∀ key, key ∉ clear → (key = rowTotalKey → addInRow = []) →
    shown.get? key = fetched.get? key
  cleared : ∀ key ∈ clear, (key = rowTotalKey → addInRow = []) →
    shown.get? key = fetched.get? key ∨ shown.get? key = some (.text "")
  total : addInRow ≠ [] → shown.get? rowTotalKey = some (Totals.rowTotal addInRow fetched) ∨
    rowTotalKey ∈ clear ∧ shown.get? rowTotalKey = some (.text "")

theorem Shown.ofBlanked {clear addInRow : List String} {fetched shown : Row}
    (h : Blanking.Blanked clear (Totals.addRowTotal addInRow fetched) shown) :
    Shown clear addInRow fetched shown := by
  refine ⟨?_, ?_, ?_, ?_⟩
  · rw [h.columns, Totals.keys_addRowTotal]
  · intro key hkey htotal
    rw [h.kept key hkey, Totals.get?_addRowTotal_of_ne htotal]
  · intro key _ htotal
    rw [← Totals.get?_addRowTotal_of_ne htotal fetched]
    exact h.blank key
  · intro hadd
    have hsum := Totals.get?_addRowTotal_self hadd fetched
    by_cases hclear : rowTotalKey ∈ clear
    · rw [← hsum]
      exact (h.blank rowTotalKey).imp_right fun hempty => ⟨hclear, hempty⟩
    · rw [h.kept _ hclear]
      exact .inl hsum

theorem shown_block (p : Processing) (rows : List Row) :
    List.Forall₂ (Shown p.clear p.addInRow) rows (p.block rows).1 := by
  have h := Blanking.forall₂_rowsFrom p.clear .empty (rows.map (Totals.addRowTotal p.addInRow))
  rw [block_rows]
  exact (List.forall₂_map_left_iff.mp h).imp fun _ _ => Shown.ofBlanked

/-- The sums, and the sections with their rows, are settled without looking at what is cleared, and
the sums without looking at the sections either. -/
theorem report_shown (addInRow addColumns : List String) (rows : List Row) :
    ∃ totals : Option Row, ∀ pagination : Option Pagination,
      ∃ parts : List (Option String × List Row), (parts.flatMap Prod.snd).Perm rows ∧
        ∀ clear : List String,
          ((⟨clear, addInRow, addColumns⟩ : Processing).report pagination rows).totals = totals ∧
          List.Forall₂
            (fun part s => s.title = part.1 ∧ List.Forall₂ (Shown clear addInRow) part.2 s.rows)
            parts ((⟨clear, addInRow, addColumns⟩ : Processing).report pagination rows).sections := by
  refine ⟨((⟨[], addInRow, addColumns⟩ : Processing).block rows).2, fun pagination => ?_⟩
  cases pagination with
  | none =>
    refine ⟨[(none, rows)], by rw [List.flatMap_singleton], fun clear => ⟨rfl, ?_⟩⟩
    exact .cons ⟨rfl, shown_block ⟨clear, addInRow, addColumns⟩ rows⟩ .nil
  | some pagination =>
    let p : Processing := ⟨[], addInRow, addColumns⟩
    have hfirst := FirstMet.ofEraseDups (rows.map (p.sectionName pagination))
    refine ⟨(rows.map (p.sectionName pagination)).eraseDups.map fun name =>
      (some (pagination.title name), p.sectionRows pagination rows name), ?_, fun clear => ⟨rfl, ?_⟩⟩
    · rw [List.flatMap_map]
      exact perm_flatMap_filter (p.sectionName pagination) hfirst.nodup
        fun r hr => (hfirst.mem_iff _).mpr (List.mem_map_of_mem hr)
    · rw [sections_report]
      refine List.forall₂_map_left_iff.mpr (List.forall₂_map_right_iff.mpr ?_)
      exact List.forall₂_same.mpr fun name _ =>
        ⟨rfl, shown_block ⟨clear, addInRow, addColumns⟩ (p.sectionRows pagination rows name)⟩

end Processing

end Reporting
