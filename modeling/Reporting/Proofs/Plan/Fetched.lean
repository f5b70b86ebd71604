import Reporting.Processing
import Reporting.Proofs.Plan.Columns
import Reporting.Proofs.Processing.Cells

/-! Which of the columns that are read after fetching are fetched. The section field always is. A
field that is summed up has no column unless it is selected anyway, and then counts as nothing. -/

namespace Reporting

open Sql

namespace Totals

theorem columnTotal_of_forall_none {rows : List Row} {key : String}
    (h : ∀ row ∈ rows, row.get? key = none) : columnTotal rows key = .int 0 := by
  have hnumbers : columnNumbers rows key = [] :=
    List.filterMap_eq_nil_iff.mpr fun row hrow => by rw [h row hrow, Option.bind_none]
  rw [columnTotal, hnumbers]
  exact Cell.ofSum_zero true

theorem rowTotal_of_none {row : Row} {key : String} (h : row.get? key = none) (keys : List String) :
    rowTotal keys row = rowTotal (keys.filter (· ≠ key)) row := by
  have hnumbers : numbers keys row = numbers (keys.filter (· ≠ key)) row := by
    rw [numbers, numbers, List.filterMap_filter]
    refine List.filterMap_congr fun other _ => ?_
    by_cases hother : other = key
    · rw [hother, h]
      simp
    · simp [hother]
  rw [rowTotal, rowTotal, hnumbers]

end Totals

namespace Plan

variable {o : Offer} {d : Definition}

/-- The rows have the column of a field under its key. A star names the columns of other tables
after their own fields, not after their keys. -/
def Fetched (o : Offer) (d : Definition) (f : String) : Prop :=
  (∃ s ∈ (ofOffer o d).query.select, s.outputName = some (keyOf f)) ∨
    (∃ s ∈ (ofOffer o d).query.select, s.expr = .star) ∧ '.' ∉ f.toList

theorem fetched_iff_of_offered (h : ∃ f ∈ d.selected, o.fields.contains f = true) (f : String) :
    Fetched o d f ↔ ∃ g ∈ d.columns o.fields, keyOf g = keyOf f := by
  have hstar : ¬∃ s ∈ (ofOffer o d).query.select, s.expr = .star := by
    rintro ⟨s, hs, hstar⟩
    exact ne_star_of_offered h s hs hstar
  rw [Fetched, exists_outputName_iff h]
  exact or_iff_left fun hf => hstar hf.1

theorem columns_of_not_offered (h : ¬∃ f ∈ d.selected, o.fields.contains f = true) :
    d.columns o.fields = (d.paginationField.filter o.fields.contains).toList := by
  rw [Definition.columns, Definition.filter_selected_of_not_offered h, List.nil_append]

theorem exists_outputName_iff_of_not_offered
    (h : ¬∃ f ∈ d.selected, o.fields.contains f = true) (key : String) :
    (∃ s ∈ (ofOffer o d).query.select, s.outputName = some key) ↔
      ∃ f ∈ d.columns o.fields, '.' ∈ f.toList ∧ keyOf f = key := by
  rw [select_of_not_offered h, columns_of_not_offered h, sectionField]
  -- a star has no name, and a section field without a dot comes with the star
  cases d.paginationField.filter o.fields.contains with
  | none => simp [Selected.outputName]
  | some f =>
    by_cases hdot : '.' ∈ f.toList
    · simp [ProjectedField.ofReference, ProjectedField.selected, Selected.outputName, hdot,
        Option.filter]
    · simp [ProjectedField.ofReference, Selected.outputName, hdot, Option.filter]

theorem fetched_iff_of_not_offered (h : ¬∃ f ∈ d.selected, o.fields.contains f = true)
    (f : String) : Fetched o d f ↔
      '.' ∉ f.toList ∨ ∃ g ∈ d.columns o.fields, '.' ∈ g.toList ∧ keyOf g = keyOf f := by
  have hstar : ∃ s ∈ (ofOffer o d).query.select, s.expr = .star := ⟨_, star_mem_select h, rfl⟩
  rw [Fetched, exists_outputName_iff_of_not_offered h, or_comm]
  exact or_congr_left (and_iff_right hstar)

theorem fetched_section {f : String} (hf : d.paginationField = some f)
    (hoffered : o.fields.contains f = true) : Fetched o d f := by
  have hcolumns : f ∈ d.columns o.fields := Definition.mem_columns.mpr ⟨.inr hf, hoffered⟩
  by_cases h : ∃ g ∈ d.selected, o.fields.contains g = true
  · exact (fetched_iff_of_offered h f).mpr ⟨f, hcolumns, rfl⟩
  · refine (fetched_iff_of_not_offered h f).mpr ?_
    by_cases hdot : '.' ∈ f.toList
    · exact .inr ⟨f, hcolumns, hdot, rfl⟩
    · exact .inl hdot

theorem exists_mayYield (h : ∃ f ∈ d.selected, o.fields.contains f = true) {f : String}
    (hf : f ∈ d.columns o.fields) :
    ∃ s ∈ (ofOffer o d).query.select, s.MayYield (keyOf f) := by
  obtain ⟨s, hs, hname⟩ := (exists_outputName_iff h (keyOf f)).mpr ⟨f, hf, rfl⟩
  exact ⟨s, hs, .inr hname⟩

theorem get?_of_not_fetched (h : ∃ f ∈ d.selected, o.fields.contains f = true) {f : String}
    (hf : ¬Fetched o d f) {row : Row}
    (hrow : ∀ key ∈ row.keys, ∃ s ∈ (ofOffer o d).query.select, s.MayYield key) :
    row.get? (keyOf f) = none := by
  -- a key comes from an item of its name, since no star is there to bring others
  by_contra hget
  obtain ⟨cell, hcell⟩ := Option.ne_none_iff_exists'.mp hget
  obtain ⟨s, hs, hstar | hname⟩ := hrow _ (Entries.mem_keys_of_get? hcell)
  · exact ne_star_of_offered h s hs hstar
  · exact hf (.inl ⟨s, hs, hname⟩)

/-- The section field is always fetched. A field that is summed up is fetched if a selected one or the
section field has its key, or if it has no dot and everything is selected. With an explicit list of
items a fetched one has a value in every row, and one that is not adds nothing to any sum. -/
theorem fetched_section_and_summed_iff (o : Offer) (d : Definition) :
    (∀ f ∈ d.paginationField, o.fields.contains f = true →
      Fetched o d f ∧ (ofOffer o d).sectionKey = some (keyOf f)) ∧
    (∀ f ∈ d.addInRows ++ d.addColumns,
      Fetched o d f ↔
        if ∃ g ∈ d.selected, o.fields.contains g = true then
          ∃ g ∈ d.columns o.fields, keyOf g = keyOf f
        else '.' ∉ f.toList ∨ ∃ g ∈ d.columns o.fields, '.' ∈ g.toList ∧ keyOf g = keyOf f) ∧
    ∀ f ∈ d.addInRows ++ d.addColumns, (∃ g ∈ d.selected, o.fields.contains g = true) →
      (Fetched o d f → ∀ value : Expr → Cell, ∃ s ∈ (ofOffer o d).query.select,
        (rowOf value (ofOffer o d).query.select).get? (keyOf f) = some (value s.expr)) ∧
      (¬Fetched o d f → ∀ rows : List Row,
        (∀ row ∈ rows, ∀ key ∈ row.keys, ∃ s ∈ (ofOffer o d).query.select, s.MayYield key) →
          Totals.columnTotal rows (keyOf f) = .int 0 ∧
            ∀ row ∈ rows, ∀ keys : List String,
              Totals.rowTotal keys row = Totals.rowTotal (keys.filter (· ≠ keyOf f)) row) := by
  refine ⟨fun f hf hoffered => ⟨fetched_section hf hoffered, ?_⟩, fun f _ => ?_,
    fun f _ h => ⟨fun hf value => ?_, fun hf rows hrows => ?_⟩⟩
  · have hsection : d.paginationField.filter o.fields.contains = some f :=
      Option.filter_eq_some_iff.mpr ⟨hf, hoffered⟩
    show (sectionField o.fields d).map _ = _
    rw [sectionField, hsection, Option.map_some, Option.map_some, ProjectedField.key_ofReference]
  · split_ifs with h
    · exact fetched_iff_of_offered h f
    · exact fetched_iff_of_not_offered h f
  · obtain ⟨s, hs, hname⟩ := (exists_outputName_iff h _).mpr ((fetched_iff_of_offered h f).mp hf)
    exact ⟨s, hs, get?_rowOf h value hs hname⟩
  · have hnone : ∀ row ∈ rows, row.get? (keyOf f) = none := fun row hrow =>
      get?_of_not_fetched h hf (hrows row hrow)
    exact ⟨Totals.columnTotal_of_forall_none hnone,
      fun row hrow => Totals.rowTotal_of_none (hnone row hrow)⟩

def priced : DefinitionFile :=
  { catalog :=
      { name := "Books", entity := "Book"
        fields := [{ name := "Title" }, { name := "Price" }, { name := "Author.Name" }] }
    report := { selected := ["Title"], paginateBy := some "Author.Name", addInRows := ["Price"] } }

theorem priced_offered {f : String} (hf : f ∈ ["Title", "Price", "Author.Name"]) :
    priced.catalog.offer.fields.contains f = true :=
  (Catalog.contains_fieldSet _ f).mpr hf

theorem priced_selected :
    ∃ f ∈ priced.report.selected, priced.catalog.offer.fields.contains f = true :=
  ⟨"Title", List.mem_cons_self, priced_offered List.mem_cons_self⟩

theorem priced_not_fetched : ¬Fetched priced.catalog.offer priced.report "Price" := by
  intro hfetched
  obtain ⟨f, hf, hkey⟩ := (fetched_iff_of_offered priced_selected "Price").mp hfetched
  have hkeys : ∀ f ∈ ["Title", "Author.Name"], keyOf f ≠ keyOf "Price" := by decide
  refine hkeys f ?_ hkey
  rcases (Definition.mem_columns.mp hf).1 with hf | hf
  · exact List.mem_cons.mpr (.inl (List.mem_singleton.mp hf))
  · cases (Option.filter_eq_some_iff.mp hf).1
    decide

theorem columnTotal_priced :
    Fetched priced.catalog.offer priced.report "Author.Name" ∧
      Totals.columnTotal [.ofList [("Title", .text "Emma"), ("Author_Name", .text "Austen")]]
        "Price" = .int 0 := by
  have h := fetched_section_and_summed_iff priced.catalog.offer priced.report
  have hsection : priced.report.paginationField = some "Author.Name" :=
    Option.filter_eq_some_iff.mpr ⟨rfl, by decide⟩
  have htitle : "Title" ∈ priced.report.columns priced.catalog.offer.fields :=
    Definition.mem_columns.mpr ⟨.inl (by decide), priced_offered (by decide)⟩
  have hauthor : "Author.Name" ∈ priced.report.columns priced.catalog.offer.fields :=
    Definition.mem_columns.mpr ⟨.inr hsection, priced_offered (by decide)⟩
  refine ⟨(h.1 _ hsection (priced_offered (by decide))).1, ?_⟩
  refine ((h.2.2 "Price" (by decide) priced_selected).2 priced_not_fetched _ ?_).1
  intro row hrow key hkey
  rw [List.mem_singleton.mp hrow, Entries.mem_keys_ofList] at hkey
  rcases List.mem_pair.mp hkey with rfl | rfl
  · exact exists_mayYield priced_selected htitle
  · exact exists_mayYield priced_selected hauthor

/-- What is summed up is not looked at when the items are chosen. -/
theorem exists_not_fetched :
    ¬∀ (c : Catalog) (d : Definition),
      (∀ f ∈ d.paginationField, c.fieldSet.contains f = true → Fetched c.offer d f) ∧
        ∀ f ∈ d.addInRows ++ d.addColumns, c.fieldSet.contains f = true → Fetched c.offer d f :=
  fun h => priced_not_fetched
    ((h priced.catalog priced.report).2 "Price" (by decide) (priced_offered (by decide)))

end Plan

end Reporting
