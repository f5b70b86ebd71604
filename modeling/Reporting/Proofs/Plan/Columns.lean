import Mathlib.Data.Set.Function
import Reporting.Cell
import Reporting.Proofs.Entries
import Reporting.Proofs.Plan.Selection

/-! Columns of their own. Rows are keyed by what the references turn into, so two references under
one key would have to share a column. -/

namespace Reporting

open Sql

/-- A row as it comes back: each item under its name, with the value of its column. -/
def Sql.rowOf (value : Expr → Cell) (items : List Selected) : Row :=
  .ofList (items.filterMap fun s => s.outputName.map fun name => (name, value s.expr))

namespace Headers

theorem keys_labelled (allowed : FieldSet) (selected headers : List String) :
    (labelled allowed selected headers).map Prod.fst = selected.map keyOf := by
  induction selected generalizing headers with
  | nil => rfl
  | cons f fs ih => exact congrArg (keyOf f :: ·) (ih headers.tail)

theorem mem_keys_ofLists (allowed : FieldSet) (selected headers : List String) (key : String) :
    key ∈ (ofLists allowed selected headers).keys ↔ key ∈ selected.map keyOf := by
  rw [ofLists, Entries.mem_keys_ofList, keys_labelled]

end Headers

namespace Plan

variable {o : Offer} {d : Definition}

/-- Each reference in use has an item, an output name, a header and a value of its own. -/
structure OwnColumns (o : Offer) (d : Definition) : Prop where
  item : ∀ f ∈ d.columns o.fields, ∃ s ∈ (ofOffer o d).query.select,
    s.expr = .field f ∧ s.outputName = some (keyOf f)
  outputName : ∀ s ∈ (ofOffer o d).query.select, ∀ t ∈ (ofOffer o d).query.select,
    s.expr ≠ t.expr → s.outputName ≠ t.outputName
  header : ∀ f ∈ d.columns o.fields, ∀ g ∈ d.columns o.fields, f ∈ d.selected → g ∈ d.selected →
    f ≠ g → (ofOffer o d).headers.keys.idxOf (keyOf f) ≠ (ofOffer o d).headers.keys.idxOf (keyOf g)
  value : ∀ value : Expr → Cell, ∀ f ∈ d.columns o.fields,
    (rowOf value (ofOffer o d).query.select).get? (keyOf f) = some (value (.field f))
  sectionKey : ∀ f ∈ d.paginationField, o.fields.contains f = true →
    (ofOffer o d).sectionKey = some (keyOf f)

theorem entries_select (h : ∃ f ∈ d.selected, o.fields.contains f = true) (value : Expr → Cell) :
    ((ofOffer o d).query.select.filterMap fun s =>
        s.outputName.map fun name => (name, value s.expr)) =
      (Projection.ofReferences (d.columns o.fields)).fields.map fun p =>
        (p.key, value (.field p.field)) := by
  rw [select_of_offered h, List.filterMap_map, ← List.filterMap_eq_map]
  apply List.filterMap_congr
  intro p hp
  obtain ⟨f, -, rfl⟩ := Projection.mem_ofReferences hp
  rw [Function.comp_apply, Function.comp_apply, ProjectedField.outputName_selected,
    ProjectedField.key_ofReference]
  rfl

theorem nodup_outputNames (h : ∃ f ∈ d.selected, o.fields.contains f = true) (value : Expr → Cell) :
    (((ofOffer o d).query.select.filterMap fun s =>
      s.outputName.map fun name => (name, value s.expr)).map Prod.fst).Nodup := by
  rw [entries_select h, List.map_map]
  exact Projection.nodup_keys_ofReferences _

theorem get?_rowOf
    (h : ∃ f ∈ d.selected, o.fields.contains f = true) (value : Expr → Cell) {s : Selected}
    (hs : s ∈ (ofOffer o d).query.select) {name : String} (hname : s.outputName = some name) :
    (rowOf value (ofOffer o d).query.select).get? name = some (value s.expr) := by
  apply Entries.get?_ofList_of_mem (nodup_outputNames h value)
  exact List.mem_filterMap.mpr ⟨s, hs, by rw [hname]; rfl⟩

theorem outputName_ne (h : ∃ f ∈ d.selected, o.fields.contains f = true) {s t : Selected}
    (hs : s ∈ (ofOffer o d).query.select) (ht : t ∈ (ofOffer o d).query.select)
    (hne : s.expr ≠ t.expr) : s.outputName ≠ t.outputName := by
  rw [select_of_offered h] at hs ht
  obtain ⟨p, hp, rfl⟩ := List.mem_map.mp hs
  obtain ⟨q, hq, rfl⟩ := List.mem_map.mp ht
  intro hname
  have hkey : p.key = q.key := by
    obtain ⟨f, -, rfl⟩ := Projection.mem_ofReferences hp
    obtain ⟨g, -, rfl⟩ := Projection.mem_ofReferences hq
    rw [ProjectedField.outputName_selected, ProjectedField.outputName_selected] at hname
    rw [ProjectedField.key_ofReference, ProjectedField.key_ofReference, Option.some.inj hname]
  have hpq := List.inj_on_of_nodup_map (Projection.nodup_keys_ofReferences _) hp hq hkey
  exact hne (congrArg (fun p => (ProjectedField.selected p).expr) hpq)

theorem OwnColumns.injOn (h : OwnColumns o d) :
    Set.InjOn keyOf {f | f ∈ d.columns o.fields} := by
  intro f hf g hg hkey
  obtain ⟨s, hs, hsexpr, hsname⟩ := h.item f hf
  obtain ⟨t, ht, htexpr, htname⟩ := h.item g hg
  by_contra hne
  -- two items for two columns would come back under one name
  refine h.outputName s hs t ht ?_ ?_
  · rw [hsexpr, htexpr]
    exact fun hfield => hne (Expr.field_injective hfield)
  · rw [hsname, htname, hkey]

theorem OwnColumns.ofInjOn (hoffered : ∃ f ∈ d.selected, o.fields.contains f = true)
    (hinj : Set.InjOn keyOf {f | f ∈ d.columns o.fields}) : OwnColumns o d := by
  have hitem (f : String) (hf : f ∈ d.columns o.fields) :
      (ProjectedField.ofReference f).selected ∈ (ofOffer o d).query.select := by
    obtain ⟨g, hg, hkey, hmem⟩ := exists_item hoffered hf
    rw [hinj hg hf hkey] at hmem
    exact hmem
  constructor
  · exact fun f hf => ⟨_, hitem f hf, rfl, ProjectedField.outputName_selected f⟩
  · exact fun s hs t ht => outputName_ne hoffered hs ht
  · intro f hf g hg hfs _ hne hidx
    have hkey := (Headers.mem_keys_ofLists o.fields d.selected d.headers (keyOf f)).mpr
      (List.mem_map_of_mem hfs)
    exact hne (hinj hf hg ((List.idxOf_inj hkey).mp hidx))
  · intro value f hf
    exact get?_rowOf hoffered value (hitem f hf) (ProjectedField.outputName_selected f)
  · intro f hf hallowed
    show (sectionField o.fields d).map _ = _
    have hsection : d.paginationField.filter o.fields.contains = some f :=
      Option.filter_eq_some_iff.mpr ⟨hf, hallowed⟩
    rw [sectionField, hsection, Option.map_some, Option.map_some, ProjectedField.key_ofReference]

/-- References have columns of their own exactly if no two of them turn into one key. -/
theorem ownColumns_iff (o : Offer) (d : Definition)
    (h : ∀ s ∈ (ofOffer o d).query.select, s.expr ≠ .star) :
    OwnColumns o d ↔ Set.InjOn keyOf {f | f ∈ d.columns o.fields} :=
  ⟨OwnColumns.injOn, OwnColumns.ofInjOn (offered_of_ne_star h)⟩

theorem ownColumns_books :
    OwnColumns
      (Catalog.offer
        { name := "Books", entity := "Book"
          fields := [{ name := "Title" }, { name := "Member.Surname" }] })
      { selected := ["Title"], paginateBy := some "Member.Surname" } := by
  have hoffered : (Catalog.offer
      { name := "Books", entity := "Book"
        fields := [{ name := "Title" }, { name := "Member.Surname" }] }).fields.contains "Title" =
          true := (Catalog.contains_fieldSet _ _).mpr (by decide)
  apply (ownColumns_iff _ _ (ne_star_of_offered ⟨"Title", by decide, hoffered⟩)).mpr
  have hkeys : ∀ f ∈ ["Title", "Member.Surname"], ∀ g ∈ ["Title", "Member.Surname"],
      keyOf f = keyOf g → f = g := by decide
  have hmem (allowed : FieldSet) (f : String) (hf : f ∈ Definition.columns allowed
      { selected := ["Title"], paginateBy := some "Member.Surname" }) :
      f ∈ ["Title", "Member.Surname"] := by
    rcases (Definition.mem_columns.mp hf).1 with hf | hf
    · exact List.mem_cons.mpr (.inl (List.mem_singleton.mp hf))
    · cases (Option.filter_eq_some_iff.mp hf).1
      decide
  exact fun f hf g hg => hkeys f (hmem _ f hf) g (hmem _ g hg)

/-- A dot and an underscore make the same key. -/
theorem exists_shared_column :
    ¬∀ (c : Catalog) (d : Definition),
      (∀ s ∈ (ofDefinition c d).query.select, s.expr ≠ .star) → OwnColumns c.offer d := by
  intro h
  let c : Catalog :=
    { name := "Books", entity := "Book", fields := [{ name := "A.B" }, { name := "A_B" }] }
  let d : Definition := { selected := ["A.B", "A_B"] }
  have hoffered (f : String) (hf : f ∈ d.selected) : c.offer.fields.contains f = true := by
    apply (c.contains_fieldSet f).mpr
    revert f
    decide
  have hcolumns (f : String) (hf : f ∈ d.selected) : f ∈ d.columns c.offer.fields :=
    Definition.mem_columns.mpr ⟨.inl hf, hoffered f hf⟩
  have hselected : ∃ f ∈ d.selected, c.offer.fields.contains f = true :=
    ⟨"A.B", List.mem_cons_self, hoffered _ List.mem_cons_self⟩
  have hinj := (h c d (ne_star_of_offered hselected)).injOn
  have heq := hinj (hcolumns "A.B" (by decide)) (hcolumns "A_B" (by decide)) (by decide)
  revert heq
  decide

end Plan

end Reporting
