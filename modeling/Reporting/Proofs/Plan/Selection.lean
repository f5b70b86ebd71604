import Reporting.Proofs.Catalog.FieldSet
import Reporting.Proofs.Plan.Projection
import Reporting.Plan

/-! What the statement of a plan selects. As soon as one selected reference is on offer the items are
columns of references on offer; if none is, everything is selected. -/

namespace Reporting

open Sql

def Definition.columns (allowed : FieldSet) (d : Definition) : List String :=
  d.selected.filter allowed.contains ++ (d.paginationField.filter allowed.contains).toList

theorem Definition.mem_columns {allowed : FieldSet} {d : Definition} {f : String} :
    f ∈ d.columns allowed ↔
      (f ∈ d.selected ∨ d.paginationField = some f) ∧ allowed.contains f = true := by
  rw [columns, List.mem_append, List.mem_filter, Option.mem_toList,
    Option.filter_eq_some_iff, ← or_and_right]

theorem Definition.columns_ne_nil {allowed : FieldSet} {d : Definition}
    (h : ∃ f ∈ d.selected, allowed.contains f = true) : d.columns allowed ≠ [] := by
  obtain ⟨f, hf, hallowed⟩ := h
  exact List.ne_nil_of_mem (mem_columns.mpr ⟨.inl hf, hallowed⟩)

theorem Definition.filter_selected_of_not_offered {allowed : FieldSet} {d : Definition}
    (h : ¬∃ f ∈ d.selected, allowed.contains f = true) : d.selected.filter allowed.contains = [] :=
  List.filter_eq_nil_iff.mpr fun f hf hallowed => h ⟨f, hf, hallowed⟩

namespace Plan

variable {o : Offer} {d : Definition}

theorem projection_of_offered (h : ∃ f ∈ d.selected, o.fields.contains f = true) :
    (ofOffer o d).projection = Projection.ofReferences (d.columns o.fields) := by
  have hselected : d.selected.filter o.fields.contains ≠ [] := by
    obtain ⟨f, hf, hoffered⟩ := h
    exact List.ne_nil_of_mem (List.mem_filter.mpr ⟨hf, hoffered⟩)
  have hfields := Projection.fields_ofReferences_ne_nil hselected
  show ((sectionField o.fields d).map (withSection _)).getD _ = _
  rw [sectionField, Definition.columns]
  cases d.paginationField.filter o.fields.contains with
  | none => exact congrArg Projection.ofReferences (List.append_nil _).symm
  | some f =>
    show withSection (Projection.ofReferences _) _ = _
    rw [withSection, if_pos (by simpa using hfields), Option.toList_some,
      Projection.ofReferences_concat]

theorem select_of_offered (h : ∃ f ∈ d.selected, o.fields.contains f = true) :
    (ofOffer o d).query.select =
      (Projection.ofReferences (d.columns o.fields)).fields.map ProjectedField.selected := by
  have hfields := Projection.fields_ofReferences_ne_nil (d.columns_ne_nil h)
  rw [query_eq]
  simp only [projection_of_offered h]
  rw [if_neg (by simpa using hfields), Projection.selected_ofReferences]

theorem select_of_not_offered (h : ¬∃ f ∈ d.selected, o.fields.contains f = true) :
    (ofOffer o d).query.select = ⟨.star, none⟩ ::
      ((sectionField o.fields d).filter fun f => f.rename.isSome).toList.map
        ProjectedField.selected := by
  -- only the section field can be left, and it comes with every column
  have hempty : Projection.ofSelected o.fields d.selected = Projection.empty := by
    rw [Projection.ofSelected, Definition.filter_selected_of_not_offered h]
    rfl
  have hprojection : (ofOffer o d).projection =
      ((sectionField o.fields d).map (withSection .empty)).getD .empty := by
    rw [← hempty]
    rfl
  rw [query_eq, hprojection]
  cases sectionField o.fields d with
  | none => rfl
  | some f =>
    cases hrename : f.rename.isSome <;>
      simp [withSection, hrename, Projection.empty, Projection.allColumnsWith, Projection.selected,
        Option.filter]

theorem star_mem_select (h : ¬∃ f ∈ d.selected, o.fields.contains f = true) :
    ⟨.star, none⟩ ∈ (ofOffer o d).query.select := by
  rw [select_of_not_offered h]
  exact List.mem_cons_self

theorem mem_select_of_offered (h : ∃ f ∈ d.selected, o.fields.contains f = true) {s : Selected}
    (hs : s ∈ (ofOffer o d).query.select) :
    ∃ f ∈ d.columns o.fields, s = (ProjectedField.ofReference f).selected := by
  rw [select_of_offered h] at hs
  obtain ⟨p, hp, rfl⟩ := List.mem_map.mp hs
  obtain ⟨f, hf, rfl⟩ := Projection.mem_ofReferences hp
  exact ⟨f, hf, rfl⟩

theorem eq_star_or_offered {s : Selected}
    (hs : s ∈ (ofOffer o d).query.select) :
    s = ⟨.star, none⟩ ∨
      ∃ f, o.fields.contains f = true ∧ s = (ProjectedField.ofReference f).selected := by
  by_cases h : ∃ f ∈ d.selected, o.fields.contains f = true
  · obtain ⟨f, hf, hsf⟩ := mem_select_of_offered h hs
    exact .inr ⟨f, (Definition.mem_columns.mp hf).2, hsf⟩
  · rw [select_of_not_offered h] at hs
    rcases List.mem_cons.mp hs with hs | hs
    · exact .inl hs
    · obtain ⟨p, hp, rfl⟩ := List.mem_map.mp hs
      have hp := (Option.filter_eq_some_iff.mp (Option.mem_toList.mp hp)).1
      obtain ⟨f, hf, rfl⟩ := Option.map_eq_some_iff.mp hp
      exact .inr ⟨f, (Option.filter_eq_some_iff.mp hf).2, rfl⟩

theorem ne_star_of_offered (h : ∃ f ∈ d.selected, o.fields.contains f = true) :
    ∀ s ∈ (ofOffer o d).query.select, s.expr ≠ .star := by
  intro s hs
  obtain ⟨f, -, rfl⟩ := mem_select_of_offered h hs
  exact Expr.field_ne_star f

theorem offered_of_ne_star (h : ∀ s ∈ (ofOffer o d).query.select, s.expr ≠ .star) :
    ∃ f ∈ d.selected, o.fields.contains f = true := by
  by_contra hnone
  exact h _ (star_mem_select hnone) rfl

theorem exists_item
    (h : ∃ f ∈ d.selected, o.fields.contains f = true) {f : String} (hf : f ∈ d.columns o.fields) :
    ∃ g ∈ d.columns o.fields, keyOf g = keyOf f ∧
      (ProjectedField.ofReference g).selected ∈ (ofOffer o d).query.select := by
  obtain ⟨g, hg, hkey, hmem⟩ := Projection.exists_mem_ofReferences hf
  rw [select_of_offered h]
  exact ⟨g, hg, hkey, List.mem_map_of_mem hmem⟩

theorem exists_outputName_iff (h : ∃ f ∈ d.selected, o.fields.contains f = true) (key : String) :
    (∃ s ∈ (ofOffer o d).query.select, s.outputName = some key) ↔
      ∃ f ∈ d.columns o.fields, keyOf f = key := by
  constructor
  · rintro ⟨s, hs, hname⟩
    obtain ⟨f, hf, rfl⟩ := mem_select_of_offered h hs
    rw [ProjectedField.outputName_selected] at hname
    exact ⟨f, hf, Option.some.inj hname⟩
  · rintro ⟨f, hf, rfl⟩
    obtain ⟨g, -, hkey, hmem⟩ := exists_item h hf
    exact ⟨_, hmem, by rw [ProjectedField.outputName_selected, hkey]⟩

theorem forall_not_mayYield_iff (o : Offer) (d : Definition) (key : String) :
    (∀ s ∈ (ofOffer o d).query.select, ¬s.MayYield key) ↔
      (∃ f ∈ d.selected, o.fields.contains f = true) ∧
        ∀ f ∈ d.columns o.fields, keyOf f ≠ key := by
  by_cases h : ∃ f ∈ d.selected, o.fields.contains f = true
  · have hnames := exists_outputName_iff h key
    refine ⟨fun hs => ⟨h, ?_⟩, fun hf s hs => ?_⟩
    · intro f hf hkey
      obtain ⟨s, hmem, hname⟩ := hnames.mpr ⟨f, hf, hkey⟩
      exact hs s hmem (.inr hname)
    · rintro (hstar | hname)
      · exact ne_star_of_offered h s hs hstar
      · obtain ⟨f, hmem, hkey⟩ := hnames.mp ⟨s, hs, hname⟩
        exact hf.2 f hmem hkey
  · exact ⟨fun hs => absurd (.inl rfl) (hs _ (star_mem_select h)), fun hf => absurd hf.1 h⟩

/-- A statement keeps to the catalog as soon as it selects anything from it, and the rows then have
nothing under the key of a hidden reference unless a column shares that key. -/
theorem select_offered_iff (o : Offer) (d : Definition) :
    ((∀ s ∈ (ofOffer o d).query.select, ∃ f, o.fields.contains f = true ∧ s.expr = .field f) ↔
      ∃ f ∈ d.selected, o.fields.contains f = true) ∧
    ((∀ g ∈ d.selected, o.fields.contains g = false →
        ∀ s ∈ (ofOffer o d).query.select, ¬s.MayYield (keyOf g)) ↔
      ∀ g ∈ d.selected, o.fields.contains g = false →
        (∃ f ∈ d.selected, o.fields.contains f = true) ∧
          ∀ f ∈ d.columns o.fields, keyOf f ≠ keyOf g) := by
  refine ⟨⟨fun hs => ?_, fun h s hs => ?_⟩, ?_⟩
  · by_contra h
    obtain ⟨f, -, hf⟩ := hs _ (star_mem_select h)
    exact Expr.field_ne_star f hf.symm
  · obtain ⟨f, hf, rfl⟩ := mem_select_of_offered h hs
    exact ⟨f, (Definition.mem_columns.mp hf).2, rfl⟩
  · exact forall₃_congr fun g _ _ => forall_not_mayYield_iff o d (keyOf g)

/-- Only a hidden field is selected, and the section field brings every column along. -/
theorem exists_star_selected :
    ¬∀ (c : Catalog) (d : Definition), d.selected ≠ [] →
      ∀ s ∈ (ofDefinition c d).query.select, ∃ f, c.fieldSet.contains f = true ∧ s.expr = .field f := by
  intro h
  let c : Catalog := { name := "Books", entity := "Book", fields := [{ name := "Member.Surname" }] }
  let d : Definition := { selected := ["Secret"], paginateBy := some "Member.Surname" }
  have hnone : ¬∃ f ∈ d.selected, c.offer.fields.contains f = true := by
    rintro ⟨f, hf, hoffered⟩
    rw [List.mem_singleton.mp hf] at hoffered
    have hmem := (c.contains_fieldSet "Secret").mp hoffered
    revert hmem
    decide
  obtain ⟨f, -, hf⟩ := h c d (List.cons_ne_nil _ _) _ (star_mem_select hnone)
  exact Expr.field_ne_star f hf.symm

end Plan

end Reporting
