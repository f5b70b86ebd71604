import Reporting.Proofs.Entries
import Reporting.Proofs.Sheet.Records
import Reporting.Proofs.Sheet.Skeleton

/-! Formats under the keys of their references. Two references may have one key, and then it is the
order in which they are met that says which format counts. What is shown does not depend on that order
exactly if all formats under a key show the same. -/

namespace Reporting

def Entries.Reorders {κ α : Type} (e e' : Entries κ α) : Prop := e.toList.Perm e'.toList

theorem Entries.exists_reorders_last {κ α : Type} [DecidableEq κ] [DecidableEq α] (e : Entries κ α)
    {x : κ × α} (h : x ∈ e.toList) :
    ∃ e' before, Reorders e' e ∧ e'.toList = before ++ [x] := by
  have hperm : (e.toList.erase x ++ [x]).Perm e.toList :=
    List.perm_append_comm.trans (List.perm_cons_erase h).symm
  exact ⟨⟨e.toList.erase x ++ [x], (hperm.map Prod.fst).nodup_iff.mpr e.nodup⟩, e.toList.erase x,
    hperm, rfl⟩

namespace Sheet

def formatsUnder (formats : Entries String Format) (key : String) : List Format :=
  (formats.toList.filter fun x => keyOf x.1 = key).map Prod.snd

theorem mem_formatsUnder {formats : Entries String Format} {key : String} {f : Format} :
    f ∈ formatsUnder formats key ↔ ∃ reference, (reference, f) ∈ formats.toList ∧
      keyOf reference = key := by
  simp [formatsUnder]

theorem get?_formatsByKey_cases {formats enumerated : Entries String Format}
    (h : enumerated.Reorders formats) (key : String) :
    (∃ f ∈ formatsUnder formats key, (formatsByKey enumerated).get? key = some f) ∨
      formatsUnder formats key = [] ∧ (formatsByKey enumerated).get? key = none := by
  by_cases hkey : key ∈ (formatsByKey enumerated).keys
  · obtain ⟨i, f, hlast, hget⟩ := Entries.exists_lastAt _ hkey
    obtain ⟨x, hx, hpair⟩ := List.mem_map.mp (List.mem_of_getElem? hlast.getElem?)
    obtain ⟨hreference, rfl⟩ := Prod.mk.inj hpair
    exact .inl ⟨x.2, mem_formatsUnder.mpr ⟨x.1, h.mem_iff.mp hx, hreference⟩, hget⟩
  · refine .inr ⟨?_, ?_⟩
    · apply List.eq_nil_iff_forall_not_mem.mpr
      intro f hf
      obtain ⟨reference, hmem, hreference⟩ := mem_formatsUnder.mp hf
      apply hkey
      rw [formatsByKey, Entries.mem_keys_ofList, List.map_map]
      exact List.mem_map.mpr ⟨(reference, f), h.mem_iff.mpr hmem, hreference⟩
    · cases hget : (formatsByKey enumerated).get? key with
      | none => rfl
      | some f => exact absurd (Entries.mem_keys_of_get? hget) hkey

theorem exists_get?_formatsByKey {formats : Entries String Format} {key : String} {f : Format}
    (hf : f ∈ formatsUnder formats key) :
    ∃ enumerated, enumerated.Reorders formats ∧
      (formatsByKey enumerated).get? key = some f := by
  obtain ⟨reference, hmem, rfl⟩ := mem_formatsUnder.mp hf
  obtain ⟨enumerated, before, hreorders, hlast⟩ := formats.exists_reorders_last hmem
  refine ⟨enumerated, hreorders, ?_⟩
  rw [formatsByKey, hlast, List.map_append, List.map_singleton, Entries.ofList_concat,
    Entries.get?_insert_self]

theorem forall_reorders_iff {β : Type} (formats : Entries String Format) (key : String)
    (view : Option Format → β) :
    (∀ enumerated : Entries String Format, enumerated.Reorders formats →
      view ((formatsByKey enumerated).get? key) = view ((formatsByKey formats).get? key)) ↔
    ∀ f ∈ formatsUnder formats key, ∀ g ∈ formatsUnder formats key,
      view (some f) = view (some g) := by
  constructor
  · intro h f hf g hg
    obtain ⟨e, he, hef⟩ := exists_get?_formatsByKey hf
    obtain ⟨e', he', heg⟩ := exists_get?_formatsByKey hg
    rw [← hef, ← heg, h e he, h e' he']
  · intro h e he
    have hformats := get?_formatsByKey_cases (List.Perm.refl formats.toList) key
    rcases get?_formatsByKey_cases he key with ⟨f, hf, hget⟩ | ⟨hnil, hget⟩
    · rcases hformats with ⟨g, hg, hget'⟩ | ⟨hnil, -⟩
      · rw [hget, hget']
        exact h f hf g hg
      · rw [hnil] at hf
        cases hf
    · rcases hformats with ⟨g, hg, -⟩ | ⟨-, hget'⟩
      · rw [hnil] at hg
        cases hg
      · rw [hget, hget']

variable (s : Sheet)

def formatted (formats : Entries String Format) : Sheet :=
  { s with formats := formatsByKey formats }

def allRows : List Row := s.report.rows ++ s.report.totals.toList

def textAs (r : Row) (key : String) (format : Option Format) : String :=
  match r.get? key with
  | none => ""
  | some cell => if cell.isEmpty then "" else (format.map fun f => f.apply cell).getD cell.display

theorem cell_formatted (formats : Entries String Format) (r : Row) (key : String) :
    (s.formatted formats).cell r key = textAs r key ((formatsByKey formats).get? key) := by
  unfold cell textAs display formatted
  cases r.get? key with
  | none => rfl
  | some cell => cases (formatsByKey formats).get? key <;> rfl

theorem texts_formatted_eq_iff (e e' : Entries String Format) (r : Row) :
    (s.formatted e).texts r = (s.formatted e').texts r ↔
      ∀ c ∈ s.columns, (s.formatted e).cell r c.1 = (s.formatted e').cell r c.1 :=
  List.map_inj_left

end Sheet

namespace Csv

def items (s : Sheet) : List (List String ⊕ Row) :=
  .inl (s.columns.map Prod.snd) ::
    s.report.sections.flatMap (fun x =>
      x.title.toList.map (fun title => .inl [title]) ++ x.rows.map .inr) ++
    s.report.totals.toList.map .inr

theorem records_eq_map_items (s : Sheet) : records s = (items s).map (Sum.elim id s.texts) := by
  have hsection : sectionRecords s = fun x =>
    x.title.toList.map (fun title => [title]) ++ x.rows.map s.texts := rfl
  simp [records, items, List.map_flatMap, hsection, Function.comp_def]

theorem inr_mem_items {s : Sheet} {r : Row} : .inr r ∈ items s ↔ r ∈ s.allRows := by
  simp [items, Sheet.allRows, ProcessedReport.rows]

theorem visible_injective_on {ss ts : List String} (hlength : ss.length = ts.length)
    (h : visible ss = visible ts) : ss = ts := by
  cases ss with
  | nil => exact (List.length_eq_zero_iff.mp hlength.symm).symm
  | cons s ss =>
    cases ts with
    | nil => cases hlength
    | cons t ts => exact h

theorem render_formatted_eq_iff (s : Sheet) (e e' : Entries String Format) :
    render (s.formatted e) = render (s.formatted e') ↔
      ∀ r ∈ s.allRows, (s.formatted e).texts r = (s.formatted e').texts r := by
  have hrecords (e : Entries String Format) : records (s.formatted e) =
    (items s).map (Sum.elim id (s.formatted e).texts) := records_eq_map_items _
  constructor
  · intro h r hr
    have hread := congrArg readRecords (String.ofList_injective h)
    rw [readRecords_flatMap, readRecords_flatMap, Option.some_inj, hrecords, hrecords,
      List.map_map, List.map_map] at hread
    have hrow := List.map_inj_left.mp hread (.inr r) (inr_mem_items.mpr hr)
    exact visible_injective_on ((List.length_map _).trans (List.length_map _).symm) hrow
  · intro h
    have hitems : records (s.formatted e) = records (s.formatted e') := by
      rw [hrecords, hrecords]
      apply List.map_congr_left
      intro x hx
      cases x with
      | inl _ => rfl
      | inr r => exact h r (inr_mem_items.mp hx)
    rw [render, render, hitems]

end Csv

namespace Html

theorem shown_eq_of_render_eq {s t : Sheet} (h : render s = render t) : shown s = shown t := by
  have hmarkup := congrArg markup h
  rw [markup_render, markup_render, Option.some_inj] at hmarkup
  have hdocument := congrArg Reading.document hmarkup
  rw [Reading.document_markup, Reading.document_markup, Option.some_inj] at hdocument
  exact congrArg Prod.fst hdocument

theorem render_formatted_eq_iff (s : Sheet) (e e' : Entries String Format) :
    render (s.formatted e) = render (s.formatted e') ↔
      ∀ r ∈ s.allRows, (s.formatted e).texts r = (s.formatted e').texts r := by
  constructor
  · intro h r hr
    have hshown := shown_eq_of_render_eq h
    rcases List.mem_append.mp hr with hr | hr
    · obtain ⟨x, hx, hrx⟩ := List.mem_flatMap.mp hr
      have htables := List.map_inj_left.mp (congrArg Document.tables hshown) x hx
      exact List.map_inj_left.mp (congrArg Table.rows htables) r hrx
    · have htotals : (some r).map (s.formatted e).texts = (some r).map (s.formatted e').texts := by
        rw [← Option.mem_toList.mp hr]
        exact congrArg Document.totals hshown
      exact Option.some.inj htotals
  · intro h
    have htables : (shown (s.formatted e)).tables = (shown (s.formatted e')).tables := by
      apply List.map_congr_left
      intro x hx
      have hrows : x.rows.map (s.formatted e).texts = x.rows.map (s.formatted e').texts := by
        apply List.map_congr_left
        intro r hr
        exact h r (List.mem_append_left _ (List.mem_flatMap.mpr ⟨x, hx, hr⟩))
      exact congrArg (Table.mk x.title (s.columns.map Prod.snd)) hrows
    have htotals : (shown (s.formatted e)).totals = (shown (s.formatted e')).totals := by
      apply Option.map_congr
      intro r hr
      exact h r (List.mem_append_right _ (Option.mem_toList.mpr hr))
    have hshown : shown (s.formatted e) = shown (s.formatted e') := calc
      shown (s.formatted e) = { shown s with
          tables := (shown (s.formatted e)).tables
          totals := (shown (s.formatted e)).totals } := rfl
      _ = { shown s with
          tables := (shown (s.formatted e')).tables
          totals := (shown (s.formatted e')).totals } := by rw [htables, htotals]
      _ = shown (s.formatted e') := rfl
    rw [render, render, ← charsOf_shown, ← charsOf_shown, hshown]

end Html

namespace Sheet

def ShowsAlike (formats : Entries String Format) (r : Row) (key : String) : Prop :=
  ∀ f ∈ formatsUnder formats key, ∀ g ∈ formatsUnder formats key,
    textAs r key (some f) = textAs r key (some g)

theorem forall_cell_eq_iff (s : Sheet) (formats : Entries String Format) (r : Row) (key : String) :
    (∀ e : Entries String Format, e.Reorders formats →
      (s.formatted e).cell r key = (s.formatted formats).cell r key) ↔
        ShowsAlike formats r key := by
  simp only [cell_formatted]
  exact forall_reorders_iff formats key (textAs r key)

theorem forall_texts_eq_iff (s : Sheet) (formats : Entries String Format) :
    (∀ e : Entries String Format, e.Reorders formats → ∀ r ∈ s.allRows,
      (s.formatted e).texts r = (s.formatted formats).texts r) ↔
        ∀ r ∈ s.allRows, ∀ c ∈ s.columns, ShowsAlike formats r c.1 := by
  simp only [← forall_cell_eq_iff s, texts_formatted_eq_iff]
  constructor
  · intro h r hr c hc e he
    exact h e he r hr c hc
  · intro h e he r hr c hc
    exact h r hr c hc e he

/-- The order of the formats does not matter to the format of a key exactly if its references have one
format, to a text exactly if they show it alike, and to what is rendered exactly if they show all of it
alike. -/
theorem forall_reorders_render_iff (s : Sheet) (formats : Entries String Format) :
    (∀ key, (∀ e : Entries String Format, e.Reorders formats →
        (formatsByKey e).get? key = (formatsByKey formats).get? key) ↔
      ∀ f ∈ formatsUnder formats key, ∀ g ∈ formatsUnder formats key, f = g) ∧
    (∀ r key, (∀ e : Entries String Format, e.Reorders formats →
        (s.formatted e).cell r key = (s.formatted formats).cell r key) ↔
      ShowsAlike formats r key) ∧
    ((∀ e : Entries String Format, e.Reorders formats →
        Csv.render (s.formatted e) = Csv.render (s.formatted formats)) ↔
      ∀ r ∈ s.allRows, ∀ c ∈ s.columns, ShowsAlike formats r c.1) ∧
    ((∀ e : Entries String Format, e.Reorders formats →
        Html.render (s.formatted e) = Html.render (s.formatted formats)) ↔
      ∀ r ∈ s.allRows, ∀ c ∈ s.columns, ShowsAlike formats r c.1) := by
  refine ⟨?_, forall_cell_eq_iff s formats, ?_, ?_⟩
  · intro key
    have hformats := forall_reorders_iff formats key id
    simpa only [id_eq, Option.some_inj] using hformats
  · rw [← forall_texts_eq_iff]
    simp only [Csv.render_formatted_eq_iff]
  · rw [← forall_texts_eq_iff]
    simp only [Html.render_formatted_eq_iff]

/-- A dotted reference and the name that is its key, one in capitals and one in small letters. -/
theorem not_forall_reorders_eq :
    ¬∀ (s : Sheet) (formats e : Entries String Format), e.Reorders formats →
      (∀ key, (formatsByKey e).get? key = (formatsByKey formats).get? key) ∧
      (∀ r key, (s.formatted e).cell r key = (s.formatted formats).cell r key) ∧
      Csv.render (s.formatted e) = Csv.render (s.formatted formats) := by
  intro h
  let formats : Entries String Format := ⟨[("A.B", .upper), ("A_B", .lower)], by decide⟩
  let reversed : Entries String Format := ⟨[("A_B", .lower), ("A.B", .upper)], by decide⟩
  let s : Sheet :=
    { title := "Members", description := "", generatedAt := ⟨2024, 1, 1, 0, 0⟩
      headers := .ofList [("A_B", "Name")]
      report := { sections := [⟨none, [.ofList [("A_B", .text "Emma")]]⟩], totals := none }
      formats := .empty }
  have heq := (h s formats reversed (List.Perm.swap _ _ _)).2.2
  revert heq
  decide

end Sheet

end Reporting
