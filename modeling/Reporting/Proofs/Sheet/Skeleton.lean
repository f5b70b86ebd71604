import Reporting.Proofs.Sheet.Outline

/-! The tags of a document tell how much there is to show and nothing of what it says, so every text
of a sheet comes back from where it was put. -/

namespace Reporting.Html

structure Shape where
  columns : Nat
  /-- Whether each section has a title, and how many rows. -/
  sections : List (Bool × Nat)
  totals : Bool
  /-- The line breaks of the description, if there is one. -/
  lineBreaks : Option Nat
  deriving DecidableEq, Repr

def shape (s : Sheet) : Shape :=
  { columns := s.columns.length
    sections := s.report.sections.map fun x => (x.title.isSome, x.rows.length)
    totals := s.report.totals.isSome
    lineBreaks :=
      if s.description.isEmpty then none else some (s.description.toList.count '\n') }

def elementTags (tag : String) (n : Nat) : List String :=
  (List.replicate n [tag, "/" ++ tag]).flatten

def rowTags (columns : Nat) : List String := ["tr"] ++ (elementTags "td" columns ++ ["/tr"])

def descriptionTags (lineBreaks : Nat) : List String :=
  ["p class=\"description\""] ++ (List.replicate lineBreaks "br" ++ ["/p"])

def tableTags (columns : Nat) (x : Bool × Nat) : List String :=
  elementTags "h2" x.1.toNat ++ (["table", "thead", "tr"] ++ (elementTags "th" columns ++
    (["/tr", "/thead", "tbody"] ++ ((List.replicate x.2 (rowTags columns)).flatten ++
      ["/tbody", "/table"]))))

def totalsTags (columns : Nat) : List String :=
  ["table class=\"totals\"", "tbody", "tr class=\"totals\""] ++
    (elementTags "td" columns ++ ["/tr", "/tbody", "/table"])

def skeleton (x : Shape) : List String :=
  ["!DOCTYPE html", "html", "head", "meta charset=\"utf-8\"", "title", "/title", "style", "/style",
    "/head", "body", "h1", "/h1"] ++
    (x.lineBreaks.toList.flatMap descriptionTags ++ (x.sections.flatMap (tableTags x.columns) ++
      ((List.replicate x.totals.toNat (totalsTags x.columns)).flatten ++
        ["p class=\"generated\"", "/p", "/body", "/html"])))

theorem tags_flatMap {α : Type} {text : α → List Markup} {w : List String} {as : List α}
    (h : ∀ a ∈ as, (text a).map Markup.tag = w) :
    (as.flatMap text).map Markup.tag = (List.replicate as.length w).flatten := by
  rw [List.map_flatMap, List.flatMap_congr h, List.flatMap_def, List.map_const']

theorem tags_elements (tag after : String) (texts : List String) :
    (texts.flatMap (elementMarkup tag after)).map Markup.tag = elementTags tag texts.length :=
  tags_flatMap fun _ _ => rfl

theorem tags_row (texts : List String) :
    (rowMarkup texts).map Markup.tag = rowTags texts.length := by
  rw [rowMarkup, List.map_append, List.map_append, tags_elements]
  rfl

theorem tags_description (text : String) :
    (descriptionMarkup text).map Markup.tag = descriptionTags (text.toList.count '\n') := by
  have hlines (lines : List (List Char)) :
      (lines.flatMap lineMarkup).map Markup.tag = List.replicate lines.length "br" := by
    rw [tags_flatMap (w := ["br"]) fun _ _ => rfl, List.flatten_replicate_singleton]
  rw [descriptionMarkup, List.map_append, List.map_append, hlines, List.length_tail,
    Text.length_splitOn, Nat.add_sub_cancel]
  rfl

theorem tags_table (t : Table) (h : ∀ texts ∈ t.rows, texts.length = t.labels.length) :
    t.markup.map Markup.tag = tableTags t.labels.length (t.title.isSome, t.rows.length) := by
  have htitle : (t.title.toList.flatMap (elementMarkup "h2" "\n")).map Markup.tag =
      elementTags "h2" t.title.isSome.toNat := by
    rw [tags_elements]
    cases t.title <;> rfl
  have hrows : (t.rows.flatMap rowMarkup).map Markup.tag =
      (List.replicate t.rows.length (rowTags t.labels.length)).flatten :=
    tags_flatMap fun texts htexts => by rw [tags_row, h texts htexts]
  rw [Table.markup]
  simp only [List.map_append, htitle, tags_elements, hrows]
  rfl

theorem tags_totals (texts : Option (List String)) (n : Nat) (h : ∀ t ∈ texts, t.length = n) :
    (texts.toList.flatMap totalsMarkup).map Markup.tag =
      (List.replicate texts.isSome.toNat (totalsTags n)).flatten := by
  have htags (t : List String) : (totalsMarkup t).map Markup.tag = totalsTags t.length := by
    rw [totalsMarkup, List.map_append, List.map_append, tags_elements]
    rfl
  rw [tags_flatMap (w := totalsTags n) fun t ht => by rw [htags, h t (Option.mem_toList.mp ht)]]
  cases texts <;> rfl

theorem length_texts (s : Sheet) (r : Row) : (s.texts r).length = s.columns.length :=
  List.length_map _

theorem tags_shown (s : Sheet) : (shown s).markup.map Markup.tag = skeleton (shape s) := by
  have hdescription : ((shown s).description.toList.flatMap descriptionMarkup).map Markup.tag =
      (shape s).lineBreaks.toList.flatMap descriptionTags := by
    unfold shown shape
    split_ifs
    · rfl
    · simp only [Option.toList_some, List.flatMap_singleton, tags_description]
  have htables : ((shown s).tables.flatMap Table.markup).map Markup.tag =
      (shape s).sections.flatMap (tableTags s.columns.length) := by
    rw [shown, shape, List.map_flatMap, List.flatMap_map, List.flatMap_map]
    refine List.flatMap_congr fun x _ => ?_
    rw [tags_table, List.length_map, List.length_map]
    intro texts htexts
    obtain ⟨r, -, rfl⟩ := List.mem_map.mp htexts
    rw [length_texts, List.length_map]
  have htotals : ((shown s).totals.toList.flatMap totalsMarkup).map Markup.tag =
      (List.replicate (shape s).totals.toNat (totalsTags s.columns.length)).flatten := by
    rw [tags_totals _ s.columns.length, shown, shape, Option.isSome_map]
    intro texts htexts
    obtain ⟨r, -, rfl⟩ := Option.map_eq_some_iff.mp htexts
    exact length_texts s r
  -- what is left are the tags that every document has
  rw [Document.markup, skeleton]
  simp only [List.map_append, hdescription, htables, htotals]
  rfl

theorem forall_mem_flatten_replicate {p : String → Prop} {w : List String} (h : ∀ t ∈ w, p t)
    (n : Nat) : ∀ t ∈ (List.replicate n w).flatten, p t := by
  intro t ht
  obtain ⟨w', hw', ht⟩ := List.mem_flatten.mp ht
  rw [List.eq_of_mem_replicate hw'] at ht
  exact h t ht

theorem not_mem_skeleton (x : Shape) : ∀ tag ∈ skeleton x, '>' ∉ tag.toList := by
  have hrow : ∀ tag ∈ rowTags x.columns, '>' ∉ tag.toList := by
    simp only [rowTags, elementTags, List.forall_mem_append]
    exact ⟨by decide, forall_mem_flatten_replicate (by decide) _, by decide⟩
  have htotals : ∀ tag ∈ totalsTags x.columns, '>' ∉ tag.toList := by
    simp only [totalsTags, elementTags, List.forall_mem_append]
    exact ⟨by decide, forall_mem_flatten_replicate (by decide) _, by decide⟩
  have htable (y : Bool × Nat) : ∀ tag ∈ tableTags x.columns y, '>' ∉ tag.toList := by
    simp only [tableTags, elementTags, List.forall_mem_append]
    exact ⟨forall_mem_flatten_replicate (by decide) _, by decide,
      forall_mem_flatten_replicate (by decide) _, by decide,
      forall_mem_flatten_replicate hrow _, by decide⟩
  have hdescription (n : Nat) : ∀ tag ∈ descriptionTags n, '>' ∉ tag.toList := by
    simp only [descriptionTags, List.forall_mem_append]
    refine ⟨by decide, fun tag htag => ?_, by decide⟩
    rw [List.eq_of_mem_replicate htag]
    decide
  simp only [skeleton, List.forall_mem_append]
  refine ⟨by decide, fun tag htag => ?_, fun tag htag => ?_,
    forall_mem_flatten_replicate htotals _, by decide⟩
  · obtain ⟨n, -, htag⟩ := List.mem_flatMap.mp htag
    exact hdescription n tag htag
  · obtain ⟨y, -, htag⟩ := List.mem_flatMap.mp htag
    exact htable y tag htag

theorem isSound_of_mem_shown {s : Sheet} {m : Markup} (h : m ∈ (shown s).markup) : m.IsSound := by
  have htag : m.tag ∈ (shown s).markup.map Markup.tag := List.mem_map_of_mem h
  rw [tags_shown] at htag
  exact not_mem_skeleton _ _ htag

theorem markup_render (s : Sheet) : markup (render s) = some (shown s).markup := by
  rw [render, ← charsOf_shown]
  exact markup_chars fun _ => isSound_of_mem_shown

theorem tags_render (s : Sheet) :
    (markup (render s)).map (List.map Markup.tag) = some (skeleton (shape s)) := by
  rw [markup_render, Option.map_some, tags_shown]

/-- A document holds what is shown of its sheet and no more, and its tags are known from the numbers
of columns, rows and line breaks and from which titles, descriptions and totals there are. -/
theorem document_and_tags_render (s : Sheet) :
    Document.read (render s) = some (shown s) ∧
      (markup (render s)).map (List.map Markup.tag) = some (skeleton (shape s)) := by
  refine ⟨?_, tags_render s⟩
  rw [Document.read, markup_render, Option.bind_some, Reading.document_markup]

def described (description : String) : Sheet :=
  { title := "Books"
    description := description
    generatedAt := ⟨2024, 1, 1, 0, 0⟩
    headers := .ofList []
    report := { sections := [], totals := none }
    formats := .ofList [] }

/-- An empty description has no element, where one without line breaks has. -/
theorem exists_tags_ne :
    ¬ ∀ s t : Sheet, s.columns.length = t.columns.length →
      (shape s).sections = (shape t).sections → (shape s).totals = (shape t).totals →
      s.description.toList.count '\n' = t.description.toList.count '\n' →
        (markup (render s)).map (List.map Markup.tag) =
          (markup (render t)).map (List.map Markup.tag) := by
  intro h
  have htags := h (described "") (described "First editions") rfl rfl rfl (by decide)
  rw [tags_render, tags_render, Option.some_inj] at htags
  exact absurd htags (by decide)

end Reporting.Html
