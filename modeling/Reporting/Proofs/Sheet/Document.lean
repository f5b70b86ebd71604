import Mathlib.Data.List.Basic
import Reporting.Proofs.Sheet.Markup

/-! Documents as they are read from their tags and texts: titles, a description, a table for each
section and one for the totals. Reading a document gives back what it was written from. -/

namespace Reporting.Html

structure Table where
  title : Option String
  labels : List String
  rows : List (List String)
  deriving DecidableEq, Repr

structure Document where
  title : String
  heading : String
  description : Option String
  tables : List Table
  totals : Option (List String)
  /-- When it was written. -/
  generated : String
  deriving DecidableEq, Repr

/-! The tags and texts of a document. -/

def elementMarkup (tag after text : String) : List Markup := [⟨tag, text⟩, ⟨"/" ++ tag, after⟩]

def rowMarkup (cells : List String) : List Markup :=
  [⟨"tr", ""⟩] ++ (cells.flatMap (elementMarkup "td" "") ++ [⟨"/tr", "\n"⟩])

def lineMarkup (line : List Char) : List Markup := [⟨"br", .ofList ('\n' :: line)⟩]

def descriptionMarkup (description : String) : List Markup :=
  let lines := Text.splitOn '\n' description.toList
  [⟨"p class=\"description\"", .ofList lines.headI⟩] ++
    (lines.tail.flatMap lineMarkup ++ [⟨"/p", "\n"⟩])

def Table.markup (t : Table) : List Markup :=
  t.title.toList.flatMap (elementMarkup "h2" "\n") ++
    ([⟨"table", "\n"⟩, ⟨"thead", "\n"⟩, ⟨"tr", ""⟩] ++
      (t.labels.flatMap (elementMarkup "th" "") ++
        ([⟨"/tr", "\n"⟩, ⟨"/thead", "\n"⟩, ⟨"tbody", "\n"⟩] ++
          (t.rows.flatMap rowMarkup ++ [⟨"/tbody", "\n"⟩, ⟨"/table", "\n"⟩]))))

def totalsMarkup (cells : List String) : List Markup :=
  [⟨"table class=\"totals\"", "\n"⟩, ⟨"tbody", "\n"⟩, ⟨"tr class=\"totals\"", ""⟩] ++
    (cells.flatMap (elementMarkup "td" "") ++
      [⟨"/tr", "\n"⟩, ⟨"/tbody", "\n"⟩, ⟨"/table", "\n"⟩])

def footMarkup (generated : String) : List Markup :=
  [⟨"p class=\"generated\"", generated⟩, ⟨"/p", "\n"⟩, ⟨"/body", "\n"⟩, ⟨"/html", "\n"⟩]

def Document.markup (d : Document) : List Markup :=
  [⟨"!DOCTYPE html", "\n"⟩, ⟨"html", "\n"⟩, ⟨"head", "\n"⟩, ⟨"meta charset=\"utf-8\"", "\n"⟩] ++
    (elementMarkup "title" "\n" d.title ++ (elementMarkup "style" "\n" styles ++
      ([⟨"/head", "\n"⟩, ⟨"body", "\n"⟩] ++ (elementMarkup "h1" "\n" d.heading ++
        (d.description.toList.flatMap descriptionMarkup ++ (d.tables.flatMap Table.markup ++
          (d.totals.toList.flatMap totalsMarkup ++ footMarkup d.generated)))))))

/-! Reading it back. -/

abbrev Reading (α : Type) := List Markup → Option (α × List Markup)

namespace Reading

variable {α β : Type}

def expect (w ms : List Markup) : Option (List Markup) := ms.dropPrefix? w

def many (read : Reading α) (ms : List Markup) : List α × List Markup :=
  match read ms with
  | none => ([], ms)
  | some (a, rest) =>
    if rest.length < ms.length then
      let p := many read rest
      (a :: p.1, p.2)
    else ([], ms)
termination_by ms.length

def optional (read : Reading α) (ms : List Markup) : Option α × List Markup :=
  match read ms with
  | none => (none, ms)
  | some (a, rest) => (some a, rest)

def element (tag after : String) : Reading String
  | m :: ms => if m.tag = tag then (expect [⟨"/" ++ tag, after⟩] ms).map (m.text, ·) else none
  | [] => none

def row : Reading (List String) := fun ms => do
  let ms ← expect [⟨"tr", ""⟩] ms
  let (cells, ms) := many (element "td" "") ms
  let ms ← expect [⟨"/tr", "\n"⟩] ms
  some (cells, ms)

def line : Reading (List Char)
  | ⟨"br", text⟩ :: ms => (text.toList.dropPrefix? ['\n']).map (·, ms)
  | _ => none

def description : Reading String
  | ⟨"p class=\"description\"", first⟩ :: ms => do
    let (lines, ms) := many line ms
    let ms ← expect [⟨"/p", "\n"⟩] ms
    some (.ofList (['\n'].intercalate (first.toList :: lines)), ms)
  | _ => none

def table : Reading Table := fun ms => do
  let (title, ms) := optional (element "h2" "\n") ms
  let ms ← expect [⟨"table", "\n"⟩, ⟨"thead", "\n"⟩, ⟨"tr", ""⟩] ms
  let (labels, ms) := many (element "th" "") ms
  let ms ← expect [⟨"/tr", "\n"⟩, ⟨"/thead", "\n"⟩, ⟨"tbody", "\n"⟩] ms
  let (rows, ms) := many row ms
  let ms ← expect [⟨"/tbody", "\n"⟩, ⟨"/table", "\n"⟩] ms
  some (⟨title, labels, rows⟩, ms)

def totals : Reading (List String) := fun ms => do
  let ms ← expect
    [⟨"table class=\"totals\"", "\n"⟩, ⟨"tbody", "\n"⟩, ⟨"tr class=\"totals\"", ""⟩] ms
  let (cells, ms) := many (element "td" "") ms
  let ms ← expect [⟨"/tr", "\n"⟩, ⟨"/tbody", "\n"⟩, ⟨"/table", "\n"⟩] ms
  some (cells, ms)

def foot : Reading String
  | ⟨"p class=\"generated\"", generated⟩ :: ms =>
    (expect [⟨"/p", "\n"⟩, ⟨"/body", "\n"⟩, ⟨"/html", "\n"⟩] ms).map (generated, ·)
  | _ => none

def document : Reading Document := fun ms => do
  let ms ← expect [⟨"!DOCTYPE html", "\n"⟩, ⟨"html", "\n"⟩, ⟨"head", "\n"⟩,
    ⟨"meta charset=\"utf-8\"", "\n"⟩] ms
  let (title, ms) ← element "title" "\n" ms
  let (_, ms) ← element "style" "\n" ms
  let ms ← expect [⟨"/head", "\n"⟩, ⟨"body", "\n"⟩] ms
  let (heading, ms) ← element "h1" "\n" ms
  let (description, ms) := optional description ms
  let (tables, ms) := many table ms
  let (totals, ms) := optional totals ms
  let (generated, ms) ← foot ms
  some (⟨title, heading, description, tables, totals, generated⟩, ms)

theorem expect_append (w ms : List Markup) : expect w (w ++ ms) = some ms :=
  List.dropPrefix?_append_of_beq ms (BEq.refl w)

theorem many_flatMap {read : Reading β} (text : α → List Markup) (f : α → β)
    (hread : ∀ a ms, read (text a ++ ms) = some (f a, ms)) (hne : ∀ a, text a ≠ [])
    {ms : List Markup} (hstop : read ms = none) (as : List α) :
    many read (as.flatMap text ++ ms) = (as.map f, ms) := by
  induction as with
  | nil =>
    rw [List.flatMap_nil, List.nil_append, many, hstop]
    rfl
  | cons a as ih =>
    have hlt : (as.flatMap text ++ ms).length < (text a ++ (as.flatMap text ++ ms)).length := by
      rw [@List.length_append _ (text a)]
      exact Nat.lt_add_of_pos_left (List.length_pos_iff.mpr (hne a))
    rw [List.flatMap_cons, List.append_assoc, many, hread]
    simp only [if_pos hlt, ih, List.map_cons]

theorem optional_toList {read : Reading α} (text : α → List Markup)
    (hread : ∀ a ms, read (text a ++ ms) = some (a, ms)) {ms : List Markup}
    (hstop : read ms = none) (a : Option α) :
    optional read (a.toList.flatMap text ++ ms) = (a, ms) := by
  cases a with
  | none => rw [Option.toList_none, List.flatMap_nil, List.nil_append, optional, hstop]
  | some a => rw [Option.toList_some, List.flatMap_singleton, optional, hread]

theorem element_append (tag after text : String) (ms : List Markup) :
    element tag after (elementMarkup tag after text ++ ms) = some (text, ms) := by
  show element tag after (⟨tag, text⟩ :: ([⟨"/" ++ tag, after⟩] ++ ms)) = _
  rw [element, if_pos rfl, expect_append]
  rfl

theorem element_of_ne {tag after : String} {m : Markup} (h : m.tag ≠ tag) (ms : List Markup) :
    element tag after (m :: ms) = none := by
  rw [element, if_neg h]

theorem elements_append (tag : String) (texts : List String) {m : Markup} (h : m.tag ≠ tag)
    (ms : List Markup) :
    many (element tag "") (texts.flatMap (elementMarkup tag "") ++ m :: ms) = (texts, m :: ms) := by
  have hread := many_flatMap (elementMarkup tag "") id (element_append tag "")
    (fun _ => List.cons_ne_nil _ _) (element_of_ne h ms) texts
  rwa [List.map_id] at hread

theorem row_append (cells : List String) (ms : List Markup) :
    row (rowMarkup cells ++ ms) = some (cells, ms) := by
  have hcells : many (element "td" "") (cells.flatMap (elementMarkup "td" "") ++
      ([⟨"/tr", "\n"⟩] ++ ms)) = (cells, [⟨"/tr", "\n"⟩] ++ ms) :=
    elements_append "td" cells (by decide) ms
  rw [rowMarkup, List.append_assoc, List.append_assoc, row]
  simp only [expect_append, hcells, Option.bind_eq_bind, Option.bind_some]

theorem line_append (cs : List Char) (ms : List Markup) :
    line (lineMarkup cs ++ ms) = some (cs, ms) := by
  show ((String.ofList (['\n'] ++ cs)).toList.dropPrefix? ['\n']).map (·, ms) = _
  rw [String.toList_ofList, List.dropPrefix?_append_of_beq cs (BEq.refl _)]
  rfl

theorem description_append (text : String) (ms : List Markup) :
    description (descriptionMarkup text ++ ms) = some (text, ms) := by
  obtain ⟨first, lines, hlines⟩ := List.exists_cons_of_ne_nil (Text.splitOn_ne_nil '\n' text.toList)
  have hread := many_flatMap lineMarkup id line_append (fun _ => List.cons_ne_nil _ _)
    (show line ([⟨"/p", "\n"⟩] ++ ms) = none from rfl) lines
  have htext : ['\n'].intercalate (first :: lines) = text.toList := by
    rw [← hlines, Text.intercalate_splitOn]
  rw [descriptionMarkup, hlines]
  show description (⟨"p class=\"description\"", .ofList first⟩ ::
    ((lines.flatMap lineMarkup ++ [⟨"/p", "\n"⟩]) ++ ms)) = _
  rw [List.append_assoc, description]
  simp only [hread, List.map_id, expect_append, Option.bind_eq_bind, Option.bind_some,
    String.toList_ofList, htext, String.ofList_toList]

theorem table_append (t : Table) (ms : List Markup) : table (t.markup ++ ms) = some (t, ms) := by
  have htitle (ms : List Markup) : optional (element "h2" "\n")
      (t.title.toList.flatMap (elementMarkup "h2" "\n") ++
        ([⟨"table", "\n"⟩, ⟨"thead", "\n"⟩, ⟨"tr", ""⟩] ++ ms)) =
          (t.title, [⟨"table", "\n"⟩, ⟨"thead", "\n"⟩, ⟨"tr", ""⟩] ++ ms) :=
    optional_toList _ (element_append "h2" "\n") (element_of_ne (by decide) _) t.title
  have hlabels (ms : List Markup) : many (element "th" "")
      (t.labels.flatMap (elementMarkup "th" "") ++
        ([⟨"/tr", "\n"⟩, ⟨"/thead", "\n"⟩, ⟨"tbody", "\n"⟩] ++ ms)) =
          (t.labels, [⟨"/tr", "\n"⟩, ⟨"/thead", "\n"⟩, ⟨"tbody", "\n"⟩] ++ ms) :=
    elements_append "th" t.labels (by decide) _
  have hrows := many_flatMap rowMarkup id row_append (fun _ => List.cons_ne_nil _ _)
    (show row ([⟨"/tbody", "\n"⟩, ⟨"/table", "\n"⟩] ++ ms) = none from rfl) t.rows
  rw [Table.markup, table]
  simp only [List.append_assoc, htitle, hlabels, hrows, List.map_id, expect_append,
    Option.bind_eq_bind, Option.bind_some]

theorem totals_append (cells : List String) (ms : List Markup) :
    totals (totalsMarkup cells ++ ms) = some (cells, ms) := by
  have hcells : many (element "td" "") (cells.flatMap (elementMarkup "td" "") ++
      ([⟨"/tr", "\n"⟩, ⟨"/tbody", "\n"⟩, ⟨"/table", "\n"⟩] ++ ms)) =
        (cells, [⟨"/tr", "\n"⟩, ⟨"/tbody", "\n"⟩, ⟨"/table", "\n"⟩] ++ ms) :=
    elements_append "td" cells (by decide) _
  rw [totalsMarkup, List.append_assoc, List.append_assoc, totals]
  simp only [expect_append, hcells, Option.bind_eq_bind, Option.bind_some]

/-! The parts of a document, each read up to the tag that begins the next. -/

def Begins (tags : List String) (ms : List Markup) : Prop := ∃ m ∈ ms.head?, m.tag ∈ tags

theorem Begins.append {tags : List String} {ms : List Markup} (h : Begins tags ms)
    (rest : List Markup) : Begins tags (ms ++ rest) := by
  obtain ⟨m, hm, htag⟩ := h
  exact ⟨m, by rw [List.head?_append, Option.mem_def.mp hm]; rfl, htag⟩

theorem begins_flatMap {tags : List String} {text : α → List Markup}
    (h : ∀ a, Begins tags (text a)) {ms : List Markup} (hms : Begins tags ms) (as : List α) :
    Begins tags (as.flatMap text ++ ms) := by
  cases as with
  | nil => exact hms
  | cons a as =>
    rw [List.flatMap_cons, List.append_assoc]
    exact (h a).append _

theorem begins_table (t : Table) : Begins ["h2", "table", "table class=\"totals\"",
    "p class=\"generated\""] t.markup := by
  obtain ⟨title, labels, rows⟩ := t
  cases title with
  | none => exact ⟨_, rfl, List.mem_cons_of_mem _ List.mem_cons_self⟩
  | some title => exact ⟨_, rfl, List.mem_cons_self⟩

theorem expect_of_begins {tags : List String} {ms : List Markup} (h : Begins tags ms) {m : Markup}
    (hm : m.tag ∉ tags) (w : List Markup) : expect (m :: w) ms = none := by
  obtain ⟨m', hhead, htag⟩ := h
  obtain ⟨ms, rfl⟩ := List.head?_eq_some_iff.mp (Option.mem_def.mp hhead)
  have hne : (m' == m) = false := by
    rw [beq_eq_false_iff_ne]
    rintro rfl
    exact hm htag
  rw [expect, List.dropPrefix?, hne]
  rfl

theorem element_of_begins {tags : List String} {ms : List Markup} (h : Begins tags ms)
    {tag : String} (htag : tag ∉ tags) (after : String) : element tag after ms = none := by
  obtain ⟨m, hhead, hmem⟩ := h
  obtain ⟨ms, rfl⟩ := List.head?_eq_some_iff.mp (Option.mem_def.mp hhead)
  exact element_of_ne (fun heq : m.tag = tag => htag (heq ▸ hmem)) ms

theorem description_of_begins {tags : List String} {ms : List Markup} (h : Begins tags ms)
    (htags : "p class=\"description\"" ∉ tags) : description ms = none := by
  obtain ⟨m, hhead, hmem⟩ := h
  rw [description]
  rintro first rest rfl
  cases hhead
  exact htags hmem

theorem table_of_begins {tags : List String} {ms : List Markup} (h : Begins tags ms)
    (htitle : "h2" ∉ tags) (htable : "table" ∉ tags) : table ms = none := by
  rw [table, optional, element_of_begins h htitle]
  simp only [expect_of_begins h (m := ⟨"table", "\n"⟩) htable, Option.bind_eq_bind,
    Option.bind_none]

theorem begins_totals (cells : List String) :
    Begins ["table class=\"totals\"", "p class=\"generated\""] (totalsMarkup cells) :=
  ⟨⟨"table class=\"totals\"", "\n"⟩, rfl, List.mem_cons_self⟩

theorem Begins.mono {tags tags' : List String} {ms : List Markup} (h : Begins tags ms)
    (hsub : tags ⊆ tags') : Begins tags' ms := by
  obtain ⟨m, hm, htag⟩ := h
  exact ⟨m, hm, hsub htag⟩

theorem begins_foot (generated : String) :
    Begins ["table class=\"totals\"", "p class=\"generated\""] (footMarkup generated) :=
  ⟨⟨"p class=\"generated\"", generated⟩, rfl, List.mem_cons_of_mem _ List.mem_cons_self⟩

theorem document_markup (d : Document) : document d.markup = some (d, []) := by
  -- from the end: how far a part is read depends on the tag that begins the next one
  have htotals : optional totals (d.totals.toList.flatMap totalsMarkup ++ footMarkup d.generated) =
      (d.totals, footMarkup d.generated) := optional_toList totalsMarkup totals_append rfl d.totals
  have hbehind := begins_flatMap begins_totals (begins_foot d.generated) d.totals.toList
  have hne (t : Table) : t.markup ≠ [] := by
    obtain ⟨m, hm, -⟩ := begins_table t
    rintro ht
    rw [ht] at hm
    cases hm
  have htables := many_flatMap Table.markup id table_append hne
    (table_of_begins hbehind (by decide) (by decide)) d.tables
  have hbefore := begins_flatMap begins_table (hbehind.mono (by decide)) d.tables
  have hdescription := optional_toList descriptionMarkup description_append
    (description_of_begins hbefore (by decide)) d.description
  rw [Document.markup, document]
  simp only [expect_append, element_append, Option.bind_eq_bind, Option.bind_some, hdescription,
    htables, htotals, List.map_id]
  rfl

end Reading

def Document.read (text : String) : Option Document :=
  match (Html.markup text).bind Reading.document with
  | some (d, []) => some d
  | _ => none

end Reporting.Html
