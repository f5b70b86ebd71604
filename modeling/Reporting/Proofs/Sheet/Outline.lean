import Reporting.Proofs.Sheet.Document
import Reporting.Proofs.Text.Decimal
import Reporting.Proofs.Text.Pieces

/-! What the document of a sheet shows, and that its characters are those of the tags and texts that
show it. -/

namespace Reporting.Html

def shown (s : Sheet) : Document :=
  { title := s.title
    heading := s.title
    description := if s.description.isEmpty then none else some s.description
    tables := s.report.sections.map fun x => ⟨x.title, s.columns.map Prod.snd, x.rows.map s.texts⟩
    totals := s.report.totals.map s.texts
    generated := "Generated " ++ s.generatedAt.text }

/-! The characters of each part are those of its tags and texts. -/

def charsOf (ms : List Markup) : List Char := ms.flatMap Markup.chars

theorem charsOf_append (ms ms' : List Markup) : charsOf (ms ++ ms') = charsOf ms ++ charsOf ms' :=
  List.flatMap_append

theorem charsOf_flatMap {α : Type} (text : α → List Markup) (as : List α) :
    charsOf (as.flatMap text) = as.flatMap fun a => charsOf (text a) :=
  List.flatMap_assoc

def isKept (c : Char) : Bool := escape c == [c]

theorem escaped_of_kept {s : String} (h : s.toList.all isKept = true) : escaped s = s.toList := by
  rw [escaped_eq, List.flatMap_congr fun c hc => eq_of_beq (List.all_eq_true.mp h c hc)]
  exact List.flatMap_singleton' _

theorem charsOf_element (tag after s : String) :
    charsOf (elementMarkup tag after s) = element tag s ++ escaped after := by
  simp [charsOf, elementMarkup, Markup.chars, element]

theorem charsOf_elements (tag : String) (texts : List String) :
    charsOf (texts.flatMap (elementMarkup tag "")) = texts.flatMap (element tag) := by
  rw [charsOf_flatMap]
  exact List.flatMap_congr fun text _ => (charsOf_element tag "" text).trans (List.append_nil _)

theorem charsOf_titled (tag s : String) :
    charsOf (elementMarkup tag "\n" s) = element tag s ++ ['\n'] :=
  charsOf_element tag "\n" s

theorem charsOf_row (texts : List String) :
    charsOf (rowMarkup texts) = "<tr>".toList ++ row texts ++ "</tr>\n".toList := by
  have hopening : charsOf [⟨"tr", ""⟩] = "<tr>".toList := by decide
  have hclosing : charsOf [⟨"/tr", "\n"⟩] = "</tr>\n".toList := by decide
  rw [rowMarkup, charsOf_append, charsOf_append, charsOf_elements, hopening, hclosing, row,
    List.append_assoc]

theorem charsOf_heading (title : Option String) :
    charsOf (title.toList.flatMap (elementMarkup "h2" "\n")) =
      (title.map fun t => element "h2" t ++ ['\n']).getD [] := by
  cases title with
  | none => rfl
  | some t => rw [Option.toList_some, List.flatMap_singleton, charsOf_titled]; rfl

theorem charsOf_table (s : Sheet) (x : Section) :
    charsOf (Table.markup ⟨x.title, s.columns.map Prod.snd, x.rows.map s.texts⟩) =
      sectionTable s x := by
  have hopening : charsOf [⟨"table", "\n"⟩, ⟨"thead", "\n"⟩, ⟨"tr", ""⟩] =
      "<table>\n<thead>\n<tr>".toList := by decide
  have hmiddle : charsOf [⟨"/tr", "\n"⟩, ⟨"/thead", "\n"⟩, ⟨"tbody", "\n"⟩] =
      "</tr>\n</thead>\n<tbody>\n".toList := by decide
  have hclosing : charsOf [⟨"/tbody", "\n"⟩, ⟨"/table", "\n"⟩] = "</tbody>\n</table>\n".toList := by
    decide
  have hlabels : charsOf ((s.columns.map Prod.snd).flatMap (elementMarkup "th" "")) =
      s.columns.flatMap fun c => element "th" c.2 := by
    rw [charsOf_elements, List.flatMap_map]
  have hrows : charsOf ((x.rows.map s.texts).flatMap rowMarkup) =
      x.rows.flatMap fun r => "<tr>".toList ++ row (s.texts r) ++ "</tr>\n".toList := by
    rw [charsOf_flatMap, List.flatMap_map]
    exact List.flatMap_congr fun r _ => charsOf_row _
  rw [Table.markup, sectionTable]
  cases x.title <;>
    simp only [charsOf_append, charsOf_heading, hopening, hlabels, hmiddle, hrows, hclosing,
      List.append_assoc, List.nil_append, Option.map_none, Option.map_some, Option.getD_none,
      Option.getD_some]

theorem charsOf_totals (s : Sheet) :
    charsOf ((s.report.totals.map s.texts).toList.flatMap totalsMarkup) = totals s := by
  have hopening : charsOf [⟨"table class=\"totals\"", "\n"⟩, ⟨"tbody", "\n"⟩,
      ⟨"tr class=\"totals\"", ""⟩] =
        "<table class=\"totals\">\n<tbody>\n<tr class=\"totals\">".toList := by decide
  have hclosing : charsOf [⟨"/tr", "\n"⟩, ⟨"/tbody", "\n"⟩, ⟨"/table", "\n"⟩] =
      "</tr>\n</tbody>\n</table>\n".toList := by decide
  unfold totals
  cases s.report.totals with
  | none => rfl
  | some r =>
    rw [Option.map_some, Option.toList_some, List.flatMap_singleton, totalsMarkup, charsOf_append,
      charsOf_append, hopening, charsOf_elements, hclosing]
    exact (List.append_assoc _ _ _).symm

def brokenAt (c : Char) : List Char := if c = '\n' then "<br>\n".toList else [c]

theorem flatMap_brokenAt_escape {c : Char} (h : c ≠ '\n') :
    (escape c).flatMap brokenAt = escape c := by
  unfold escape
  split_ifs <;> first | decide | exact (List.append_nil _).trans (if_neg h)

theorem escapedLines_eq (s : String) :
    escapedLines s = (Text.splitOn '\n' s.toList).headI.flatMap escape ++
      (Text.splitOn '\n' s.toList).tail.flatMap fun line =>
        "<br>\n".toList ++ line.flatMap escape := by
  rw [escapedLines, Text.replaceFrom_singleton, escaped_eq]
  change (s.toList.flatMap escape).flatMap brokenAt = _
  -- escaping neither makes nor takes line ends, so the breaks are where the text has its own
  induction s.toList with
  | nil => rfl
  | cons c cs ih =>
    obtain ⟨line, lines, hlines⟩ := List.exists_cons_of_ne_nil (Text.splitOn_ne_nil '\n' cs)
    rw [hlines] at ih
    rw [List.flatMap_cons, List.flatMap_append, ih]
    by_cases hc : c = '\n'
    · have hbreak : (escape '\n').flatMap brokenAt = "<br>\n".toList := by decide
      rw [Text.splitOn, if_pos hc, hlines, hc, hbreak]
      exact (List.append_assoc _ _ _).symm
    · rw [Text.splitOn, if_neg hc, hlines, flatMap_brokenAt_escape hc]
      exact (List.append_assoc _ _ _).symm

theorem charsOf_ofList (tag : String) (text : List Char) :
    charsOf [⟨tag, .ofList text⟩] = '<' :: (tag.toList ++ '>' :: text.flatMap escape) := by
  rw [charsOf, List.flatMap_singleton, Markup.chars, escaped_eq, String.toList_ofList]

theorem charsOf_description (s : String) :
    charsOf (descriptionMarkup s) =
      "<p class=\"description\">".toList ++ escapedLines s ++ "</p>\n".toList := by
  have hopening (line : List Char) : charsOf [⟨"p class=\"description\"", .ofList line⟩] =
      "<p class=\"description\">".toList ++ line.flatMap escape := charsOf_ofList _ line
  have hline (line : List Char) : charsOf (lineMarkup line) =
      "<br>\n".toList ++ line.flatMap escape := charsOf_ofList "br" ('\n' :: line)
  have hclosing : charsOf [⟨"/p", "\n"⟩] = "</p>\n".toList := by decide
  rw [descriptionMarkup, charsOf_append, charsOf_append, charsOf_flatMap, hopening, hclosing,
    escapedLines_eq]
  simp only [hline, List.append_assoc]

theorem isKept_of_isDigit {c : Char} (h : c.isDigit = true) : isKept c = true := by
  have hne (x : Char) (hx : x.isDigit = false) : c ≠ x := by
    rintro rfl
    rw [hx] at h
    cases h
  rw [isKept, escape, if_neg (hne _ (by decide)), if_neg (hne _ (by decide)),
    if_neg (hne _ (by decide)), if_neg (hne _ (by decide)), if_neg (hne _ (by decide))]
  exact BEq.refl [c]

theorem all_isKept_padded (width n : Nat) : (Timestamp.padded width n).all isKept = true := by
  refine List.all_eq_true.mpr fun c hc => isKept_of_isDigit ?_
  rcases List.mem_append.mp hc with hc | hc
  · rw [List.eq_of_mem_replicate hc]
    rfl
  · exact Text.isDigit_digits n c hc

theorem escaped_generated (t : Timestamp) :
    escaped ("Generated " ++ t.text) = "Generated ".toList ++ t.text.toList := by
  have hmarks : isKept '-' = true ∧ isKept ' ' = true ∧ isKept ':' = true := by decide
  have hword : "Generated ".toList.all isKept = true := by decide
  have hzone : " UTC".toList.all isKept = true := by decide
  have htext : t.text.toList.all isKept = true := by
    rw [Timestamp.text, String.toList_ofList]
    simp only [List.all_append, List.all_cons, all_isKept_padded, hmarks, hzone, Bool.and_self]
  rw [escaped_of_kept] <;> rw [String.toList_append]
  rw [List.all_append, hword, htext, Bool.and_self]

theorem charsOf_foot (s : Sheet) :
    charsOf (footMarkup ("Generated " ++ s.generatedAt.text)) = foot s := by
  have hword : '<' :: ("p class=\"generated\"".toList ++ '>' :: "Generated ".toList) =
      "<p class=\"generated\">Generated ".toList := by decide
  have hopening : charsOf [⟨"p class=\"generated\"", "Generated " ++ s.generatedAt.text⟩] =
      "<p class=\"generated\">Generated ".toList ++ s.generatedAt.text.toList := by
    rw [charsOf, List.flatMap_singleton, Markup.chars, escaped_generated]
    refine Eq.trans ?_ (congrArg (· ++ s.generatedAt.text.toList) hword)
    simp only [List.cons_append, List.append_assoc]
  have hclosing : charsOf [⟨"/p", "\n"⟩, ⟨"/body", "\n"⟩, ⟨"/html", "\n"⟩] =
      "</p>\n</body>\n</html>\n".toList := by decide
  rw [footMarkup, ← List.singleton_append, charsOf_append]
  exact congrArg₂ (· ++ ·) hopening hclosing

theorem escaped_styles : escaped styles = styles.toList := by
  apply escaped_of_kept
  unfold styles
  simp only [String.toList_append, List.all_append, Bool.and_eq_true]
  exact ⟨⟨⟨⟨⟨by decide, by decide⟩, by decide⟩, by decide⟩, by decide⟩, by decide⟩

theorem charsOf_titles (s : Sheet) :
    charsOf (elementMarkup "h1" "\n" s.title ++
      (shown s).description.toList.flatMap descriptionMarkup) = titles s := by
  have hdescription : charsOf ((shown s).description.toList.flatMap descriptionMarkup) =
      if s.description.isEmpty then [] else
        "<p class=\"description\">".toList ++ escapedLines s.description ++ "</p>\n".toList := by
    unfold shown
    split_ifs
    · rfl
    · rw [Option.toList_some, List.flatMap_singleton, charsOf_description]
  rw [titles, charsOf_append, charsOf_titled, hdescription]

theorem charsOf_tables (s : Sheet) :
    charsOf ((shown s).tables.flatMap Table.markup) =
      s.report.sections.flatMap (sectionTable s) := by
  rw [charsOf_flatMap, shown, List.flatMap_map]
  exact List.flatMap_congr fun x _ => charsOf_table s x

theorem charsOf_opening :
    charsOf [⟨"!DOCTYPE html", "\n"⟩, ⟨"html", "\n"⟩, ⟨"head", "\n"⟩,
      ⟨"meta charset=\"utf-8\"", "\n"⟩] =
        "<!DOCTYPE html>\n<html>\n<head>\n<meta charset=\"utf-8\">\n".toList := by
  decide +kernel

theorem charsOf_styles :
    '\n' :: (charsOf (elementMarkup "style" "\n" styles) ++
      charsOf [⟨"/head", "\n"⟩, ⟨"body", "\n"⟩]) =
        "\n<style>".toList ++ (styles.toList ++ "</style>\n</head>\n<body>\n".toList) := by
  have hbefore : '\n' :: ("<".toList ++ ("style".toList ++ ">".toList)) = "\n<style>".toList := by
    decide
  have hbehind : "</".toList ++ ("style".toList ++ (">".toList ++ ('\n' ::
      charsOf [⟨"/head", "\n"⟩, ⟨"body", "\n"⟩]))) = "</style>\n</head>\n<body>\n".toList := by
    decide
  rw [charsOf_titled, element, escaped_styles, ← hbefore, ← hbehind]
  simp only [List.append_assoc, List.cons_append, List.nil_append]

theorem charsOf_head (s : Sheet) :
    charsOf ([⟨"!DOCTYPE html", "\n"⟩, ⟨"html", "\n"⟩, ⟨"head", "\n"⟩,
      ⟨"meta charset=\"utf-8\"", "\n"⟩] ++ elementMarkup "title" "\n" s.title ++
        (elementMarkup "style" "\n" styles ++ [⟨"/head", "\n"⟩, ⟨"body", "\n"⟩])) = head s := by
  have hassoc (a b c d e : List Char) : a ++ (b ++ (c ++ (d ++ e))) = a ++ b ++ c ++ d ++ e := by
    simp only [List.append_assoc]
  have hparts := congrArg₂ (fun before behind => before ++ (element "title" s.title ++ behind))
    charsOf_opening charsOf_styles
  refine Eq.trans ?_ (hparts.trans (hassoc _ _ _ _ _))
  rw [charsOf_append, charsOf_append, charsOf_append, charsOf_titled, List.append_assoc,
    List.append_assoc, List.singleton_append]

theorem charsOf_shown (s : Sheet) : charsOf (shown s).markup = chars s := by
  have hparts : (shown s).markup =
      [⟨"!DOCTYPE html", "\n"⟩, ⟨"html", "\n"⟩, ⟨"head", "\n"⟩,
        ⟨"meta charset=\"utf-8\"", "\n"⟩] ++ elementMarkup "title" "\n" s.title ++
          (elementMarkup "style" "\n" styles ++ [⟨"/head", "\n"⟩, ⟨"body", "\n"⟩]) ++
        (elementMarkup "h1" "\n" s.title ++
          (shown s).description.toList.flatMap descriptionMarkup) ++
        (shown s).tables.flatMap Table.markup ++
        (s.report.totals.map s.texts).toList.flatMap totalsMarkup ++
        footMarkup ("Generated " ++ s.generatedAt.text) := by
    simp only [Document.markup, List.append_assoc]
    rfl
  rw [hparts, charsOf_append, charsOf_append, charsOf_append, charsOf_append, charsOf_head,
    charsOf_titles, charsOf_tables, charsOf_totals, charsOf_foot, chars]

end Reporting.Html
