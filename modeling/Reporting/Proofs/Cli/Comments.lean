import Mathlib.Data.List.Basic
import Reporting.Cli.Run
import Reporting.Proofs.Text.Decimal
import Reporting.Proofs.Text.Pieces

/-! The comments above a printed statement. A comment ends with its line, so a text that is put into
one stays within comments only if the beginning of a comment follows each of its line breaks. -/

namespace Reporting

namespace Cli

def dashes : List Char := ['-', '-']

def IsComment (line : String) : Prop := dashes <+: line.toList ∧ '\n' ∉ line.toList

def continuesFrom : List Char → Bool
  | [] => true
  | c :: cs => (c != '\n' || dashes.isPrefixOf cs) && continuesFrom cs

def Continues (s : String) : Prop := continuesFrom s.toList = true

theorem continuesFrom_of_not_mem {cs : List Char} (h : '\n' ∉ cs) : continuesFrom cs = true := by
  induction cs with
  | nil => rfl
  | cons c cs ih =>
    rw [List.mem_cons, not_or] at h
    simp [continuesFrom, ih h.2, Ne.symm h.1]

theorem isPrefixOf_dashes_append {bs : List Char} (h : bs.head? ≠ some '-') (cs : List Char) :
    dashes.isPrefixOf (cs ++ bs) = dashes.isPrefixOf cs := by
  match cs, bs with
  | [], [] => rfl
  | [c], [] => rfl
  | [], b :: bs =>
    have hb : b ≠ '-' := fun hb => h (congrArg some hb)
    simp [dashes, List.isPrefixOf, Ne.symm hb]
  | [c], b :: bs =>
    have hb : b ≠ '-' := fun hb => h (congrArg some hb)
    simp [dashes, List.isPrefixOf, Ne.symm hb]
  | c :: c' :: cs, bs => rfl

theorem continuesFrom_append {bs : List Char} (h : bs.head? ≠ some '-') (cs : List Char) :
    continuesFrom (cs ++ bs) = (continuesFrom cs && continuesFrom bs) := by
  induction cs with
  | nil => rfl
  | cons c cs ih =>
    rw [List.cons_append, continuesFrom, continuesFrom, ih, isPrefixOf_dashes_append h,
      Bool.and_assoc]

theorem forall_tail_splitOn_iff (cs : List Char) :
    (∀ l ∈ (Text.splitOn '\n' cs).tail, dashes <+: l) ↔ continuesFrom cs = true := by
  induction cs with
  | nil => exact iff_of_true (fun _ hl => absurd hl List.not_mem_nil) rfl
  | cons c cs ih =>
    obtain ⟨p, ps, hp⟩ := List.exists_cons_of_ne_nil (Text.splitOn_ne_nil '\n' cs)
    have hbreak : '\n' ∉ dashes := by decide
    have hfirst := Text.prefix_headI_splitOn_iff hbreak cs
    rw [hp] at ih hfirst
    by_cases hc : c = '\n'
    · rw [Text.splitOn, if_pos hc, hp, List.tail_cons, List.forall_mem_cons]
      refine (and_congr hfirst ih).trans ?_
      simp [continuesFrom, hc]
    · rw [Text.splitOn, if_neg hc, hp]
      refine ih.trans ?_
      simp [continuesFrom, hc]

theorem continuesFrom_text (t : SortTerm) {bs : List Char} (h : bs.head? ≠ some '-') :
    continuesFrom (t.text.toList ++ bs) = (continuesFrom t.key.toList && continuesFrom bs) := by
  let ending := (if t.numeric then " + 0 " else " ").toList ++ t.direction.text.toList
  have hending : continuesFrom ending = true ∧ (ending ++ bs).head? = some ' ' := by
    cases hnumeric : t.numeric <;> cases hdirection : t.direction <;>
      simp only [ending, hnumeric, hdirection] <;> exact ⟨by decide, rfl⟩
  have htext : t.text.toList ++ bs = t.key.toList ++ (ending ++ bs) := by
    simp only [SortTerm.text, ending, String.toList_append, List.append_assoc]
  rw [htext, continuesFrom_append (by rw [hending.2]; decide), continuesFrom_append h, hending.1,
    Bool.true_and]

theorem continues_text_iff (o : SortOrder) :
    Continues o.text ↔ ∀ t ∈ o.terms, Continues t.key := by
  rw [Continues, SortOrder.text, String.toList_intercalate, List.map_map]
  induction o.terms with
  | nil => exact iff_of_true rfl (fun _ ht => absurd ht List.not_mem_nil)
  | cons t ts ih =>
    cases ts with
    | nil =>
      have hnothing : ([] : List Char).head? ≠ some '-' := nofun
      have ht := continuesFrom_text t hnothing
      rw [List.append_nil] at ht
      rw [List.map_singleton, List.intercalate_singleton, Function.comp_apply, ht,
        List.forall_mem_singleton, Continues, continuesFrom, Bool.and_true]
    | cons t' ts =>
      rw [List.map_cons, List.map_cons, List.intercalate_cons_cons, ← List.map_cons,
        List.append_assoc, Function.comp_apply, continuesFrom_text t (by exact nofun),
        List.forall_mem_cons, ← ih, Bool.and_eq_true]
      exact Iff.rfl

def printed (ls : List String) : List (List Char) := ls.flatMap fun l => Text.splitOn '\n' l.toList

theorem toList_lines (ls : List String) :
    (lines ls).toList = ls.flatMap fun l => l.toList ++ ['\n'] := by
  rw [lines, String.toList_join, List.flatMap_map]
  exact List.flatMap_congr fun l _ => by simp

theorem lines_append (ls ls' : List String) : lines (ls ++ ls') = lines ls ++ lines ls' := by
  rw [← String.toList_inj, String.toList_append]
  simp only [toList_lines, List.flatMap_append]

theorem splitOn_lines (ls : List String) :
    Text.splitOn '\n' (lines ls).toList = printed ls ++ [[]] := by
  induction ls with
  | nil => rfl
  | cons l ls ih =>
    rw [toList_lines] at ih
    rw [toList_lines, List.flatMap_cons, List.append_assoc, List.singleton_append,
      Text.splitOn_append, ih, printed, printed, List.flatMap_cons, List.append_assoc]

theorem toList_lines_eq (ls : List String) :
    (lines ls).toList = (printed ls).flatMap fun l => l ++ ['\n'] := by
  rw [toList_lines, printed, List.flatMap_assoc]
  exact List.flatMap_congr fun l _ => (Text.flatMap_splitOn '\n' l.toList).symm

theorem printed_eq_map {ls : List String} (h : ∀ l ∈ ls, IsComment l) :
    printed ls = ls.map String.toList := by
  induction ls with
  | nil => rfl
  | cons l ls ih =>
    obtain ⟨hl, hls⟩ := List.forall_mem_cons.mp h
    rw [printed, List.flatMap_cons, Text.splitOn_of_not_mem hl.2]
    exact congrArg _ (ih hls)

theorem exists_comments_iff (header : List String) :
    (∃ ls, (∀ l ∈ ls, IsComment l) ∧ lines ls = lines header) ↔
      ∀ l ∈ printed header, dashes <+: l := by
  constructor
  · rintro ⟨ls, hls, heq⟩ l hl
    -- no comment has a line break, so these lines are the printed ones
    have hsplit := congrArg (fun s => Text.splitOn '\n' s.toList) heq
    simp only [splitOn_lines, printed_eq_map hls, List.append_cancel_right_eq] at hsplit
    rw [← hsplit] at hl
    obtain ⟨line, hline, rfl⟩ := List.mem_map.mp hl
    exact (hls line hline).1
  · intro h
    refine ⟨(printed header).map String.ofList, fun l hl => ?_, ?_⟩
    · obtain ⟨cs, hcs, rfl⟩ := List.mem_map.mp hl
      obtain ⟨line, -, hpiece⟩ := List.mem_flatMap.mp hcs
      rw [IsComment, String.toList_ofList]
      exact ⟨h cs hcs, Text.not_mem_of_mem_splitOn hpiece⟩
    · rw [← String.toList_inj, toList_lines_eq header, toList_lines, List.flatMap_map]
      simp only [String.toList_ofList]

theorem printed_comment_iff (label : String) (hstart : dashes <+: label.toList)
    (hlabel : '\n' ∉ label.toList) (s : String) :
    (∀ l ∈ Text.splitOn '\n' (label ++ s).toList, dashes <+: l) ↔ Continues s := by
  rw [String.toList_append, Text.splitOn_append_of_not_mem hlabel, List.forall_mem_cons,
    forall_tail_splitOn_iff]
  exact and_iff_right (hstart.trans (List.prefix_append _ _))

theorem continues_ofNat (n : Nat) : Continues (Text.ofNat n) := by
  refine continuesFrom_of_not_mem fun h => ?_
  rw [Text.ofNat, String.toList_ofList] at h
  exact absurd (Text.isDigit_digits n _ h) (by decide)

theorem continues_title (dialect : Sql.Dialect) : Continues dialect.title := by
  cases dialect <;> rfl

theorem printed_comments_iff (file : String) (d : DefinitionFile) (p : Plan)
    (dialect : Sql.Dialect) :
    (∀ l ∈ printed (comments file d p dialect), dashes <+: l) ↔
      Continues file ∧ Continues d.report.title ∧ ∀ t ∈ p.order.terms, Continues t.key := by
  have hfirst := printed_comment_iff "-- folio compiled SQL" (by decide) (by decide) ""
  have hsource := printed_comment_iff "-- Source: " (by decide) (by decide) file
  have hreport := printed_comment_iff "-- Report: " (by decide) (by decide) d.report.title
  have hdialect := printed_comment_iff "-- Dialect: " (by decide) (by decide) dialect.title
  have hconditions := printed_comment_iff "-- Conditions: " (by decide) (by decide)
    (Text.ofNat p.filter.length)
  have horder := printed_comment_iff "-- Order: " (by decide) (by decide) p.order.text
  rw [String.append_empty] at hfirst
  rw [continues_text_iff] at horder
  simp only [printed, comments, List.flatMap_cons, List.flatMap_nil, List.append_nil,
    List.forall_mem_append, hsource, hreport, hdialect, hconditions, horder,
    continues_title, continues_ofNat, true_and]
  exact and_iff_right (hfirst.mpr rfl)

theorem compiled_verbose (file : String) (d : DefinitionFile) (dialect : Sql.Dialect) :
    compiled file d dialect .verbose =
      lines (comments file d (Plan.ofDefinition d.catalog d.report) dialect) ++ lines [""] ++
        compiled file d dialect .plain := by
  rw [compiled, compiled, ← lines_append, ← lines_append, List.append_assoc]
  rfl

def IsCommented (verbose plain : String) : Prop :=
  ∃ ls, (∀ l ∈ ls, IsComment l) ∧ verbose = lines ls ++ lines [""] ++ plain

theorem isCommented_iff_printed (file : String) (d : DefinitionFile) (dialect : Sql.Dialect) :
    IsCommented (compiled file d dialect .verbose) (compiled file d dialect .plain) ↔
      ∀ l ∈ printed (comments file d (Plan.ofDefinition d.catalog d.report) dialect),
        dashes <+: l := by
  rw [← exists_comments_iff, IsCommented]
  refine exists_congr fun ls => and_congr_right fun _ => ?_
  rw [compiled_verbose]
  constructor
  · intro h
    have h := String.toList_inj.mpr h
    simp only [String.toList_append, List.append_cancel_right_eq] at h
    exact (String.toList_inj.mp h).symm
  · intro h
    rw [h]

/-- A statement is printed below comments only, as long as no line break in the path, the title or a
key that the rows are ordered by lets out what follows it. -/
theorem isCommented_compiled_iff (file : String) (d : DefinitionFile) (dialect : Sql.Dialect) :
    IsCommented (compiled file d dialect .verbose) (compiled file d dialect .plain) ↔
      Continues file ∧ Continues d.report.title ∧
        ∀ t ∈ (Plan.ofDefinition d.catalog d.report).order.terms, Continues t.key := by
  rw [isCommented_iff_printed, printed_comments_iff]

/-- A title can hold a line of its own. -/
theorem not_forall_isCommented :
    ¬∀ (file : String) (d : DefinitionFile) (dialect : Sql.Dialect),
      IsCommented (compiled file d dialect .verbose) (compiled file d dialect .plain) := by
  intro h
  let d : DefinitionFile :=
    { catalog := { name := "Books", entity := "Book" }
      report := { title := "Books\nDROP TABLE Book;" } }
  have hall := (isCommented_iff_printed "books.json" d .sqlite).mp (h _ _ _)
  have htitle : continuesFrom d.report.title.toList = false := by decide
  have hcontinues := ((printed_comments_iff _ _ _ _).mp hall).2.1
  rw [Continues, htitle] at hcontinues
  cases hcontinues

end Cli

end Reporting
