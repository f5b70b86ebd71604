import Mathlib.Tactic.IntervalCases
import Reporting.Programs
import Reporting.Proofs.Text.Replacing

/-! The arguments of a converter. A mark that is written in an argument gives way to its path. The
path of the input is put in first, so that a mark can arise with it that nobody has written. -/

namespace Reporting.CommandConverter

open Text (replaceFrom Apart)

/-- Both marks give way to their paths at once, wherever they are written. The characters that are
skipped belong to a mark. -/
def fillFrom (input output : List Char) : Nat → List Char → List Char
  | _, [] => []
  | skip + 1, _ :: cs => fillFrom input output skip cs
  | 0, c :: cs =>
    if inputMark.toList.isPrefixOf (c :: cs) then
      input ++ fillFrom input output (inputMark.toList.length - 1) cs
    else if outputMark.toList.isPrefixOf (c :: cs) then
      output ++ fillFrom input output (outputMark.toList.length - 1) cs
    else c :: fillFrom input output 0 cs

def fill (input output arg : String) : String :=
  .ofList (fillFrom input.toList output.toList 0 arg.toList)

/-- The arguments as they are written, with the paths for the marks; the paths come last where no
mark is written. -/
def filled (c : CommandConverter) (input output : String) : List String :=
  c.args.map (fill input output) ++
    if ∃ arg ∈ c.args, inputMark.toList <:+: arg.toList ∨ outputMark.toList <:+: arg.toList then []
    else [input, output]

variable {input output : List Char}

theorem inputMark_ne_nil : inputMark.toList ≠ [] := by decide

theorem outputMark_ne_nil : outputMark.toList ≠ [] := by decide

theorem apart_marks : Apart inputMark.toList outputMark.toList := by decide

theorem not_prefix_outputMark (cs : List Char) : ¬inputMark.toList <+: outputMark.toList ++ cs :=
  apart_marks.not_prefix_suffix inputMark_ne_nil outputMark_ne_nil (List.suffix_refl _) cs

theorem fillFrom_eq_drop (input output : List Char) (skip : Nat) (cs : List Char) :
    fillFrom input output skip cs = fillFrom input output 0 (cs.drop skip) := by
  induction skip generalizing cs with
  | zero => rfl
  | succ skip ih =>
    cases cs with
    | nil => rfl
    | cons c cs => exact ih cs

theorem fillFrom_inputMark (cs : List Char) :
    fillFrom input output 0 (inputMark.toList ++ cs) = input ++ fillFrom input output 0 cs := by
  have hstarts := List.isPrefixOf_iff_prefix.mpr (List.prefix_append inputMark.toList cs)
  generalize hmark : inputMark.toList = mark at hstarts
  cases mark with
  | nil => exact absurd hmark inputMark_ne_nil
  | cons m ms =>
    rw [List.cons_append] at hstarts ⊢
    rw [fillFrom, hmark, if_pos hstarts, fillFrom_eq_drop, List.length_cons, Nat.add_sub_cancel,
      List.drop_left]

theorem fillFrom_outputMark (cs : List Char) :
    fillFrom input output 0 (outputMark.toList ++ cs) = output ++ fillFrom input output 0 cs := by
  have hother : ¬inputMark.toList.isPrefixOf (outputMark.toList ++ cs) = true := fun h =>
    not_prefix_outputMark cs (List.isPrefixOf_iff_prefix.mp h)
  have hstarts := List.isPrefixOf_iff_prefix.mpr (List.prefix_append outputMark.toList cs)
  generalize hmark : outputMark.toList = mark at hother hstarts
  cases mark with
  | nil => exact absurd hmark outputMark_ne_nil
  | cons m ms =>
    rw [List.cons_append] at hother hstarts ⊢
    rw [fillFrom, if_neg hother, hmark, if_pos hstarts, fillFrom_eq_drop, List.length_cons,
      Nat.add_sub_cancel, List.drop_left]

theorem fillFrom_cons {c : Char} {cs : List Char} (hinput : ¬inputMark.toList <+: c :: cs)
    (houtput : ¬outputMark.toList <+: c :: cs) :
    fillFrom input output 0 (c :: cs) = c :: fillFrom input output 0 cs := by
  have hinput : ¬inputMark.toList.isPrefixOf (c :: cs) = true := fun h =>
    hinput (List.isPrefixOf_iff_prefix.mp h)
  have houtput : ¬outputMark.toList.isPrefixOf (c :: cs) = true := fun h =>
    houtput (List.isPrefixOf_iff_prefix.mp h)
  rw [fillFrom, if_neg hinput, if_neg houtput]

theorem not_prefix_replaced (h : Apart outputMark.toList input) {c : Char} {cs : List Char}
    (hwritten : ¬outputMark.toList <+: c :: cs) :
    ¬outputMark.toList <+: c :: replaceFrom inputMark.toList input 0 cs := by
  intro hbegins
  rcases Text.replaceFrom_cases inputMark_ne_nil input cs with
    ⟨-, hsame⟩ | ⟨before, after, hcs, -, hreplaced⟩
  · rw [hsame] at hbegins
    exact hwritten hbegins
  · rw [hreplaced] at hbegins
    rcases Nat.lt_or_ge (c :: before).length outputMark.toList.length with hlt | hge
    · have hword : c :: before ++ input ≠ [] := List.cons_ne_nil _ _
      exact h.not_prefix hlt hword hbegins
    · rw [List.append_assoc] at hbegins
      have hmark : outputMark.toList <+: c :: before :=
        List.prefix_of_prefix_length_le hbegins (List.prefix_append (c :: before) _) hge
      have hstart : c :: before <+: c :: cs := by
        rw [hcs, List.append_assoc]
        exact List.prefix_append (c :: before) _
      exact hwritten (hmark.trans hstart)

theorem replaceFrom_replaceFrom (h : Apart outputMark.toList input) (output cs : List Char) :
    replaceFrom outputMark.toList output 0 (replaceFrom inputMark.toList input 0 cs) =
      fillFrom input output 0 cs := by
  have hshorter {mark : List Char} (hmark : mark ≠ []) (rest : List Char) :
      rest.length < (mark ++ rest).length := by
    have hpos := List.length_pos_iff.mpr hmark
    rw [List.length_append]
    omega
  induction hlength : cs.length using Nat.strong_induction_on generalizing cs with
  | _ length ih =>
    subst hlength
    by_cases hinput : inputMark.toList <+: cs
    · obtain ⟨rest, rfl⟩ := hinput
      rw [Text.replaceFrom_pattern_append inputMark_ne_nil, h.replaceFrom_append outputMark_ne_nil,
        fillFrom_inputMark, ih _ (hshorter inputMark_ne_nil rest) rest rfl]
    by_cases houtput : outputMark.toList <+: cs
    · obtain ⟨rest, rfl⟩ := houtput
      rw [apart_marks.replaceFrom_append inputMark_ne_nil,
        Text.replaceFrom_pattern_append outputMark_ne_nil, fillFrom_outputMark,
        ih _ (hshorter outputMark_ne_nil rest) rest rfl]
    cases cs with
    | nil => rfl
    | cons c rest =>
      rw [Text.replaceFrom_cons hinput, Text.replaceFrom_cons (not_prefix_replaced h houtput),
        fillFrom_cons hinput houtput, ih _ (Nat.lt_succ_self rest.length) rest rfl]

theorem isTemplate_iff (arg : String) : isTemplate arg = true ↔
    inputMark.toList <:+: arg.toList ∨ outputMark.toList <:+: arg.toList := by
  rw [isTemplate, Bool.or_eq_true, Text.occursIn_iff, Text.occursIn_iff]

theorem arguments_eq_filled_iff (c : CommandConverter) (input output : String) :
    c.arguments input output = c.filled input output ↔
      ∀ arg ∈ c.args, Text.replace (Text.replace arg inputMark input) outputMark output =
        fill input output arg := by
  have htemplate : c.args.any isTemplate = true ↔ ∃ arg ∈ c.args,
      inputMark.toList <:+: arg.toList ∨ outputMark.toList <:+: arg.toList := by
    simp only [List.any_eq_true, isTemplate_iff]
  unfold arguments filled
  by_cases hmarked : c.args.any isTemplate = true
  · rw [if_pos hmarked, if_pos (htemplate.mp hmarked), List.append_nil, List.map_inj_left]
  · rw [if_neg hmarked, if_neg (htemplate.not.mp hmarked), List.append_cancel_right_eq,
      List.map_inj_left]

theorem replace_replace_eq_fill_iff (input output arg : String) :
    Text.replace (Text.replace arg inputMark input) outputMark output = fill input output arg ↔
      replaceFrom outputMark.toList output.toList 0
          (replaceFrom inputMark.toList input.toList 0 arg.toList) =
        fillFrom input.toList output.toList 0 arg.toList := by
  rw [Text.replace, Text.replace, fill, String.toList_ofList, String.ofList_inj]

/-- An argument that a beginning and an end of the other mark are written in, around the input. -/
def around (n k : Nat) : List Char :=
  outputMark.toList.take n ++ (inputMark.toList ++ outputMark.toList.drop (k + 1))

theorem replaceFrom_around (input : List Char) {n k : Nat} (hn : n < 8) (hk : k < 8) :
    replaceFrom inputMark.toList input 0 (around n k) =
      outputMark.toList.take n ++ (input ++ outputMark.toList.drop (k + 1)) := by
  have hend : replaceFrom inputMark.toList input 0 (outputMark.toList.drop (k + 1)) =
      outputMark.toList.drop (k + 1) := by
    interval_cases k <;> rfl
  rw [← hend, around]
  generalize outputMark.toList.drop (k + 1) = rest
  interval_cases n <;> rfl

theorem fillFrom_around (input output : List Char) {n k : Nat} (hn : n < 8) (hk : k < 8) :
    fillFrom input output 0 (around n k) =
      outputMark.toList.take n ++ (input ++ outputMark.toList.drop (k + 1)) := by
  have hend : fillFrom input output 0 (outputMark.toList.drop (k + 1)) =
      outputMark.toList.drop (k + 1) := by
    interval_cases k <;> rfl
  rw [← hend, around]
  generalize outputMark.toList.drop (k + 1) = rest
  interval_cases n <;> rfl

theorem apart_of_forall {input : List Char}
    (h : ∀ arg, replaceFrom outputMark.toList [] 0 (replaceFrom inputMark.toList input 0 arg) =
      fillFrom input [] 0 arg) : Apart outputMark.toList input := by
  intro n hn k hk hmark
  have hsame := h (around n k)
  rw [replaceFrom_around input hn hk, fillFrom_around input [] hn hk] at hsame
  rw [List.append_assoc] at hmark
  exact Text.replaceFrom_nil_ne outputMark_ne_nil hmark hsame

/-- The paths are put in for the written marks, whatever the arguments and the other path, exactly
if the path of the input completes no mark of the output. -/
theorem forall_arguments_eq_filled_iff (input : String) :
    (∀ (c : CommandConverter) (output : String),
      c.arguments input output = c.filled input output) ↔
        Apart outputMark.toList input.toList := by
  constructor
  · intro h
    apply apart_of_forall
    intro arg
    have hone := (arguments_eq_filled_iff ⟨"", [.ofList arg], ""⟩ input "").mp (h _ "") _
      List.mem_cons_self
    simp only [replace_replace_eq_fill_iff, String.toList_ofList] at hone
    exact hone
  · intro h c output
    rw [arguments_eq_filled_iff]
    intro arg _
    rw [replace_replace_eq_fill_iff]
    exact replaceFrom_replaceFrom h output.toList arg.toList

/-- A script that succeeds if there is a document where it is told to look. -/
def lookingScript (workDir : String) : CommandConverter :=
  ⟨"sh", ["-c", "test -f " ++ inputMark], workDir⟩

def markDirectory : Tree := ⟨.ofList [([outputMark], .directory)]⟩

-- The shell is run here, from the reading of the script on.
set_option maxRecDepth 100000 in
theorem toFile_lookingScript :
    ((lookingScript ("/" ++ outputMark)).toFile .builtIn "<p>" "/" markDirectory).1 =
      .error (.failed "sh" (.exited 1) "") := by
  decide +kernel

/-- In a directory that is named like the mark, the input is looked for where it is not. -/
theorem not_forall_arguments_eq_filled :
    (¬∀ (c : CommandConverter) (input output : String),
      c.arguments input output = c.filled input output) ∧
      ((lookingScript ("/" ++ outputMark)).toFile .builtIn "<p>" "/" markDirectory).1 =
        .error (.failed "sh" (.exited 1) "") := by
  refine ⟨fun h => ?_, toFile_lookingScript⟩
  have hone := (arguments_eq_filled_iff ⟨"sh", [inputMark], "/srv"⟩ "/srv/\x7boutput\x7d/folio.html"
    "/srv/folio.pdf").mp (h _ _ _) _ List.mem_cons_self
  revert hone
  decide

end Reporting.CommandConverter
