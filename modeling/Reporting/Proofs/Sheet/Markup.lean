import Mathlib.Data.List.Basic
import Mathlib.Tactic.SplitIfs
import Reporting.Sheet.Html
import Reporting.Proofs.Text.Pieces

/-! Marked-up text taken apart at its tags. A tag is read with the text up to the next one, and in
that text five entities stand for the characters that would begin or end a tag or an entity. -/

namespace Reporting.Html

/-- Text with its entities read. An ampersand that begins none of them is a fault. -/
def decode : List Char → Option (List Char)
  | [] => some []
  | '&' :: 'a' :: 'm' :: 'p' :: ';' :: cs => (decode cs).map ('&' :: ·)
  | '&' :: 'l' :: 't' :: ';' :: cs => (decode cs).map ('<' :: ·)
  | '&' :: 'g' :: 't' :: ';' :: cs => (decode cs).map ('>' :: ·)
  | '&' :: 'q' :: 'u' :: 'o' :: 't' :: ';' :: cs => (decode cs).map ('\x22' :: ·)
  | '&' :: '#' :: '3' :: '9' :: ';' :: cs => (decode cs).map ('\x27' :: ·)
  | '&' :: _ => none
  | c :: cs => (decode cs).map (c :: ·)

structure Markup where
  tag : String
  text : String
  deriving DecidableEq, Repr

def split : List Char → Option (List Char × List Markup)
  | [] => some ([], [])
  | c :: cs =>
    if c = '<' then
      match _h : Text.cutAt '>' cs with
      | none => none
      | some (tag, rest) =>
        (split rest).bind fun p =>
          (decode p.1).map fun text => ([], ⟨.ofList tag, .ofList text⟩ :: p.2)
    else (split cs).map fun p => (c :: p.1, p.2)
termination_by cs => cs.length
decreasing_by
  · rw [Text.eq_append_of_cutAt _h]
    simp only [List.length_cons, List.length_append]
    omega
  · exact Nat.lt_succ_self _

def markup (text : String) : Option (List Markup) :=
  match split text.toList with
  | some ([], ms) => some ms
  | _ => none

/-! What is written for a text and for a tag. -/

def escape (c : Char) : List Char :=
  if c = '&' then "&amp;".toList
  else if c = '<' then "&lt;".toList
  else if c = '>' then "&gt;".toList
  else if c = '\x22' then "&quot;".toList
  else if c = '\x27' then "&#39;".toList
  else [c]

theorem escaped_eq (s : String) : escaped s = s.toList.flatMap escape := by
  simp only [escaped, references, List.foldl_cons, List.foldl_nil, Text.replaceFrom_singleton,
    List.flatMap_assoc]
  refine List.flatMap_congr fun c _ => ?_
  by_cases hamp : c = '&'
  · rw [hamp]
    decide
  by_cases hlt : c = '<'
  · rw [hlt]
    decide
  by_cases hgt : c = '>'
  · rw [hgt]
    decide
  by_cases hquot : c = '\x22'
  · rw [hquot]
    decide
  by_cases hapos : c = '\x27'
  · rw [hapos]
    decide
  simp only [escape, hamp, hlt, hgt, hquot, hapos, if_false, List.flatMap_cons, List.flatMap_nil,
    List.append_nil]

theorem decode_escape (c : Char) (cs : List Char) :
    decode (escape c ++ cs) = (decode cs).map (c :: ·) := by
  unfold escape
  split_ifs with hamp hlt hgt hquot hapos
  · rw [hamp]
    rfl
  · rw [hlt]
    rfl
  · rw [hgt]
    rfl
  · rw [hquot]
    rfl
  · rw [hapos]
    rfl
  · rw [List.singleton_append, decode]
    all_goals simp [hamp]

theorem decode_escaped (s : String) : decode (escaped s) = some s.toList := by
  rw [escaped_eq]
  induction s.toList with
  | nil => rfl
  | cons c cs ih => rw [List.flatMap_cons, decode_escape, ih, Option.map_some]

theorem not_mem_escape (c : Char) : '<' ∉ escape c := by
  unfold escape
  split_ifs with hamp hlt <;> first | decide | exact fun h => hlt (List.mem_singleton.mp h).symm

theorem not_mem_escaped (s : String) : '<' ∉ escaped s := by
  rw [escaped_eq]
  intro h
  obtain ⟨c, -, hc⟩ := List.mem_flatMap.mp h
  exact not_mem_escape c hc

theorem split_text {cs : List Char} (h : '<' ∉ cs) (rest : List Char) :
    split (cs ++ rest) = (split rest).map fun p => (cs ++ p.1, p.2) := by
  induction cs with
  | nil => exact Option.map_id'.symm
  | cons c cs ih =>
    have hc : c ≠ '<' := fun hc => h (hc ▸ List.mem_cons_self)
    have hcs : '<' ∉ cs := fun hcs => h (List.mem_cons_of_mem _ hcs)
    rw [List.cons_append, split, if_neg hc, ih hcs, Option.map_map]
    rfl

theorem split_tag {tag : List Char} (h : '>' ∉ tag) (rest : List Char) :
    split ('<' :: (tag ++ '>' :: rest)) = (split rest).bind fun p =>
      (decode p.1).map fun text => ([], ⟨.ofList tag, .ofList text⟩ :: p.2) := by
  rw [split, if_pos rfl]
  split
  · rename_i hcut
    rw [Text.cutAt_append h] at hcut
    cases hcut
  · rename_i hcut
    rw [Text.cutAt_append h] at hcut
    cases hcut
    rfl

def Markup.chars (m : Markup) : List Char := '<' :: (m.tag.toList ++ '>' :: escaped m.text)

def Markup.IsSound (m : Markup) : Prop := '>' ∉ m.tag.toList

theorem split_chars {ms : List Markup} (h : ∀ m ∈ ms, m.IsSound) :
    split (ms.flatMap Markup.chars) = some ([], ms) := by
  induction ms with
  | nil => rw [List.flatMap_nil, split]
  | cons m ms ih =>
    have hms := ih fun m' hm' => h m' (List.mem_cons_of_mem _ hm')
    rw [List.flatMap_cons, Markup.chars, List.cons_append, List.append_assoc, List.cons_append,
      split_tag (h m List.mem_cons_self), split_text (not_mem_escaped m.text), hms]
    simp only [Option.map_some, Option.bind_some, List.append_nil, decode_escaped,
      String.ofList_toList]

theorem markup_chars {ms : List Markup} (h : ∀ m ∈ ms, m.IsSound) :
    markup (.ofList (ms.flatMap Markup.chars)) = some ms := by
  rw [markup, String.toList_ofList, split_chars h]

end Reporting.Html
