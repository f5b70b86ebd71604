import Mathlib.Data.List.Basic
import Mathlib.Data.List.DropRight
import Mathlib.Data.List.TakeWhile
import Mathlib.Tactic.SplitIfs
import Reporting.Text.Blank
import Reporting.Text.Split

/-! The pieces of a text between the occurrences of a character, and what is left of a text without
the blanks around it. Both can be done again without a change. -/

namespace Reporting.Text

variable {sep : Char} {cs p : List Char}

theorem cutAt_append {sep : Char} {cs : List Char} (h : sep ∉ cs) (rest : List Char) :
    cutAt sep (cs ++ sep :: rest) = some (cs, rest) := by
  induction cs with
  | nil => simp [cutAt]
  | cons c cs ih =>
    have hc : c ≠ sep := fun hc => h (hc ▸ List.mem_cons_self)
    have hcs : sep ∉ cs := fun hcs => h (List.mem_cons_of_mem _ hcs)
    rw [List.cons_append, cutAt, if_neg hc, ih hcs]
    rfl

theorem cutAt_eq_none_iff {sep : Char} {cs : List Char} : cutAt sep cs = none ↔ sep ∉ cs := by
  constructor
  · intro h hmem
    obtain ⟨a, b, rfl, ha⟩ := List.eq_append_cons_of_mem hmem
    rw [cutAt_append ha] at h
    cases h
  · intro h
    cases hcut : cutAt sep cs with
    | none => rfl
    | some p =>
      have hcs := eq_append_of_cutAt (a := p.1) (b := p.2) hcut
      rw [hcs] at h
      exact absurd (List.mem_append_right _ List.mem_cons_self) h

theorem splitOn_eq (sep : Char) (cs : List Char) : splitOn sep cs = cs.splitOn sep := by
  induction cs with
  | nil => rfl
  | cons c cs ih =>
    obtain ⟨p, ps, hp⟩ := List.exists_cons_of_ne_nil (splitOn_ne_nil sep cs)
    rw [List.splitOn_cons_eq_if_modifyHead, ← ih, splitOn, hp]
    simp only [beq_iff_eq, List.modifyHead_cons]

theorem splitOn_of_not_mem (h : sep ∉ cs) : splitOn sep cs = [cs] := by
  rw [splitOn_eq, List.splitOn_eq_singleton h]

theorem splitOn_append (sep : Char) (as bs : List Char) :
    splitOn sep (as ++ sep :: bs) = splitOn sep as ++ splitOn sep bs := by
  rw [splitOn_eq, splitOn_eq, splitOn_eq, List.splitOn_append_cons_self]

theorem not_mem_of_mem_splitOn (h : p ∈ splitOn sep cs) : sep ∉ p := by
  induction cs generalizing p with
  | nil => exact List.mem_singleton.mp h ▸ List.not_mem_nil
  | cons c cs ih =>
    by_cases hc : c = sep
    · rw [splitOn, if_pos hc] at h
      rcases List.mem_cons.mp h with rfl | h
      · exact List.not_mem_nil
      · exact ih h
    · obtain ⟨q, qs, hq⟩ := List.exists_cons_of_ne_nil (splitOn_ne_nil sep cs)
      rw [hq] at ih
      simp only [splitOn, if_neg hc, hq] at h
      rcases List.mem_cons.mp h with rfl | h
      · exact List.mem_cons.not.mpr (not_or.mpr ⟨fun h => hc h.symm, ih List.mem_cons_self⟩)
      · exact ih (List.mem_cons_of_mem _ h)

theorem splitOn_append_of_not_mem {as : List Char} (h : sep ∉ as) (bs : List Char) :
    splitOn sep (as ++ bs) = (as ++ (splitOn sep bs).headI) :: (splitOn sep bs).tail := by
  induction as with
  | nil =>
    obtain ⟨p, ps, hp⟩ := List.exists_cons_of_ne_nil (splitOn_ne_nil sep bs)
    rw [List.nil_append, List.nil_append, hp]
    rfl
  | cons a as ih =>
    rw [List.mem_cons, not_or] at h
    rw [List.cons_append, splitOn, if_neg (Ne.symm h.1), ih h.2]
    rfl

theorem prefix_headI_splitOn_iff {as : List Char} (h : sep ∉ as) (cs : List Char) :
    as <+: (splitOn sep cs).headI ↔ as <+: cs := by
  induction as generalizing cs with
  | nil => exact iff_of_true List.nil_prefix List.nil_prefix
  | cons a as ih =>
    rw [List.mem_cons, not_or] at h
    cases cs with
    | nil => exact Iff.rfl
    | cons c cs =>
      by_cases hc : c = sep
      · rw [splitOn, if_pos hc, List.cons_prefix_cons, hc]
        exact iff_of_false (List.cons_ne_nil a as ∘ List.prefix_nil.mp) fun hp => h.1 hp.1.symm
      · have hsep : sep ∉ [c] := List.mem_singleton.not.mpr (Ne.symm hc)
        have hsplit := splitOn_append_of_not_mem hsep cs
        rw [List.singleton_append] at hsplit
        rw [hsplit, List.headI_cons, List.singleton_append, List.cons_prefix_cons,
          List.cons_prefix_cons, ih h.2]

theorem flatMap_splitOn (sep : Char) (cs : List Char) :
    (splitOn sep cs).flatMap (fun p => p ++ [sep]) = cs ++ [sep] := by
  induction cs with
  | nil => rfl
  | cons c cs ih =>
    by_cases hc : c = sep
    · rw [splitOn, if_pos hc, List.flatMap_cons, ih, hc]
      rfl
    · obtain ⟨p, ps, hp⟩ := List.exists_cons_of_ne_nil (splitOn_ne_nil sep cs)
      rw [hp, List.flatMap_cons] at ih
      rw [splitOn, if_neg hc, hp, List.flatMap_cons, List.cons_append, List.cons_append, ih,
        List.cons_append]

theorem length_splitOn (sep : Char) (cs : List Char) :
    (splitOn sep cs).length = cs.count sep + 1 := by
  induction cs with
  | nil => rfl
  | cons c cs ih =>
    by_cases hc : c = sep
    · rw [splitOn, if_pos hc, List.length_cons, ih, hc, List.count_cons_self]
    · obtain ⟨p, ps, hp⟩ := List.exists_cons_of_ne_nil (splitOn_ne_nil sep cs)
      rw [hp] at ih
      rw [splitOn, if_neg hc, hp, List.count_cons_of_ne hc]
      exact ih

theorem exists_splitOn_append {bs : List Char} (h : sep ∉ bs) (as : List Char) :
    ∃ ps p, splitOn sep (as ++ bs) = ps ++ [p ++ bs] := by
  induction as with
  | nil => exact ⟨[], [], splitOn_of_not_mem h⟩
  | cons a as ih =>
    obtain ⟨ps, p, hsplit⟩ := ih
    rw [List.cons_append, splitOn, hsplit]
    split_ifs with ha
    · exact ⟨[] :: ps, p, rfl⟩
    · cases ps with
      | nil => exact ⟨[], a :: p, rfl⟩
      | cons q qs => exact ⟨(a :: q) :: qs, p, rfl⟩

theorem splitOn_intercalate {s : String} (hs : s.toList = [sep]) {ts : List String} (hne : ts ≠ [])
    (h : ∀ t ∈ ts, sep ∉ t.toList) :
    splitOn sep (s.intercalate ts).toList = ts.map String.toList := by
  rw [splitOn_eq, String.toList_intercalate, hs]
  refine List.splitOn_intercalate sep ?_ (List.map_eq_nil_iff.not.mpr hne)
  intro l hl
  obtain ⟨t, ht, rfl⟩ := List.mem_map.mp hl
  exact h t ht

theorem trim_eq (cs : List Char) : trim cs = (cs.dropWhile isBlank).rdropWhile isBlank := rfl

theorem mem_of_mem_trim {c : Char} (h : c ∈ trim cs) : c ∈ cs :=
  (List.dropWhile_suffix isBlank).subset ((List.rdropWhile_prefix isBlank _).subset h)

theorem trim_eq_self (h : ∀ c ∈ cs, isBlank c = false) : trim cs = cs := by
  have hfront : cs.dropWhile isBlank = cs := by
    rw [List.dropWhile_eq_self_iff]
    intro hlength
    rw [h _ (List.getElem_mem hlength)]
    exact Bool.false_ne_true
  rw [trim_eq, hfront, List.rdropWhile_eq_self_iff]
  intro hne
  rw [h _ (List.getLast_mem hne)]
  exact Bool.false_ne_true

/-- What is left of a text are the characters between the blanks at its two ends. -/
structure IsTrimmed (cs kept : List Char) : Prop where
  blanks : ∃ before after, cs = before ++ kept ++ after ∧
    (∀ c ∈ before, isBlank c = true) ∧ ∀ c ∈ after, isBlank c = true
  first : ∀ h : 0 < kept.length, isBlank kept[0] = false
  last : ∀ h : kept ≠ [], isBlank (kept.getLast h) = false

theorem isTrimmed_trim (cs : List Char) : IsTrimmed cs (trim cs) := by
  have hbegins : trim cs <+: cs.dropWhile isBlank := List.rdropWhile_prefix isBlank _
  refine ⟨⟨cs.takeWhile isBlank, (cs.dropWhile isBlank).rtakeWhile isBlank, ?_, ?_, ?_⟩, ?_, ?_⟩
  · rw [trim_eq, List.append_assoc, List.rdropWhile_append_rtakeWhile, List.takeWhile_append_dropWhile]
  · exact fun c hc => List.mem_takeWhile_imp hc
  · exact fun c hc => List.mem_rtakeWhile_imp hc
  · intro h
    rw [hbegins.getElem h, ← Bool.not_eq_true]
    exact List.dropWhile_eq_self_iff.mp (List.dropWhile_idempotent isBlank cs) _
  · intro h
    rw [← Bool.not_eq_true]
    exact List.rdropWhile_last_not isBlank _ h

theorem IsTrimmed.trim_eq {cs kept : List Char} (h : IsTrimmed cs kept) : trim cs = kept := by
  obtain ⟨⟨before, after, rfl, hbefore, hafter⟩, hfirst, hlast⟩ := h
  rw [Text.trim_eq, List.append_assoc, List.dropWhile_append_of_pos hbefore]
  cases kept with
  | nil => rw [List.nil_append, List.dropWhile_eq_nil_iff.mpr hafter, List.rdropWhile_nil]
  | cons k ks =>
    have hfront : (k :: ks ++ after).dropWhile isBlank = k :: ks ++ after :=
      List.dropWhile_cons_of_neg (ne_true_of_eq_false (hfirst (Nat.succ_pos _)))
    have hback : (k :: ks ++ after).rdropWhile isBlank = (k :: ks).rdropWhile isBlank := by
      rw [List.rdropWhile, List.reverse_append, List.dropWhile_append_of_pos, ← List.rdropWhile]
      exact fun c hc => hafter c (List.mem_reverse.mp hc)
    rw [hfront, hback, List.rdropWhile_eq_self_iff]
    exact fun hne => ne_true_of_eq_false (hlast hne)

theorem isTrimmed_iff {cs kept : List Char} : IsTrimmed cs kept ↔ trim cs = kept :=
  ⟨IsTrimmed.trim_eq, fun h => h ▸ isTrimmed_trim cs⟩

theorem trim_trim (cs : List Char) : trim (trim cs) = trim cs := by
  have h := isTrimmed_trim cs
  exact isTrimmed_iff.mp ⟨⟨[], [], (List.append_nil _).symm, nofun, nofun⟩, h.first, h.last⟩

end Reporting.Text
