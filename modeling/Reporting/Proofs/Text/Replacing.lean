import Mathlib.Data.List.Infix
import Reporting.Text.Split

/-! Replacing a pattern in a text, occurrence after occurrence. A word that never completes the
pattern, whatever stands around it, is passed over as it is. -/

namespace Reporting.Text

variable {pattern replacement : List Char}

theorem occursIn_iff {cs : List Char} : occursIn pattern cs = true ↔ pattern <:+: cs := by
  induction cs with
  | nil => rw [occursIn, List.isEmpty_iff, List.infix_nil]
  | cons c cs ih =>
    rw [occursIn, Bool.or_eq_true, ih, List.isPrefixOf_iff_prefix, List.infix_cons_iff]

theorem replaceFrom_eq_drop (pattern replacement : List Char) (skip : Nat) (cs : List Char) :
    replaceFrom pattern replacement skip cs =
      replaceFrom pattern replacement 0 (cs.drop skip) := by
  induction skip generalizing cs with
  | zero => rfl
  | succ skip ih =>
    cases cs with
    | nil => rfl
    | cons c cs => exact ih cs

theorem replaceFrom_pattern_append (hpattern : pattern ≠ []) (cs : List Char) :
    replaceFrom pattern replacement 0 (pattern ++ cs) =
      replacement ++ replaceFrom pattern replacement 0 cs := by
  cases pattern with
  | nil => exact absurd rfl hpattern
  | cons p ps =>
    have hstarts : (p :: ps).isPrefixOf (p :: (ps ++ cs)) = true :=
      List.isPrefixOf_iff_prefix.mpr (List.prefix_append (p :: ps) cs)
    rw [List.cons_append, replaceFrom, if_pos hstarts, replaceFrom_eq_drop, List.length_cons,
      Nat.add_sub_cancel, List.drop_left]

theorem replaceFrom_cons {c : Char} {cs : List Char} (h : ¬pattern <+: c :: cs) :
    replaceFrom pattern replacement 0 (c :: cs) = c :: replaceFrom pattern replacement 0 cs := by
  have hstarts : ¬pattern.isPrefixOf (c :: cs) = true := fun hp =>
    h (List.isPrefixOf_iff_prefix.mp hp)
  rw [replaceFrom, if_neg hstarts]

theorem replaceFrom_of_not_infix {cs : List Char} (h : ¬pattern <:+: cs) :
    replaceFrom pattern replacement 0 cs = cs := by
  induction cs with
  | nil => rfl
  | cons c cs ih =>
    obtain ⟨hstarts, hrest⟩ := not_or.mp (List.infix_cons_iff.not.mp h)
    rw [replaceFrom_cons hstarts, ih hrest]

theorem append_dropLast_begins (before pattern after : List Char) :
    before ++ pattern.dropLast <+: before ++ pattern ++ after := by
  rw [List.append_assoc]
  exact (List.prefix_append_right_inj before).mpr
    ((List.dropLast_prefix pattern).trans (List.prefix_append pattern after))

theorem exists_leftmost (hpattern : pattern ≠ []) {cs : List Char} (h : pattern <:+: cs) :
    ∃ before after, cs = before ++ pattern ++ after ∧
      ¬pattern <:+: before ++ pattern.dropLast := by
  induction cs with
  | nil => exact absurd (List.infix_nil.mp h) hpattern
  | cons c cs ih =>
    by_cases hstarts : pattern <+: c :: cs
    · obtain ⟨after, hafter⟩ := hstarts
      refine ⟨[], after, hafter.symm, fun h => ?_⟩
      have hle := h.length_le
      have hpos := List.length_pos_iff.mpr hpattern
      rw [List.nil_append, List.length_dropLast] at hle
      omega
    · obtain ⟨before, after, hcs, hleftmost⟩ :=
        ih ((List.infix_cons_iff.mp h).resolve_left hstarts)
      refine ⟨c :: before, after, congrArg (c :: ·) hcs, fun h => ?_⟩
      rcases List.infix_cons_iff.mp h with hbegins | hinfix
      · rw [hcs] at hstarts
        exact hstarts (hbegins.trans (append_dropLast_begins (c :: before) pattern after))
      · exact hleftmost hinfix

theorem replaceFrom_leftmost (hpattern : pattern ≠ []) {before : List Char}
    (hleftmost : ¬pattern <:+: before ++ pattern.dropLast) (after : List Char) :
    replaceFrom pattern replacement 0 (before ++ pattern ++ after) =
      before ++ replacement ++ replaceFrom pattern replacement 0 after := by
  induction before with
  | nil => exact replaceFrom_pattern_append hpattern after
  | cons c before ih =>
    obtain ⟨hstarts, hleftmost⟩ := not_or.mp (List.infix_cons_iff.not.mp hleftmost)
    have hlength : pattern.length ≤ (c :: (before ++ pattern.dropLast)).length := by
      rw [List.length_cons, List.length_append, List.length_dropLast]
      omega
    have hnot : ¬pattern <+: c :: (before ++ pattern ++ after) := fun h =>
      hstarts (List.prefix_of_prefix_length_le h
        (append_dropLast_begins (c :: before) pattern after) hlength)
    rw [List.cons_append, List.cons_append, replaceFrom_cons hnot, ih hleftmost]
    rfl

theorem replaceFrom_cases (hpattern : pattern ≠ []) (replacement cs : List Char) :
    (¬pattern <:+: cs ∧ replaceFrom pattern replacement 0 cs = cs) ∨
      ∃ before after, cs = before ++ pattern ++ after ∧
        ¬pattern <:+: before ++ pattern.dropLast ∧
        replaceFrom pattern replacement 0 cs =
          before ++ replacement ++ replaceFrom pattern replacement 0 after := by
  by_cases h : pattern <:+: cs
  · obtain ⟨before, after, rfl, hleftmost⟩ := exists_leftmost hpattern h
    exact .inr ⟨before, after, rfl, hleftmost, replaceFrom_leftmost hpattern hleftmost after⟩
  · exact .inl ⟨h, replaceFrom_of_not_infix h⟩

/-- The pattern is replaced wherever it occurs, from left to right without overlap. -/
inductive Replaced (pattern replacement : List Char) : List Char → List Char → Prop
  | none {cs : List Char} (h : ¬pattern <:+: cs) : Replaced pattern replacement cs cs
  | leftmost {before after out : List Char} (h : ¬pattern <:+: before ++ pattern.dropLast)
      (rest : Replaced pattern replacement after out) :
      Replaced pattern replacement (before ++ pattern ++ after) (before ++ replacement ++ out)

theorem replaced_iff (hpattern : pattern ≠ []) {cs out : List Char} :
    Replaced pattern replacement cs out ↔ replaceFrom pattern replacement 0 cs = out := by
  constructor
  · intro h
    induction h with
    | none h => exact replaceFrom_of_not_infix h
    | leftmost h _ ih => rw [replaceFrom_leftmost hpattern h, ih]
  · rintro rfl
    induction hn : cs.length using Nat.strong_induction_on generalizing cs with
    | _ n ih =>
      rcases replaceFrom_cases hpattern replacement cs with
        ⟨hnone, hsame⟩ | ⟨before, after, hcs, hleftmost, hreplaced⟩
      · rw [hsame]
        exact .none hnone
      · have hshorter : after.length < n := by
          have hpos := List.length_pos_iff.mpr hpattern
          rw [← hn, hcs, List.length_append, List.length_append]
          omega
        rw [hreplaced, hcs]
        exact .leftmost hleftmost (ih after.length hshorter rfl)

theorem length_replaceFrom_nil_le (pattern : List Char) (skip : Nat) (cs : List Char) :
    (replaceFrom pattern [] skip cs).length ≤ cs.length := by
  induction cs generalizing skip with
  | nil => simp [replaceFrom]
  | cons c cs ih =>
    cases skip with
    | succ skip => exact Nat.le_succ_of_le (ih skip)
    | zero =>
      rw [replaceFrom]
      split
      · exact Nat.le_succ_of_le (ih _)
      · exact Nat.succ_le_succ (ih 0)

theorem replaceFrom_nil_ne (hpattern : pattern ≠ []) {cs : List Char} (h : pattern <:+: cs) :
    replaceFrom pattern [] 0 cs ≠ cs := by
  intro hsame
  rcases replaceFrom_cases hpattern [] cs with ⟨hnone, -⟩ | ⟨before, after, hcs, -, hreplaced⟩
  · exact hnone h
  · have hlength := congrArg List.length (hreplaced.symm.trans (hsame.trans hcs))
    have hle := length_replaceFrom_nil_le pattern 0 after
    have hpos := List.length_pos_iff.mpr hpattern
    simp only [List.length_append, List.length_nil] at hlength
    omega

/-- The word does not complete the pattern even between a beginning and an end of it. -/
def Apart (pattern word : List Char) : Prop :=
  ∀ n < pattern.length, ∀ k < pattern.length,
    ¬pattern <:+: pattern.take n ++ word ++ pattern.drop (k + 1)

instance (pattern word : List Char) : Decidable (Apart pattern word) :=
  inferInstanceAs (Decidable (∀ n < pattern.length, ∀ k < pattern.length,
    ¬pattern <:+: pattern.take n ++ word ++ pattern.drop (k + 1)))

theorem prefix_append_drop {word cs : List Char} (h : pattern <+: word ++ cs) :
    pattern <+: word ++ pattern.drop word.length := by
  have hword : word <+: word ++ cs := List.prefix_append word cs
  rcases Nat.le_total word.length pattern.length with hle | hle
  · have hsplit := List.prefix_iff_eq_append.mp (List.prefix_of_prefix_length_le hword h hle)
    rw [hsplit]
  · exact (List.prefix_of_prefix_length_le h hword hle).trans (List.prefix_append _ _)

namespace Apart

variable {word : List Char}

theorem not_infix (h : Apart pattern word) {n m : Nat} (hn : n < pattern.length) (hm : 0 < m) :
    ¬pattern <:+: pattern.take n ++ word ++ pattern.drop m := by
  rcases Nat.lt_or_ge (m - 1) pattern.length with hlt | hge
  · have hm' : m - 1 + 1 = m := Nat.sub_add_cancel hm
    have hnot := h n hn (m - 1) hlt
    rwa [hm'] at hnot
  · -- nothing is left of the pattern there, as at its very end
    have hlast : pattern.length - 1 < pattern.length := Nat.sub_one_lt_of_lt hn
    have hnot := h n hn _ hlast
    rw [Nat.sub_add_cancel (Nat.zero_lt_of_lt hn), List.drop_length] at hnot
    rwa [List.drop_eq_nil_of_le (hge.trans (Nat.sub_le m 1))]

theorem not_prefix (h : Apart pattern word) {before after : List Char}
    (hbefore : before.length < pattern.length) (hword : before ++ word ≠ []) :
    ¬pattern <+: before ++ word ++ after := by
  intro hp
  have hstart : before <+: pattern := by
    refine List.prefix_of_prefix_length_le ?_ hp (Nat.le_of_lt hbefore)
    rw [List.append_assoc]
    exact List.prefix_append _ _
  have hnot := h.not_infix hbefore (List.length_pos_iff.mpr hword)
  rw [← List.prefix_iff_eq_take.mp hstart] at hnot
  exact hnot (prefix_append_drop hp).isInfix

theorem not_prefix_suffix (h : Apart pattern word) (hpattern : pattern ≠ []) {rest : List Char}
    (hrest : rest ≠ []) (hsuffix : rest <:+ word) (after : List Char) :
    ¬pattern <+: rest ++ after := by
  intro hp
  obtain ⟨start, rfl⟩ := hsuffix
  have hnot := h.not_infix (List.length_pos_iff.mpr hpattern) (List.length_pos_iff.mpr hrest)
  rw [List.take_zero, List.nil_append, List.append_assoc] at hnot
  exact hnot ((prefix_append_drop hp).isInfix.trans (List.suffix_append _ _).isInfix)

theorem replaceFrom_append (h : Apart pattern word) (hpattern : pattern ≠ []) (cs : List Char) :
    replaceFrom pattern replacement 0 (word ++ cs) =
      word ++ replaceFrom pattern replacement 0 cs := by
  -- every end of the word is passed over, so that the word itself is
  suffices hends : ∀ rest, rest <:+ word → replaceFrom pattern replacement 0 (rest ++ cs) =
      rest ++ replaceFrom pattern replacement 0 cs from hends word (List.suffix_refl word)
  intro rest
  induction rest with
  | nil => exact fun _ => rfl
  | cons c rest ih =>
    intro hsuffix
    have hnot : ¬pattern <+: c :: (rest ++ cs) :=
      h.not_prefix_suffix hpattern (List.cons_ne_nil c rest) hsuffix cs
    rw [List.cons_append, replaceFrom_cons hnot, ih ((List.suffix_cons c rest).trans hsuffix)]
    rfl

end Apart

end Reporting.Text
