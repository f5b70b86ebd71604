import Mathlib.Data.List.Flatten
import Mathlib.Tactic.SplitIfs
import Reporting.Format
import Reporting.Proofs.Text.Pieces

/-! Commas in the text of a number. The digits before the point are parted from the right into groups
of three with a comma between each two, and the rest of the text stays as it is. -/

namespace Reporting

/-- A number in fixed-point notation: perhaps a minus, digits, and perhaps a point with the digits of
a fraction. -/
structure FixedPoint where
  negative : Bool
  whole : List Char
  fraction : Option (List Char)
  whole_ne_nil : whole ≠ []
  isDigit_whole : ∀ c ∈ whole, c.isDigit = true
  isDigit_fraction : ∀ ds ∈ fraction, ∀ c ∈ ds, c.isDigit = true

/-- Digits in groups: the first has one to three of them, all others have three. -/
inductive IsParted (digits : List Char) : List (List Char) → Prop
  | intro {first : List Char} {others : List (List Char)} (whole : first ++ others.flatten = digits)
      (nonempty : 0 < first.length) (short : first.length ≤ 3)
      (full : ∀ g ∈ others, g.length = 3) : IsParted digits (first :: others)

namespace IsParted

variable {digits : List Char} {groups groups' : List (List Char)}

theorem length_flatten_of_full {others : List (List Char)} (h : ∀ g ∈ others, g.length = 3) :
    others.flatten.length = 3 * others.length := by
  rw [List.length_flatten, List.map_eq_replicate_iff.mpr h, List.sum_replicate_nat, Nat.mul_comm]

theorem unique (h : IsParted digits groups) (h' : IsParted digits groups') : groups = groups' := by
  cases h with
  | @intro first others whole nonempty short full =>
    cases h' with
    | @intro first' others' whole' nonempty' short' full' =>
      have htotal := congrArg List.length (whole.trans whole'.symm)
      rw [List.length_append, List.length_append, length_flatten_of_full full,
        length_flatten_of_full full'] at htotal
      have hfirst : first.length = first'.length := by omega
      obtain ⟨rfl, hflatten⟩ := List.append_inj (whole.trans whole'.symm) hfirst
      have hcount : others.length = others'.length := by omega
      have hsizes : others.map List.length = others'.map List.length := by
        rw [List.map_eq_replicate_iff.mpr full, List.map_eq_replicate_iff.mpr full', hcount]
      rw [List.eq_iff_flatten_eq.mpr ⟨hflatten, hsizes⟩]

end IsParted

theorem exists_groups {digits : List Char} (h : digits ≠ []) :
    ∃ groups, IsParted digits groups ∧ groupThousands digits = [','].intercalate groups := by
  induction digits with
  | nil => exact absurd rfl h
  | cons c cs ih =>
    by_cases hcs : cs = []
    · subst hcs
      exact ⟨[[c]], .intro rfl Nat.one_pos (Nat.le_add_left 1 2) nofun, rfl⟩
    obtain ⟨groups, hparted, hshown⟩ := ih hcs
    cases hparted with
    | @intro first others whole nonempty short full =>
      have hlength := congrArg List.length whole
      rw [List.length_append, IsParted.length_flatten_of_full full] at hlength
      have hsome : cs.isEmpty = false := List.isEmpty_eq_false_iff.mpr hcs
      rw [groupThousands, hshown, hsome]
      by_cases hfull : cs.length % 3 = 0
      · have hfirst : first.length = 3 := by omega
        refine ⟨[c] :: first :: others, .intro (congrArg (c :: ·) whole) Nat.one_pos
          (Nat.le_add_left 1 2) (List.forall_mem_cons.mpr ⟨hfirst, full⟩), ?_⟩
        rw [decide_eq_true hfull, List.intercalate_cons_cons]
        rfl
      · have hfirst : first.length ≠ 3 := by omega
        refine ⟨(c :: first) :: others, .intro (congrArg (c :: ·) whole) ?_ ?_ full, ?_⟩
        · exact Nat.succ_pos _
        · rw [List.length_cons]
          omega
        · rw [decide_eq_false hfull]
          cases others <;> rfl

namespace FixedPoint

variable (n : FixedPoint)

def tail : List Char := n.fraction.elim [] ('.' :: ·)

def text : List Char := Binary64.signed n.negative (n.whole ++ n.tail)

def shown (groups : List (List Char)) : List Char :=
  Binary64.signed n.negative ([','].intercalate groups ++ n.tail)

theorem not_mem_whole {c : Char} (hc : c.isDigit = false) : c ∉ n.whole := by
  intro hmem
  rw [n.isDigit_whole c hmem] at hc
  cases hc

theorem comma_not_mem_tail : ',' ∉ n.tail := by
  unfold tail
  cases hfraction : n.fraction with
  | none => exact List.not_mem_nil
  | some ds =>
    refine List.not_mem_cons_of_ne_of_not_mem (by decide) fun hmem => ?_
    exact absurd (n.isDigit_fraction ds hfraction _ hmem) (by decide)

theorem groupUnsigned_text : groupUnsigned (n.whole ++ n.tail) = groupThousands n.whole ++ n.tail := by
  have hpoint : '.' ∉ n.whole := n.not_mem_whole rfl
  unfold groupUnsigned tail
  cases n.fraction with
  | none =>
    rw [Option.elim_none, List.append_nil, Text.cutAt_eq_none_iff.mpr hpoint, List.append_nil]
  | some ds => rw [Option.elim_some, Text.cutAt_append hpoint]

theorem groupFixed_text :
    groupFixed n.text = Binary64.signed n.negative (groupThousands n.whole ++ n.tail) := by
  rw [← groupUnsigned_text, text]
  cases n.negative with
  | true => rfl
  | false =>
    obtain ⟨c, cs, hwhole⟩ := List.exists_cons_of_ne_nil n.whole_ne_nil
    have hminus : c ≠ '-' := by
      rintro rfl
      exact n.not_mem_whole rfl (hwhole ▸ List.mem_cons_self)
    rw [Binary64.signed, if_neg Bool.false_ne_true, hwhole, List.cons_append]
    unfold groupFixed
    split
    · rename_i heq
      exact absurd (List.cons.inj heq).1 hminus
    · rfl

theorem groupFixed_eq_iff (out : List Char) :
    groupFixed n.text = out ↔ ∃ groups, IsParted n.whole groups ∧ out = n.shown groups := by
  obtain ⟨groups, hparted, hshown⟩ := exists_groups n.whole_ne_nil
  rw [groupFixed_text, hshown]
  constructor
  · rintro rfl
    exact ⟨groups, hparted, rfl⟩
  · rintro ⟨groups', hparted', rfl⟩
    rw [hparted.unique hparted', shown]

theorem filter_eq_self_of_not_mem {cs : List Char} (h : ',' ∉ cs) : cs.filter (· ≠ ',') = cs := by
  refine List.filter_eq_self.mpr fun c hc => decide_eq_true ?_
  rintro rfl
  exact h hc

theorem filter_groupThousands {digits : List Char} (h : ',' ∉ digits) :
    (groupThousands digits).filter (· ≠ ',') = digits := by
  induction digits with
  | nil => rfl
  | cons c cs ih =>
    rw [List.mem_cons, not_or] at h
    have hc : c ≠ ',' := fun heq => h.1 heq.symm
    have hcs := ih h.2
    rw [groupThousands]
    split_ifs <;> simpa [hc] using hcs

theorem filter_groupFixed : (groupFixed n.text).filter (· ≠ ',') = n.text := by
  have hunsigned : (groupThousands n.whole ++ n.tail).filter (· ≠ ',') = n.whole ++ n.tail := by
    rw [List.filter_append, filter_groupThousands (n.not_mem_whole rfl),
      filter_eq_self_of_not_mem n.comma_not_mem_tail]
  rw [groupFixed_text, text]
  cases n.negative with
  | true => exact congrArg ('-' :: ·) hunsigned
  | false => exact hunsigned

/-- The comma at this point stands between two digits, and no point comes before it. -/
structure Parts (before after : List Char) : Prop where
  left : ∃ c, c.isDigit = true ∧ [c] <:+ before
  right : ∃ c, c.isDigit = true ∧ [c] <+: after
  noPoint : '.' ∉ before

theorem Parts.cons {before after : List Char} (h : Parts before after) {c : Char} (hc : c ≠ '.') :
    Parts (c :: before) after := by
  obtain ⟨d, hd, hlast⟩ := h.left
  refine ⟨⟨d, hd, hlast.trans (List.suffix_cons c before)⟩, h.right, ?_⟩
  exact List.not_mem_cons_of_ne_of_not_mem hc.symm h.noPoint

theorem exists_first {digits : List Char} (hdigits : ∀ c ∈ digits, c.isDigit = true)
    (h : digits ≠ []) : ∃ c, c.isDigit = true ∧ [c] <+: groupThousands digits := by
  obtain ⟨c, cs, rfl⟩ := List.exists_cons_of_ne_nil h
  refine ⟨c, hdigits c List.mem_cons_self, ?_⟩
  rw [groupThousands]
  split_ifs <;> exact List.prefix_append [c] _

theorem exists_before {c : Char} {cs before after : List Char} (hc : c ≠ ',')
    (h : c :: cs = before ++ ',' :: after) :
    ∃ before', before = c :: before' ∧ cs = before' ++ ',' :: after := by
  rcases List.cons_eq_append_iff.mp h with ⟨-, hafter⟩ | hbefore
  · exact absurd (List.cons.inj hafter).1.symm hc
  · exact hbefore

theorem ne_of_isDigit {c d : Char} (hc : c.isDigit = true) (hd : d.isDigit = false) : c ≠ d := by
  rintro rfl
  rw [hc] at hd
  cases hd

theorem parts_groupThousands {digits rest : List Char} (hdigits : ∀ c ∈ digits, c.isDigit = true)
    (hrest : ',' ∉ rest) {before after : List Char}
    (h : groupThousands digits ++ rest = before ++ ',' :: after) : Parts before after := by
  induction digits generalizing before with
  | nil =>
    have hmem : ',' ∈ before ++ ',' :: after := List.mem_append_right before List.mem_cons_self
    rw [← h, groupThousands, List.nil_append] at hmem
    exact absurd hmem hrest
  | cons c cs ih =>
    obtain ⟨hc, hcs⟩ := List.forall_mem_cons.mp hdigits
    have hcomma : c ≠ ',' := ne_of_isDigit hc rfl
    have hpoint : c ≠ '.' := ne_of_isDigit hc rfl
    rw [groupThousands] at h
    split_ifs at h with hfull
    · obtain ⟨before, rfl, hbehind⟩ := exists_before hcomma h
      rcases List.cons_eq_append_iff.mp hbehind with ⟨rfl, hafter⟩ | ⟨before, rfl, hfurther⟩
      · -- this is the comma before the groups of the other digits
        have hsome : cs ≠ [] := by
          rintro rfl
          cases hfull
        obtain ⟨d, hd, hfirst⟩ := exists_first hcs hsome
        refine ⟨⟨c, hc, List.suffix_refl _⟩, ⟨d, hd, ?_⟩, ?_⟩
        · rw [(List.cons.inj hafter).2]
          exact hfirst.trans (List.prefix_append _ _)
        · rw [List.mem_singleton]
          exact hpoint.symm
      · exact ((ih hcs hfurther).cons (by decide)).cons hpoint
    · obtain ⟨before, rfl, hbehind⟩ := exists_before hcomma h
      exact (ih hcs hbehind).cons hpoint

theorem parts_groupFixed {before after : List Char}
    (h : groupFixed n.text = before ++ ',' :: after) : Parts before after := by
  rw [groupFixed_text] at h
  cases hnegative : n.negative with
  | true =>
    rw [hnegative, Binary64.signed, if_pos rfl] at h
    obtain ⟨before, rfl, hbehind⟩ := exists_before (by decide) h
    exact (parts_groupThousands n.isDigit_whole n.comma_not_mem_tail hbehind).cons (by decide)
  | false =>
    rw [hnegative, Binary64.signed, if_neg Bool.false_ne_true] at h
    exact parts_groupThousands n.isDigit_whole n.comma_not_mem_tail h

/-- The text of a number in fixed-point notation has its whole part in groups and is the same text
without the commas. Each comma stands between two digits of the whole part. -/
theorem groupFixed_parted :
    (∀ out, groupFixed n.text = out ↔ ∃ groups, IsParted n.whole groups ∧ out = n.shown groups) ∧
    (groupFixed n.text).filter (· ≠ ',') = n.text ∧
    ∀ before after, groupFixed n.text = before ++ ',' :: after → Parts before after :=
  ⟨n.groupFixed_eq_iff, n.filter_groupFixed, fun _ _ h => n.parts_groupFixed h⟩

end FixedPoint

end Reporting
