import Reporting.Proofs.Binary64.Whole
import Reporting.Proofs.Format.Grouping
import Reporting.Proofs.Text.Decimal

/-! Amounts of money. An amount below zero has its minus before the symbol, so that what stands behind
the symbol is unsigned. The zero with a minus is not below zero, and its minus stays with the digits. -/

namespace Reporting

namespace Binary64

def IsNegativeZero (x : Binary64) : Prop := x = .zero true

def magnitude : Binary64 → Binary64
  | nan => nan
  | infinite _ => infinite false
  | finite _ mantissa exponent canonical => finite false mantissa exponent canonical

theorem isNegativeZero_finite {mantissa : Nat} {exponent : Int}
    {canonical : IsCanonical mantissa exponent} :
    (finite true mantissa exponent canonical).IsNegativeZero ↔ mantissa = 0 := by
  rw [IsNegativeZero, zero, finite.injEq]
  refine ⟨fun h => h.2.1, fun h => ⟨rfl, h, canonical.full.resolve_left fun hfull => ?_⟩⟩
  rw [h] at hfull
  exact absurd hfull (by decide)

theorem not_isNegativeZero_ofInt (n : Int) : ¬(ofInt n).IsNegativeZero := by
  intro h
  by_cases hn : n.natAbs = 0
  · rw [Int.natAbs_eq_zero.mp hn] at h
    cases h
  have hle : twoTo ((n.natAbs.log2 : Int) - 52).toNat ≤ n.natAbs := by
    refine Nat.le_trans (Nat.pow_le_pow_right Nat.two_pos ?_) (twoTo_log2_le hn)
    omega
  have hmantissa : 1 ≤ mantissaFor n.natAbs 1 := by
    rw [mantissaFor, exponentFor_one hn, Nat.one_mul]
    refine le_roundDiv (twoTo_pos _) ?_
    rw [Nat.one_mul]
    exact Nat.le_trans hle (Nat.le_mul_of_pos_right _ (twoTo_pos _))
  rw [ofInt, ofRatio_eq_pack _ hn Nat.one_ne_zero] at h
  unfold IsNegativeZero zero pack at h
  split_ifs at h
  · exact absurd (Binary64.finite.inj h).2.1 (by decide)
  · exact Nat.ne_of_gt hmantissa (Binary64.finite.inj h).2.1

end Binary64

namespace FixedPoint

/-- The digits of a whole number, after zeros enough for one digit more than the places. -/
def padded (places units : Nat) : List Char :=
  List.replicate (places + 1 - (Text.digits units).length) '0' ++ Text.digits units

theorem lt_length_padded (places units : Nat) : places < (padded places units).length := by
  rw [padded, List.length_append, List.length_replicate]
  omega

theorem isDigit_padded (places units : Nat) : ∀ c ∈ padded places units, c.isDigit = true := by
  intro c hc
  rcases List.mem_append.mp hc with hc | hc
  · rw [List.eq_of_mem_replicate hc]
    rfl
  · exact Text.isDigit_digits units c hc

def ofUnits (negative : Bool) (places units : Nat) : FixedPoint where
  negative := negative
  whole := (padded places units).take ((padded places units).length - places)
  fraction :=
    if places = 0 then none
    else some ((padded places units).drop ((padded places units).length - places))
  whole_ne_nil := by
    rw [← List.length_pos_iff, List.length_take]
    have := lt_length_padded places units
    omega
  isDigit_whole := fun c hc => isDigit_padded places units c (List.mem_of_mem_take hc)
  isDigit_fraction := by
    intro ds hds c hc
    split_ifs at hds
    · cases hds
    · rw [← Option.some.inj hds] at hc
      exact isDigit_padded places units c (List.mem_of_mem_drop hc)

theorem text_ofUnits (negative : Bool) (places units : Nat) :
    (ofUnits negative places units).text =
      Binary64.signed negative (Binary64.withPoint places units) := by
  unfold text tail ofUnits Binary64.withPoint
  dsimp only
  rw [← padded]
  split_ifs with hplaces
  · rw [hplaces, Nat.sub_zero, List.take_length, Option.elim_none, List.append_nil]
  · rw [Option.elim_some]

theorem length_fraction_ofUnits (negative : Bool) (places units : Nat) :
    (ofUnits negative places units).fraction.map List.length =
      if places = 0 then none else some places := by
  unfold ofUnits
  dsimp only
  split_ifs
  · rfl
  · have := lt_length_padded places units
    rw [Option.map_some, List.length_drop]
    congr 1
    omega

theorem groupFixed_ofUnits (negative : Bool) (places units : Nat) :
    groupFixed (ofUnits negative places units).text =
      Binary64.signed negative (groupFixed (ofUnits false places units).text) := by
  rw [groupFixed_text, groupFixed_text]
  rfl

end FixedPoint

namespace Format

/-- Digits in groups without a sign, and the digits of a fraction with so many places, if any. -/
def IsUnsigned (decimals : Nat) (shown : List Char) : Prop :=
  ∃ n : FixedPoint, n.negative = false ∧
    n.fraction.map List.length = (if decimals = 0 then none else some decimals) ∧
    ∃ groups, IsParted n.whole groups ∧ shown = n.shown groups

/-- What stands behind the symbol is unsigned, and at most a minus stands before it. -/
def SignLeads (symbol : String) (decimals : Nat) (shown : String) : Prop :=
  ∃ digits, IsUnsigned decimals digits ∧
    (shown.toList = symbol.toList ++ digits ∨ shown.toList = '-' :: (symbol.toList ++ digits))

theorem IsUnsigned.exists_first {decimals : Nat} {shown : List Char}
    (h : IsUnsigned decimals shown) : ∃ c, c.isDigit = true ∧ [c] <+: shown := by
  obtain ⟨n, hnegative, -, groups, hparted, rfl⟩ := h
  obtain ⟨c, hc, hfirst⟩ := FixedPoint.exists_first n.isDigit_whole n.whole_ne_nil
  refine ⟨c, hc, ?_⟩
  rw [← (n.groupFixed_eq_iff _).mpr ⟨groups, hparted, rfl⟩, n.groupFixed_text, hnegative]
  exact hfirst.trans (List.prefix_append _ _)

variable {mantissa : Nat} {exponent : Int} (canonical : Binary64.IsCanonical mantissa exponent)
  (decimals : Nat)

theorem exists_units : ∃ units, ∀ negative,
    Binary64.fixed decimals (.finite negative mantissa exponent canonical) =
      (FixedPoint.ofUnits negative decimals units).text :=
  ⟨_, fun negative => (FixedPoint.text_ofUnits negative decimals _).symm⟩

theorem isUnsigned_grouped :
    IsUnsigned decimals (grouped decimals (.finite false mantissa exponent canonical)) := by
  obtain ⟨units, hfixed⟩ := exists_units canonical decimals
  refine ⟨_, rfl, FixedPoint.length_fraction_ofUnits false decimals units, ?_⟩
  rw [grouped, hfixed]
  exact (FixedPoint.groupFixed_eq_iff _ _).mp rfl

theorem grouped_finite (negative : Bool) :
    grouped decimals (.finite negative mantissa exponent canonical) =
      Binary64.signed negative (grouped decimals (.finite false mantissa exponent canonical)) := by
  obtain ⟨units, hfixed⟩ := exists_units canonical decimals
  rw [grouped, grouped, hfixed, hfixed, FixedPoint.groupFixed_ofUnits]

theorem append_minus_eq_cons_iff {cs : List Char} : cs ++ ['-'] = '-' :: cs ↔ ∀ c ∈ cs, c = '-' := by
  induction cs with
  | nil => simp
  | cons c cs ih =>
    rw [List.cons_append, List.cons.injEq, List.forall_mem_cons]
    refine and_congr_right fun hc => ?_
    rw [hc, ih]

variable {x : Binary64} (symbol : String)

theorem amount_of_not_isNegativeZero (hfinite : x.isFinite = true) (hzero : ¬x.IsNegativeZero) :
    amount symbol decimals x =
      Binary64.signed x.isNegative (symbol.toList ++ grouped decimals x.magnitude) := by
  cases x with
  | nan => cases hfinite
  | infinite negative => cases hfinite
  | finite negative mantissa exponent canonical =>
    cases negative with
    | false => rfl
    | true =>
      have hmantissa : mantissa ≠ 0 := mt Binary64.isNegativeZero_finite.mpr hzero
      have hnegative : (Binary64.finite true mantissa exponent canonical).isNegative = true := by
        simp [Binary64.isNegative, hmantissa]
      rw [amount, hnegative]
      rfl

theorem amount_of_isNegativeZero (hzero : x.IsNegativeZero) :
    amount symbol decimals x = symbol.toList ++ '-' :: grouped decimals x.magnitude := by
  obtain rfl : x = .zero true := hzero
  exact congrArg (symbol.toList ++ ·) (grouped_finite _ decimals true)

theorem isUnsigned_grouped_magnitude (hfinite : x.isFinite = true) :
    IsUnsigned decimals (grouped decimals x.magnitude) := by
  cases x with
  | nan => cases hfinite
  | infinite negative => cases hfinite
  | finite negative mantissa exponent canonical => exact isUnsigned_grouped canonical decimals

theorem signLeads_amount_iff (hfinite : x.isFinite = true) :
    SignLeads symbol decimals (.ofList (amount symbol decimals x)) ↔
      (x.IsNegativeZero → ∀ c ∈ symbol.toList, c = '-') := by
  have hunsigned := isUnsigned_grouped_magnitude decimals hfinite
  unfold SignLeads
  rw [String.toList_ofList]
  by_cases hzero : x.IsNegativeZero
  · rw [imp_iff_right hzero, amount_of_isNegativeZero decimals symbol hzero,
      ← append_minus_eq_cons_iff]
    constructor
    · rintro ⟨digits, hdigits, hshown | hshown⟩
      · -- an unsigned amount does not begin with a minus
        obtain ⟨c, hc, hfirst⟩ := hdigits.exists_first
        rw [← List.append_cancel_left hshown] at hfirst
        rw [(List.cons_prefix_cons.mp hfirst).1] at hc
        cases hc
      · rw [List.append_cons, ← List.cons_append] at hshown
        exact (List.append_inj hshown (by simp)).1
    · intro hsymbol
      refine ⟨_, hunsigned, .inr ?_⟩
      rw [List.append_cons, hsymbol, List.cons_append]
  · rw [amount_of_not_isNegativeZero decimals symbol hfinite hzero]
    refine ⟨fun _ h => absurd h hzero, fun _ => ⟨_, hunsigned, ?_⟩⟩
    cases x.isNegative with
    | false => exact .inl rfl
    | true => exact .inr rfl

theorem apply_currency {cell : Cell} (hreads : cell.number? = some x) :
    (currency symbol decimals).apply cell = .ofList (amount symbol decimals x) := by
  rw [apply, hreads]

/-- The sign leads for every symbol but for the one zero that has a minus, and a minus stands there
just for what is below zero. No integer reads as that zero. -/
theorem signLeads_apply_currency_iff {cell : Cell} (hreads : cell.number? = some x)
    (hfinite : x.isFinite = true) (symbol : String) (decimals : Nat) :
    (SignLeads symbol decimals ((currency symbol decimals).apply cell) ↔
      (x.IsNegativeZero → ∀ c ∈ symbol.toList, c = '-')) ∧
    (¬x.IsNegativeZero → ((currency symbol decimals).apply cell).toList =
      Binary64.signed x.isNegative (symbol.toList ++ grouped decimals x.magnitude)) ∧
    ∀ n, cell = .int n → ¬x.IsNegativeZero := by
  rw [apply_currency decimals symbol hreads]
  refine ⟨signLeads_amount_iff decimals symbol hfinite, fun hzero => ?_, ?_⟩
  · rw [String.toList_ofList, amount_of_not_isNegativeZero decimals symbol hfinite hzero]
  · rintro n rfl
    rw [← Option.some.inj hreads]
    exact Binary64.not_isNegativeZero_ofInt n

theorem signLeads_of_small_loss : SignLeads "€" 2 ((currency "€" 2).apply (.text " -0.004 ")) := by
  have hreads : (Cell.text " -0.004 ").number? =
      some (.finite true 4611686018427388 (-60) ⟨by decide, by decide, by decide, by decide⟩) := by
    decide
  refine (signLeads_apply_currency_iff hreads rfl "€" 2).1.mpr fun hzero => ?_
  exact absurd (Binary64.isNegativeZero_finite.mp hzero) (by decide)

/-- A zero with a minus is shown as an amount whose minus stands behind the symbol. -/
theorem not_forall_signLeads : ¬∀ (cell : Cell) (x : Binary64), cell.number? = some x →
    x.isFinite = true → ∀ symbol decimals,
      SignLeads symbol decimals ((currency symbol decimals).apply cell) := by
  intro h
  have hleads := h (.float (.zero true)) (.zero true) rfl rfl "$" 2
  rw [apply_currency 2 "$" rfl, signLeads_amount_iff 2 "$" rfl] at hleads
  exact absurd (hleads rfl '$' (by decide)) (by decide)

end Format

end Reporting
