import Reporting.Powers

/-!
Rounding a quotient to a mantissa of 53 bits and a power of two. Where the quotient is too small for
that, as it is below the smallest power, the mantissa is shorter.
-/

namespace Reporting.Binary64

def roundDiv (num den : Nat) : Nat :=
  let t := num / den
  let r := num % den
  if 2 * r < den then t
  else if den < 2 * r then t + 1
  else if t % 2 = 0 then t else t + 1

theorem roundDiv_of_dvd {num den : Nat} (hd : 0 < den) (h : den ∣ num) :
    roundDiv num den = num / den := by
  have hr : num % den = 0 := Nat.mod_eq_zero_of_dvd h
  simp [roundDiv, hr, hd]

theorem roundDiv_one (n : Nat) : roundDiv n 1 = n := by
  have h : (1 : Nat) ∣ n := Nat.one_dvd n
  simpa using roundDiv_of_dvd Nat.one_pos h

theorem roundDiv_eq_or (num den : Nat) :
    roundDiv num den = num / den ∨ roundDiv num den = num / den + 1 := by
  unfold roundDiv
  dsimp only
  split
  · exact .inl rfl
  · split
    · exact .inr rfl
    · split
      · exact .inl rfl
      · exact .inr rfl

theorem roundDiv_le {num den k : Nat} (h : num < k * den) : roundDiv num den ≤ k := by
  have hdiv : num / den < k := Nat.div_lt_of_lt_mul (Nat.mul_comm k den ▸ h)
  have hround := roundDiv_eq_or num den
  omega

theorem le_roundDiv {num den k : Nat} (hden : 0 < den) (h : k * den ≤ num) :
    k ≤ roundDiv num den := by
  have hdiv : k ≤ num / den := (Nat.le_div_iff_mul_le hden).mpr h
  have hround := roundDiv_eq_or num den
  omega

def minExponent : Int := -1074

def maxExponent : Int := 971

/-- A mantissa has 53 digits, unless the number is too small for that; so it is written in one way. -/
structure IsCanonical (mantissa : Nat) (exponent : Int) : Prop where
  fits : mantissa < twoTo 53
  full : twoTo 52 ≤ mantissa ∨ exponent = minExponent
  notBelow : minExponent ≤ exponent
  notAbove : exponent ≤ maxExponent

/-- A mantissa as rounding leaves it, which may have one digit more than there is room for. -/
structure IsRounded (mantissa : Nat) (exponent : Int) : Prop where
  le : mantissa ≤ twoTo 53
  full : twoTo 52 ≤ mantissa ∨ exponent = minExponent
  notBelow : minExponent ≤ exponent

theorem IsRounded.canonical {mantissa : Nat} {exponent : Int} (h : IsRounded mantissa exponent)
    (hne : mantissa ≠ twoTo 53) (hmax : exponent ≤ maxExponent) : IsCanonical mantissa exponent :=
  ⟨Nat.lt_of_le_of_ne h.le hne, h.full, h.notBelow, hmax⟩

theorem IsRounded.carried {mantissa : Nat} {exponent : Int} (h : IsRounded mantissa exponent)
    (hmax : exponent + 1 ≤ maxExponent) : IsCanonical (twoTo 52) (exponent + 1) :=
  ⟨by decide, .inl (Nat.le_refl _), Int.le_trans h.notBelow (Int.le_add_one (Int.le_refl _)), hmax⟩

def fullExponent (num den : Nat) : Int :=
  let guess : Int := (num.log2 : Int) - den.log2 - 52
  if num * twoTo (-guess).toNat < twoTo 52 * den * twoTo guess.toNat then guess - 1 else guess

def exponentFor (num den : Nat) : Int := max (fullExponent num den) minExponent

structure Scales (num den : Nat) (exponent : Int) : Prop where
  below : num * twoTo (-exponent).toNat < twoTo 53 * (den * twoTo exponent.toNat)
  notBelow : twoTo 52 * (den * twoTo exponent.toNat) ≤ num * twoTo (-exponent).toNat

section Scaling

variable {num den : Nat}

theorem guess_bounds (hnum : num ≠ 0) (hden : den ≠ 0) {guess : Int}
    (hguess : guess = (num.log2 : Int) - den.log2 - 52) :
    num * twoTo (-guess).toNat < twoTo 53 * (den * twoTo guess.toNat) ∧
      twoTo 51 * (den * twoTo guess.toNat) ≤ num * twoTo (-guess).toNat := by
  constructor
  · calc num * twoTo (-guess).toNat
        < twoTo (num.log2 + 1) * twoTo (-guess).toNat :=
          Nat.mul_lt_mul_of_pos_right (lt_twoTo_log2_succ num) (twoTo_pos _)
      _ = twoTo (53 + (den.log2 + guess.toNat)) := by
          rw [← twoTo_add]
          exact congrArg twoTo (by omega)
      _ = twoTo 53 * (twoTo den.log2 * twoTo guess.toNat) := by rw [twoTo_add, twoTo_add]
      _ ≤ twoTo 53 * (den * twoTo guess.toNat) :=
          Nat.mul_le_mul_left _ (Nat.mul_le_mul_right _ (twoTo_log2_le hden))
  · calc twoTo 51 * (den * twoTo guess.toNat)
        ≤ twoTo 51 * (twoTo (den.log2 + 1) * twoTo guess.toNat) :=
          Nat.mul_le_mul_left _ (Nat.mul_le_mul_right _ (Nat.le_of_lt (lt_twoTo_log2_succ den)))
      _ = twoTo (num.log2 + (-guess).toNat) := by
          rw [← twoTo_add, ← twoTo_add]
          exact congrArg twoTo (by omega)
      _ = twoTo num.log2 * twoTo (-guess).toNat := twoTo_add _ _
      _ ≤ num * twoTo (-guess).toNat := Nat.mul_le_mul_right _ (twoTo_log2_le hnum)

theorem scaled_pred (num den : Nat) (exponent : Int) :
    (num * twoTo (-(exponent - 1)).toNat = 2 * (num * twoTo (-exponent).toNat) ∧
        den * twoTo (exponent - 1).toNat = den * twoTo exponent.toNat) ∨
      num * twoTo (-(exponent - 1)).toNat = num * twoTo (-exponent).toNat ∧
        den * twoTo exponent.toNat = 2 * (den * twoTo (exponent - 1).toNat) := by
  by_cases hpos : 0 < exponent
  · have hsame : (-(exponent - 1)).toNat = (-exponent).toNat := by omega
    have hnext : exponent.toNat = (exponent - 1).toNat + 1 := by omega
    right
    rw [hsame, hnext, twoTo_succ, ← Nat.mul_assoc, Nat.mul_comm 2]
    exact ⟨rfl, rfl⟩
  · have hsame : (exponent - 1).toNat = exponent.toNat := by omega
    have hnext : (-(exponent - 1)).toNat = (-exponent).toNat + 1 := by omega
    left
    rw [hsame, hnext, twoTo_succ, ← Nat.mul_assoc, Nat.mul_comm 2]
    exact ⟨rfl, rfl⟩

theorem scales_fullExponent (hnum : num ≠ 0) (hden : den ≠ 0) :
    Scales num den (fullExponent num den) := by
  unfold fullExponent
  generalize hguess : (num.log2 : Int) - den.log2 - 52 = guess
  dsimp only
  obtain ⟨hbelow, hlow⟩ := guess_bounds hnum hden hguess.symm
  have h51 : twoTo 51 = 2251799813685248 := rfl
  have h52 : twoTo 52 = 4503599627370496 := rfl
  have h53 : twoTo 53 = 9007199254740992 := rfl
  rw [Nat.mul_assoc]
  split
  · rename_i hshort
    rw [h52] at hshort
    rw [h51] at hlow
    have hpred := scaled_pred num den guess
    constructor
    · rw [h53]
      omega
    · rw [h52]
      omega
  · rename_i hlong
    exact ⟨hbelow, Nat.le_of_not_lt hlong⟩

theorem Scales.below_of_le {exponent larger : Int} (h : Scales num den exponent)
    (hle : exponent ≤ larger) :
    num * twoTo (-larger).toNat < twoTo 53 * (den * twoTo larger.toNat) := by
  have hnum : twoTo (-larger).toNat ≤ twoTo (-exponent).toNat := twoTo_le (by omega)
  have hden : twoTo exponent.toNat ≤ twoTo larger.toNat := twoTo_le (by omega)
  exact Nat.lt_of_le_of_lt (Nat.mul_le_mul_left num hnum) <| Nat.lt_of_lt_of_le h.below <|
    Nat.mul_le_mul_left _ (Nat.mul_le_mul_left den hden)

theorem exponentFor_spec (hnum : num ≠ 0) (hden : den ≠ 0) :
    num * twoTo (-exponentFor num den).toNat <
        twoTo 53 * (den * twoTo (exponentFor num den).toNat) ∧
      (twoTo 52 * (den * twoTo (exponentFor num den).toNat) ≤
          num * twoTo (-exponentFor num den).toNat ∨ exponentFor num den = minExponent) := by
  have hscales := scales_fullExponent hnum hden
  unfold exponentFor
  refine ⟨hscales.below_of_le (Int.le_max_left _ _), ?_⟩
  by_cases hmin : minExponent ≤ fullExponent num den
  · rw [Int.max_eq_left hmin]
    exact .inl hscales.notBelow
  · exact .inr (Int.max_eq_right (Int.le_of_lt (Int.not_le.mp hmin)))

end Scaling

def mantissaFor (num den : Nat) : Nat :=
  roundDiv (num * twoTo (-exponentFor num den).toNat) (den * twoTo (exponentFor num den).toNat)

theorem isRounded_mantissaFor {num den : Nat} (hnum : num ≠ 0) (hden : den ≠ 0) :
    IsRounded (mantissaFor num den) (exponentFor num den) := by
  obtain ⟨hbelow, hfull⟩ := exponentFor_spec hnum hden
  refine ⟨roundDiv_le hbelow, hfull.imp_left (le_roundDiv ?_), Int.le_max_right _ _⟩
  exact Nat.mul_pos (Nat.pos_of_ne_zero hden) (twoTo_pos _)

end Reporting.Binary64
