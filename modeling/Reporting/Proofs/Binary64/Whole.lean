import Mathlib.Algebra.Order.Ring.Int
import Mathlib.Tactic.Ring
import Reporting.Binary64.Basic

/-! Whole numbers as floating-point numbers. Those of at most `2 ^ 53` have a mantissa that fits, so
they are read and added up without rounding. -/

namespace Reporting

theorem log2_mul_twoTo {n : Nat} (h : n ≠ 0) (j : Nat) : (n * twoTo j).log2 = n.log2 + j := by
  induction j with
  | zero => rw [twoTo_zero, Nat.mul_one, Nat.add_zero]
  | succ j ih =>
    have hne : n * twoTo j ≠ 0 := Nat.mul_ne_zero h (Nat.ne_of_gt (twoTo_pos j))
    rw [twoTo_succ, ← Nat.mul_assoc, Nat.mul_comm _ 2, Nat.log2_two_mul hne, ih, Nat.add_assoc]

namespace Binary64

theorem roundDiv_mul_right {c : Nat} (hc : 0 < c) (num den : Nat) :
    roundDiv (num * c) (den * c) = roundDiv num den := by
  have hmul (n m : Nat) : 2 * (n * c) < m * c ↔ 2 * n < m := by
    rw [← Nat.mul_assoc, Nat.mul_lt_mul_right hc]
  have hmul' (n m : Nat) : m * c < 2 * (n * c) ↔ m < 2 * n := by
    rw [← Nat.mul_assoc, Nat.mul_lt_mul_right hc]
  simp only [roundDiv, Nat.mul_div_mul_right num den hc, Nat.mul_mod_mul_right, hmul, hmul']

theorem exponentFor_mul_twoTo {num den : Nat} (hnum : num ≠ 0) (hden : den ≠ 0) (j : Nat) :
    exponentFor (num * twoTo j) (den * twoTo j) = exponentFor num den := by
  have hguess : (((num * twoTo j).log2 : Nat) : Int) - (den * twoTo j).log2 - 52 =
      (num.log2 : Int) - den.log2 - 52 := by
    rw [log2_mul_twoTo hnum, log2_mul_twoTo hden]
    omega
  have hshort (a b : Nat) : num * twoTo j * a < twoTo 52 * (den * twoTo j) * b ↔
      num * a < twoTo 52 * den * b := by
    have hl : num * twoTo j * a = num * a * twoTo j := by ring
    have hr : twoTo 52 * (den * twoTo j) * b = twoTo 52 * den * b * twoTo j := by ring
    rw [hl, hr, Nat.mul_lt_mul_right (twoTo_pos j)]
  simp only [exponentFor, fullExponent, hguess, hshort]

theorem ofRatio_mul_twoTo (negative : Bool) (num : Nat) {den : Nat} (hden : den ≠ 0) (j : Nat) :
    ofRatio negative (num * twoTo j) (den * twoTo j) = ofRatio negative num den := by
  by_cases hnum : num = 0
  · rw [hnum, Nat.zero_mul]
    rfl
  have hpower : twoTo j ≠ 0 := Nat.ne_of_gt (twoTo_pos j)
  have hround (a b : Nat) : roundDiv (num * twoTo j * a) (den * twoTo j * b) =
      roundDiv (num * a) (den * b) := by
    have hl : num * twoTo j * a = num * a * twoTo j := by ring
    have hr : den * twoTo j * b = den * b * twoTo j := by ring
    rw [hl, hr, roundDiv_mul_right (twoTo_pos j)]
  rw [ofRatio_eq_pack _ hnum hden,
    ofRatio_eq_pack _ (Nat.mul_ne_zero hnum hpower) (Nat.mul_ne_zero hden hpower)]
  simp only [mantissaFor, exponentFor_mul_twoTo hnum hden, hround]

theorem toInt?_zero (negative : Bool) : (zero negative).toInt? = some 0 := by
  rw [zero, toInt?, if_neg (by decide)]
  simp only [Nat.zero_mod, Nat.zero_div, if_true, scaled]
  cases negative <;> rfl

def withSign (negative : Bool) (mantissa : Nat) : Int := if negative then -mantissa else mantissa

theorem scaled_eq (negative : Bool) (mantissa : Nat) (exponent unit : Int) :
    scaled negative mantissa exponent unit =
      withSign negative mantissa * twoTo (exponent - unit).toNat := by
  unfold scaled withSign
  split
  · rw [Int.neg_mul]
  · rfl

theorem withSign_mul (negative : Bool) (m n : Nat) :
    withSign negative (m * n) = withSign negative m * n := by
  cases negative <;> simp [withSign]

@[simp] theorem natAbs_withSign (negative : Bool) (m : Nat) : (withSign negative m).natAbs = m := by
  cases negative <;> simp [withSign]

theorem withSign_natAbs (n : Int) : withSign (decide (n < 0)) n.natAbs = n := by
  by_cases hn : n < 0
  · rw [decide_eq_true hn, withSign, if_pos rfl, Int.ofNat_natAbs_of_nonpos (Int.le_of_lt hn),
      Int.neg_neg]
  · rw [decide_eq_false hn, withSign, if_neg Bool.false_ne_true,
      Int.natAbs_of_nonneg (Int.not_lt.mp hn)]

theorem toInt?_eq_some_iff {negative : Bool} {mantissa : Nat} {exponent u : Int}
    {canonical : IsCanonical mantissa exponent} :
    (finite negative mantissa exponent canonical).toInt? = some u ↔
      withSign negative mantissa * twoTo exponent.toNat = u * twoTo (-exponent).toNat := by
  rw [toInt?]
  by_cases hexponent : 0 ≤ exponent
  · have hnone : (-exponent).toNat = 0 := by omega
    rw [if_pos hexponent, hnone, scaled_eq, Int.sub_zero, twoTo_zero, Int.natCast_one, Int.mul_one,
      Option.some.injEq]
  · have hnone : exponent.toNat = 0 := by omega
    have hpos := twoTo_pos (-exponent).toNat
    rw [if_neg hexponent, hnone, twoTo_zero, Int.natCast_one, Int.mul_one]
    generalize twoTo (-exponent).toNat = den at hpos
    dsimp only
    by_cases hrest : mantissa % den = 0
    · obtain ⟨m, rfl⟩ := Nat.dvd_of_mod_eq_zero hrest
      have hden : (den : Int) ≠ 0 := by omega
      rw [if_pos hrest, Nat.mul_div_cancel_left m hpos, scaled_eq, Int.sub_self, Nat.mul_comm den m,
        withSign_mul, Int.mul_eq_mul_right_iff hden, Option.some.injEq, Int.toNat_zero, twoTo_zero,
        Int.natCast_one, Int.mul_one]
    · rw [if_neg hrest]
      refine ⟨fun h => absurd h.symm (Option.some_ne_none u), fun h => absurd ?_ hrest⟩
      have habs := congrArg Int.natAbs h
      rw [natAbs_withSign, Int.natAbs_mul, Int.natAbs_natCast] at habs
      rw [habs, Nat.mul_mod_left]

theorem log2_le_of_le {n k : Nat} (hn : n ≠ 0) (h : n ≤ twoTo k) : n.log2 ≤ k :=
  Nat.lt_succ_iff.mp ((Nat.log2_lt hn).mpr (Nat.lt_of_le_of_lt h (Nat.pow_lt_pow_succ Nat.one_lt_two)))

theorem exponentFor_one {n : Nat} (hn : n ≠ 0) : exponentFor n 1 = (n.log2 : Int) - 52 := by
  have hguess : (n.log2 : Int) - (1 : Nat).log2 - 52 = (n.log2 : Int) - 52 := by
    rw [show (1 : Nat).log2 = 0 from rfl]
    omega
  -- no digit of a whole number is lost in the guess
  have hlong : ¬n * twoTo (-((n.log2 : Int) - 52)).toNat <
      twoTo 52 * 1 * twoTo ((n.log2 : Int) - 52).toNat := by
    have hsplit : 52 + ((n.log2 : Int) - 52).toNat = n.log2 + (-((n.log2 : Int) - 52)).toNat := by
      omega
    rw [Nat.not_lt, Nat.mul_one, ← twoTo_add, hsplit, twoTo_add]
    exact Nat.mul_le_mul_right _ (twoTo_log2_le hn)
  have hmin : minExponent ≤ (n.log2 : Int) - 52 := by
    unfold minExponent
    omega
  unfold exponentFor fullExponent
  dsimp only
  rw [hguess, if_neg hlong, max_eq_left hmin]

theorem exists_mantissa {n : Nat} (hn : n ≠ 0) (h : n ≤ twoTo 53) :
    ∃ m < twoTo 53, n * twoTo (-((n.log2 : Int) - 52)).toNat =
      m * twoTo ((n.log2 : Int) - 52).toNat := by
  have hlog := log2_le_of_le hn h
  by_cases hfits : n.log2 ≤ 52
  · have hnone : ((n.log2 : Int) - 52).toNat = 0 := by omega
    have hlength : 53 = n.log2 + 1 + (-((n.log2 : Int) - 52)).toNat := by omega
    refine ⟨n * twoTo (-((n.log2 : Int) - 52)).toNat, ?_, by rw [hnone, twoTo_zero, Nat.mul_one]⟩
    rw [hlength, twoTo_add]
    exact Nat.mul_lt_mul_of_pos_right (lt_twoTo_log2_succ n) (twoTo_pos _)
  · have hlast : n.log2 = 53 := by omega
    have hle := twoTo_log2_le hn
    rw [hlast] at hle
    rw [hlast, Nat.le_antisymm h hle]
    exact ⟨twoTo 52, Nat.pow_lt_pow_succ Nat.one_lt_two, rfl⟩

theorem ofRatio_one {n : Nat} (hn : n ≠ 0) (h : n ≤ twoTo 53) (negative : Bool) :
    (ofRatio negative n 1).toInt? = some (withSign negative n) := by
  obtain ⟨m, hm, heq⟩ := exists_mantissa hn h
  have hlog := log2_le_of_le hn h
  have hmantissa : mantissaFor n 1 = m := by
    rw [mantissaFor, exponentFor_one hn, heq, roundDiv_mul_right (twoTo_pos _), roundDiv_one]
  have hmax : exponentFor n 1 ≤ maxExponent := by
    rw [exponentFor_one hn]
    unfold maxExponent
    omega
  rw [ofRatio_eq_pack negative hn Nat.one_ne_zero,
    pack_eq_finite negative _ (hmantissa ▸ Nat.ne_of_lt hm) hmax, toInt?_eq_some_iff, hmantissa,
    exponentFor_one hn, ← withSign_mul, ← withSign_mul, heq]

theorem toInt?_ofInt {n : Int} (h : n.natAbs ≤ twoTo 53) : (ofInt n).toInt? = some n := by
  by_cases hn : n = 0
  · subst hn
    exact toInt?_zero false
  · have hne : n.natAbs ≠ 0 := Int.natAbs_ne_zero.mpr hn
    rw [ofInt, ofRatio_one hne h, withSign_natAbs]

theorem scaled_of_toInt? {negative : Bool} {mantissa : Nat} {exponent u unit : Int}
    {canonical : IsCanonical mantissa exponent}
    (h : (finite negative mantissa exponent canonical).toInt? = some u) (hunit : unit ≤ exponent) :
    scaled negative mantissa exponent unit * twoTo unit.toNat = u * twoTo (-unit).toNat := by
  have hpos : (twoTo (-exponent).toNat : Int) ≠ 0 := by
    have := twoTo_pos (-exponent).toNat
    omega
  have hsplit : (exponent - unit).toNat + unit.toNat + (-exponent).toNat =
      exponent.toNat + (-unit).toNat := by omega
  have hpowers := congrArg (fun n => (twoTo n : Int)) hsplit
  simp only [twoTo_add, Nat.cast_mul] at hpowers
  apply Int.eq_of_mul_eq_mul_right hpos
  calc scaled negative mantissa exponent unit * twoTo unit.toNat * twoTo (-exponent).toNat
      = withSign negative mantissa * (twoTo (exponent - unit).toNat * twoTo unit.toNat *
          twoTo (-exponent).toNat) := by rw [scaled_eq]; ring
    _ = withSign negative mantissa * twoTo exponent.toNat * twoTo (-unit).toNat := by
        rw [hpowers]; ring
    _ = u * twoTo (-unit).toNat * twoTo (-exponent).toNat := by
        rw [toInt?_eq_some_iff.mp h]; ring

theorem mul_neg_iff_of_pos {n c : Int} (hc : 0 < c) : n * c < 0 ↔ n < 0 := by
  rw [← Int.zero_mul c, Int.mul_lt_mul_right hc, Int.zero_mul]

theorem ofScaled_eq_ofInt {n w unit : Int}
    (h : n * twoTo unit.toNat = w * twoTo (-unit).toNat) :
    ofScaled (decide (n < 0)) n.natAbs unit = ofInt w := by
  have hpos (k : Nat) : (0 : Int) < twoTo k := Int.natCast_pos.mpr (twoTo_pos k)
  have hsign : n < 0 ↔ w < 0 := by
    rw [← mul_neg_iff_of_pos (hpos unit.toNat), h, mul_neg_iff_of_pos (hpos _)]
  have habs := congrArg Int.natAbs h
  rw [Int.natAbs_mul, Int.natAbs_mul, Int.natAbs_natCast, Int.natAbs_natCast] at habs
  have hscale := ofRatio_mul_twoTo (decide (w < 0)) w.natAbs Nat.one_ne_zero (-unit).toNat
  rw [Nat.one_mul] at hscale
  rw [ofScaled, habs, decide_eq_decide.mpr hsign, hscale, ofInt]

theorem toInt?_add {x y : Binary64} {u v : Int} (hx : x.toInt? = some u) (hy : y.toInt? = some v)
    (h : (u + v).natAbs ≤ twoTo 53) : (x.add y).toInt? = some (u + v) := by
  cases x with
  | nan => cases hx
  | infinite _ => cases hx
  | finite a m q _ =>
    cases y with
    | nan => cases hy
    | infinite _ => cases hy
    | finite b n r _ =>
      have hsum : (scaled a m q (min q r) + scaled b n r (min q r)) * twoTo (min q r).toNat =
          (u + v) * twoTo (-min q r).toNat := by
        rw [Int.add_mul, Int.add_mul, scaled_of_toInt? hx (min_le_left q r),
          scaled_of_toInt? hy (min_le_right q r)]
      unfold add
      dsimp only
      generalize scaled a m q (min q r) + scaled b n r (min q r) = sum at hsum
      generalize min q r = unit at hsum
      by_cases hzero : sum = 0
      · have huv : u + v = 0 := by
          rw [hzero, Int.zero_mul, eq_comm] at hsum
          have hne := Int.natCast_ne_zero.mpr (Nat.ne_of_gt (twoTo_pos (-unit).toNat))
          exact (Int.mul_eq_zero.mp hsum).resolve_right hne
        rw [if_pos hzero, huv, toInt?_zero]
      · rw [if_neg hzero, ofScaled_eq_ofInt hsum, toInt?_ofInt h]

theorem toInt?_foldl_add {xs : List Binary64} {ns : List Int}
    (hxs : List.Forall₂ (fun x n => x.toInt? = some n) xs ns) {x : Binary64} {u : Int}
    (hx : x.toInt? = some u) (h : u.natAbs + (ns.map Int.natAbs).sum ≤ twoTo 53) :
    (xs.foldl add x).toInt? = some (u + ns.sum) := by
  induction hxs generalizing x u with
  | nil => simpa using hx
  | @cons y n ys ns hhead _ ih =>
    rw [List.map_cons, List.sum_cons] at h
    have hle := Int.natAbs_add_le u n
    have hadd := toInt?_add hx hhead (by omega)
    rw [List.foldl_cons, List.sum_cons, ← Int.add_assoc]
    exact ih hadd (by omega)

theorem toInt?_sum {xs : List Binary64} {ns : List Int}
    (hxs : List.Forall₂ (fun x n => x.toInt? = some n) xs ns)
    (h : (ns.map Int.natAbs).sum ≤ twoTo 53) : (sum xs).toInt? = some ns.sum := by
  rw [sum, toInt?_foldl_add hxs (toInt?_zero true) (by simpa using h), Int.zero_add]

end Binary64

end Reporting
