import Reporting.Binary64.Rounding

/-!
Binary floating-point numbers of 64 bits as exact values: a sign, a mantissa below `2 ^ 53` and a
power of two. Every operation takes the exact result and rounds it once, to the nearest number, and
from halfway to the even mantissa.
-/

namespace Reporting

inductive Binary64 where
  | nan
  | infinite (negative : Bool)
  | finite (negative : Bool) (mantissa : Nat) (exponent : Int)
    (canonical : Binary64.IsCanonical mantissa exponent)
  deriving DecidableEq, Repr, Inhabited

namespace Binary64

def zero (negative : Bool) : Binary64 :=
  .finite negative 0 minExponent ⟨twoTo_pos 53, .inr rfl, Int.le_refl _, by decide⟩

def pack (negative : Bool) (mantissa : Nat) (exponent : Int) (h : IsRounded mantissa exponent) :
    Binary64 :=
  if hcarry : mantissa = twoTo 53 then
    if hmax : exponent + 1 ≤ maxExponent then
      .finite negative (twoTo 52) (exponent + 1) (h.carried hmax)
    else .infinite negative
  else if hmax : exponent ≤ maxExponent then
    .finite negative mantissa exponent (h.canonical hcarry hmax)
  else .infinite negative

theorem pack_eq_finite (negative : Bool) {mantissa : Nat} {exponent : Int}
    (h : IsRounded mantissa exponent) (hne : mantissa ≠ twoTo 53) (hmax : exponent ≤ maxExponent) :
    pack negative mantissa exponent h =
      .finite negative mantissa exponent (h.canonical hne hmax) := by
  rw [pack, dif_neg hne, dif_pos hmax]

def ofRatio (negative : Bool) (num den : Nat) : Binary64 :=
  if hnum : num = 0 then zero negative
  else if hden : den = 0 then .infinite negative
  else
    pack negative (mantissaFor num den) (exponentFor num den) (isRounded_mantissaFor hnum hden)

theorem ofRatio_eq_pack (negative : Bool) {num den : Nat} (hnum : num ≠ 0) (hden : den ≠ 0) :
    ofRatio negative num den = pack negative (mantissaFor num den) (exponentFor num den)
      (isRounded_mantissaFor hnum hden) := by
  rw [ofRatio, dif_neg hnum, dif_neg hden]

def ofScaled (negative : Bool) (n : Nat) (exponent : Int) : Binary64 :=
  ofRatio negative (n * twoTo exponent.toNat) (twoTo (-exponent).toNat)

def ofInt (n : Int) : Binary64 := ofRatio (decide (n < 0)) n.natAbs 1

def isFinite : Binary64 → Bool
  | finite .. => true
  | _ => false

def isNegative : Binary64 → Bool
  | nan => false
  | infinite negative => negative
  | finite negative mantissa _ _ => negative && mantissa != 0

def neg : Binary64 → Binary64
  | nan => nan
  | infinite negative => infinite !negative
  | finite negative mantissa exponent h => finite (!negative) mantissa exponent h

/-- The whole number that a finite number is in units of `2 ^ unit`, for a small enough unit. -/
def scaled (negative : Bool) (mantissa : Nat) (exponent unit : Int) : Int :=
  let n : Int := mantissa * twoTo (exponent - unit).toNat
  if negative then -n else n

def add : Binary64 → Binary64 → Binary64
  | nan, _ => nan
  | _, nan => nan
  | infinite a, infinite b => if a = b then infinite a else nan
  | infinite a, finite .. => infinite a
  | finite .., infinite b => infinite b
  | finite a m q _, finite b n r _ =>
    let unit := min q r
    let sum := scaled a m q unit + scaled b n r unit
    if sum = 0 then zero (a && b) else ofScaled (decide (sum < 0)) sum.natAbs unit

def signOf (a b : Bool) : Bool := a != b

def mul : Binary64 → Binary64 → Binary64
  | nan, _ => nan
  | _, nan => nan
  | infinite a, infinite b => infinite (signOf a b)
  | infinite a, finite b n _ _ => if n = 0 then nan else infinite (signOf a b)
  | finite a m _ _, infinite b => if m = 0 then nan else infinite (signOf a b)
  | finite a m q _, finite b n r _ => ofScaled (signOf a b) (m * n) (q + r)

def div : Binary64 → Binary64 → Binary64
  | nan, _ => nan
  | _, nan => nan
  | infinite _, infinite _ => nan
  | infinite a, finite b .. => infinite (signOf a b)
  | finite a .., infinite b => zero (signOf a b)
  | finite a m q _, finite b n r _ =>
    if n = 0 then if m = 0 then nan else infinite (signOf a b)
    else ofRatio (signOf a b) (m * twoTo (q - r).toNat) (n * twoTo (r - q).toNat)

def isZero : Binary64 → Bool
  | finite _ mantissa _ _ => mantissa == 0
  | _ => false

def sum (xs : List Binary64) : Binary64 := xs.foldl add (zero true)

def same : Binary64 → Binary64 → Bool
  | nan, _ => false
  | _, nan => false
  | infinite a, infinite b => a == b
  | finite a m q _, finite b n r _ => (m == 0 && n == 0) || (a == b && m == n && q == r)
  | _, _ => false

def toInt? : Binary64 → Option Int
  | finite negative mantissa exponent _ =>
    if 0 ≤ exponent then some (scaled negative mantissa exponent 0)
    else
      let den := twoTo (-exponent).toNat
      if mantissa % den = 0 then some (scaled negative (mantissa / den) 0 0) else none
  | _ => none

end Binary64

end Reporting
