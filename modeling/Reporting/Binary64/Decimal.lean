import Reporting.Binary64.Basic
import Reporting.Text.Split

/-!
Decimal texts of numbers. The plain text of a number has the fewest digits that read back as the
same number, written without an exponent; the fixed text has a given number of places, rounded from
the exact value.
-/

namespace Reporting

structure Decimal where
  digits : Nat
  exponent : Int
  deriving DecidableEq, Repr

namespace Decimal

def stripZeros : Nat → Decimal → Decimal
  | 0, d => d
  | fuel + 1, d =>
    if d.digits % 10 = 0 && d.digits != 0 then stripZeros fuel ⟨d.digits / 10, d.exponent + 1⟩
    else d

def plain (d : Decimal) : List Char :=
  let ds := Text.digits d.digits
  let places := (-d.exponent).toNat
  if 0 ≤ d.exponent then ds ++ List.replicate d.exponent.toNat '0'
  else if places < ds.length then
    ds.take (ds.length - places) ++ '.' :: ds.drop (ds.length - places)
  else ['0', '.'] ++ List.replicate (places - ds.length) '0' ++ ds

def exponentText (n : Int) : List Char :=
  if n < 0 then (Text.ofInt n).toList else '+' :: (Text.ofInt n).toList

def compact (d : Decimal) : List Char :=
  -- Always with a point or an exponent; an exponent from `10 ^ 16` and below `10 ^ (-5)`.
  let ds := Text.digits d.digits
  let point : Int := ds.length + d.exponent
  if d.digits = 0 then ['0', '.', '0']
  else if 0 ≤ d.exponent && point ≤ 16 then d.plain ++ ['.', '0']
  else if -5 < point && point ≤ 16 then d.plain
  else
    let fraction := if ds.length = 1 then [] else '.' :: ds.drop 1
    ds.take 1 ++ fraction ++ 'e' :: exponentText (point - 1)

end Decimal

namespace Binary64

def decimalPoint (mantissa : Nat) (exponent : Int) : Int :=
  let guess := ((mantissa.log2 : Int) + exponent) * 30103 / 100000 + 1
  let isBelow :=
    mantissa * twoTo exponent.toNat * tenTo (-guess).toNat <
      tenTo guess.toNat * twoTo (-exponent).toNat
  if isBelow then guess else guess + 1

/--
The numbers that round to a finite number lie between `low / unit` and `high / unit`, where the
number itself is `value / unit`; both ends count if the mantissa is even.
-/
structure Interval where
  low : Nat
  value : Nat
  high : Nat
  unit : Nat
  closed : Bool
  deriving DecidableEq, Repr

def interval (mantissa : Nat) (exponent place : Int) : Interval :=
  let scale := twoTo exponent.toNat * tenTo (-place).toNat
  let below := if mantissa = twoTo 52 && minExponent < exponent then 1 else 2
  { low := (4 * mantissa - below) * scale
    value := 4 * mantissa * scale
    high := (4 * mantissa + 2) * scale
    unit := 4 * twoTo (-exponent).toNat * tenTo place.toNat
    closed := mantissa % 2 == 0 }

def Interval.holds (i : Interval) (n : Nat) : Bool :=
  let x := n * i.unit
  (i.low < x || (i.closed && i.low == x)) && (x < i.high || (i.closed && x == i.high))

inductive Tie where
  | larger
  | even
  deriving DecidableEq, Repr

def Tie.quotient : Tie → Nat → Nat → Nat
  | larger, num, den => (2 * num + den) / (2 * den)
  | even, num, den => roundDiv num den

def Interval.nearest? (tie : Tie) (i : Interval) : Option Nat :=
  let t := i.value / i.unit
  match i.holds t, i.holds (t + 1) with
  | true, true => some (tie.quotient i.value i.unit)
  | true, false => some t
  | false, true => some (t + 1)
  | false, false => none

def shortestFrom (tie : Tie) (mantissa : Nat) (exponent point : Int) : Nat → Nat → Decimal
  | 0, count =>
    let i := interval mantissa exponent (point - count)
    ⟨tie.quotient i.value i.unit, point - count⟩
  | tries + 1, count =>
    match (interval mantissa exponent (point - count)).nearest? tie with
    | some n => ⟨n, point - count⟩
    | none => shortestFrom tie mantissa exponent point tries (count + 1)

def shortest (tie : Tie) (mantissa : Nat) (exponent : Int) : Decimal :=
  if mantissa = 0 then ⟨0, 0⟩
  else (shortestFrom tie mantissa exponent (decimalPoint mantissa exponent) 16 1).stripZeros 17

def signed (negative : Bool) (cs : List Char) : List Char := if negative then '-' :: cs else cs

def text : Binary64 → String
  | nan => "NaN"
  | infinite negative => .ofList (signed negative ['i', 'n', 'f'])
  | finite negative mantissa exponent _ =>
    .ofList (signed negative (shortest .larger mantissa exponent).plain)

def withPoint (places n : Nat) : List Char :=
  let ds := Text.digits n
  let ds := List.replicate (places + 1 - ds.length) '0' ++ ds
  if places = 0 then ds
  else ds.take (ds.length - places) ++ '.' :: ds.drop (ds.length - places)

/-- The digits before the point and a fixed count behind it, from halfway to the even last digit. -/
def fixedDigits (places mantissa : Nat) (exponent : Int) : List Char :=
  withPoint places <|
    roundDiv (mantissa * twoTo exponent.toNat * tenTo places) (twoTo (-exponent).toNat)

def fixed (places : Nat) : Binary64 → List Char
  | nan => ['N', 'a', 'N']
  | infinite negative => signed negative ['i', 'n', 'f']
  | finite negative mantissa exponent _ => signed negative (fixedDigits places mantissa exponent)

end Binary64

end Reporting
