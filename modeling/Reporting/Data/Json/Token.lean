import Reporting.Binary64.Reader
import Reporting.Data.Node

/-!
The tokens of JSON text. A token that breaks the grammar ends the sequence.
-/

namespace Reporting.Json

inductive Token where
  | beginList
  | endList
  | beginTable
  | endTable
  | comma
  | colon
  | null
  | bool (b : Bool)
  | int (n : Int)
  | float (x : Binary64)
  | string (s : String)
  | unreadableString
  | unreadableNumber
  | malformed
  deriving DecidableEq, Repr

def hexDigit? (c : Char) : Option Nat :=
  if c.isDigit then some (c.toNat - 48)
  else if 'a' ≤ c && c ≤ 'f' then some (c.toNat - 87)
  else if 'A' ≤ c && c ≤ 'F' then some (c.toNat - 55)
  else none

def hexNumber? (cs : List Char) : Option Nat :=
  cs.foldl (fun n c => n.bind fun n => (hexDigit? c).map (16 * n + ·)) (some 0)

def escaped? : Char → Option Char
  | '\x22' => some '\x22'
  | '\\' => some '\\'
  | '/' => some '/'
  | 'b' => some '\x08'
  | 'f' => some '\x0c'
  | 'n' => some '\n'
  | 'r' => some '\r'
  | 't' => some '\t'
  | _ => none

def scanString : List Char → Option (List Nat × List Char)
  | [] => none
  | '\x22' :: cs => some ([], cs)
  | '\\' :: 'u' :: a :: b :: c :: d :: cs =>
    match hexNumber? [a, b, c, d], scanString cs with
    | some n, some (ns, rest) => some (n :: ns, rest)
    | _, _ => none
  | '\\' :: e :: cs =>
    match escaped? e, scanString cs with
    | some c, some (ns, rest) => some (c.toNat :: ns, rest)
    | _, _ => none
  | c :: cs =>
    if c.toNat < 0x20 || c = '\\' then none
    else (scanString cs).map fun p => (c.toNat :: p.1, p.2)

def isHighSurrogate (n : Nat) : Bool := 0xD800 ≤ n && n < 0xDC00

def isLowSurrogate (n : Nat) : Bool := 0xDC00 ≤ n && n < 0xE000

def charsOfUnits? : List Nat → Option (List Char)
  -- Surrogates have to come in pairs.
  | [] => some []
  | [n] => if isHighSurrogate n || isLowSurrogate n then none else some [Char.ofNat n]
  | n :: m :: ns =>
    if isHighSurrogate n then
      if isLowSurrogate m then
        (charsOfUnits? ns).map (Char.ofNat (0x10000 + 0x400 * (n - 0xD800) + (m - 0xDC00)) :: ·)
      else none
    else if isLowSurrogate n then none
    else (charsOfUnits? (m :: ns)).map (Char.ofNat n :: ·)

def stringToken (units : List Nat) : Token :=
  match charsOfUnits? units with
  | some cs => .string (.ofList cs)
  | none => .unreadableString

/-- A number as written: its digits without the point, and the power of ten they are scaled by. -/
structure Numeral where
  negative : Bool
  whole : List Char
  fraction : List Char
  exponent : Option Int
  deriving DecidableEq, Repr

def scanInt? (negative : Bool) (cs : List Char) : Option (Int × List Char) :=
  let ds := cs.takeWhile Char.isDigit
  let n : Int := Binary64.natOfDigits ds
  if ds.isEmpty then none else some (if negative then -n else n, cs.dropWhile Char.isDigit)

def scanExponent? : List Char → Option (Int × List Char)
  | '-' :: cs => scanInt? true cs
  | '+' :: cs => scanInt? false cs
  | cs => scanInt? false cs

def scanNumeral? (cs : List Char) : Option (Numeral × List Char) :=
  let (negative, cs) :=
    match cs with
    | '-' :: cs => (true, cs)
    | _ => (false, cs)
  let whole := cs.takeWhile Char.isDigit
  let rest := cs.dropWhile Char.isDigit
  if whole.isEmpty || (whole.head? == some '0' && whole.length != 1) then none
  else
    let (fraction, rest, ok) :=
      match rest with
      | '.' :: cs =>
        (cs.takeWhile Char.isDigit, cs.dropWhile Char.isDigit, !(cs.takeWhile Char.isDigit).isEmpty)
      | _ => ([], rest, true)
    if !ok then none
    else
      match rest with
      | c :: cs =>
        if c = 'e' || c = 'E' then
          (scanExponent? cs).map fun p => (⟨negative, whole, fraction, some p.1⟩, p.2)
        else some (⟨negative, whole, fraction, none⟩, rest)
      | [] => some (⟨negative, whole, fraction, none⟩, rest)

namespace Numeral

def limit : Nat := twoTo 64

def significand : Nat → List Char → Nat × List Char
  | n, [] => (n, [])
  | n, c :: cs =>
    let m := 10 * n + (c.toNat - 48)
    if limit ≤ m then (n, c :: cs) else significand m cs

def powerOfTen (n : Nat) : Binary64 := .ofRatio false (tenTo n) 1

/--
Scales by a power of ten in steps of at most 308, each rounded; nothing is left of a number that is
scaled down for long enough.
-/
def scale : Nat → Binary64 → Int → Option Binary64
  | 0, x, _ => some x
  | fuel + 1, x, exponent =>
    if exponent.natAbs ≤ 308 then
      let y :=
        if 0 ≤ exponent then x.mul (powerOfTen exponent.toNat)
        else x.div (powerOfTen (-exponent).toNat)
      if y.isFinite then some y else none
    else if x.isZero then some x
    else if 0 ≤ exponent then none
    else scale fuel (x.div (powerOfTen 308)) (exponent + 308)

def token (n : Numeral) : Token :=
  -- Whole numbers of 64 bits are integers, except for minus zero; all others are rounded.
  let (whole, beyond) := significand 0 n.whole
  let (digits, fractionOver) := significand whole n.fraction
  if n.fraction.isEmpty && n.exponent.isNone && beyond.isEmpty && !n.negative then .int whole
  else if n.fraction.isEmpty && n.exponent.isNone && beyond.isEmpty && whole != 0 &&
      whole ≤ twoTo 63 then
    .int (-whole)
  else
    let places : Int := beyond.length - (n.fraction.length - fractionOver.length : Nat)
    match scale 4 (.ofRatio n.negative digits 1) (places + n.exponent.getD 0) with
    | some x => .float x
    | none => .unreadableNumber

end Numeral

/-- The token at the head of the characters and what follows it; blanks are not expected here. -/
def next? : List Char → Option (Token × List Char)
  | '[' :: cs => some (.beginList, cs)
  | ']' :: cs => some (.endList, cs)
  | '\x7b' :: cs => some (.beginTable, cs)
  | '\x7d' :: cs => some (.endTable, cs)
  | ',' :: cs => some (.comma, cs)
  | ':' :: cs => some (.colon, cs)
  | 'n' :: 'u' :: 'l' :: 'l' :: cs => some (.null, cs)
  | 't' :: 'r' :: 'u' :: 'e' :: cs => some (.bool true, cs)
  | 'f' :: 'a' :: 'l' :: 's' :: 'e' :: cs => some (.bool false, cs)
  | '\x22' :: cs => (scanString cs).map fun p => (stringToken p.1, p.2)
  | cs => (scanNumeral? cs).map fun p => (p.1.token, p.2)

def isSpace (c : Char) : Bool := c = ' ' || c = '\t' || c = '\n' || c = '\r'

def tokensFrom : Nat → List Char → List Token
  -- Every token takes at least one character, so the length of the text is fuel enough.
  | 0, _ => []
  | fuel + 1, cs =>
    match cs.dropWhile isSpace with
    | [] => []
    | c :: cs =>
      match next? (c :: cs) with
      | some (t, rest) => t :: tokensFrom fuel rest
      | none => [.malformed]

def tokens (s : String) : List Token := tokensFrom s.length s.toList

end Reporting.Json
