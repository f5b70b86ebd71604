import Reporting.Data.Json.Token

/-!
Words of TOML text that are values: booleans, numbers, and points in time. A number
may be well formed and yet hold no value; it is a fault only where it is looked at.
-/

namespace Reporting.Toml

/-- Takes out underscores, which have to stand between characters that count as digits. -/
def ungroup? (isDigit : Char → Bool) : List Char → Option (List Char)
  | [] => some []
  | '_' :: _ => none
  | c :: '_' :: cs =>
    if isDigit c && cs.head?.any isDigit then (ungroup? isDigit cs).map (c :: ·) else none
  | c :: cs => (ungroup? isDigit cs).map (c :: ·)

def digits? (cs : List Char) : Option (List Char) :=
  (ungroup? Char.isDigit cs).filter fun ds => !ds.isEmpty && ds.all Char.isDigit

def isNegative : List Char → Bool
  | '-' :: _ => true
  | _ => false

def dropSign : List Char → List Char
  | '-' :: cs => cs
  | '+' :: cs => cs
  | cs => cs

def signedBy (negative : Bool) (ds : List Char) : Int :=
  let n : Int := Binary64.natOfDigits ds
  if negative then -n else n

def isTidy (ds : List Char) : Bool := ds.length = 1 || ds.head? ≠ some '0'

def whole (n : Int) : Node :=
  if -(twoTo 127) ≤ n && n < twoTo 128 then .int n else .noNumber true

def isHexDigit (c : Char) : Bool := (Json.hexDigit? c).isSome

def inBase? (base : Nat) (isDigit : Char → Bool) (cs : List Char) : Option Node :=
  (ungroup? isDigit cs).bind fun ds =>
    if !ds.all isDigit then none
    else if ds.isEmpty then some (.noNumber true)
    else some (whole (ds.foldl (fun n c => base * n + (Json.hexDigit? c).getD 0) 0 : Nat))

def isFractional (cs : List Char) : Bool := cs.any fun c => c = '.' || c = 'e' || c = 'E'

/--
A whole number. In a decimal one with an underscore after its first digits, any characters other
than spaces may stand that keep to the rule of underscores for digits of base 16; with others than
decimal digits it holds no number.
-/
def integer? : List Char → Option Node
  | '0' :: 'x' :: cs => inBase? 16 isHexDigit cs
  | '0' :: 'o' :: cs => inBase? 8 (fun c => '0' ≤ c && c ≤ '7') cs
  | '0' :: 'b' :: cs => inBase? 2 (fun c => c = '0' || c = '1') cs
  | cs =>
    let ds := dropSign cs
    let isDecimal :=
      match ds.dropWhile Char.isDigit with
      | [] => true
      | c :: _ => c = '_'
    if ds.head?.any Char.isDigit && isDecimal && isTidy ds && !isFractional ds && !ds.contains ' '
    then
      (ungroup? isHexDigit ds).map fun ds =>
        if ds.all Char.isDigit then whole (signedBy (isNegative cs) ds) else .noNumber true
    else none

def exponent? (cs : List Char) : Option Int :=
  (digits? (dropSign cs)).map (signedBy (isNegative cs))

def decimal? (cs : List Char) : Option Binary64 :=
  let text := dropSign cs
  let isMark := fun c => c = 'e' || c = 'E'
  let exponent :=
    match text.dropWhile fun c => !isMark c with
    | [] => some 0
    | _ :: cs => exponent? cs
  let parts :=
    match Text.cutAt '.' (text.takeWhile fun c => !isMark c) with
    | none => (text.takeWhile fun c => !isMark c, some [])
    | some (before, after) => (before, digits? after)
  match exponent, (digits? parts.1).filter isTidy, parts.2 with
  | some exponent, some ds, some fs =>
    some
      (.ofDecimal (isNegative cs) (Binary64.natOfDigits (ds ++ fs)) (exponent - fs.length))
  | _, _, _ => none

def float? (cs : List Char) : Option Node :=
  -- A number that is too large to be finite holds none, unless it is written as infinite.
  if dropSign cs = ['i', 'n', 'f'] then some (.float (.infinite (isNegative cs)))
  else if dropSign cs = ['n', 'a', 'n'] then some (.float .nan)
  else (decimal? cs).map fun x => if x.isFinite then .float x else .noNumber false

def isLeapYear (year : Nat) : Bool := year % 4 = 0 && (year % 100 ≠ 0 || year % 400 = 0)

def daysIn (year month : Nat) : Nat :=
  if month = 2 then if isLeapYear year then 29 else 28
  else if [4, 6, 9, 11].contains month then 30
  else 31

def number? (cs : List Char) : Option Nat :=
  if cs.all Char.isDigit then some (Binary64.natOfDigits cs) else none

def date? : List Char → Option (List Char)
  | y :: e :: a :: r :: '-' :: m :: n :: '-' :: d :: f :: cs =>
    match number? [y, e, a, r], number? [m, n], number? [d, f] with
    | some year, some month, some day =>
      if 1 ≤ month && month ≤ 12 && 1 ≤ day && day ≤ daysIn year month then some cs else none
    | _, _, _ => none
  | _ => none

def clock? : List Char → Option (List Char)
  | h :: i :: ':' :: m :: n :: cs =>
    match number? [h, i], number? [m, n] with
    | some hour, some minute => if hour < 24 && minute < 60 then some cs else none
    | _, _ => none
  | _ => none

def fraction? : List Char → Option (List Char)
  | '.' :: cs =>
    if (cs.takeWhile Char.isDigit).isEmpty then none else some (cs.dropWhile Char.isDigit)
  | cs => some cs

def time? (cs : List Char) : Option (List Char) :=
  match clock? cs with
  | some (':' :: s :: t :: cs) =>
    match number? [s, t] with
    | some second => if 60 < second then none else fraction? cs
    | none => none
  | rest => rest

def isOffset : List Char → Bool
  | [] => true
  | ['Z'] => true
  | ['z'] => true
  | '+' :: cs => clock? cs == some []
  | '-' :: cs => clock? cs == some []
  | _ => false

def isMoment (cs : List Char) : Bool :=
  match date? cs with
  | some [] => true
  | some (c :: cs) => (c = 'T' || c = 't' || c = ' ') && (time? cs).any isOffset
  | none => time? cs == some []

def scalar? (cs : List Char) : Option Node :=
  if cs = ['t', 'r', 'u', 'e'] then some (.bool true)
  else if cs = ['f', 'a', 'l', 's', 'e'] then some (.bool false)
  else if isMoment cs then some .moment
  else
    match integer? cs with
    | some n => some n
    | none => float? cs

end Reporting.Toml
