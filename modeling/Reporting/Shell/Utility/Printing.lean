import Reporting.Binary64.Decimal
import Reporting.Binary64.Reader
import Reporting.Shell.Arithmetic
import Reporting.Shell.Utility.Numbers

/-!
Printing arguments, with escapes put for what they stand for, and by a format.
-/

namespace Reporting.Shell.Utility

def escapes : List (Char × Char) :=
  [('a', .ofNat 7), ('b', .ofNat 8), ('f', .ofNat 12), ('n', '\n'), ('r', '\r'), ('t', '\t'),
    ('v', .ofNat 11), ('\\', '\\')]

/-- What the characters behind a backslash stand for, and what follows. Before other digits a zero
can be left out. -/
def escape (allowsZero : Bool) : List Char → List Char × List Char
  | [] => (['\\'], [])
  | c :: cs =>
    if '0' ≤ c && c ≤ '7' then
      let (n, rest) := if allowsZero && c = '0' then octalPrefix 3 cs else octalPrefix 3 (c :: cs)
      ([.ofNat (n % 256)], rest)
    else
      match escapes.lookup c with
      | some d => ([d], cs)
      | none => (['\\', c], cs)

def unescaped : Nat → List Char → List Char × Bool
  | 0, cs => (cs, false)
  | _, [] => ([], false)
  | _, '\\' :: 'c' :: _ => ([], true)
  | n + 1, '\\' :: cs =>
    let (found, rest) := escape true cs
    let (more, stops) := unescaped n rest
    (found ++ more, stops)
  | n + 1, c :: cs =>
    let (more, stops) := unescaped n cs
    (c :: more, stops)

def echo : Utility := fun args => do
  let (isOpen, args) := match args with
    | "-n" :: args => (true, args)
    | args => (false, args)
  let cs := (" ".intercalate args).toList
  let (text, stops) := unescaped (cs.length + 1) cs
  Task.print (.ofList text ++ if isOpen || stops then "" else "\n")
  return 0

def plainEcho : Utility := fun args => do
  let isOptions := fun (arg : String) =>
    match arg.toList with
    | '-' :: c :: cs => (c :: cs).all "neE".toList.contains
    | _ => false
  let letters := ((args.takeWhile isOptions).map String.toList).flatten
  let text := " ".intercalate (args.dropWhile isOptions)
  let hasEscapes := (letters.filter fun c => c = 'e' || c = 'E').getLast? = some 'e'
  let (cs, stops) :=
    if hasEscapes then unescaped (text.length + 1) text.toList else (text.toList, false)
  Task.print (.ofList cs ++ if letters.contains 'n' || stops then "" else "\n")
  return 0

/-! ## Formats -/

structure Form where
  flags : List Char := []
  width : Nat := 0
  precision : Option Nat := none
  deriving Repr

namespace Form

def has (f : Form) (c : Char) : Bool := f.flags.contains c

def fill (f : Form) (cs : List Char) : List Char :=
  let gap := List.replicate (f.width - cs.length) ' '
  if f.has '-' then cs ++ gap else gap ++ cs

def text (f : Form) (cs : List Char) : List Char :=
  f.fill (match f.precision with
    | some n => cs.take n
    | none => cs)

def signed (f : Form) (sign digits : List Char) (fillsZeros : Bool) : List Char :=
  if fillsZeros && f.has '0' && !f.has '-' then
    sign ++ List.replicate (f.width - sign.length - digits.length) '0' ++ digits
  else f.fill (sign ++ digits)

def sign (f : Form) (isNegative : Bool) : List Char :=
  if isNegative then ['-'] else if f.has '+' then ['+'] else if f.has ' ' then [' '] else []

def wholeDigits (f : Form) (ds : List Char) (isZero : Bool) : List Char :=
  match f.precision with
  | some 0 => if isZero then [] else ds
  | some n => List.replicate (n - ds.length) '0' ++ ds
  | none => ds

def integer (f : Form) (n : Int) : List Char :=
  f.signed (f.sign (n < 0)) (f.wholeDigits (Text.digits n.natAbs) (n = 0)) f.precision.isNone

def natural (f : Form) (letter : Char) (n : Nat) : List Char :=
  let ds := match letter with
    | 'o' => inBase 8 n
    | 'x' => inBase 16 n
    | 'X' => (inBase 16 n).map Char.toUpper
    | _ => Text.digits n
  let ds := f.wholeDigits ds (n = 0)
  let ds := if f.has '#' && letter = 'o' && ds.head? ≠ some '0' then '0' :: ds else ds
  let mark := if f.has '#' && n ≠ 0 && (letter = 'x' || letter = 'X') then ['0', letter] else []
  f.signed mark ds f.precision.isNone

def scientific (places mantissa : Nat) (exponent : Int) : Nat × Int :=
  if mantissa = 0 then (0, 0)
  else
    let point := Binary64.decimalPoint mantissa exponent
    let scale : Int := places + 1 - point
    let n := Binary64.roundDiv (mantissa * twoTo exponent.toNat * tenTo scale.toNat)
      (twoTo (-exponent).toNat * tenTo (-scale).toNat)
    if n < tenTo (places + 1) then (n, point - 1) else (n / 10, point)

def exponentDigits (e : Int) : List Char :=
  'e' :: (if e < 0 then '-' else '+') ::
    (zeroPadded 2 (Text.ofNat e.natAbs)).toList

def withoutZeros (cs : List Char) : List Char :=
  if cs.contains '.' then
    match cs.reverse.dropWhile (· = '0') with
    | '.' :: ds => ds.reverse
    | ds => ds.reverse
  else cs

def floatDigits (f : Form) (letter : Char) (mantissa : Nat) (exponent : Int) : List Char :=
  let places := f.precision.getD 6
  let withExponent := fun (places : Nat) =>
    let (n, e) := scientific places mantissa exponent
    (Binary64.withPoint places n, e)
  match letter with
  | 'f' => Binary64.fixedDigits places mantissa exponent
  | 'e' =>
    let (ds, e) := withExponent places
    ds ++ exponentDigits e
  | _ =>
    let places := max places 1
    let (ds, e) := withExponent (places - 1)
    let strip := fun (cs : List Char) => if f.has '#' then cs else withoutZeros cs
    if -4 ≤ e && e < places then
      strip (Binary64.fixedDigits (places - 1 - e).toNat mantissa exponent)
    else strip ds ++ exponentDigits e

def float (f : Form) (letter : Char) (x : Binary64) : List Char :=
  let lower := letter.toLower
  let shown := match x with
    | .nan => f.fill ("nan".toList)
    | .infinite isNegative => f.fill (f.sign isNegative ++ "inf".toList)
    | .finite isNegative mantissa exponent _ =>
      f.signed (f.sign isNegative) (f.floatDigits lower mantissa exponent) true
  if lower = letter then shown else shown.map Char.toUpper

end Form

structure Printing where
  args : List String
  status : Nat := 0

abbrev Print := StateT Printing Act

namespace Print

def next? : Print (Option String) :=
  modifyGet fun p => (p.args.head?, { p with args := p.args.tail })

def complain (line : String) : Print Unit := do
  Task.say line
  modify fun p => { p with status := 1 }

def check (s : String) (isNone isRest isRange : Bool) : Print Unit := do
  if isNone then complain (s ++ ": expected numeric value")
  else if isRest then complain (s ++ ": not completely converted")
  else if isRange then complain (s ++ ": Numerical result out of range")

def integer (isSigned : Bool) : Print Int := do
  match ← next? with
  | none => return 0
  | some s =>
    match s.toList with
    | [] => return 0
    | '\x27' :: cs => return (cs.headD '\x00').toNat
    | '\x22' :: cs => return (cs.headD '\x00').toNat
    | cs =>
      let body := cs.dropWhile Arithmetic.isSpace
      let (isNegative, ds) := match body with
        | '-' :: ds => (true, ds)
        | '+' :: ds => (false, ds)
        | ds => (false, ds)
      if !(ds.head?.any Char.isDigit) then
        check s true false false
        return 0
      let (n, rest) := Arithmetic.leadingNumber ds
      let value : Int := if isNegative then -n else n
      let bounded := if isSigned then Arithmetic.bounded value
        else if n < twoTo 64 then value % twoTo 64 else twoTo 64 - 1
      check s false (!rest.isEmpty) (if isSigned then bounded ≠ value else twoTo 64 ≤ n)
      return bounded

def float : Print Binary64 := do
  match ← next? with
  | none => return .zero false
  | some s =>
    match s.toList with
    | [] => return .zero false
    | '\x27' :: cs => return .ofInt (cs.headD '\x00').toNat
    | '\x22' :: cs => return .ofInt (cs.headD '\x00').toNat
    | cs =>
      let body := cs.dropWhile Arithmetic.isSpace
      let sizes := (List.range (body.length + 1)).reverse
      let read := fun (n : Nat) => (Binary64.read? (body.take n)).map fun x => (n, x)
      match sizes.findSome? read with
      | none =>
        check s true false false
        return .zero false
      | some (n, x) =>
        check s false (n < body.length) false
        return x

def count (cs : List Char) : Print (Option Nat × Bool × List Char) := do
  match cs with
  | '*' :: rest =>
    let n ← integer true
    return (some n.natAbs, n < 0, rest)
  | cs =>
    let ds := cs.takeWhile Char.isDigit
    return (natural? ds, false, cs.drop ds.length)

def format : Nat → List Char → Print Bool
  | 0, _ => return true
  | _, [] => return false
  | n + 1, '\\' :: cs => do
    let (found, rest) := match cs with
      | '\x22' :: rest => (['\x22'], rest)
      | cs => escape false cs
    Task.print (.ofList found)
    format n rest
  | n + 1, '%' :: '%' :: cs => do
    Task.print "%"
    format n cs
  | n + 1, '%' :: cs => do
    let flags := cs.takeWhile ("#-+ 0".toList.contains ·)
    let (width, isLeft, rest) ← count (cs.drop flags.length)
    let (precision, rest) ← match rest with
      | '.' :: rest =>
        let (p, _, rest) ← count rest
        pure (some (p.getD 0), rest)
      | rest => pure (none, rest)
    let f : Form :=
      { flags := if isLeft then '-' :: flags else flags
        width := width.getD 0
        precision := precision }
    match rest with
    | [] => Task.fail 2 "missing format character"
    | letter :: rest =>
      let isOneOf := fun (letters : String) => letters.toList.contains letter
      if letter = 's' then
        Task.print (.ofList (f.text ((← next?).getD "").toList))
      else if letter = 'b' then
        let cs := ((← next?).getD "").toList
        let (text, stops) := unescaped (cs.length + 1) cs
        Task.print (.ofList (f.text text))
        if stops then return true
      else if letter = 'c' then
        Task.print (.ofList (f.fill [((← next?).getD "").toList.headD '\x00']))
      else if isOneOf "di" then Task.print (.ofList (f.integer (← integer true)))
      else if isOneOf "ouxX" then
        Task.print (.ofList (f.natural letter (← integer false).toNat))
      else if isOneOf "eEfFgG" then Task.print (.ofList (f.float letter (← float)))
      else
        let start := cs.take (cs.length - rest.length)
        Task.fail 2 ("%" ++ .ofList start ++ ": invalid directive")
      format n rest
  | n + 1, c :: cs => do
    Task.print (.singleton c)
    format n cs

def formatAll (text : List Char) : Nat → Print Unit
  | 0 => return
  | n + 1 => do
    let before := (← get).args
    let stops ← format (text.length + 1) text
    let left := (← get).args
    if !stops && !left.isEmpty && left.length < before.length then formatAll text n

end Print

def printf : Utility := fun args => do
  let args ← match args with
    | "--" :: args => pure args
    | arg :: _ =>
      match arg.toList with
      | '-' :: c :: _ => Task.fail 2 ("Illegal option -" ++ .singleton c)
      | _ => pure args
    | [] => pure []
  match args with
  | [] => Task.fail 2 "usage: printf format [arg ...]"
  | format :: args =>
    let ((), p) ← (Print.formatAll format.toList (args.length + 1)).run { args := args }
    return p.status

end Reporting.Shell.Utility
