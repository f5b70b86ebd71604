import Reporting.Powers
import Reporting.Shell.Syntax

/-!
Arithmetic on integers of 64 bits, as scripts write it. An expression is read as a whole before any
of it is worked out; what a condition leaves out is not worked out at all.
-/

namespace Reporting.Shell

namespace Arithmetic

inductive Operator where
  | times | over | rest | plus | minus | shiftLeft | shiftRight
  | less | atMost | greater | atLeast | equal | unequal | bitAnd | bitXor | bitOr
  deriving DecidableEq, Repr

inductive Expr where
  | number (n : Int)
  | variable (name : String)
  | negated (e : Expr)
  | inverted (e : Expr)
  | denied (e : Expr)
  | binary (o : Operator) (a b : Expr)
  | both (a b : Expr)
  | either (a b : Expr)
  | choice (test yes no : Expr)
  | assign (o : Option Operator) (name : String) (e : Expr)
  deriving Repr

inductive Token where
  | number (n : Int)
  | name (s : String)
  | sign (s : String)
  | bad
  deriving DecidableEq, Repr

inductive Problem where
  | expecting (what : String)
  | zeroDivision
  | illegal (text : String)
  deriving DecidableEq, Repr

def wrapped (n : Int) : Int :=
  let m := n % twoTo 64
  if m < twoTo 63 then m else m - twoTo 64

def greatest : Int := twoTo 63 - 1

def bounded (n : Int) : Int := max (-(twoTo 63)) (min n greatest)

def digitValue (c : Char) : Nat :=
  if c.isDigit then c.toNat - 48
  else if 'a' ≤ c && c ≤ 'z' then c.toNat - 87
  else if 'A' ≤ c && c ≤ 'Z' then c.toNat - 55
  else 36

def numberOf (base : Nat) (cs : List Char) : Nat := cs.foldl (fun n c => n * base + digitValue c) 0

def leadingNumber (cs : List Char) : Nat × List Char :=
  let read := fun (base : Nat) (cs : List Char) =>
    let isDigit := fun c => decide (digitValue c < base)
    (numberOf base (cs.takeWhile isDigit), cs.dropWhile isDigit)
  match cs with
  | '0' :: x :: d :: ds =>
    if (x = 'x' || x = 'X') && digitValue d < 16 then read 16 (d :: ds) else read 8 cs
  | '0' :: _ => read 8 cs
  | _ => read 10 cs

def isSpace (c : Char) : Bool := c = ' ' || c = '\t' || c = '\n'

def value? (s : String) : Option Int :=
  let cs := (s.toList.dropWhile isSpace).reverse.dropWhile isSpace |>.reverse
  let (isNegative, ds) := match cs with
    | '-' :: ds => (true, ds)
    | '+' :: ds => (false, ds)
    | ds => (false, ds)
  match ds with
  | [] => if cs.isEmpty then some 0 else none
  | d :: _ =>
    let (n, rest) := leadingNumber ds
    if d.isDigit && rest.isEmpty then some (bounded (if isNegative then -n else n)) else none

def signs : List String :=
  ["<<=", ">>=", "<<", ">>", "<=", ">=", "==", "!=", "&&", "||", "*=", "/=", "%=", "+=", "-=", "&=",
    "^=", "|=", "<", ">", "=", "!", "&", "|", "*", "/", "%", "+", "-", "~", "^", "(", ")", "?", ":"]

def tokensFrom : Nat → List Char → List Token
  | 0, _ => []
  | _, [] => []
  | n + 1, c :: cs =>
    if isSpace c then tokensFrom n cs
    else if c.isDigit then
      let (value, rest) := leadingNumber (c :: cs)
      .number (bounded value) :: tokensFrom n rest
    else if isNameStart c then
      .name (.ofList (c :: cs.takeWhile isNameChar)) :: tokensFrom n (cs.dropWhile isNameChar)
    else
      match signs.find? fun s => s.toList.isPrefixOf (c :: cs) with
      | some s => .sign s :: tokensFrom n ((c :: cs).drop s.length)
      | none => [.bad]

def tokens (cs : List Char) : List Token := tokensFrom (cs.length + 1) cs

def operators : List (String × Operator × Nat) :=
  [("*", .times, 0), ("/", .over, 0), ("%", .rest, 0), ("+", .plus, 1), ("-", .minus, 1),
    ("<<", .shiftLeft, 2), (">>", .shiftRight, 2), ("<", .less, 3), ("<=", .atMost, 3),
    (">", .greater, 3), (">=", .atLeast, 3), ("==", .equal, 4), ("!=", .unequal, 4),
    ("&", .bitAnd, 5), ("^", .bitXor, 6), ("|", .bitOr, 7)]

def loosest : Nat := 7

def assignment? (s : String) : Option (Option Operator) :=
  match s.toList.reverse with
  | ['='] => some none
  | '=' :: cs =>
    (operators.lookup (.ofList cs.reverse)).bind fun o =>
      if ["<", ">", "=", "!"].contains (.ofList cs.reverse) then none else some (some o.1)
  | _ => none

abbrev Parsed := Except Problem (Expr × List Token)

mutual

def assignment : Nat → List Token → Parsed
  | 0, _ => .error (.expecting "primary")
  | n + 1, ts =>
    match ts with
    | .name name :: .sign s :: more =>
      match assignment? s with
      | some o => do
        let (e, rest) ← assignment n more
        return (.assign o name e, rest)
      | none => condition n ts
    | ts => condition n ts

def condition : Nat → List Token → Parsed
  | 0, _ => .error (.expecting "primary")
  | n + 1, ts => do
    let (test, rest) ← disjunction n ts
    match rest with
    | .sign "?" :: rest =>
      let (yes, rest) ← assignment n rest
      match rest with
      | .sign ":" :: rest =>
        let (no, rest) ← condition n rest
        return (.choice test yes no, rest)
      | _ => .error (.expecting "':'")
    | rest => return (test, rest)

def disjunction : Nat → List Token → Parsed
  | 0, _ => .error (.expecting "primary")
  | n + 1, ts => do
    let (a, rest) ← conjunction n ts
    match rest with
    | .sign "||" :: rest =>
      let (b, rest) ← disjunction n rest
      return (.either a b, rest)
    | rest => return (a, rest)

def conjunction : Nat → List Token → Parsed
  | 0, _ => .error (.expecting "primary")
  | n + 1, ts => do
    let (a, rest) ← binary n loosest ts
    match rest with
    | .sign "&&" :: rest =>
      let (b, rest) ← conjunction n rest
      return (.both a b, rest)
    | rest => return (a, rest)

def binary : Nat → Nat → List Token → Parsed
  | 0, _, _ => .error (.expecting "primary")
  | n + 1, level, ts => do
    let (a, rest) ← match level with
      | 0 => unary n ts
      | lower + 1 => binary n lower ts
    binaryFrom n level a rest

def binaryFrom : Nat → Nat → Expr → List Token → Parsed
  | 0, _, _, _ => .error (.expecting "primary")
  | n + 1, level, a, ts =>
    match ts with
    | .sign s :: more =>
      match operators.lookup s with
      | some (o, l) =>
        if l = level then do
          let (b, rest) ← match level with
            | 0 => unary n more
            | lower + 1 => binary n lower more
          binaryFrom n level (.binary o a b) rest
        else .ok (a, ts)
      | none => .ok (a, ts)
    | ts => .ok (a, ts)

def unary : Nat → List Token → Parsed
  | 0, _ => .error (.expecting "primary")
  | n + 1, ts =>
    match ts with
    | .number m :: rest => .ok (.number m, rest)
    | .name s :: rest => .ok (.variable s, rest)
    | .sign "+" :: rest => unary n rest
    | .sign "-" :: rest => return ((← unary n rest).map .negated id)
    | .sign "~" :: rest => return ((← unary n rest).map .inverted id)
    | .sign "!" :: rest => return ((← unary n rest).map .denied id)
    | .sign "(" :: rest => do
      let (e, rest) ← assignment n rest
      match rest with
      | .sign ")" :: rest => return (e, rest)
      | _ => .error (.expecting "')'")
    | _ => .error (.expecting "primary")

end

def read (text : List Char) : Except Problem Expr := do
  let ts := tokens text
  let (e, rest) ← assignment (16 * (ts.length + 2)) ts
  if rest.isEmpty then return e else .error (.expecting "EOF")

def ofBool (b : Bool) : Int := if b then 1 else 0

def bits (n : Int) : BitVec 64 := .ofInt 64 n

def apply (o : Operator) (a b : Int) : Except Problem Int :=
  match o with
  | .times => .ok (wrapped (a * b))
  | .over => if b = 0 then .error .zeroDivision else .ok (wrapped (a.tdiv b))
  | .rest => if b = 0 then .error .zeroDivision else .ok (a.tmod b)
  | .plus => .ok (wrapped (a + b))
  | .minus => .ok (wrapped (a - b))
  | .shiftLeft => .ok (bits a <<< (b % 64).toNat).toInt
  | .shiftRight => .ok ((bits a).sshiftRight (b % 64).toNat).toInt
  | .less => .ok (ofBool (a < b))
  | .atMost => .ok (ofBool (a ≤ b))
  | .greater => .ok (ofBool (b < a))
  | .atLeast => .ok (ofBool (b ≤ a))
  | .equal => .ok (ofBool (a = b))
  | .unequal => .ok (ofBool (a ≠ b))
  | .bitAnd => .ok (bits a &&& bits b).toInt
  | .bitXor => .ok (bits a ^^^ bits b).toInt
  | .bitOr => .ok (bits a ||| bits b).toInt

structure Memory (m : Type → Type) where
  get : String → m String
  set : String → Int → m Unit
  fail : {α : Type} → Problem → m α

variable {m : Type → Type} [Monad m]

def Memory.number (k : Memory m) (name : String) : m Int := do
  let s ← k.get name
  match value? s with
  | some n => return n
  | none => k.fail (.illegal s)

def Memory.result (k : Memory m) : Except Problem Int → m Int
  | .ok n => return n
  | .error p => k.fail p

def value (k : Memory m) : Expr → m Int
  | .number n => return n
  | .variable name => k.number name
  | .negated e => return wrapped (-(← value k e))
  | .inverted e => return -(← value k e) - 1
  | .denied e => return ofBool ((← value k e) = 0)
  | .binary o a b => do
    let x ← value k a
    let y ← value k b
    k.result (apply o x y)
  | .both a b => do
    if (← value k a) = 0 then return 0
    return ofBool ((← value k b) ≠ 0)
  | .either a b => do
    if (← value k a) ≠ 0 then return 1
    return ofBool ((← value k b) ≠ 0)
  | .choice test yes no => do
    if (← value k test) ≠ 0 then value k yes else value k no
  | .assign o name e => do
    let y ← value k e
    let n ← match o with
      | none => pure y
      | some o => k.result (apply o (← k.number name) y)
    k.set name n
    return n

end Arithmetic

end Reporting.Shell
