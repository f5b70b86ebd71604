import Reporting.Shell.Arithmetic
import Reporting.Shell.Task

/-!
Conditions on texts, numbers and files. How the arguments are understood depends on how many there
are, so that texts which look like operators can be compared.
-/

namespace Reporting.Shell.Utility

namespace Condition

def unary : List String :=
  ["-b", "-c", "-d", "-e", "-f", "-g", "-G", "-h", "-k", "-L", "-n", "-O", "-p", "-r", "-s", "-S",
    "-t", "-u", "-w", "-x", "-z"]

def binary : List String :=
  ["=", "==", "!=", "<", ">", "-eq", "-ne", "-gt", "-ge", "-lt", "-le", "-nt", "-ot", "-ef"]

inductive Kind where
  | none
  | operand
  | unary
  | binary
  | not
  | and
  | or
  | left
  | right
  deriving DecidableEq

def isBinaryAt (args : List String) : Bool :=
  match args with
  | s :: _ => binary.contains s
  | [] => false

def kind : List String → Kind
  | [] => .none
  | "!" :: _ => .not
  | "-a" :: _ => .and
  | "-o" :: _ => .or
  | ["("] => .operand
  | "(" :: _ => .left
  | ")" :: _ => .right
  | s :: rest =>
    if binary.contains s then .binary
    else if unary.contains s then
      match rest with
      | [] => .operand
      | [_] => .unary
      | next :: _ => if binary.contains next then .operand else .unary
    else .operand

def number (s : String) : Act Int := do
  let cs := (s.toList.dropWhile Arithmetic.isSpace).reverse.dropWhile Arithmetic.isSpace |>.reverse
  let (isNegative, ds) := match cs with
    | '-' :: ds => (true, ds)
    | '+' :: ds => (false, ds)
    | ds => (false, ds)
  if ds.isEmpty || !ds.all Char.isDigit then Task.fail 2 ("Illegal number: " ++ s)
  let n : Int := Arithmetic.numberOf 10 ds
  return if isNegative then -n else n

def isFile (x : Except FileError FileEntry) : Bool := x matches .ok (.file _)

def isThere (x : Except FileError FileEntry) : Bool := x matches .ok _

def fileIs (op path : String) : Act Bool := do
  let x ← Task.entry path
  let l ← Task.locate path
  let isNowhere := l matches .ok ["dev", "null"]
  match op with
  | "-d" => return (x matches .ok .directory)
  | "-f" => return isFile x && !isNowhere
  | "-c" => return isFile x && isNowhere
  | "-e" => return isThere x
  | "-r" => return isThere x
  | "-w" => return isThere x
  | "-O" => return isThere x
  | "-G" => return isThere x
  | "-x" =>
    let v := (← get).files
    let isProgram := match l with
      | .ok l => l.dropLast.getLast? = some "bin" || v.isRunnable l
      | .error _ => false
    return (x matches .ok .directory) || isFile x && isProgram
  | "-s" =>
    return match x with
      | .ok (.file bytes) => !bytes.isEmpty
      | .ok .directory => true
      | .error _ => false
  | _ => return false

def applyUnary (op operand : String) : Act Bool := do
  if op = "-n" then return !operand.isEmpty
  if op = "-z" then return operand.isEmpty
  if op = "-t" then
    let _ ← number operand
    return false
  fileIs op operand

def applyBinary (a op b : String) : Act Bool := do
  let numbers := fun (holds : Int → Int → Bool) => do
    let x ← number a
    let y ← number b
    return holds x y
  match op with
  | "=" => return a = b
  | "==" => return a = b
  | "!=" => return a ≠ b
  | "<" => return decide (a < b)
  | ">" => return decide (b < a)
  | "-eq" => numbers fun x y => x = y
  | "-ne" => numbers fun x y => x ≠ y
  | "-gt" => numbers fun x y => y < x
  | "-ge" => numbers fun x y => y ≤ x
  | "-lt" => numbers fun x y => x < y
  | "-le" => numbers fun x y => x ≤ y
  | "-ef" =>
    match ← Task.entry a, ← Task.locate a, ← Task.locate b with
    | .ok _, .ok l, .ok m => return (← get).files.isSame l m
    | _, _, _ => return false
  | "-nt" => return (← Task.hasEntry a) && !(← Task.hasEntry b)
  | _ => return (← Task.hasEntry b) && !(← Task.hasEntry a)

mutual

def disjunction : Nat → List String → Act (Bool × List String)
  -- The last argument that was read stays the first of the rest.
  | 0, args => return (false, args)
  | n + 1, args => do
    let (a, rest) ← conjunction n args
    if kind rest.tail = .or then
      let (b, rest) ← disjunction n (rest.drop 2)
      return (a || b, rest)
    return (a, rest)

def conjunction : Nat → List String → Act (Bool × List String)
  | 0, args => return (false, args)
  | n + 1, args => do
    let (a, rest) ← negation n args
    if kind rest.tail = .and then
      let (b, rest) ← conjunction n (rest.drop 2)
      return (a && b, rest)
    return (a, rest)

def negation : Nat → List String → Act (Bool × List String)
  | 0, args => return (false, args)
  | n + 1, args => do
    if kind args ≠ .not then return ← primary n args
    if args.tail.isEmpty then return (true, args)
    let (a, rest) ← negation n args.tail
    return (!a, rest)

def primary : Nat → List String → Act (Bool × List String)
  | 0, args => return (false, args)
  | n + 1, args => do
    match kind args, args with
    | .none, _ => return (false, args)
    | .left, _ :: rest =>
      if kind rest = .right then return (false, rest)
      let (a, rest) ← disjunction n rest
      if kind rest.tail ≠ .right then Task.fail 2 "closing paren expected"
      return (a, rest.tail)
    | .unary, op :: rest =>
      match rest with
      | [] => Task.fail 2 (op ++ ": argument expected")
      | operand :: _ => return (← applyUnary op operand, rest)
    | _, a :: rest =>
      if kind rest = .binary then
        match rest with
        | op :: b :: more => return (← applyBinary a op b, b :: more)
        | op :: _ => Task.fail 2 (op ++ ": argument expected")
        | [] => return (!a.isEmpty, args)
      return (!a.isEmpty, args)
    | _, [] => return (false, args)

end

def whole (args : List String) : Act Bool := do
  let (holds, rest) ← if isBinaryAt args.tail && args.length = 3 then
      match args with
      | [a, op, b] => pure (← applyBinary a op b, [b])
      | _ => pure (false, args)
    else disjunction (8 * args.length + 8) args
  match rest with
  | s :: _ :: _ =>
    if s.isEmpty then Task.fail 2 "unexpected operator"
    Task.fail 2 (s ++ ": unexpected operator")
  | _ => return holds

def holds : Nat → List String → Act Bool
  | 0, _ => return false
  | n + 1, args => do
    match args with
    | [] => return false
    | _ =>
      if args.length = 3 && isBinaryAt args.tail then return ← whole args
      if args.length = 3 || args.length = 4 then
        if args.head? = some "(" && args.getLast? = some ")" then
          return ← whole args.dropLast.tail
        if args.head? = some "!" then return !(← holds n args.tail)
      whole args

end Condition

def test : Utility := fun args =>
  return if ← Condition.holds args.length args then 0 else 1

def bracket : Utility := fun args => do
  if args.getLast? ≠ some "]" then Task.fail 2 "missing ]"
  test args.dropLast

end Reporting.Shell.Utility
