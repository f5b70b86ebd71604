import Reporting.Shell.Arithmetic
import Reporting.Shell.Regex
import Reporting.Shell.Utility.Lines

/-!
Programs that make their output from their arguments alone: sequences of numbers, parts of paths,
values of expressions, variables.
-/

namespace Reporting.Shell.Utility

def true_ : Utility := fun _ => return 0

def false_ : Utility := fun _ => return 1

/-! ## Sequences -/

structure Fixed where
  digits : Int
  places : Nat

def fixed? (s : String) : Option Fixed :=
  let read := fun (cs : List Char) => do
    match Text.cutAt '.' cs with
    | none => return Fixed.mk (← natural? cs) 0
    | some (whole, fraction) =>
      if whole.isEmpty && fraction.isEmpty then none
      else return ⟨← natural? (whole ++ fraction), fraction.length⟩
  match s.toList with
  | '-' :: cs => (read cs).map fun f => { f with digits := -f.digits }
  | '+' :: cs => read cs
  | cs => read cs

def Fixed.scaled (f : Fixed) (places : Nat) : Int := f.digits * tenTo (places - f.places)

def fixedText (places : Nat) (n : Int) : String :=
  let ds := (zeroPadded (places + 1) (Text.ofNat n.natAbs)).toList
  let body := if places = 0 then ds
    else ds.take (ds.length - places) ++ '.' :: ds.drop (ds.length - places)
  .ofList (if n < 0 then '-' :: body else body)

def widened (width : Nat) (s : String) : String :=
  match s.toList with
  | '-' :: ds => "-" ++ zeroPadded (width - 1) (.ofList ds)
  | _ => zeroPadded width s

def stepsFrom (last step : Int) : Nat → Int → List Int
  | 0, _ => []
  | n + 1, i =>
    if (if 0 ≤ step then i ≤ last else last ≤ i) then i :: stepsFrom last step n (i + step) else []

def splitNumbers (args : List String) : List String × List String :=
  match args with
  | [] => ([], [])
  | arg :: rest =>
    if (fixed? arg).isSome then ([], arg :: rest)
    else
      match arg.toList with
      | '-' :: c :: cs =>
        if (c = 's' || c = 'f') && cs.isEmpty then
          let (options, numbers) := splitNumbers rest.tail
          (arg :: rest.take 1 ++ options, numbers)
        else
          let (options, numbers) := splitNumbers rest
          (arg :: options, numbers)
      | _ => ([], arg :: rest)
termination_by args.length
decreasing_by all_goals simp; try omega

def seq : Utility := fun args => do
  let (options, numbers) := splitNumbers args
  let g ← Options.read [.named 'f' "format" .argument, .named 's' "separator" .argument,
    .named 'w' "equal-width"] options
  let numbers := g.operands ++ numbers
  if let some extra := numbers[3]? then Task.misuse 1 ("extra operand " ++ quoted extra)
  if numbers.isEmpty then Task.misuse 1 "missing operand"
  let mut values := []
  for s in numbers do
    match fixed? s with
    | some f => values := values ++ [f]
    | none => Task.misuse 1 ("invalid floating point argument: " ++ quoted s)
  let one : Fixed := ⟨1, 0⟩
  let (first, step, last) := match values with
    | [a] => (one, one, a)
    | [a, b] => (a, one, b)
    | a :: b :: c :: _ => (a, b, c)
    | [] => (one, one, one)
  if step.digits = 0 then
    Task.misuse 1 ("invalid Zero increment value: " ++ quoted (numbers[1]?.getD ""))
  let places := max first.places step.places
  let scale := max places last.places
  let span := (last.scaled scale - first.scaled scale).natAbs
  let found := stepsFrom (last.scaled scale) (step.scaled scale)
    (span / (step.scaled scale).natAbs + 2) (first.scaled scale)
  let shown := found.map fun n => fixedText places (n / tenTo (scale - places))
  let lastShown := fixedText places (last.scaled scale / tenTo (scale - places))
  let width := ((lastShown :: shown).map String.length).foldl max 0
  let shown := if g.has "w" then shown.map (widened width) else shown
  if !shown.isEmpty then
    Task.print (((g.value? "s").getD "\n").intercalate shown ++ "\n")
  return 0

/-! ## Paths -/

def withoutSuffix (name suffix : String) : String :=
  -- The whole name is no ending.
  let cs := name.toList
  let es := suffix.toList
  if es.isSuffixOf cs && es.length < cs.length then .ofList (cs.take (cs.length - es.length))
  else name

def lastName (path : String) : String :=
  match path.toList.reverse.dropWhile (· = '/') with
  | [] => if path.isEmpty then "" else "/"
  | cs => .ofList (cs.takeWhile (· ≠ '/')).reverse

def basename : Utility := fun args => do
  let g ← Options.read [.named 'a' "multiple", .named 's' "suffix" .argument, .named 'z' "zero"]
    args 1 true
  let isMany := g.has "a" || g.has "s"
  match g.operands with
  | [] => Task.misuse 1 "missing operand"
  | path :: more =>
    if !isMany then
      if let some extra := more[1]? then Task.misuse 1 ("extra operand " ++ quoted extra)
    let suffix := if isMany then (g.value? "s").getD "" else more.headD ""
    let ending := if g.has "z" then "\x00" else "\n"
    for p in if isMany then g.operands else [path] do
      Task.print (withoutSuffix (lastName p) suffix ++ ending)
    return 0

def parentName (path : String) : String :=
  let rest := (path.toList.reverse.dropWhile (· = '/')).dropWhile (· ≠ '/')
  match rest.dropWhile (· = '/') with
  | [] => if path.toList.head? = some '/' then "/" else "."
  | cs => .ofList cs.reverse

def dirname : Utility := fun args => do
  let g ← Options.read [.named 'z' "zero"] args
  if g.operands.isEmpty then Task.misuse 1 "missing operand"
  for p in g.operands do Task.print (parentName p ++ if g.has "z" then "\x00" else "\n")
  return 0

/-! ## Expressions -/

namespace Expression

def integer (s : String) : Option Int :=
  match s.toList with
  | '-' :: cs => (natural? cs).map fun n => -(n : Int)
  | cs => (natural? cs).map Int.ofNat

def isTrue (s : String) : Bool := !s.isEmpty && integer s ≠ some 0

def number (s : String) : Act Int :=
  match integer s with
  | some n => return n
  | none => Task.fail 2 "non-integer argument"

def matched (text pattern : String) : Act String := do
  match Regex.read false false pattern.toList with
  | .error e => Task.fail 2 e
  | .ok (r, groups) =>
    let x : Regex.Subject := { text := text.toList.toArray }
    match r.matchAt x 0 with
    | some f =>
      return if groups > 0 then .ofList (f.group x 1) else Text.ofNat (f.last - f.first)
    | none => return if groups > 0 then "" else "0"

def compared (op a b : String) : Bool :=
  let order := match integer a, integer b with
    | some x, some y => compare x y
    | _, _ => compare a b
  match op with
  | "<" => order.isLT
  | "<=" => order.isLE
  | ">" => order.isGT
  | ">=" => order.isGE
  | "!=" => order.isNe
  | _ => order.isEq

def calculated (op : String) (a b : Int) : Act Int := do
  match op with
  | "+" => return a + b
  | "-" => return a - b
  | "*" => return a * b
  | op =>
    if b = 0 then Task.fail 2 "division by zero"
    return if op = "/" then a.tdiv b else a.tmod b

def levels : List (List String) :=
  [["|"], ["&"], ["<", "<=", "=", "==", "!=", ">=", ">"], ["+", "-"], ["*", "/", "%"], [":"]]

def applied (op a b : String) : Act String := do
  match op with
  | "|" => return if isTrue a then a else if isTrue b then b else "0"
  | "&" => return if isTrue a && isTrue b then a else "0"
  | ":" => matched a b
  | op =>
    if ["+", "-", "*", "/", "%"].contains op then
      return Text.ofInt (← calculated op (← number a) (← number b))
    return if compared op a b then "1" else "0"

mutual

def level : Nat → List (List String) → List String → String → Act (String × List String)
  | 0, _, args, _ => return ("", args)
  | n + 1, [], args, before => primary n args before
  | n + 1, ops :: more, args, before => do
    let (a, rest) ← level n more args before
    levelFrom n ops more a rest

def levelFrom : Nat → List String → List (List String) → String → List String →
    Act (String × List String)
  | 0, _, _, a, args => return (a, args)
  | n + 1, ops, more, a, args => do
    match args with
    | op :: rest =>
      if ops.contains op then
        let (b, rest) ← level n more rest op
        levelFrom n ops more (← applied op a b) rest
      else return (a, args)
    | [] => return (a, args)

def primary : Nat → List String → String → Act (String × List String)
  | 0, args, _ => return ("", args)
  | n + 1, args, before => do
    match args with
    | [] => Task.fail 2 ("syntax error: missing argument after " ++ quoted before)
    | "(" :: rest =>
      let (a, rest) ← level n levels rest "("
      match rest with
      | ")" :: rest => return (a, rest)
      | [] => Task.fail 2 ("syntax error: expecting ')' after " ++ quoted a)
      | s :: _ => Task.fail 2 ("syntax error: expecting ')' instead of " ++ quoted s)
    | ")" :: _ => Task.fail 2 "syntax error: unexpected ')'"
    | "+" :: s :: rest => return (s, rest)
    | "length" :: s :: rest =>
      let (a, rest) ← primary n (s :: rest) "length"
      return (Text.ofNat a.length, rest)
    | "match" :: s :: rest =>
      let (a, rest) ← primary n (s :: rest) "match"
      let (b, rest) ← primary n rest a
      return (← matched a b, rest)
    | "index" :: s :: rest =>
      let (a, rest) ← primary n (s :: rest) "index"
      let (b, rest) ← primary n rest a
      let found := a.toList.findIdx? fun c => b.toList.contains c
      return (Text.ofNat ((found.map (· + 1)).getD 0), rest)
    | "substr" :: s :: rest =>
      let (a, rest) ← primary n (s :: rest) "substr"
      let (b, rest) ← primary n rest a
      let (c, rest) ← primary n rest b
      let part := match integer b, integer c with
        | some i, some k =>
          if i ≤ 0 || k ≤ 0 then [] else (a.toList.drop (i.toNat - 1)).take k.toNat
        | _, _ => []
      return (.ofList part, rest)
    | s :: rest => return (s, rest)

end

end Expression

def expr : Utility := fun args => do
  let args := match args with
    | "--" :: rest => rest
    | args => args
  if args.isEmpty then Task.misuse 2 "missing operand"
  if args = ["--help"] || args = ["--version"] then return 0
  let (value, rest) ← Expression.level (20 * args.length + 20) Expression.levels args ""
  if let extra :: _ := rest then Task.fail 2 ("syntax error: unexpected argument " ++ quoted extra)
  Task.print (value ++ "\n")
  return if Expression.isTrue value then 0 else 1

/-! ## What is known of the surroundings -/

def isDuration (s : String) : Bool :=
  let cs := s.toList
  let cs := if cs.getLast?.any ("smhd".toList.contains ·) then cs.dropLast else cs
  cs = "inf".toList || cs = "infinity".toList ||
    (fixed? (.ofList cs)).any fun f => 0 ≤ f.digits

def sleep : Utility := fun args => do
  let g ← Options.read [] args
  if g.operands.isEmpty then Task.misuse 1 "missing operand"
  for s in g.operands do
    if !isDuration s then Task.misuse 1 ("invalid time interval " ++ quoted s)
  return 0

def printenv : Utility := fun args => do
  let g ← Options.read [.named '0' "null"] args 2
  let ending := if g.has "0" then "\x00" else "\n"
  let all := (← get).environment
  if g.operands.isEmpty then
    for (name, value) in all do Task.print (name ++ "=" ++ value ++ ending)
    return 0
  let mut status := 0
  for name in g.operands do
    match all.lookup name with
    | some value => Task.print (value ++ ending)
    | none => status := 1
  return status

def uname : Utility := fun args => do
  let g ← Options.read (OptionForm.flags "asnrvmpio") args
  if let extra :: _ := g.operands then Task.misuse 1 ("extra operand " ++ quoted extra)
  Task.print (if g.has "m" then "x86_64\n" else "Linux\n")
  return 0

def yes : Utility := fun args => do
  let line := (if args.isEmpty then "y" else " ".intercalate args) ++ "\n"
  Task.print (String.join (List.replicate 10000 line))
  return 0

def pwd : Utility := fun _ => do
  Task.print ((← get).here ++ "\n")
  return 0

end Reporting.Shell.Utility
