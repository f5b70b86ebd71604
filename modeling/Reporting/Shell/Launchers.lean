import Reporting.Shell.Launch
import Reporting.Shell.Options

/-!
Programs that start others: with other variables, for a limited time, or once for each part of the
input.
-/

namespace Reporting.Shell

namespace Running

open Steps

variable (k : Running)

def say (line : String) : Steps Unit := do let _ ← write 2 (line ++ "\n")

def misuse (name : String) (status : Nat) (line : String) : Steps Status := do
  let complain : Utility := fun _ => Task.misuse status line
  return .exited (← runProgram complain name [])

def optionsOf (name : String) (status : Nat) (forms : List OptionForm) (args : List String) :
    Steps (Except Status Given) := do
  match Options.given (forms ++ [.long "help", .long "version"]) args true with
  | .error e => return .error (← misuse name status e)
  | .ok g =>
    if (g.last? ["help", "version"]).isSome then return .error (.exited 0)
    return .ok g

def startFailure : FileError → Nat × String
  | .notFound => (127, FileError.notFound.reason)
  | .isDirectory => (126, FileError.denied.reason)
  | e => (126, e.reason)

def follow (complaint : String) (words : List String) : Steps Status := do
  let name := words.headD ""
  match ← findProgram ((← value? "PATH").getD usualPath) name with
  | .ok (_, p) => k.become p name words.tail
  | .error e =>
    let (status, reason) := startFailure e
    say (complaint ++ quoted name ++ ": " ++ reason)
    return .exited status

/-! ## Variables -/

def printVariables (ending : String) : Steps Status := do
  for (name, value) in exported (← get) do
    Builtin.print (name ++ "=" ++ value ++ ending)
  return .exited 0

def env (name : String) (args : List String) : Steps Status := do
  match ← optionsOf name 125 [.named 'i' "ignore-environment", .named 'u' "unset" .argument,
      .named '0' "null", .named 'C' "chdir" .argument, .named 'v' "debug"] args with
  | .error status => return status
  | .ok g =>
    let isBare := g.has "i" || g.operands.head? = some "-"
    let words := if g.operands.head? = some "-" then g.operands.tail else g.operands
    if isBare then modify fun s => { s with bindings := .empty }
    for (key, value) in g.options do
      if key = "u" then
        if value.isEmpty || value.toList.contains '=' then
          say (name ++ ": cannot unset " ++ quoted value ++ ": Invalid argument")
          return .exited 125
        putVariable value none
    let isSetting := fun (w : String) => w.toList.contains '='
    for word in words.takeWhile isSetting do
      let (key, value) := Builtin.definition word
      putVariable key (some { value := value, isExported := true })
    let words := words.dropWhile isSetting
    if let some place := g.value? "C" then
      if words.isEmpty then return ← misuse name 125 "must specify command with --chdir (-C)"
      if !(← Builtin.isDirectory place) then
        let reason := match (← get).files.lookup (pathFrom (← get).here place) with
          | .ok _ => FileError.notDirectory.reason
          | .error e => e.reason
        say (name ++ ": cannot change directory to " ++ quoted place ++ ": " ++ reason)
        return .exited 125
      modify fun s => { s with here := Builtin.normalized (Path.join s.here place) }
    if words.isEmpty then return ← printVariables (if g.has "0" then "\x00" else "\n")
    if g.has "0" then return ← misuse name 125 "cannot specify --null (-0) with command"
    let status ← follow k (name ++ ": ") words
    if status = .exited 127 && (words.headD "").toList.contains ' ' then
      say (name ++ ": use -[v]S to pass options in shebang lines")
    return status

/-! ## Limits -/

def isDuration (cs : List Char) : Bool :=
  let body := match cs.getLast? with
    | some c => if ['s', 'm', 'h', 'd'].contains c then cs.dropLast else cs
    | none => cs
  let digits := body.filter (· ≠ '.')
  !digits.isEmpty && digits.all Char.isDigit && body.length ≤ digits.length + 1

def timeout (name : String) (args : List String) : Steps Status := do
  match ← optionsOf name 125 [.named 'k' "kill-after" .argument, .named 's' "signal" .argument,
      .named 'v' "verbose", .long "foreground", .long "preserve-status"] args with
  | .error status => return status
  | .ok g =>
    if let some s := g.value? "k" then
      if !isDuration s.toList then
        return ← misuse name 125 ("invalid time interval " ++ quoted s)
    if let some s := g.value? "s" then
      if (Builtin.signal? s false).isNone then
        return ← misuse name 125 (quoted s ++ ": invalid signal")
    match g.operands with
    | [] => misuse name 125 "missing operand"
    | [_] => misuse name 125 "missing operand"
    | s :: words =>
      if !isDuration s.toList then misuse name 125 ("invalid time interval " ++ quoted s)
      else follow k (name ++ ": failed to run command ") words

def isAdjustment (s : String) : Bool :=
  match s.toList with
  | '-' :: cs => (natural? cs).isSome
  | '+' :: cs => (natural? cs).isSome
  | cs => (natural? cs).isSome

def nice (name : String) (args : List String) : Steps Status := do
  match ← optionsOf name 125 [.named 'n' "adjustment" .argument] args with
  | .error status => return status
  | .ok g =>
    if let some s := g.value? "n" then
      if !isAdjustment s then
        say (name ++ ": invalid adjustment " ++ quoted s)
        return .exited 125
    match g.operands with
    | [] =>
      if g.has "n" then misuse name 125 "a command must be given with an adjustment"
      else
        Builtin.print "0\n"
        return .exited 0
    | words => follow k (name ++ ": ") words

def nohup (name : String) (args : List String) : Steps Status := do
  match ← optionsOf name 125 [] args with
  | .error status => return status
  | .ok g =>
    match g.operands with
    | [] => misuse name 125 "missing operand"
    | words => follow k (name ++ ": failed to run command ") words

/-! ## Places -/

def placesOf : List String → Nat → Steps Nat
  | [], status => return status
  | name :: names, status => do
    match ← findProgram (← searchPath) name with
    | .ok (place, _) =>
      Builtin.print (place ++ "\n")
      placesOf names status
    | .error _ => placesOf names 1

def which (args : List String) : Steps Status := do
  let names := args.filter fun a => a ≠ "-a"
  return .exited (← placesOf names (if names.isEmpty then 1 else 0))

/-! ## Words of the input -/

inductive Splitting where
  | blanks
  | lines
  | mark (c : Char)

structure InputWord where
  text : String
  endsLine : Bool

def quoteFault (quote : Char) : String :=
  "unmatched " ++ (if quote = '\x27' then "single" else "double") ++
    " quote; by default quotes are special to xargs unless you use the -0 option"

/-- The words between blanks or on lines; quotes and backslashes take the meaning from characters.
The first option is the quote that is open, the second the word that has begun, the last character
first. -/
def quotedWords (byLine : Bool) :
    List Char → Option Char → Option (List Char) → Except String (List InputWord)
  | [], some q, _ => .error (quoteFault q)
  | [], none, w => .ok (w.toList.map fun cs => ⟨.ofList cs.reverse, true⟩)
  | '\n' :: cs, quote, w =>
    match quote with
    | some q => .error (quoteFault q)
    | none =>
      (quotedWords byLine cs none none).map fun rest =>
        (w.map fun w => ⟨.ofList w.reverse, true⟩).toList ++ rest
  | c :: cs, some q, w =>
    if c = q then quotedWords byLine cs none w
    else quotedWords byLine cs (some q) (some (c :: w.getD []))
  | '\\' :: c :: cs, none, w => quotedWords byLine cs none (some (c :: w.getD []))
  | c :: cs, none, w =>
    if c = '\x27' || c = '"' then quotedWords byLine cs (some c) (some (w.getD []))
    else if (c = ' ' || c = '\t') && (!byLine || w.isNone) then
      (quotedWords byLine cs none none).map fun rest =>
        (w.map fun w => ⟨.ofList w.reverse, false⟩).toList ++ rest
    else quotedWords byLine cs none (some (c :: w.getD []))

def inputWords : Splitting → List Char → Except String (List InputWord)
  | .blanks, cs => quotedWords false cs none none
  | .lines, cs => quotedWords true cs none none
  | .mark c, cs =>
    let parts := Text.splitOn c cs
    let parts := if parts.getLast? = some [] then parts.dropLast else parts
    .ok (parts.map fun p => ⟨.ofList p, true⟩)

/-- Groups of so many words, or of the words on so many lines; the last argument is the number that
the group in front may still take. -/
def grouped (byLine : Bool) (size : Nat) : List InputWord → Nat → List (List String)
  | [], _ => []
  | w :: ws, left =>
    let left := if byLine && !w.endsLine then left else left - 1
    if left = 0 then [w.text] :: grouped byLine size ws size
    else
      match ws, grouped byLine size ws left with
      | _ :: _, g :: gs => (w.text :: g) :: gs
      | _, gs => [w.text] :: gs

def runEach (name : String) (isTraced : Bool) : List (List String) → Nat → Steps Status
  | [], status => return .exited status
  | words :: rest, status => do
    if isTraced then say (" ".intercalate words)
    let command := words.headD ""
    match ← findProgram ((← value? "PATH").getD usualPath) command with
    | .error e =>
      let (status, reason) := startFailure e
      say (name ++ ": " ++ command ++ ": " ++ reason)
      return .exited status
    | .ok (_, p) =>
      let old := (← get).channels
      connect 0 (← addStream .nothing)
      let ended ← k.start p command words.tail
      modify fun s => { s with channels := old }
      match ended with
      | .killed signal =>
        say (name ++ ": " ++ command ++ ": terminated by signal " ++ Text.ofNat signal)
        return .exited 125
      | .exited 0 => runEach name isTraced rest status
      | .exited 255 =>
        say (name ++ ": " ++ command ++ ": exited with status 255; aborting")
        return .exited 124
      | .exited _ => runEach name isTraced rest 123

def countOption (g : Given) (key : String) : Except String (Option Nat) :=
  match g.value? key with
  | none => .ok none
  | some s =>
    match natural? s.toList with
    | some 0 => .error ("value " ++ s ++ " for -" ++ key ++ " option should be >= 1")
    | some n => .ok (some n)
    | none => .error ("invalid number \"" ++ s ++ "\" for -" ++ key ++ " option")

def markOf (s : String) : Char :=
  match s.toList with
  | ['\\', 'n'] => '\n'
  | ['\\', 't'] => '\t'
  | ['\\', '0'] => '\x00'
  | c :: _ => c
  | [] => '\n'

def xargs (name : String) (args : List String) : Steps Status := do
  match ← optionsOf name 1 [.named '0' "null", .named 'n' "max-args" .argument,
      .named 'L' "max-lines" .argument, .named 'I' "replace" .argument,
      .named 'd' "delimiter" .argument, .named 'r' "no-run-if-empty", .named 't' "verbose",
      .named 'P' "max-procs" .argument, .named 's' "max-chars" .argument,
      .named 'a' "arg-file" .argument, .named 'x' "exit"] args with
  | .error status => return status
  | .ok g =>
    match countOption g "n", countOption g "L" with
    | .error e, _ => misuse name 1 e
    | _, .error e => misuse name 1 e
    | .ok n, .ok l =>
      let (input, _) ← supplyOf 0
      leave 0 0
      let splitting :=
        if g.has "0" then .mark '\x00'
        else
          match g.value? "d" with
          | some s => .mark (markOf s)
          | none => if g.has "I" then .lines else .blanks
      let command := if g.operands.isEmpty then ["echo"] else g.operands
      match inputWords splitting input with
      | .error e =>
        say (name ++ ": " ++ e)
        return .exited 1
      | .ok words =>
        let runs := match g.value? "I" with
          | some mark => words.map fun w => command.map fun a => Text.replace a mark w.text
          | none =>
            let groups := match l, n with
              | some size, _ => grouped true size words size
              | none, some size => grouped false size words size
              | none, none => if words.isEmpty then [] else [words.map (·.text)]
            let groups := if groups.isEmpty && !g.has "r" then [[]] else groups
            groups.map fun group => command ++ group
        runEach k name (g.has "t") runs 0

end Running

end Reporting.Shell
