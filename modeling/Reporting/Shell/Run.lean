import Reporting.Shell.Call
import Reporting.Shell.Launchers

/-!
The shell itself: commands made of other commands, scripts that are read line by line, and the shell
as a program. Every run is given a time, which each step within it shortens.
-/

namespace Reporting.Shell

namespace Running

open Steps

variable (k : Running)

/-! ## Commands made of commands -/

/-- Runs commands side by side, each of which reads what the one before it writes; the result is how
the last one ended. -/
def pipeline (isTested : Bool) : List Command → Steps Unit
  | [] => return
  | [c] => do setStatus (← tell (← forked k (k.command isTested c)))
  | c :: cs => do
    let old := (← get).channels
    let stream ← addStream (.kept [])
    let status ← forked k do
      connect 1 stream
      k.command isTested c
    let _ ← tell status
    connect 0 (← addStream (.supply (← keptText stream).toList))
    finally_ (pipeline isTested cs) (modify fun s => { s with channels := old })

def background (c : Command) : Steps Unit := do
  let number := (← get).nextNumber
  let status ← forked k do
    connect 0 (← addStream .nothing)
    k.command false c
  modify fun s => { s with jobs := (number, numberOf status) :: s.jobs, status := 0 }

def eachRound (isTested : Bool) (name : String) (body : Command) : List String → Steps Unit
  | [] => return
  | value :: values => do
    setValue name value
    match ← attempt (k.command isTested body) with
    | .error (.leave n isNext) =>
      if 1 < n then throw (.leave (n - 1) isNext)
      if isNext then eachRound isTested name body values
    | .error h => throw h
    | .ok () => eachRound isTested name body values

def roundsBy (isTested isUntil : Bool) (test body : Command) (last : Nat) : Steps Unit := do
  let again := k.rounds isTested isUntil test body
  match ← attempt (k.command true test) with
  | .error (.leave n isNext) =>
    setStatus last
    if 1 < n then throw (.leave (n - 1) isNext)
    if isNext then again last
  | .error h => throw h
  | .ok () =>
    if ((← get).status == 0) == isUntil then setStatus last
    else
      match ← attempt (k.command isTested body) with
      | .error (.leave n isNext) =>
        if 1 < n then throw (.leave (n - 1) isNext)
        if isNext then again (← get).status
      | .error h => throw h
      | .ok () => again (← get).status

def inLoop (steps : Steps Unit) : Steps Unit := do
  modify fun s => { s with loops := s.loops + 1 }
  finally_ steps (modify fun s => { s with loops := s.loops - 1 })

def fitsAny (value : String) : List Word → Steps Bool
  | [] => return false
  | w :: ws => do
    if (← (words k).pattern w).fits value.toList then return true
    fitsAny value ws

def choose (isTested : Bool) (value : String) : List (List Word × Option Command) → Steps Unit
  | [] => setStatus 0
  | (patterns, c) :: cases => do
    if ← fitsAny k value patterns then
      match c with
      | some c => k.command isTested c
      | none => setStatus 0
    else choose isTested value cases

def setLine (line : Nat) : Steps Unit := modify fun s => { s with line := line }

def subshell (isTested : Bool) (line : Nat) (c : Command) (redirects : List (Redirect Piece)) :
    Steps Unit := do
  setLine line
  let places ← targets k redirects
  let status ← forked k do
    if ← lead k places then k.command isTested c
    else
      setStatus 2
      throw .fault
  setStatus (← tell status)

/-- Runs a command. The result says whether its failure ends a shell that is to end at failures. -/
def commandChecked (isTested : Bool) (c : Command) : Steps Bool := do
  match c with
  | .simple line assignments ws redirects =>
    simple k isTested line assignments ws redirects
    return true
  | .piped cs =>
    pipeline k isTested cs
    return true
  | .negated c =>
    k.command true c
    modify fun s => { s with status := if s.status = 0 then 1 else 0 }
    return false
  | .joined joint first second =>
    k.command (isTested || joint ≠ .always) first
    let isSuccess := (← get).status = 0
    let goesOn := match joint with
      | .always => true
      | .onSuccess => isSuccess
      | .onFailure => !isSuccess
    if goesOn then k.command isTested second
    return false
  | .background c =>
    background k c
    return false
  | .subshell line c =>
    subshell k isTested line c []
    return true
  | .redirected _ (.subshell line c) redirects =>
    subshell k isTested line c redirects
    return true
  | .redirected line c redirects =>
    setLine line
    return !(← withRedirects k redirects (k.command isTested c))
  | .branch test yes no =>
    k.command true test
    if (← get).status = 0 then k.command isTested yes
    else
      match no with
      | some c => k.command isTested c
      | none => setStatus 0
    return false
  | .loop isUntil test body =>
    inLoop (k.rounds isTested isUntil test body 0)
    return false
  | .each line name ws body =>
    setLine line
    let values ← (words k).allTexts ws
    if values.isEmpty then setStatus 0
    inLoop (eachRound k isTested name body values)
    return false
  | .choice line w cases =>
    setLine line
    choose k isTested (← (words k).text w) cases
    return false
  | .function _ name body =>
    modify fun s =>
      { s with functions := (name, body) :: s.functions.filter (·.1 ≠ name), status := 0 }
    return false

def commandBy (isTested : Bool) (c : Command) : Steps Unit := do
  if (← get).options.contains 'n' then return
  let isChecked ← commandChecked k isTested c
  settle k
  let s ← get
  if isChecked && !isTested && s.options.contains 'e' && s.status ≠ 0 then throw .exit

/-! ## Scripts -/

def scriptBy (isTested : Bool) (r : Reader) (status : Nat) : Steps Nat := do
  match { r with documents := [], next := (← get).documents.length }.nextLine with
  | .error f =>
    setLine f.line
    fault ("Syntax error: " ++ f.reason)
  | .ok ((c, isLast), r) =>
    modify fun s => { s with documents := r.documents ++ s.documents, readLine := r.line }
    let status ← match c with
      | some c =>
        k.command isTested c
        pure (← get).status
      | none => pure status
    if isLast then return status
    k.script isTested r status

/-- Options of the shell before the other arguments; the last component says that the first of these
is a script. -/
def shellOptions : List String → Bool → Steps (List String × Bool)
  | [], isText => return ([], isText)
  | arg :: args, isText => do
    match arg.toList with
    | ['-'] => return (args, isText)
    | ['-', '-'] => return (args, isText)
    | sign :: c :: cs =>
      if sign ≠ '-' && sign ≠ '+' then return (arg :: args, isText)
      let isOn := sign = '-'
      for d in c :: cs do
        if d ≠ 'c' && d ≠ 'o' && d ≠ 'l' then
          if !Builtin.optionLetters.contains d then fault ("Illegal option -" ++ .singleton d)
          Builtin.setOption isOn d
      let isText := isText || (c :: cs).contains 'c'
      if (c :: cs).contains 'o' then
        match args with
        | name :: rest =>
          match Builtin.optionNames.lookup name with
          | some d =>
            Builtin.setOption isOn d
            shellOptions rest isText
          | none => fault ("Illegal option -o " ++ name)
        | [] =>
          Builtin.listOptions isOn
          return ([], isText)
      else shellOptions args isText
    | _ => return (arg :: args, isText)

def giveVariables : Steps Unit := do
  let s ← get
  let own := [("IFS", " \t\n"), ("OPTIND", "1"), ("PPID", Text.ofNat (s.outer.headD 0)),
    ("PS1", "# "), ("PS2", "> "), ("PS4", "+ ")]
  for (name, value) in own do putVariable name (some { value := value })
  if (← value? "PATH").isNone then putVariable "PATH" (some { value := usualPath })
  let old := (← binding? "PWD").getD {}
  putVariable "PWD" (some { old with value := s.here, isExported := true })

def runInput : Steps Unit := do
  let (text, _) ← supplyOf 0
  leave 0 0
  let _ ← k.script false { rest := text } 0

def program (args : List String) : Steps Unit := do
  giveVariables
  let (rest, isText) ← shellOptions args false
  if (← get).options.contains 'i' then Builtin.setOption true 'm'
  let named := fun (words : List String) => do
    if let name :: args := words then modify fun s => { s with name := name, args := args }
    Builtin.leaveJobs
  if isText then
    match rest with
    | [] => fault "-c requires an argument"
    | text :: words =>
      named words
      let _ ← k.text false text
      if (← get).options.contains 's' then runInput k
  else if rest.isEmpty || (← get).options.contains 's' then
    modify fun s => { s with args := rest }
    Builtin.leaveJobs
    runInput k
  else
    let text ← scriptText (rest.headD "")
    named rest
    let _ ← k.text false text

def launchBy : Launcher → String → List String → Steps Status
  | .shell, _, args => ending k (program k args)
  | .env, name, args => env k name args
  | .timeout, name, args => timeout k name args
  | .nice, name, args => nice k name args
  | .nohup, name, args => nohup k name args
  | .xargs, name, args => xargs k name args
  | .which, _, args => which args

end Running

def running : Nat → Running
  | 0 =>
    { command := fun _ _ => throw .exhausted
      rounds := fun _ _ _ _ _ => throw .exhausted
      script := fun _ _ _ => throw .exhausted
      launch := fun _ _ _ => throw .exhausted }
  | n + 1 =>
    { command := fun isTested c => (running n).commandBy isTested c
      rounds := fun isTested isUntil test body last =>
        (running n).roundsBy isTested isUntil test body last
      script := fun isTested r status => (running n).scriptBy isTested r status
      launch := fun l name args => (running n).launchBy l name args }

end Reporting.Shell
