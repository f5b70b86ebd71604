import Reporting.Shell.Expansion
import Reporting.Shell.Permissions
import Reporting.Shell.Utility

/-!
The commands that the shell runs itself because they work on its own state.
-/

namespace Reporting.Shell

abbrev Builtin := List String → Steps Nat

namespace Builtin

/-! ## Options and numbers -/

def letters (allowed : String) : List String → Steps (List Char × List String)
  | "--" :: args => return ([], args)
  | arg :: args => do
    match arg.toList with
    | '-' :: c :: cs =>
      for d in c :: cs do
        if !allowed.toList.contains d then Steps.fault ("Illegal option -" ++ .singleton d)
      let (more, rest) ← letters allowed args
      return (c :: cs ++ more, rest)
    | _ => return ([], arg :: args)
  | [] => return ([], [])

def number (s : String) : Steps Nat := do
  match (natural? s.toList).filter (· < 2147483648) with
  | some n => return n
  | none => Steps.fault ("Illegal number: " ++ s)

def demandName (name : String) : Steps Unit := do
  if !isName name.toList then Steps.fault (name ++ ": bad variable name")

def definition (s : String) : String × Option String :=
  match Text.cutAt '=' s.toList with
  | some (name, value) => (.ofList name, some (.ofList value))
  | none => (s, none)

def print (s : String) : Steps Unit := do
  if !(← Steps.write 1 s) then modify fun s => { s with isLost := true }

def shellQuoted (s : String) : String :=
  let parts := Text.splitOn '\x27' s.toList
  .ofList ('\x27' :: "'\"'\"'".toList.intercalate parts ++ ['\x27'])

/-! ## Directories -/

def normalized (path : String) : String :=
  let step := fun (done : List String) (name : String) =>
    if Path.isIdle name then done
    else if name = ".." then done.tail
    else name :: done
  "/" ++ "/".intercalate ((Path.names path).foldl step []).reverse

def enter (path : String) : Steps Unit := do
  let old := (← get).here
  modify fun s => { s with here := path }
  for (name, value) in [("OLDPWD", old), ("PWD", path)] do
    Steps.setValue name value
    Steps.putVariable name (some { value := value, isExported := true })

def isDirectory (path : String) : Steps Bool := do
  return match (← get).files.lookup (pathFrom (← get).here path) with
    | .ok .directory => true
    | _ => false

def cd : Builtin := fun args => do
  let (_, args) ← letters "LP" args
  let goBack := args.head? = some "-"
  let target ← match args with
    | [] => pure ((← Steps.value? "HOME").getD "")
    | "-" :: _ => pure ((← Steps.value? "OLDPWD").getD "")
    | path :: _ => pure path
  if target.isEmpty then
    enter (← get).here
    return 0
  let isLocal := Path.isAbsolute target || target.startsWith "./" || target.startsWith "../" ||
    target = "." || target = ".."
  let known := (← Steps.value? "CDPATH").getD ""
  let places := if isLocal then [] else (Text.splitOn ':' known.toList).map String.ofList
  let found ← places.filterM fun place =>
    if place.isEmpty then return false else isDirectory (place ++ "/" ++ target)
  let (path, isShown) := match found with
    | place :: _ => (place ++ "/" ++ target, true)
    | [] => (target, goBack)
  if !(← isDirectory path) then Steps.fault ("can't cd to " ++ target)
  let whole := normalized (Path.join (← get).here path)
  enter whole
  if isShown then print (whole ++ "\n")
  return 0

def pwd : Builtin := fun args => do
  let _ ← letters "LP" args
  print ((← get).here ++ "\n")
  return 0

/-! ## Variables -/

def listVariables (verb : String) (isShown : Variable → Bool) : Steps Unit := do
  let all := (← get).bindings.toList.filter fun v => isShown v.2
  for (name, v) in all.mergeSort fun a b => decide (a.1 ≤ b.1) do
    let value := match v.value with
      | some s => "=" ++ shellQuoted s
      | none => ""
    print (verb ++ name ++ value ++ "\n")

def declare (verb : String) (isShown : Variable → Bool) (change : Variable → Variable) : Builtin :=
  fun args => do
    let (options, args) ← letters "p" args
    if args.isEmpty || options.contains 'p' then
      listVariables (verb ++ " ") isShown
      return 0
    for arg in args do
      let (name, value?) := definition arg
      demandName name
      if let some value := value? then Steps.setValue name value
      Steps.putVariable name (some (change ((← Steps.binding? name).getD {})))
    return 0

def export_ : Builtin := declare "export" (·.isExported) fun v => { v with isExported := true }

def readonly : Builtin := declare "readonly" (·.isReadonly) fun v => { v with isReadonly := true }

def local_ : Builtin := fun args => do
  match (← get).locals with
  | [] => Steps.fault "not in a function"
  | _ =>
    for arg in args do
      if arg ≠ "-" then
        let (name, value?) := definition arg
        demandName name
        Steps.keepLocal name
        if let some value := value? then Steps.setValue name value
    return 0

def unset : Builtin := fun args => do
  let (options, args) ← letters "vf" args
  for name in args do
    if options.contains 'f' then
      modify fun s => { s with functions := s.functions.filter (·.1 ≠ name) }
    else
      demandName name
      if ((← Steps.binding? name).getD {}).isReadonly then
        Steps.fault (name ++ ": is read only")
      Steps.putVariable name none
  return 0

/-! ## Options of the shell -/

def optionNames : List (String × Char) :=
  [("errexit", 'e'), ("noglob", 'f'), ("ignoreeof", 'I'), ("interactive", 'i'), ("monitor", 'm'),
    ("noexec", 'n'), ("stdin", 's'), ("xtrace", 'x'), ("verbose", 'v'), ("vi", 'V'),
    ("emacs", 'E'), ("noclobber", 'C'), ("allexport", 'a'), ("notify", 'b'), ("nounset", 'u'),
    ("privileged", 'p'), ("nolog", 'L'), ("debug", 'D')]

def optionLetters : List Char := "efIimnsxvVECabup".toList

def setOption (isOn : Bool) (c : Char) : Steps Unit := modify fun s =>
  let rest := s.options.filter (· ≠ c)
  let all := if isOn then c :: rest else rest
  { s with options := optionNames.filterMap fun o => if all.contains o.2 then some o.2 else none }

def leaveJobs : Steps Unit := do
  if (← get).options.contains 'm' then
    Steps.complain "can't access tty; job control turned off"
    setOption false 'm'

def listOptions (isOn : Bool) : Steps Unit := do
  let options := (← get).options
  if isOn then
    print "Current option settings\n"
    for (name, c) in optionNames do
      print (name ++ .ofList (List.replicate (16 - name.length) ' ') ++
        (if options.contains c then "on\n" else "off\n"))
  else
    for (name, c) in optionNames do
      print ((if options.contains c then "set -o " else "set +o ") ++ name ++ "\n")

/-- Sets the options among the first arguments; the result is the arguments behind them, and whether
they are there at all. -/
def setOptions : List String → Steps (List String × Bool)
  | [] => return ([], false)
  | "--" :: args => return (args, true)
  | "-" :: args => do
    setOption false 'x'
    setOption false 'v'
    return (args, !args.isEmpty)
  | "-o" :: [] => do
    listOptions true
    return ([], false)
  | "+o" :: [] => do
    listOptions false
    return ([], false)
  | arg :: args => do
    match arg.toList with
    | sign :: c :: cs =>
      if sign ≠ '-' && sign ≠ '+' then return (arg :: args, true)
      let isOn := sign = '-'
      let takesName := (c :: cs).contains 'o'
      for d in c :: cs do
        if d ≠ 'o' then
          if !optionLetters.contains d then Steps.fault ("Illegal option -" ++ .singleton d)
          setOption isOn d
      if takesName then
        match args with
        | name :: rest =>
          match optionNames.lookup name with
          | some d =>
            setOption isOn d
            setOptions rest
          | none => Steps.fault ("Illegal option -o " ++ name)
        | [] => return ([], false)
      else setOptions args
    | _ => return (arg :: args, true)

def set_ : Builtin := fun args => do
  if args.isEmpty then
    listVariables "" (·.value.isSome)
    return 0
  let (rest, isThere) ← setOptions args
  leaveJobs
  if isThere then modify fun s => { s with args := rest }
  return 0

def shift : Builtin := fun args => do
  let n ← match args with
    | [] => pure 1
    | s :: _ => number s
  let s ← get
  if s.args.length < n then Steps.fault "can't shift that many"
  set { s with args := s.args.drop n }
  return 0

def getopts : Builtin := fun args => do
  match args with
  | text :: name :: more =>
    let s ← get
    let args := if more.isEmpty then s.args else more
    let isSilent := text.startsWith ":"
    let spec := if isSilent then text.toList.tail else text.toList
    let (place, offset) := s.optionPlace
    let move := fun (place offset : Nat) => do
      Steps.setValue "OPTIND" (Text.ofNat place)
      modify fun s => { s with optionPlace := (place, offset) }
    let finish := fun (place : Nat) => do
      move place 1
      Steps.setValue name "?"
      return 1
    match args[place - 1]? with
    | none => finish place
    | some "--" => finish (place + 1)
    | some arg =>
      match arg.toList with
      | '-' :: c :: cs =>
        let letter := (c :: cs)[offset - 1]?.getD '?'
        let rest := (c :: cs).drop offset
        let next := if rest.isEmpty then (place + 1, 1) else (place, offset + 1)
        let complain := fun (front back : String) => do
          let _ ← Steps.write 2 (front ++ " -" ++ .singleton letter ++ back ++ "\n")
        match if letter = ':' then [] else spec.dropWhile (· ≠ letter) with
        | _ :: after =>
          if after.head? = some ':' then
            match rest, args[place]? with
            | [], none =>
              move (place + 1) 1
              if isSilent then
                Steps.setValue "OPTARG" (.singleton letter)
                Steps.setValue name ":"
              else
                complain "No arg for" " option"
                Steps.putVariable "OPTARG" none
                Steps.setValue name "?"
            | [], some value =>
              Steps.setValue "OPTARG" value
              Steps.setValue name (.singleton letter)
              move (place + 2) 1
            | value, _ =>
              Steps.setValue "OPTARG" (.ofList value)
              Steps.setValue name (.singleton letter)
              move (place + 1) 1
          else
            Steps.putVariable "OPTARG" none
            Steps.setValue name (.singleton letter)
            move next.1 next.2
        | [] =>
          if isSilent then Steps.setValue "OPTARG" (.singleton letter)
          else
            complain "Illegal option" ""
            Steps.putVariable "OPTARG" none
          Steps.setValue name "?"
          move next.1 next.2
        return 0
      | _ => finish place
  | _ => Steps.fault "Usage: getopts optstring var [arg...]"

/-! ## Reading -/

/-- A line with its backslashes worked in, what is behind it, and whether it has an end; quoted
characters are marked. -/
def lineFrom (isRaw : Bool) : List Char → List (Char × Bool) × List Char × Bool
  | [] => ([], [], false)
  | '\n' :: cs => ([], cs, true)
  | '\\' :: '\n' :: cs =>
    if isRaw then ([('\\', false)], cs, true) else lineFrom isRaw cs
  | '\\' :: c :: cs =>
    if isRaw then
      let (line, rest, isEnded) := lineFrom isRaw (c :: cs)
      (('\\', false) :: line, rest, isEnded)
    else
      let (line, rest, isEnded) := lineFrom isRaw cs
      ((c, true) :: line, rest, isEnded)
  | c :: cs =>
    let (line, rest, isEnded) := lineFrom isRaw cs
    ((c, false) :: line, rest, isEnded)

def isSeparator (separators : List Char) (c : Char × Bool) : Bool :=
  !c.2 && separators.contains c.1

def isBlank (separators : List Char) (c : Char × Bool) : Bool :=
  isSeparator separators c && isBlankSeparator c.1

def firstField (separators : List Char) (line : List (Char × Bool)) :
    List (Char × Bool) × List (Char × Bool) :=
  let line := line.dropWhile (isBlank separators)
  let field := line.takeWhile fun c => !isSeparator separators c
  let rest := (line.drop field.length).dropWhile (isBlank separators)
  match rest with
  | c :: more =>
    if isSeparator separators c then (field, more.dropWhile (isBlank separators)) else (field, rest)
  | [] => (field, [])

def lastField (separators : List Char) (line : List (Char × Bool)) : List (Char × Bool) :=
  -- The last field takes all that is left, apart from blanks and a single separator at its end.
  let line := line.dropWhile (isBlank separators)
  let (field, rest) := firstField separators line
  if rest.isEmpty then field else (line.reverse.dropWhile (isBlank separators)).reverse

def assignFields (separators : List Char) : List String → List (Char × Bool) → Steps Unit
  | [], _ => return
  | [name], line => Steps.setValue name (.ofList ((lastField separators line).map Prod.fst))
  | name :: names, line => do
    let (field, rest) := firstField separators line
    Steps.setValue name (.ofList (field.map Prod.fst))
    assignFields separators names rest

def withoutPrompt : List String → List String
  | "-p" :: _ :: args => args
  | "-r" :: args => "-r" :: withoutPrompt args
  | args => args

def read : Builtin := fun args => do
  let (options, names) ← letters "r" (withoutPrompt args)
  if names.isEmpty then Steps.fault "arg count"
  for name in names do demandName name
  let (text, _) ← Steps.supplyOf 0
  let (line, rest, isEnded) := lineFrom (options.contains 'r') text
  Steps.leave 0 rest.length
  assignFields (← Steps.separators).toList names line
  return if isEnded then 0 else 1

/-! ## Signals -/

def signalNames : List String :=
  let early := (List.range 30).map fun i => "RTMIN+" ++ Text.ofNat (i + 1)
  let late := (List.range 30).map fun i => "RTMAX-" ++ Text.ofNat (30 - i)
  ["EXIT", "HUP", "INT", "QUIT", "ILL", "TRAP", "ABRT", "BUS", "FPE", "KILL", "USR1", "SEGV",
    "USR2", "PIPE", "ALRM", "TERM", "16", "CHLD", "CONT", "STOP", "TSTP", "TTIN", "TTOU", "URG",
    "XCPU", "XFSZ", "VTALRM", "PROF", "WINCH", "IO", "PWR", "SYS", "32", "33", "RTMIN"] ++
    early.take 15 ++ late.drop 16 ++ ["RTMAX"]

def signal? (s : String) (isExitToo : Bool) : Option Nat :=
  match natural? s.toList with
  | some n => if n < signalNames.length then some n else none
  | none =>
    (signalNames.findIdx? fun name => name.toList = s.toList.map Char.toUpper).filter fun n =>
      isExitToo || n ≠ 0

def isIgnored (signal : Nat) : Bool := [0, 17, 18, 19, 20, 21, 22, 23, 28].contains signal

def listTraps : Steps Unit := do
  let traps := (← get).traps
  for name in signalNames do
    if let some action := traps.lookup name then
      print ("trap -- " ++ shellQuoted action ++ " " ++ name ++ "\n")

def setTrap (name : String) (action : Option String) : Steps Unit := modify fun s =>
  let rest := s.traps.filter (·.1 ≠ name)
  { s with traps := match action with
      | some a => (name, a) :: rest
      | none => rest }

def trap : Builtin := fun args => do
  let (_, args) ← letters "" args
  match args with
  | [] =>
    listTraps
    return 0
  | first :: rest =>
    let (action, names) :=
      if rest.isEmpty || (natural? first.toList).isSome then (none, args)
      else if first = "-" then (none, rest)
      else (some first, rest)
    for name in names do
      match signal? name true with
      | none =>
        let _ ← Steps.write 2 ("trap: " ++ name ++ ": bad trap\n")
        return 1
      | some n => setTrap (signalNames[n]?.getD "") action
    return 0

def send (target signal : Nat) : Steps Bool := do
  let s ← get
  if s.process = target || s.outer.contains target then
    let isOwn := s.process = target
    let action := s.traps.lookup (signalNames[signal]?.getD "")
    if isOwn && action.isNone || signal = 9 && isOwn then
      if !isIgnored signal then throw (.gone (.killed signal))
    else if signal ≠ 0 then set { s with signals := s.signals ++ [(target, signal)] }
    return true
  return false

def killUsage : String :=
  "Usage: kill [-s sigspec | -signum | -sigspec] [pid | job]... or\nkill -l [exitstatus]"

def sendAll (signal : Nat) (targets : List String) : Steps Nat := do
  let mut status := 0
  for target in targets do
    let n ← number target
    if !(← send n signal) then
      Steps.complain "No such process\n"
      status := 1
  return status

def kill : Builtin := fun args => do
  let (signal, isList, targets) ← match args with
    | [] => Steps.fault killUsage
    | first :: rest =>
      match first.toList with
      | '-' :: c :: cs =>
        match signal? (.ofList (c :: cs)) false with
        | some n => pure (some n, false, rest)
        | none =>
          if first = "--" then pure (some 15, false, rest)
          else if first = "-l" then pure (none, true, rest)
          else if c = 's' then
            let (name, rest) := if cs.isEmpty then (rest.headD "", rest.tail)
              else (.ofList cs, rest)
            match signal? name false with
            | some n => pure (some n, false, rest)
            | none => Steps.fault ("invalid signal number or name: " ++ name)
          else Steps.fault ("Illegal option -" ++ .singleton c)
      | _ => pure (some 15, false, args)
  if isList then
    match targets with
    | [] =>
      print (String.join (("0" :: signalNames.tail).map (· ++ "\n")))
      return 0
    | s :: _ =>
      let n ← number s
      let n := if n > 128 then n - 128 else n
      match signalNames[n]?, n with
      | some name, _ + 1 =>
        print (name ++ "\n")
        return 0
      | _, _ => Steps.fault ("invalid signal number or exit status: " ++ s)
  match signal, targets with
  | some signal, _ :: _ => sendAll signal targets
  | _, _ => Steps.fault killUsage

/-! ## Ends -/

def exit : Builtin := fun args => do
  if let s :: _ := args then
    let status ← number s
    modify fun s => { s with saved := some status }
  throw .exit

def return_ : Builtin := fun args => do
  if let s :: _ := args then Steps.setStatus (← number s)
  throw .back

def leaveLoops (isNext : Bool) : Builtin := fun args => do
  let n ← match args with
    | [] => pure 1
    | s :: _ =>
      let n ← number s
      if n = 0 then Steps.fault ("Illegal number: " ++ s)
      pure n
  let loops := (← get).loops
  if loops = 0 then return 0
  Steps.setStatus 0
  throw (.leave (min n loops) isNext)

def wait : Builtin := fun args => do
  let mut status := 0
  for s in args do
    let n ← number s
    status := ((← get).jobs.lookup n).getD 127
  return status

/-! ## Others -/

def umask : Builtin := fun args => do
  let (options, args) ← letters "S" args
  let mask := (← get).files.mask
  let put := fun (n : Nat) => modify fun s => { s with files := { s.files with mask := n } }
  match args with
  | [] =>
    print ((if options.contains 'S' then Permissions.byClass (511 - mask)
      else zeroPadded 4 (.ofList (inBase 8 mask))) ++ "\n")
  | mode :: _ =>
    let cs := mode.toList
    if (cs.head?.map Char.isDigit).getD false then
      match Permissions.octal? cs with
      | some n => put (n % 512)
      | none => Steps.fault ("Illegal number: " ++ mode)
    else if !cs.isEmpty then
      match Permissions.changed? 511 cs (511 - mask) with
      | some perms => put (511 - perms)
      | none => Steps.fault ("Illegal mode: " ++ mode)
  return 0

def ulimit : Builtin := fun args => do
  let (_, args) ← letters "HSatfdscmlpnvwr" args
  match args with
  | [] => print "unlimited\n"
  | [s] =>
    if s ≠ "unlimited" && (natural? s.toList).isNone then Steps.fault "bad number"
  | _ => Steps.fault "too many arguments"
  return 0

def jobs : Builtin := fun args => do
  let (_, args) ← letters "lp" args
  match args with
  | [] => return 0
  | s :: _ => Steps.fault ("No such job: " ++ s)

def times : Builtin := fun _ => do
  print "0m0.000000s 0m0.000000s\n0m0.000000s 0m0.000000s\n"
  return 0

def ofUtility (u : Utility) : Builtin := fun args => do
  let origin := Steps.origin (← get)
  Steps.runProgram u (.ofList (origin.toList.take (origin.length - 2))) args

end Builtin

end Reporting.Shell
