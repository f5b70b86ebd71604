import Reporting.Shell.Builtin
import Reporting.Shell.Installed

/-!
What runs apart from the shell: copies of the shell, and programs that are looked for and started.
They share files and channels with the shell and leave nothing else behind but how they ended.
-/

namespace Reporting.Shell

structure Running where
  command : Bool → Command → Steps Unit
  /-- Runs the rounds of a loop; the last argument is the status of the round before. -/
  rounds : Bool → Bool → Command → Command → Nat → Steps Unit
  /-- Runs a script line by line. The result is the status of the last command, or the given status
  if there is none. -/
  script : Bool → Reader → Nat → Steps Nat
  /-- Runs a program that starts others, by its name and arguments, in the place of the shell. -/
  launch : Launcher → String → List String → Steps Status

namespace Running

open Steps

variable (k : Running)

def text (isTested : Bool) (s : String) : Steps Nat := do
  let line := (← get).readLine
  finally_ (k.script isTested { rest := s.toList } 0) (modify fun s => { s with readLine := line })

/-! ## Ends -/

def takeSaved : Steps Unit := modify fun s =>
  { s with status := s.saved.getD s.status, saved := none }

def runExitTrap : Steps Status := do
  let s ← get
  let action := (s.traps.lookup "EXIT").getD ""
  if !action.isEmpty then
    set { s with traps := s.traps.filter (·.1 ≠ "EXIT"), saved := some s.status }
    match ← attempt (k.text false action) with
    | .error (.gone status) => return status
    | .error .exhausted => throw .exhausted
    | .error .fault => modify fun s => { s with saved := none }
    | _ => takeSaved
  return .exited ((← get).status % 256)

def ending (steps : Steps Unit) : Steps Status := do
  match ← attempt steps with
  | .error (.gone status) => return status
  | .error .exhausted => throw .exhausted
  | .error .exit =>
    takeSaved
    runExitTrap k
  | _ =>
    modify fun s => { s with saved := none }
    runExitTrap k

def apart (steps : Steps Status) : Steps Status := do
  let s ← get
  set { s with
    process := s.nextNumber
    nextNumber := s.nextNumber + 1
    outer := s.process :: s.outer
    traps := s.traps.filter (·.2.isEmpty)
    saved := none }
  let status ← steps
  modify fun e =>
    { s with
      files := { e.files with mask := s.files.mask }
      streams := e.streams
      nextNumber := e.nextNumber
      signals := e.signals.filter (·.1 ≠ e.process) }
  return status

def forked (steps : Steps Unit) : Steps Status := apart (ending k steps)

def deaths : List (Nat × String) :=
  [(1, "Hangup"), (3, "Quit"), (4, "Illegal instruction"), (5, "Trace/breakpoint trap"),
    (6, "Aborted"), (7, "Bus error"), (8, "Floating point exception"), (9, "Killed"),
    (10, "User defined signal 1"), (11, "Segmentation fault"), (12, "User defined signal 2"),
    (14, "Alarm clock"), (15, "Terminated"), (16, "Stack fault"), (24, "CPU time limit exceeded"),
    (25, "File size limit exceeded"), (26, "Virtual timer expired"),
    (27, "Profiling timer expired"), (29, "I/O possible"), (30, "Power failure"),
    (31, "Bad system call")]

def death? (signal : Nat) : Option String :=
  if 34 ≤ signal then some ("Real-time signal " ++ Text.ofNat (signal - 34))
  else deaths.lookup signal

def numberOf : Status → Nat
  | .exited code => code
  | .killed signal => 128 + signal

def tell (status : Status) : Steps Nat := do
  if let .killed signal := status then
    if let some line := death? signal then
      let _ ← write 2 (line ++ "\n")
  return numberOf status

/-! ## Signals -/

def takeSignal (signal : Nat) : Steps Unit := do
  let s ← get
  match s.traps.lookup (Builtin.signalNames[signal]?.getD "") with
  | none => if !Builtin.isIgnored signal then throw (.gone (.killed signal))
  | some action =>
    if !action.isEmpty then
      let status := s.saved.getD s.status
      set { s with saved := some status }
      let _ ← k.text false action
      modify fun e => { e with saved := s.saved, status := status }

def takeSignals : List Nat → Steps Unit
  | [] => return
  | signal :: signals => do
    takeSignal k signal
    takeSignals signals

def settle : Steps Unit := do
  let s ← get
  let (own, others) := s.signals.partition (·.1 = s.process)
  if !own.isEmpty then
    set { s with signals := others }
    takeSignals k ((own.map Prod.snd).eraseDups.mergeSort (· ≤ ·))

/-! ## Programs -/

def readerLimit : Nat := 5

def programAt (path : String) (limit : Nat := readerLimit) : Steps (Except FileError Program) := do
  let s ← get
  if path.isEmpty then return .error .notFound
  match s.files.locate (pathFrom s.here path) with
  | .error e => return .error e
  | .ok place =>
    match s.files.entryAt place with
    | none => return .error .notFound
    | some .directory => return .error .isDirectory
    | some (.file bytes) =>
      match Program.at? place, limit with
      | some p, _ => return .ok p
      | none, 0 => return .error .denied
      | none, limit + 1 =>
        if !s.files.isRunnable place then return .error .denied
        let (name, words) := Program.readerOf (Text.spreadBytes bytes).toList
        match ← programAt name limit with
        | .ok p => return .ok (.script p name (words ++ [path]))
        | .error e => return .error e

def usualPath : String := "/usr/local/sbin:/usr/local/bin:/usr/sbin:/usr/bin:/sbin:/bin"

def firstProgram (name : String) :
    List String → FileError → Steps (Except FileError (String × Program))
  | [], e => return .error e
  | place :: places, e => do
    let path := Path.join place name
    match ← programAt path with
    | .ok p => return .ok (path, p)
    | .error .denied => firstProgram name places .denied
    | .error .isDirectory => firstProgram name places (if e = .denied then e else .isDirectory)
    | .error _ => firstProgram name places e

def findProgram (path name : String) : Steps (Except FileError (String × Program)) := do
  if name.toList.contains '/' then
    match ← programAt name with
    | .ok p => return .ok (name, p)
    | .error e => return .error e
  if Path.nameLimit < name.length then return .error .nameTooLong
  firstProgram name ((Text.splitOn ':' path.toList).map String.ofList) .notFound

def searchPath : Steps String := return ((← value? "PATH").getD "")

def renew (name : String) : Steps Unit := modify fun s =>
  { files := s.files
    here := s.here
    streams := s.streams
    channels := s.channels
    bindings := (exported s).foldl
      (fun vs v => vs.insert v.1 { value := some v.2, isExported := true }) .empty
    name := name
    traps := s.traps.filter (·.2.isEmpty)
    number := s.process
    process := s.process
    outer := s.outer
    nextNumber := s.nextNumber
    signals := s.signals }

def become (p : Program) (name : String) (args : List String) : Steps Status :=
  match p with
  | .utility u => return .exited (← runProgram u name args)
  | .launcher l => do
    renew name
    k.launch l name args
  | .script reader own words => become reader own (words ++ args)

def start (p : Program) (name : String) (args : List String) : Steps Status :=
  match p with
  | .utility u => return .exited (← runProgram u name args)
  | _ => apart (become k p name args)

end Running

end Reporting.Shell
