import Reporting.Shell.Launch

/-!
Commands of words: the words are made texts, channels are led elsewhere, variables get values, and
then a function, a command of the shell or a program is called.
-/

namespace Reporting.Shell

namespace Running

open Steps

variable (k : Running)

/-! ## Output as part of words -/

def output : Option Command → Steps String
  | none => return ""
  | some c => do
    let stream ← addStream (.kept [])
    let status ← forked k do
      connect 1 stream
      k.command false c
    let n ← tell status
    modify fun s => { s with outputStatus := some n }
    return .ofList ((← keptText stream).toList.filter (· ≠ '\x00'))

def words : Capturing := ⟨output k⟩

/-! ## Redirections -/

inductive Target where
  | path (path : String)
  | channel (n : Nat)
  | closed
  | document (number : Nat)

def noChannel {α : Type} : Steps α := do
  modify fun s => { s with line := s.readLine }
  fault "Syntax error: Bad fd number"

def target (r : Redirect Piece) : Steps (Redirect Piece × Target) := do
  match r.kind with
  | .document n => return (r, .document n)
  | .duplicate =>
    match (← (words k).text r.target).toList with
    | ['-'] => return (r, .closed)
    | [c] => if c.isDigit then return (r, .channel (c.toNat - 48)) else noChannel
    | _ => noChannel
  | _ => return (r, .path (← (words k).text r.target))

def targets : List (Redirect Piece) → Steps (List (Redirect Piece × Target))
  | [] => return []
  | r :: rs => do
    let first ← target k r
    return first :: (← targets rs)

def leadOne (r : Redirect Piece) : Target → Steps Bool
  | .closed => do
    disconnect r.channel
    return true
  | .channel n => do
    match (← get).channels.lookup n with
    | some i =>
      connect r.channel i
      return true
    | none =>
      complain (Text.ofNat n ++ ": Bad file descriptor")
      return false
  | .path path => do
    match ← open_ r.kind path with
    | .ok i =>
      connect r.channel i
      return true
    | .error reason =>
      let verb := if r.kind = .input then "cannot open " else "cannot create "
      complain (verb ++ path ++ ": " ++ reason)
      return false
  | .document n => do
    let w := ((← get).documents.lookup n).getD []
    match ← attempt ((words k).document w) with
    | .ok text =>
      connect r.channel (← addStream (.supply text.toList))
      return true
    | .error .fault => return false
    | .error h => throw h

def lead : List (Redirect Piece × Target) → Steps Bool
  | [] => return true
  | (r, t) :: rest => do if ← leadOne k r t then lead rest else return false

def withRedirects (redirects : List (Redirect Piece)) (steps : Steps Unit) : Steps Bool := do
  let old := (← get).channels
  let places ← targets k redirects
  finally_
    (do
      if ← lead k places then
        steps
        return true
      setStatus 2
      return false)
    (modify fun s => { s with channels := old })

/-! ## What commands are -/

def keywords : List String :=
  ["!", "case", "do", "done", "elif", "else", "esac", "fi", "for", "if", "in", "then", "until",
    "while", "\x7b", "\x7d"]

def plainBuiltins : List (String × Builtin) :=
  [(":", fun _ => return 0), ("true", fun _ => return 0), ("false", fun _ => return 1),
    ("cd", Builtin.cd), ("chdir", Builtin.cd), ("pwd", Builtin.pwd), ("export", Builtin.export_),
    ("readonly", Builtin.readonly), ("local", Builtin.local_), ("unset", Builtin.unset),
    ("set", Builtin.set_), ("shift", Builtin.shift), ("getopts", Builtin.getopts),
    ("read", Builtin.read), ("trap", Builtin.trap), ("kill", Builtin.kill), ("exit", Builtin.exit),
    ("return", Builtin.return_), ("break", Builtin.leaveLoops false),
    ("continue", Builtin.leaveLoops true), ("wait", Builtin.wait), ("umask", Builtin.umask),
    ("ulimit", Builtin.ulimit), ("times", Builtin.times), ("jobs", Builtin.jobs),
    ("echo", Builtin.ofUtility Utility.echo), ("printf", Builtin.ofUtility Utility.printf),
    ("test", Builtin.ofUtility Utility.test), ("[", Builtin.ofUtility Utility.bracket)]

def runningNames : List String :=
  [".", "alias", "bg", "command", "eval", "exec", "fg", "hash", "type", "unalias"]

def isBuiltin (name : String) : Bool :=
  runningNames.contains name || (plainBuiltins.lookup name).isSome

def runFailure (name : String) (e : FileError) : Nat × String :=
  match e with
  | .notFound => (127, "not found")
  | .notDirectory => (127, "not found")
  | .nameTooLong => (127, e.reason)
  | .isDirectory => (if name.toList.contains '/' then 126 else 127, FileError.denied.reason)
  | e => (126, e.reason)

def notRun (name : String) (e : FileError) : Steps Unit := do
  let (status, reason) := runFailure name e
  complain (name ++ ": " ++ reason)
  setStatus status

def remember (name path : String) : Steps Unit := modify fun s =>
  if name.toList.contains '/' then s
  else { s with found := (name, path) :: s.found.filter (·.1 ≠ name) }

/-- Says what a command is, in a sentence or just by the name or path; the result is the status. -/
def describe (isSentence : Bool) (path name : String) : Steps Nat := do
  let s ← get
  let shown := fun (sentence brief : String) => do
    Builtin.print ((if isSentence then name ++ sentence else brief) ++ "\n")
    return 0
  let missing : Steps Nat := do
    if isSentence then Builtin.print (name ++ ": not found\n")
    return 127
  if keywords.contains name then return ← shown " is a shell keyword" name
  if let some value := s.aliases.lookup name then
    return ← shown (" is an alias for " ++ value)
      ("alias " ++ name ++ "=" ++ Builtin.shellQuoted value)
  if (s.functions.lookup name).isSome then return ← shown " is a shell function" name
  if specialNames.contains name then return ← shown " is a special shell builtin" name
  if isBuiltin name then return ← shown " is a shell builtin" name
  if name.toList.contains '/' then
    if !name.isEmpty && s.files.hasEntry (pathFrom s.here name) then
      return ← shown (" is " ++ name) name
    return ← missing
  match ← findProgram path name with
  | .ok (place, _) =>
    let verb := if (s.found.lookup name).isSome then " is a tracked alias for " else " is "
    shown (verb ++ place) place
  | .error _ => missing

def describeAll (path : String) : List String → Nat → Steps Nat
  | [], status => return status
  | name :: names, status => do
    let n ← describe true path name
    describeAll path names (status ||| n)

/-! ## Commands of the shell that run others -/

def scriptPath (name : String) : Steps String := do
  if name.toList.contains '/' then return name
  let s ← get
  let places := (Text.splitOn ':' (← searchPath).toList).map String.ofList
  let found := places.find? fun place =>
    match s.files.lookup (pathFrom s.here (Path.join place name)) with
    | .ok (.file _) => !name.isEmpty
    | _ => false
  match found with
  | some place => return Path.join place name
  | none => fault (name ++ ": not found")

def scriptText (path : String) : Steps String := do
  let s ← get
  match if path.isEmpty then .error .notFound else s.files.lookup (pathFrom s.here path) with
  | .ok (.file bytes) => return Text.spreadBytes bytes
  | .ok .directory => return ""
  | .error e => fault ("cannot open " ++ path ++ ": " ++ openReason e)

def dot : Builtin
  | [] => return 0
  | name :: _ => do
    let path ← scriptPath name
    let text ← scriptText path
    modify fun s => { s with builtin := some path }
    match ← attempt (k.text false text) with
    | .ok status => return status
    | .error .back => return (← get).status
    | .error h => throw h

def eval (isTested : Bool) : Builtin := fun args => k.text isTested (" ".intercalate args)

def exec : Builtin
  | [] => return 0
  | name :: args => do
    match ← findProgram (← searchPath) name with
    | .ok (_, p) =>
      let status ← k.become p name args
      throw (.gone status)
    | .error e =>
      notRun name e
      throw .exit

def command_ : Builtin := fun args => do
  let (options, names) ← Builtin.letters "pvV" args
  let path ← if options.contains 'p' then pure usualPath else searchPath
  match names.head? with
  | some name =>
    if options.contains 'V' then describe true path name
    else if options.contains 'v' then describe false path name
    else return 0
  | none => return 0

def hash : Builtin := fun args => do
  let (options, names) ← Builtin.letters "rv" args
  if options.contains 'r' then modify fun s => { s with found := [] }
  else if names.isEmpty then
    for (_, path) in (← get).found.reverse do Builtin.print (path ++ "\n")
  let mut status := 0
  for name in names do
    if !isBuiltin name && ((← get).functions.lookup name).isNone then
      match ← findProgram (← searchPath) name with
      | .ok (path, _) => remember name path
      | .error e =>
        complain (name ++ ": " ++ (runFailure name e).2)
        status := 1
  return status

def alias_ : Builtin := fun args => do
  let show_ := fun (name value : String) =>
    Builtin.print (name ++ "=" ++ Builtin.shellQuoted value ++ "\n")
  if args.isEmpty then
    for (name, value) in (← get).aliases do show_ name value
  let mut status := 0
  for arg in args do
    match Builtin.definition arg with
    | (name, some value) =>
      modify fun s => { s with aliases := (name, value) :: s.aliases.filter (·.1 ≠ name) }
    | (name, none) =>
      match (← get).aliases.lookup name with
      | some value => show_ name value
      | none =>
        let _ ← write 2 ("alias: " ++ name ++ " not found\n")
        status := 1
  return status

def unalias : Builtin := fun args => do
  let (options, names) ← Builtin.letters "a" args
  if options.contains 'a' then modify fun s => { s with aliases := [] }
  let mut status := 0
  for name in names do
    if ((← get).aliases.lookup name).isSome then
      modify fun s => { s with aliases := s.aliases.filter (·.1 ≠ name) }
    else
      let _ ← write 2 ("unalias: " ++ name ++ " not found\n")
      status := 1
  return status

def noJob : Builtin
  | [] => fault "No current job"
  | name :: _ => fault ("No such job: " ++ name)

def builtin? (isTested : Bool) (name : String) : Option Builtin :=
  match name with
  | "." => some (dot k)
  | "alias" => some alias_
  | "bg" => some noJob
  | "command" => some command_
  | "eval" => some (eval k isTested)
  | "exec" => some (exec k)
  | "fg" => some noJob
  | "hash" => some hash
  | "type" => some fun names => do describeAll (← searchPath) names 0
  | "unalias" => some unalias
  | name => plainBuiltins.lookup name

/-! ## Calls -/

def callLimit : Nat := 1000

def call (isTested : Bool) (body : Command) (args : List String) : Steps Unit := do
  let s ← get
  if callLimit ≤ s.calls then
    fault ("Maximum function recursion depth (" ++ Text.ofNat callLimit ++ ") reached")
  set { s with args := args, calls := s.calls + 1, loops := 0, optionPlace := (1, 1) }
  finally_
    (do
      match ← attempt (k.command isTested body) with
      | .error .back => return
      | .error h => throw h
      | .ok () => return)
    (modify fun e =>
      { e with args := s.args, calls := s.calls, loops := s.loops, optionPlace := s.optionPlace })

def callBuiltin (name : String) (isSpecial : Bool) (b : Builtin) (args : List String) :
    Steps Unit := do
  -- A fault ends the shell only if the command is a special one.
  let old := (← get).builtin
  modify fun s => { s with builtin := some name, isLost := false }
  let result ← attempt (b args)
  if result matches .ok _ then
    if (← get).isLost then complain (name ++ ": I/O error")
  modify fun s => { s with builtin := old }
  match result with
  | .ok status => setStatus (if (← get).isLost then status ||| 1 else status)
  | .error .fault => if isSpecial then throw .fault
  | .error h => throw h

def callProgram (path : String) (name : String) (args : List String) : Steps Unit := do
  match ← findProgram path name with
  | .ok (place, p) =>
    remember name place
    setStatus (← tell (← k.start p name args))
  | .error e => notRun name e

/-! ## Words and assignments -/

/-- The arguments of `command` behind its options, if it is to run a command, and whether the usual
directories are to be searched. -/
def commandArgs : List String → Bool → Option (List String × Bool)
  | [], _ => none
  | a :: args, isUsual =>
    if a = "--" then if args.isEmpty then none else some (args, isUsual)
    else
      match a.toList with
      | '-' :: c :: cs => if (c :: cs).all (· = 'p') then commandArgs args true else none
      | _ => some (a :: args, isUsual)

structure Called where
  args : List String
  /-- Called by way of `command`, which passes over functions and makes no fault end the shell. -/
  isPlain : Bool := false
  isUsual : Bool := false

def Called.stripped : Nat → Called → Called
  | 0, c => c
  | n + 1, c =>
    match c.args with
    | "command" :: args =>
      match commandArgs args false with
      | some (args, isUsual) => stripped n ⟨args, true, isUsual⟩
      | none => { c with isPlain := true }
    | _ => c

def declaring : List String := ["export", "readonly", "local"]

def isLiterally (names : List String) (w : Word) : Bool :=
  match literal? w with
  | some cs => names.contains (.ofList cs)
  | none => false

def declares : List Word → Bool
  | [] => false
  | w :: ws =>
    if isLiterally ["command", "-p", "--"] w then declares ws else isLiterally declaring w

def declaredTexts : List Word → Steps (List String)
  | [] => return []
  | w :: ws => do
    let first ← match assignment? w with
      | some _ => pure [← (words k).assigned w]
      | none => (words k).texts w
    return first ++ (← declaredTexts ws)

def argTexts : List Word → Steps (List String)
  | [] => return []
  | w :: ws => do
    match ← (words k).texts w with
    | [] => argTexts ws
    | name :: args =>
      let isFunction := ((← get).functions.lookup name).isSome
      let areDeclared := !isFunction &&
        (declaring.contains name || name = "command" && declares ws)
      let rest ← if areDeclared then declaredTexts k ws else (words k).allTexts ws
      return name :: args ++ rest

/-- Gives variables values; the result are the assignments as texts. Values of the command at work
alone are given to programs, too. -/
def assignAll (isLocal isExported : Bool) : List Word → Steps (List String)
  | [] => return []
  | w :: ws => do
    match assignment? w with
    | none => assignAll isLocal isExported ws
    | some (name, value) =>
      let text ← (words k).assigned value
      if isLocal then keepLocal name
      setValue name text
      if isLocal || isExported then
        putVariable name ((← binding? name).map fun v => { v with isExported := true })
      let rest ← assignAll isLocal isExported ws
      return (name ++ "=" ++ text) :: rest

def trace (channels : List (Nat × Nat)) (texts : List String) : Steps Unit := do
  let s ← get
  if s.options.contains 'x' then
    set { s with channels := channels, options := s.options.filter (· ≠ 'x') }
    let mark := ((s.bindings.get? "PS4").bind (·.value)).getD ""
    let shown ← match Reader.document mark.toList with
      | .ok w => (words k).document w
      | .error _ => pure mark
    let _ ← write 2 (shown ++ " ".intercalate texts ++ "\n")
    modify fun e => { e with channels := s.channels, options := s.options }

def simple (isTested : Bool) (line : Nat) (assignments ws : List Word)
    (redirects : List (Redirect Piece)) : Steps Unit := do
  modify fun s => { s with line := line, outputStatus := none }
  let args ← argTexts k ws
  let s ← get
  let called := if (s.functions.lookup (args.headD "")).isSome then ⟨args, false, false⟩
    else Called.stripped args.length ⟨args, false, false⟩
  let name := called.args.headD ""
  let body? := if called.isPlain then none else s.functions.lookup name
  let builtin? := if body?.isSome then none else builtin? k isTested name
  let isSpecial := specialNames.contains name && builtin?.isSome && !called.isPlain
  let isExec := name = "exec" && builtin?.isSome
  let isLocal := !args.isEmpty && !isSpecial
  if isLocal then pushLocals
  let steps : Steps Unit := do
    let given ← assignAll k isLocal (isExec && 1 < called.args.length) assignments
    trace k s.channels (given ++ args)
    if args.isEmpty then setStatus ((← get).outputStatus.getD 0)
    else
      match body?, builtin? with
      | some body, _ => call k isTested body called.args.tail
      | none, some b => callBuiltin name isSpecial b called.args.tail
      | none, none =>
        let path ← if called.isUsual then pure usualPath else searchPath
        callProgram k path name called.args.tail
  let run : Steps Unit := do
    let places ← targets k redirects
    if ← lead k places then steps
    else
      setStatus 2
      if isSpecial then throw .fault
  let result ← attempt run
  let keepsChannels := isExec && result matches .ok _
  if !keepsChannels then modify fun e => { e with channels := s.channels }
  if isLocal then popLocals
  match result with
  | .ok () => return
  | .error h => throw h

end Running

end Reporting.Shell
