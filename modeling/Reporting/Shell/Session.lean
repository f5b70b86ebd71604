import Reporting.Convert
import Reporting.Shell.Parser
import Reporting.Shell.Task

/-!
The state of a shell at work: variables, functions and files, and the channels through which it
reads and writes. Several channels can lead to one stream, and then share the place in it.
-/

namespace Reporting.Shell

inductive Stream where
  | kept (texts : List String)
  | supply (text : List Char)
  | file (number position : Nat) (appends : Bool)
  | nothing

structure Variable where
  value : Option String := none
  isExported : Bool := false
  isReadonly : Bool := false

structure Session where
  files : Volume
  here : String := "/"
  streams : Array Stream := #[]
  channels : List (Nat × Nat) := []
  bindings : Entries String Variable := .empty
  functions : List (String × Command) := []
  documents : List (Nat × Word) := []
  name : String := "sh"
  args : List String := []
  status : Nat := 0
  line : Nat := 0
  readLine : Nat := 0
  saved : Option Nat := none
  builtin : Option String := none
  options : List Char := []
  traps : List (String × String) := []
  outputStatus : Option Nat := none
  loops : Nat := 0
  calls : Nat := 0
  /-- What variables were before, for each command that runs with variables of its own. -/
  locals : List (List (String × Option Variable)) := []
  aliases : List (String × String) := []
  found : List (String × String) := []
  number : Nat := 100
  /-- The number of the process, which differs in a part of the shell that runs by itself. -/
  process : Nat := 100
  outer : List Nat := []
  nextNumber : Nat := 101
  signals : List (Nat × Nat) := []
  jobs : List (Nat × Nat) := []
  optionPlace : Nat × Nat := (1, 1)
  isLost : Bool := false

inductive Halt where
  | exit
  | fault
  | gone (status : Status)
  | leave (loops : Nat) (isNext : Bool)
  | back
  | exhausted

abbrev Steps := ExceptT Halt (StateM Session)

namespace Steps

def attempt {α : Type} (steps : Steps α) : Steps (Except Halt α) := fun s =>
  let (result, s) := steps.run.run s
  (.ok result, s)

def finally_ {α : Type} (steps : Steps α) (last : Steps Unit) : Steps α := do
  let result ← attempt steps
  last
  match result with
  | .ok a => return a
  | .error h => throw h

def setStatus (status : Nat) : Steps Unit := modify fun s => { s with status := status }

/-! ## Streams -/

def addStream (x : Stream) : Steps Nat := modifyGet fun s =>
  (s.streams.size, { s with streams := s.streams.push x })

def stream? (channel : Nat) : Steps (Option (Nat × Stream)) := do
  let s ← get
  match s.channels.lookup channel with
  | none => return none
  | some i => return (s.streams[i]?).map fun x => (i, x)

def setStream (i : Nat) (x : Stream) : Steps Unit :=
  modify fun s => { s with streams := s.streams.set! i x }

def connect (channel stream : Nat) : Steps Unit := modify fun s =>
  { s with channels := (channel, stream) :: s.channels.filter (·.1 ≠ channel) }

def disconnect (channel : Nat) : Steps Unit :=
  modify fun s => { s with channels := s.channels.filter (·.1 ≠ channel) }

def spliced (old : ByteArray) (position : Nat) (bytes : ByteArray) : ByteArray :=
  let before := old.extract 0 position
  let gap := ByteArray.mk (Array.replicate (position - old.size) 0)
  before ++ gap ++ bytes ++ old.extract (position + bytes.size) old.size

def write (channel : Nat) (text : String) : Steps Bool := do
  match ← stream? channel with
  | none => return text.isEmpty
  | some (i, .kept texts) =>
    if !text.isEmpty then setStream i (.kept (text :: texts))
    return true
  | some (i, .file number position appends) =>
    let s ← get
    let old := s.files.content number
    let bytes := Text.bytesOfSpread text
    let position := if appends then old.size else position
    if !text.isEmpty then
      set { s with files := s.files.setContent number (spliced old position bytes) }
    setStream i (.file number (position + bytes.size) appends)
    return true
  | some (_, .nothing) => return true
  | some (_, .supply _) => return text.isEmpty

def supplyOf (channel : Nat) : Steps (List Char × Bool) := do
  match ← stream? channel with
  | some (_, .supply text) => return (text, false)
  | some (_, .file number position _) =>
    let bytes := (← get).files.content number
    return ((Text.spreadBytes (bytes.extract position bytes.size)).toList, true)
  | _ => return ([], false)

def leave (channel count : Nat) : Steps Unit := do
  match ← stream? channel with
  | some (i, .supply text) => setStream i (.supply (text.drop (text.length - count)))
  | some (i, .file number position appends) =>
    let size := ((← get).files.content number).size
    if position < size then setStream i (.file number (size - count) appends)
  | _ => return

def keptText (i : Nat) : Steps String := do
  match (← get).streams[i]? with
  | some (.kept texts) => return String.join texts.reverse
  | _ => return ""

/-! ## Complaints -/

def origin (s : Session) : String :=
  s.name ++ ": " ++ Text.ofNat s.line ++ ": " ++
    match s.builtin with
    | some name => name ++ ": "
    | none => ""

def complain (line : String) : Steps Unit := do
  let _ ← write 2 (origin (← get) ++ line ++ "\n")

def fault {α : Type} (line : String) (status : Nat := 2) : Steps α := do
  -- The shell goes on if only the command at work fails.
  complain line
  setStatus status
  throw .fault

/-! ## Variables -/

def binding? (name : String) : Steps (Option Variable) := return (← get).bindings.get? name

def value? (name : String) : Steps (Option String) := return (← binding? name).bind (·.value)

def putVariable (name : String) (v : Option Variable) : Steps Unit := modify fun s =>
  { s with
    bindings := match v with
      | some v => s.bindings.insert name v
      | none => s.bindings.erase name }

def setValue (name value : String) : Steps Unit := do
  let v := (← binding? name).getD {}
  if v.isReadonly then fault (name ++ ": is read only")
  let isExported := v.isExported || (← get).options.contains 'a'
  putVariable name (some { v with value := some value, isExported := isExported })
  if name = "OPTIND" then modify fun s => { s with optionPlace := ((value.toNat?).getD 1, 1) }

def keepLocal (name : String) : Steps Unit := do
  let old ← binding? name
  modify fun s =>
    match s.locals with
    | frame :: rest =>
      if (frame.lookup name).isSome then s
      else { s with locals := ((name, old) :: frame) :: rest }
    | [] => s

def pushLocals : Steps Unit := modify fun s => { s with locals := [] :: s.locals }

def popLocals : Steps Unit := do
  match (← get).locals with
  | frame :: rest =>
    modify fun s => { s with locals := rest }
    for (name, old) in frame do putVariable name old
  | [] => return

def separators : Steps String := return ((← value? "IFS").getD " \t\n")

def exported (s : Session) : List (String × String) :=
  s.bindings.toList.filterMap fun (name, v) =>
    if v.isExported then v.value.map fun value => (name, value) else none

/-! ## Programs -/

def outputPlace : Steps (Option (Nat × Nat)) := do
  match ← stream? 1 with
  | some (_, .file number position appends) =>
    let size := ((← get).files.content number).size
    return some (number, if appends then size else position)
  | _ => return none

def runProgram (u : Utility) (name : String) (args : List String) : Steps Nat := do
  let s ← get
  let (input, isFile) ← supplyOf 0
  let f := u.finish args
    { name := name
      files := s.files
      here := s.here
      environment := exported s
      input := input
      isFileInput := isFile
      output := ← outputPlace }
  if f.task.input.length < input.length then leave 0 f.task.input.length
  modify fun s => { s with files := f.task.files }
  for (isError, text) in f.task.sent.reverse do
    if !(← write (if isError then 2 else 1) text) then modify fun s => { s with isLost := true }
  return f.status

/-! ## Redirections -/

def pathTo (path : String) : Steps String := return pathFrom (← get).here path

def createReason : FileError → String
  | .notFound => "Directory nonexistent"
  | e => e.reason

def openReason : FileError → String
  | .notFound => "No such file"
  | e => e.reason

def channelAt? (path : String) : Option Nat :=
  if path = "/dev/stdin" then some 0
  else if path = "/dev/stdout" then some 1
  else if path = "/dev/stderr" then some 2
  else if "/dev/fd/".toList.isPrefixOf path.toList then (String.ofList (path.toList.drop 8)).toNat?
  else none

def open_ (kind : Redirection) (path : String) : Steps (Except String Nat) := do
  if let some n := channelAt? path then
    match (← get).channels.lookup n with
    | some i => return .ok i
    | none => return .error "No such file"
  let s ← get
  let isOutput := kind ≠ .input
  let refuse := fun (e : FileError) =>
    Except.error (if isOutput then createReason e else openReason e)
  if path.isEmpty then return refuse .notFound
  match s.files.locate (← pathTo path) with
  | .error e => return refuse e
  | .ok place =>
    if place = nowhere then return .ok (← addStream .nothing)
    let stream := fun (files : Volume) => do
      let (number, files) := files.numbered place
      set { s with files := files }
      return .ok (← addStream (.file number 0 (kind = .append)))
    match s.files.entryAt place, kind with
    | some .directory, .input => return .ok (← addStream .nothing)
    | some .directory, _ => return refuse .isDirectory
    | some (.file _), .output =>
      if s.options.contains 'C' then return .error "File exists"
      stream (s.files.fill place .empty)
    | some (.file _), .overwrite => stream (s.files.fill place .empty)
    | some (.file _), _ => stream s.files
    | none, .input => return refuse .notFound
    | none, _ =>
      match s.files.write (← pathTo path) .empty with
      | .error e => return refuse e
      | .ok files => stream files

end Steps

end Reporting.Shell
