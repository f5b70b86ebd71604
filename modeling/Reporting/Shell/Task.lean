import Reporting.Shell.Volume
import Reporting.Text.Bytes

/-!
What a program does that runs to its end: it reads its input and files, writes to its output and its
error output, changes files, and ends with a status.

Programs know of bytes only, so their texts are spread out; the names of files are put together
again where a path is looked up.
-/

namespace Reporting.Shell

def pathFrom (here path : String) : String := Path.join here (Text.gathered path)

structure Task where
  name : String
  files : Volume
  here : String
  environment : List (String × String) := []
  input : List Char := []
  /-- The input is a file, so that a program can leave what it has read but not used. -/
  isFileInput : Bool := false
  output : Option (Nat × Nat) := none
  printed : String := ""
  sent : List (Bool × String) := []

abbrev Act := ExceptT Nat (StateM Task)

abbrev Utility := List String → Act Nat

namespace Task

def print (s : String) : Act Unit := modify fun t => { t with printed := t.printed ++ s }

def flushed (t : Task) : Task :=
  if t.printed.isEmpty then t else { t with printed := "", sent := (false, t.printed) :: t.sent }

def printNow (s : String) : Act Unit := do
  print s
  modify flushed

def sayRaw (s : String) : Act Unit := modify fun t => { t with sent := (true, s) :: t.sent }

def say (line : String) : Act Unit := do sayRaw ((← get).name ++ ": " ++ line ++ "\n")

def fail {α : Type} (status : Nat) (line : String) : Act α := do
  say line
  throw status

def hint : Act String := return "Try '" ++ (← get).name ++ " --help' for more information."

def misuse {α : Type} (status : Nat) (line : String) : Act α := do
  fail status (line ++ "\n" ++ (← hint))

def takeInput : Act (List Char) := modifyGet fun t => (t.input, { t with input := [] })

def locate (path : String) : Act (Except FileError Location) := do
  let t ← get
  if path.isEmpty then return .error .notFound
  return t.files.locate (pathFrom t.here path)

def entry (path : String) : Act (Except FileError FileEntry) := do
  match ← locate path with
  | .error e => return .error e
  | .ok l =>
    match (← get).files.entryAt l with
    | some x => return .ok x
    | none => return .error .notFound

def hasEntry (path : String) : Act Bool := return (← entry path) matches .ok _

def isDirectory (path : String) : Act Bool := return (← entry path) matches .ok .directory

def readFile (path : String) : Act (Except FileError (List Char)) := do
  if path = "/dev/stdin" then return .ok (← takeInput)
  match ← entry path with
  | .error e => return .error e
  | .ok .directory => return .error .isDirectory
  | .ok (.file bytes) => return .ok (Text.spreadBytes bytes).toList

def outputSize? (path : String) : Act (Option Nat) := do
  let t ← get
  match t.output, ← locate path with
  | some (number, position), .ok l =>
    if t.files.numbers.get? l ≠ some number then return none
    let sent := (t.sent.filter fun s => !s.1).foldl (fun n s => n + s.2.length) 0
    let size := (t.files.content number).size
    return some (if sent = 0 then size else max size (position + sent))
  | _, _ => return none

def readOperand (path : String) : Act (Except FileError (List Char)) := do
  if path = "-" then return .ok (← takeInput) else readFile path

def writeFile (path text : String) : Act (Except FileError Unit) := do
  match ← locate path with
  | .error e => return .error e
  | .ok l =>
    if l = nowhere then return .ok ()
    match (← get).files.write (pathFrom (← get).here path) (Text.bytesOfSpread text) with
    | .error e => return .error e
    | .ok files =>
      modify fun t => { t with files := files }
      return .ok ()

def change (step : Volume → Volume) : Act Unit := modify fun t => { t with files := step t.files }

def removeAt (l : Location) : Act Unit := change fun v => v.cut l

def replaceFile (path text : String) : Act (Except FileError Unit) := do
  -- Only permissions are shared with the file that stood there.
  match ← locate path with
  | .error e => return .error e
  | .ok l =>
    let mode := (← get).files.mode l
    if l ≠ nowhere then removeAt l
    let result ← writeFile path text
    change fun v => v.setMode l mode
    return result

def childrenAt (l : Location) : Act (List (String × FileEntry)) := do
  let cs := (← get).files.children l
  return (cs.map fun c => (Text.spread c.1, c.2)).mergeSort fun a b => decide (a.1 ≤ b.1)

end Task

structure Finished where
  status : Nat
  task : Task

def Utility.finish (u : Utility) (args : List String) (t : Task) : Finished :=
  match (u args).run.run t with
  | (.ok status, t) => ⟨status, t.flushed⟩
  | (.error status, t) => ⟨status, t.flushed⟩

/-! ## Names in messages -/

def isHarmless (c : Char) : Bool :=
  c.isAlphanum || "%+,-./:@_]\x7b\x7d".toList.contains c

def octal3 (n : Nat) : List Char :=
  [Char.ofNat (48 + n / 64), Char.ofNat (48 + n / 8 % 8), Char.ofNat (48 + n % 8)]

def escapeOf? (c : Char) : Option (List Char) :=
  if c = '\n' then some ['\\', 'n']
  else if c = '\t' then some ['\\', 't']
  else if c = '\r' then some ['\\', 'r']
  else if c.toNat = 7 then some ['\\', 'a']
  else if c.toNat = 8 then some ['\\', 'b']
  else if c.toNat = 11 then some ['\\', 'v']
  else if c.toNat = 12 then some ['\\', 'f']
  else if c.toNat < 32 || 126 < c.toNat then some ('\\' :: octal3 c.toNat)
  else none

/--
What follows the quote that begins a name. Characters that cannot be printed stand between quotes of
their own, and the flag says whether the last one was such.
-/
def quotedFrom : Bool → List Char → List Char
  | _, [] => ['\x27']
  | isEscape, c :: cs =>
    match escapeOf? c with
    | some e => (if isEscape then e else "'$'".toList ++ e) ++ quotedFrom true cs
    | none =>
      if c = '\x27' then "'\\''".toList ++ quotedFrom false cs
      else (if isEscape then "''".toList else []) ++ c :: quotedFrom false cs

def quoted (name : String) : String :=
  let cs := name.toList
  if cs.contains '\x27' && cs.all fun c => (escapeOf? c).isNone && !"\x22$\x60\\!".toList.contains c
  then "\"" ++ name ++ "\""
  else .ofList ('\x27' :: quotedFrom false cs)

def quotedIfNeeded (name : String) : String :=
  match name.toList with
  | [] => quoted name
  | c :: cs =>
    if isHarmless c && cs.all fun c => isHarmless c || c = '~' || c = '#' then name
    else quoted name

end Reporting.Shell
