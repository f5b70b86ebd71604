import Reporting.Shell.Editor.Reader
import Reporting.Shell.Editor.Run
import Reporting.Shell.Utility.Lines

/-!
Editing texts line by line with a script: one text after the other, or each by itself, or files in
their place.
-/

namespace Reporting.Shell.Utility

open OptionForm in
def editForms : List OptionForm :=
  [named 'n' "quiet", long "silent", named 'e' "expression" .argument, named 'f' "file" .argument,
    named 'E' "regexp-extended", named 'r' "", named 'i' "in-place" .perhaps, named 's' "separate",
    named 'u' "unbuffered", named 'z' "null-data", named 'l' "line-length" .argument,
    long "posix", long "debug", long "sandbox"]

def scriptPlace : Nat → List (List Char) → Nat → Nat × Nat
  | i, script :: scripts, n =>
    if n ≤ script.length || scripts.isEmpty then (i, n)
    else scriptPlace (i + 1) scripts (n - script.length - 1)
  | i, [], n => (i, n)

def editLines (mark : Char) (name : String) (text : List Char) : List (String × Editor.Space) :=
  let pieces := Text.splitOn mark text
  let ended := pieces.dropLast.map fun l => (name, Editor.Space.mk l true)
  match pieces.getLast? with
  | some (c :: cs) => ended ++ [(name, ⟨c :: cs, false⟩)]
  | _ => ended

def editComplaint (isInPlace : Bool) (path : String) : FileError → String
  | .isDirectory =>
    if isInPlace then "couldn't edit " ++ path ++ ": not a regular file"
    else "read error on " ++ path ++ ": " ++ FileError.isDirectory.reason
  | e => "can't read " ++ path ++ ": " ++ e.reason

def editCommands (isExtended : Bool) (scripts : List (List Char)) : Act (List Editor.Command) := do
  let complain := fun (i n : Nat) (e : String) =>
    Task.fail (α := List Editor.Command) 1
      ("-e expression #" ++ Text.ofNat i ++ ", char " ++ Text.ofNat n ++ ": " ++ e)
  match Editor.read isExtended (['\n'].intercalate scripts) with
  | .error (n, e) =>
    if n = 0 then complain scripts.length 0 e
    else
      let (i, n) := scriptPlace 1 scripts n
      complain i n e
  | .ok cs =>
    if let some name := Editor.missingLabel? cs then
      Task.fail 4 ("can't find label for jump to \x60" ++ name ++ "'")
    return cs

def editScripts : List (String × String) → Act (List (List Char))
  | [] => return []
  | (key, value) :: options => do
    let own ←
      if key = "e" then pure [value.toList]
      else if key = "f" then
        match ← Task.readOperand value with
        | .ok text => pure [if text.getLast? = some '\n' then text.dropLast else text]
        | .error e => Task.fail 1 ("couldn't open file " ++ value ++ ": " ++ e.reason)
      else pure []
    return own ++ (← editScripts options)

def sed : Utility := fun args => do
  let g ← Options.read editForms args
  let mut scripts ← editScripts g.options
  let mut operands := g.operands
  if !g.has "e" && !g.has "f" then
    match operands with
    | [] =>
      Task.sayRaw ("Usage: " ++ (← get).name ++
        " [OPTION]... \x7bscript-only-if-no-other-script\x7d [input-file]...\n")
      throw 1
    | script :: rest =>
      scripts := [script.toList]
      operands := rest
  let cs ← editCommands (g.has "E" || g.has "r") scripts
  let isInPlace := g.has "i"
  if isInPlace && operands.isEmpty then
    Task.sayRaw ((← get).name ++ ": no input files\n")
    throw 4
  let t ← get
  let k : Editor.Setting :=
    { isQuiet := g.has "n" || ['#', 'n'].isPrefixOf (scripts.headD [])
      mark := if g.has "z" then Char.ofNat 0 else '\n'
      width := ((g.value? "l").bind fun s => natural? s.toList).getD 70
      contents := fun path =>
        match t.files.read (pathFrom t.here path) with
        | .ok bytes => some (Text.spreadBytes bytes).toList
        | .error _ => none }
  let outputs := (cs.filterMap fun c => c.action.output?).filter (· ≠ Editor.standardOutput)
  let mut state : Editor.State := { files := outputs.eraseDups.map fun path => (path, []) }
  let mut status := 0
  let mut quit? : Option Nat := none
  let mut lines := []
  for path in orInput operands do
    if quit?.isNone then
      match ← Task.readOperand path with
      | .error e =>
        Task.say (editComplaint isInPlace path e)
        status := max status (if isInPlace && e = .isDirectory then 4 else 2)
      | .ok text =>
        let own := editLines k.mark path text
        if isInPlace || g.has "s" then
          let (q, s) := (do
            Editor.settle k none
            Editor.runOver k cs own : Editor.Run (Option Nat)).run state
          quit? := q
          state := s
          if isInPlace && path ≠ "-" then
            if let some suffix := g.value? "i" then
              if !suffix.isEmpty then
                let backup := if suffix.toList.contains '*' then suffix.replace "*" path
                  else path ++ suffix
                let _ ← Task.writeFile backup (.ofList text)
            let _ ← Task.replaceFile path (.ofList state.printed)
            state := { state with printed := [], owing := state.owing.filter Option.isSome }
        else lines := lines ++ own
  if !isInPlace && !g.has "s" then
    let (q, s) := (Editor.runOver k cs lines).run state
    quit? := q
    state := s
  if state.isLost then Task.say "-e expression #1, char 0: no previous regular expression"
  printChars state.printed
  for (path, text) in state.files do
    let _ ← Task.writeFile path (.ofList text)
  return quit?.getD status

end Reporting.Shell.Utility
