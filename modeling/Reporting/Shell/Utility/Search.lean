import Reporting.Shell.Regex
import Reporting.Shell.Utility.Lines

/-!
Searching for lines that match regular expressions.
-/

namespace Reporting.Shell.Utility

structure Search where
  patterns : List Regex
  isInverted : Bool := false
  ignoresCase : Bool := false
  wholeLines : Bool := false
  wholeWords : Bool := false

namespace Search

def findFrom (s : Search) (x : Regex.Subject) : Nat → Nat → Option Regex.Found
  | 0, _ => none
  | n + 1, i =>
    let found := s.patterns.filterMap fun r => r.find x i
    let best := found.foldl (fun best f =>
      match best with
      | some (b : Regex.Found) =>
        if f.first < b.first || f.first = b.first && b.last < f.last then some f else best
      | none => some f) none
    match best with
    | none => none
    | some f =>
      let isWhole := f.first = 0 && f.last = x.text.size
      let isWord := !x.isWordBefore f.first && !x.isWordAt f.last
      if s.wholeLines && !isWhole || s.wholeWords && !isWord then
        if f.first < x.text.size then s.findFrom x n (f.first + 1) else none
      else some f

def subject (s : Search) (line : List Char) : Regex.Subject :=
  { text := line.toArray, ignoresCase := s.ignoresCase }

def hasMatch (s : Search) (line : List Char) : Bool :=
  let x := s.subject line
  if s.wholeLines then
    s.patterns.any fun r => (Regex.hits x r 0 []).any fun h => h.1 = line.length
  else (s.findFrom x (line.length + 1) 0).isSome

def selects (s : Search) (line : List Char) : Bool := s.hasMatch line != s.isInverted

def parts (s : Search) (x : Regex.Subject) : Nat → Nat → List (Nat × List Char)
  | 0, _ => []
  | n + 1, i =>
    match s.findFrom x (x.text.size + 1) i with
    | none => []
    | some f =>
      if f.last = f.first then
        if f.first < x.text.size then s.parts x n (f.first + 1) else []
      else (f.first, f.group x 0) :: s.parts x n f.last

end Search

open OptionForm in
def searchForms : List OptionForm :=
  [named 'E' "extended-regexp", named 'F' "fixed-strings", named 'G' "basic-regexp",
    named 'P' "perl-regexp", named 'e' "regexp" .argument, named 'f' "file" .argument,
    named 'i' "ignore-case", named 'y' "", named 'v' "invert-match", named 'w' "word-regexp",
    named 'x' "line-regexp", named 'c' "count", named 'l' "files-with-matches",
    named 'L' "files-without-match", named 'm' "max-count" .argument, named 'o' "only-matching",
    named 'q' "quiet", long "silent", named 's' "no-messages", named 'b' "byte-offset",
    named 'H' "with-filename", named 'h' "no-filename", named 'n' "line-number",
    named 'A' "after-context" .argument, named 'B' "before-context" .argument,
    named 'C' "context" .argument, named 'a' "text", named 'r' "recursive", named 'R' "",
    named 'U' "binary", named 'z' "null-data", long "color" .perhaps, long "label" .argument]

def namesClass : List Char → Bool
  | '[' :: ':' :: cs =>
    match (cs.takeWhile (· ≠ ']')).getLast? with
    | some ':' => cs.contains ']'
    | _ => false
  | '[' :: '[' :: cs => namesClass (cs.dropWhile (· ≠ ']'))
  | _ :: cs => namesClass cs
  | [] => false
termination_by cs => cs.length
decreasing_by
  · have h := (List.dropWhile_sublist (fun c => decide (c ≠ ']')) (l := cs)).length_le
    simp only [List.length_cons]
    omega
  · simp

def fixedRegex (cs : List Char) : Regex := cs.foldr (fun c r => .both (.char c) r) .empty

structure Report where
  search : Search
  given : Given
  isNamed : Bool
  before : Nat
  after : Nat
  most : Option Nat

def Report.label (r : Report) (name : String) (number offset : Nat) (mark : String) : String :=
  (if r.isNamed then name ++ mark else "") ++
    (if r.given.has "n" then Text.ofNat number ++ mark else "") ++
    (if r.given.has "b" then Text.ofNat offset ++ mark else "")

def Report.text (r : Report) (name : String) (text : List Char) : Act Bool := do
  let lines := (plainLines text).zipIdx
  let hits : List Nat := (lines.filter fun l => r.search.selects l.1).map Prod.snd
  let hits : List Nat := match r.most with
    | some n => hits.take n
    | none => hits
  let g := r.given
  if g.has "q" then return !hits.isEmpty
  if g.has "l" || g.has "L" then
    if hits.isEmpty = g.has "L" then Task.print (name ++ "\n")
    return !hits.isEmpty
  if g.has "c" then
    Task.print ((if r.isNamed then name ++ ":" else "") ++ Text.ofNat hits.length ++ "\n")
    return !hits.isEmpty
  if text.contains '\x00' && !g.has "a" && !hits.isEmpty then
    Task.print ((← get).name ++ ": " ++ name ++ ": binary file matches\n")
    return true
  let mut offset := 0
  let mut last : Option Nat := none
  for (line, i) in lines do
    let isHit : Bool := hits.contains i
    let isNear := hits.any fun h => h < i && i ≤ h + r.after || i < h && h ≤ i + r.before
    if isHit || isNear then
      if (r.after > 0 || r.before > 0) && last.any (· + 1 < i) then Task.print "--\n"
      last := some i
      if g.has "o" then
        if isHit && !r.search.isInverted then
          let x := r.search.subject line
          for (start, part) in r.search.parts x (line.length + 1) 0 do
            Task.print (r.label name (i + 1) (offset + start) ":" ++ .ofList part ++ "\n")
      else
        let mark : String := if isHit then ":" else "-"
        Task.print (r.label name (i + 1) offset mark ++ .ofList line ++ "\n")
    offset := offset + line.length + 1
  return !hits.isEmpty

def filesBelow : Nat → String → Act (List String)
  | 0, _ => return []
  | n + 1, path => do
    match ← Task.locate path, ← Task.entry path with
    | .ok l, .ok .directory =>
      let mut all := []
      for c in ← Task.childrenAt l do
        let more ← filesBelow n (within' path c.1)
        all := all ++ more
      return all
    | _, _ => return [path]
where
  within' (directory name : String) : String :=
    if directory = "." then name else directory ++ "/" ++ name

def grep : Utility := fun args => do
  let args := args.map fun a =>
    match a.toList with
    | '-' :: c :: cs => if (c :: cs).all Char.isDigit then "-C" ++ .ofList (c :: cs) else a
    | _ => a
  let name := (← get).name
  let g ← match Options.given (searchForms ++ [.long "help", .long "version"]) args with
    | .ok g => pure g
    | .error e =>
      Task.sayRaw (name ++ ": " ++ e ++ "\nUsage: " ++ name ++
        " [OPTION]... PATTERNS [FILE]...\nTry '" ++ name ++ " --help' for more information.\n")
      throw 2
  if g.has "help" || g.has "version" then return 0
  let mut texts := (g.options.filter (·.1 = "e")).map Prod.snd
  let mut operands := g.operands
  for (key, path) in g.options do
    if key = "f" then
      match ← Task.readOperand path with
      | .ok text => texts := texts ++ (plainLines text).map .ofList
      | .error e => Task.fail 2 (path ++ ": " ++ e.reason)
  if !g.has "e" && !g.has "f" then
    match operands with
    | [] =>
      Task.sayRaw ("Usage: " ++ name ++ " [OPTION]... PATTERNS [FILE]...\nTry '" ++ name ++
        " --help' for more information.\n")
      throw 2
    | text :: rest =>
      texts := [text]
      operands := rest
  let kind := g.last? ["E", "F", "G", "P"]
  let mut patterns := []
  for text in texts do
    for line in Text.splitOn '\n' text.toList do
      if kind = some "F" then patterns := patterns ++ [fixedRegex line]
      else
        match Regex.read (kind = some "E" || kind = some "P") false line with
        | .ok (r, _) => patterns := patterns ++ [r]
        | .error e => Task.fail 2 e
    if kind ≠ some "F" && namesClass text.toList then
      Task.fail 2 "character class syntax is [[:space:]], not [:space:]"
  let number := fun (key : String) => (g.value? key).bind fun s => natural? s.toList
  if g.has "r" || g.has "R" then
    let mut all := []
    for path in if operands.isEmpty then ["."] else operands do
      let more ← filesBelow 1000 path
      all := all ++ more
    operands := all
  let r : Report :=
    { search :=
        { patterns := patterns
          isInverted := g.has "v"
          ignoresCase := g.has "i" || g.has "y"
          wholeLines := g.has "x"
          wholeWords := g.has "w" }
      given := g
      isNamed := g.last? ["H", "h"] = some "H" ||
        g.last? ["H", "h"] = none && (operands.length > 1 || g.has "r" || g.has "R")
      before := (number "B").getD ((number "C").getD 0)
      after := (number "A").getD ((number "C").getD 0)
      most := number "m" }
  let mut isFound := false
  let mut status := 1
  for path in orInput operands do
    match ← Task.readOperand path with
    | .ok text =>
      let shown := if path = "-" then (g.value? "label").getD "(standard input)" else path
      if ← r.text shown text then isFound := true
    | .error e =>
      if !g.has "s" then Task.say (path ++ ": " ++ e.reason)
      status := 2
  if isFound && (status ≠ 2 || g.has "q") then return 0
  return status

end Reporting.Shell.Utility
