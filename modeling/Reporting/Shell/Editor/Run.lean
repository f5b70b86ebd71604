import Reporting.Shell.Editor.Basic

/-!
Running a script of editing commands over the lines of a text. A line is held in a space of its own
while the commands go over it; a second space keeps text between lines. The last line of a text may
have no newline; where such a line is written, the newline is owed until more is written.
-/

namespace Reporting.Shell.Editor

structure Space where
  text : List Char := []
  isEnded : Bool := true

structure Setting where
  isQuiet : Bool
  mark : Char := '\n'
  width : Nat := 70
  contents : String → Option (List Char)

def standardOutput : String := "/dev/stdout"

structure State where
  space : Space := {}
  kept : Space := {}
  lines : List (String × Space) := []
  name : String := "-"
  number : Nat := 0
  printed : List Char := []
  files : List (String × List Char) := []
  owing : List (Option String) := []
  pending : List (List Char) := []
  taken : List (String × Nat) := []
  wasReplaced : Bool := false
  lastWanted : Option Wanted := none
  isLost : Bool := false
  /-- For commands by their places, the line up to which their range goes; none ends by itself. -/
  ranges : List (Nat × Option Nat) := []

inductive Step where
  | on
  | jump (label : String)
  | done
  | dropped
  | again
  | quit (status : Nat) (isSilent : Bool)

abbrev Run := StateM State

variable (k : Setting)

def isLast (s : State) : Bool := s.lines.isEmpty

def put (file? : Option String) (cs : List Char) : Run Unit := modify fun s =>
  match file? with
  | none => { s with printed := s.printed ++ cs }
  | some path =>
    if path = standardOutput then { s with printed := s.printed ++ cs }
    else
      let text := (s.files.lookup path).getD []
      { s with files := s.files.map fun f => if f.1 = path then (path, text ++ cs) else f }

def settle (file? : Option String) : Run Unit := do
  if (← get).owing.contains file? then
    put file? [k.mark]
    modify fun s => { s with owing := s.owing.filter (· ≠ file?) }

def emit (cs : List Char) : Run Unit := do
  settle k none
  put none cs

def writeLine (file? : Option String) (x : Space) : Run Unit := do
  settle k file?
  put file? x.text
  if x.isEnded then put file? [k.mark]
  else modify fun s => { s with owing := file? :: s.owing }

def emitSpace : Run Unit := do writeLine k none (← get).space

def firstLine (s : State) : Space :=
  match Text.cutAt k.mark s.space.text with
  | some (text, _) => ⟨text, true⟩
  | none => s.space

def wanted? (w : Wanted) : Run (Option (Regex × Regex.Subject)) := do
  if w.regex.isSome then modify fun s => { s with lastWanted := some w }
  let s ← get
  match s.lastWanted with
  | some ⟨some r, ignoresCase, isMultiline⟩ =>
    return some (r, ⟨s.space.text.toArray, ignoresCase, isMultiline⟩)
  | _ =>
    set { s with isLost := true }
    return none

def isAt (p : Place) : Run Bool := do
  let s ← get
  match p with
  | .line n => return s.number = n
  | .last => return isLast s
  | .steps first step =>
    return if step = 0 then s.number = first
      else first ≤ s.number && (s.number - first) % step = 0
  | .found w =>
    match ← wanted? w with
    | some (r, x) => return (r.find x 0).isSome
    | none => return false

def openRange (i : Nat) (last : Option Nat) : Run Unit :=
  modify fun s => { s with ranges := (i, last) :: s.ranges.filter (·.1 ≠ i) }

def closeRange (i : Nat) : Run Unit :=
  modify fun s => { s with ranges := s.ranges.filter (·.1 ≠ i) }

def isInRange (i : Nat) (first : Place) (last : RangeEnd) : Run Bool := do
  let s ← get
  let begins ← match s.ranges.lookup i, first with
    | some _, _ => pure false
    | none, .line 0 => pure (s.number = 1)
    | none, first => isAt first
  match s.ranges.lookup i with
  | some (some n) =>
    if n ≤ s.number then closeRange i
    return s.number ≤ n || begins
  | some none =>
    match last with
    | .place p => if ← isAt p then closeRange i
    | _ => pure ()
    return true
  | none =>
    if !begins then return false
    match last with
    | .after n => if n > 0 then openRange i (some (s.number + n))
    | .multiple n =>
      if n > 0 then openRange i (some ((s.number / n + 1) * n))
    | .place (.line n) => if s.number < n then openRange i (some n)
    | .place .last => if !isLast s then openRange i none
    | .place p =>
      if first matches .line 0 then
        if !(← isAt p) then openRange i none
      else openRange i none
    return true

def applies (i : Nat) (a : Address) : Run Bool := do
  let isThere ← match a.first, a.last with
    | none, _ => pure true
    | some p, none => isAt p
    | some p, some e => isInRange i p e
  return isThere != a.isDenied

/-! ## Replacing -/

def recased (whole once : Option Char) : List Char → List Char × Option Char
  | [] => ([], once)
  | c :: cs =>
    let d := match once with
      | some 'u' => c.toUpper
      | some 'l' => c.toLower
      | _ =>
        match whole with
        | some 'U' => c.toUpper
        | some 'L' => c.toLower
        | _ => c
    (d :: (recased whole none cs).1, none)

def replaced (x : Regex.Subject) (f : Regex.Found) :
    Option Char → Option Char → List Replacement → List Char
  | _, _, [] => []
  | whole, once, p :: ps =>
    match p with
    | .casing 'E' => replaced x f none none ps
    | .casing c =>
      if c = 'U' || c = 'L' then replaced x f (some c) once ps else replaced x f whole (some c) ps
    | .char c =>
      let (cs, once) := recased whole once [c]
      cs ++ replaced x f whole once ps
    | .group n =>
      let (cs, once) := recased whole once (f.group x n)
      cs ++ replaced x f whole once ps

def substituted (s : Substitution) (r : Regex) (x : Regex.Subject) :
    Nat → Nat → Nat → Option Nat → List Char × Bool
  | 0, i, _, _ => (x.text.toList.drop i, false)
  | n + 1, i, count, lastEnd =>
    match r.find x i with
    | none => (x.text.toList.drop i, false)
    | some f =>
      let before := (x.text.toList.take f.first).drop i
      let isEmpty := f.first = f.last
      let one := (x.text.toList.drop f.last).take 1
      if isEmpty && lastEnd = some f.first then
        if x.text.size ≤ f.first then (before, false)
        else
          let (rest, b) := substituted s r x n (f.last + 1) count none
          (before ++ one ++ rest, b)
      else
        let count := count + 1
        let number := s.number.getD 1
        let isWanted := number ≤ count && (s.isGlobal || number = count)
        let new := if isWanted then replaced x f none none s.parts else f.group x 0
        if isWanted && !s.isGlobal then (before ++ new ++ x.text.toList.drop f.last, true)
        else if isEmpty then
          if x.text.size ≤ f.first then (before ++ new, isWanted)
          else
            let (rest, b) := substituted s r x n (f.last + 1) count none
            (before ++ new ++ one ++ rest, isWanted || b)
        else
          let (rest, b) := substituted s r x n f.last count (some f.last)
          (before ++ new ++ rest, isWanted || b)

/-! ## Showing -/

def shownChar (c : Char) : List Char :=
  if c = '\\' then ['\\', '\\'] else (escapeOf? c).getD [c]

def wrapped (most : Nat) : Nat → List (List Char) → List Char
  | _, [] => ['$']
  | used, x :: xs =>
    if 0 < most && most - 1 < used + x.length then
      ['\\', '\n'] ++ x ++ wrapped most x.length xs
    else x ++ wrapped most (used + x.length) xs

/-! ## Commands -/

def flushPending : Run Unit := do
  for text in (← get).pending do
    emit k text
  modify fun s => { s with pending := [] }

def advance : Run Unit := do
  flushPending k
  modify fun s =>
    match s.lines with
    | [] => s
    | (name, x) :: ls =>
      { s with
        space := x, name := name, lines := ls, number := s.number + 1, wasReplaced := false }

def Space.join (mark : Char) (x y : Space) : Space := ⟨x.text ++ mark :: y.text, y.isEnded⟩

def act (isRangeDone : Bool) : Action → Run Step
  | .begin => return .on
  | .finish => return .on
  | .label _ => return .on
  | .nothing => return .on
  | .number => do
    emit k ((Text.ofNat (← get).number).toList ++ [k.mark])
    return .on
  | .append text => do
    modify fun s => { s with pending := s.pending ++ [text] }
    return .on
  | .insert text => do
    emit k text
    return .on
  | .change text => do
    if isRangeDone then emit k text
    return .dropped
  | .branch name => return .jump name
  | .test name => do
    let s ← get
    set { s with wasReplaced := false }
    return if s.wasReplaced then .jump name else .on
  | .testNot name => do
    let s ← get
    set { s with wasReplaced := false }
    return if s.wasReplaced then .on else .jump name
  | .delete => return .dropped
  | .deleteFirst => do
    match Text.cutAt k.mark (← get).space.text with
    | none => return .dropped
    | some (_, rest) =>
      modify fun s => { s with space.text := rest }
      return .again
  | .take => do
    modify fun s => { s with space := s.kept }
    return .on
  | .takeMore => do
    modify fun s => { s with space := s.space.join k.mark s.kept }
    return .on
  | .keep => do
    modify fun s => { s with kept := s.space }
    return .on
  | .keepMore => do
    modify fun s => { s with kept := s.kept.join k.mark s.space }
    return .on
  | .exchange => do
    modify fun s => { s with space := s.kept, kept := s.space }
    return .on
  | .list width => do
    emit k (wrapped (width.getD k.width) 0 ((← get).space.text.map shownChar) ++ [k.mark])
    return .on
  | .next => do
    if isLast (← get) then return .done
    if !k.isQuiet then emitSpace k
    advance k
    return .on
  | .nextMore => do
    if isLast (← get) then return .done
    let before := (← get).space
    advance k
    modify fun s => { s with space := before.join k.mark s.space }
    return .on
  | .print => do
    emitSpace k
    return .on
  | .printFirst => do
    writeLine k none (firstLine k (← get))
    return .on
  | .quit status isSilent => return .quit status isSilent
  | .read path => do
    modify fun s => { s with pending := s.pending ++ [(k.contents path).getD []] }
    return .on
  | .readLine path => do
    let n := ((← get).taken.lookup path).getD 0
    match (plainLines ((k.contents path).getD []))[n]? with
    | none => return .on
    | some line =>
      modify fun s =>
        { s with pending := s.pending ++ [line ++ ['\n']], taken := (path, n + 1) :: s.taken }
      return .on
  | .write path => do
    writeLine k (some path) (← get).space
    return .on
  | .writeFirst path => do
    writeLine k (some path) (firstLine k (← get))
    return .on
  | .substitute s => do
    match ← wanted? s.wanted with
    | some (r, x) =>
      let (text, isChanged) := substituted s r x (2 * x.text.size + 2) 0 0 none
      if isChanged then
        modify fun s => { s with space.text := text, wasReplaced := true }
        if s.isPrinted then emitSpace k
        if let some path := s.file then writeLine k (some path) (← get).space
      return .on
    | none => return .quit 1 true
  | .mapChars pairs => do
    modify fun s => { s with space.text := s.space.text.map fun c => (pairs.lookup c).getD c }
    return .on
  | .clear => do
    modify fun s => { s with space.text := [] }
    return .on
  | .name => do
    emit k ((← get).name.toList ++ [k.mark])
    return .on

def runFrom (cs : List Command) : Nat → Nat → Run Step
  | 0, _ => return .quit 1 true
  | n + 1, i => do
    match cs[i]? with
    | none => return .done
    | some c =>
      let isWanted ← applies i c.address
      if (← get).isLost then return .quit 1 true
      if !isWanted then
        match c.action with
        | .begin => runFrom cs n (blockEnd 0 (cs.drop (i + 1)) (i + 1))
        | _ => runFrom cs n (i + 1)
      else
        let isRangeDone := c.address.last matches none || c.address.isDenied ||
          ((← get).ranges.lookup i).isNone
        match ← act k isRangeDone c.action with
        | .on => runFrom cs n (i + 1)
        | .jump name => runFrom cs n (labelPlace cs name)
        | step => return step

def stepLimit : Nat := 100000

/-- Runs the script on line after line. The result is the status if the script has ended itself. -/
def runLines (cs : List Command) : Nat → Bool → Run (Option Nat)
  | 0, _ => return some 1
  | n + 1, isAgain => do
    if !isAgain then
      if (← get).lines.isEmpty then return none
      advance k
    match ← runFrom k cs stepLimit 0 with
    | .quit status isSilent =>
      if !isSilent then
        if !k.isQuiet then emitSpace k
        settle k none
        flushPending k
      return some status
    | .dropped =>
      flushPending k
      runLines cs n false
    | .again =>
      flushPending k
      runLines cs n true
    | _ =>
      if !k.isQuiet then emitSpace k
      flushPending k
      runLines cs n false

def runOver (cs : List Command) (lines : List (String × Space)) : Run (Option Nat) := do
  modify fun s => { s with lines := lines, number := 0, ranges := [], kept := {} }
  runLines k cs (100 * (lines.length + 1) + 1000) false

end Reporting.Shell.Editor
