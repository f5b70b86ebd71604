import Reporting.Shell.Arithmetic
import Reporting.Shell.Editor.Basic

/-!
Reading a script of editing commands. A complaint tells how many characters had been read.
-/

namespace Reporting.Shell.Editor

/-! ## Escapes -/

def isBlank (c : Char) : Bool := isInClass "space" c

def numbered? (base most : Nat) (cs : List Char) : Option (Char × Nat) :=
  let ds := (cs.take most).takeWhile fun c => decide (Arithmetic.digitValue c < base)
  if ds.isEmpty then none
  else some (Char.ofNat (Arithmetic.numberOf base ds % 256), ds.length + 1)

def escape? : List Char → Option (Char × Nat)
  | 'a' :: _ => some ('\x07', 1)
  | 'f' :: _ => some ('\x0c', 1)
  | 'n' :: _ => some ('\n', 1)
  | 'r' :: _ => some ('\r', 1)
  | 't' :: _ => some ('\t', 1)
  | 'v' :: _ => some ('\x0b', 1)
  | 'c' :: c :: _ => some (Char.ofNat (c.toUpper.toNat.xor 64), 2)
  | 'd' :: cs => numbered? 10 3 cs
  | 'o' :: cs => numbered? 8 3 cs
  | 'x' :: cs => numbered? 16 2 cs
  | _ => none

/--
Puts the characters that escapes name. A backslash stays before those that have a meaning where the
text is used, and so do all other backslashes.
-/
def unescaped (hasMeaning : Char → Bool) : List Char → List Char
  | [] => []
  | '\\' :: cs =>
    match escape? cs with
    | some (c, n) =>
      (if hasMeaning c then ['\\', c] else [c]) ++ unescaped hasMeaning (cs.drop n)
    | none =>
      match cs with
      | [] => ['\\']
      | c :: cs => '\\' :: c :: unescaped hasMeaning cs
  | c :: cs => c :: unescaped hasMeaning cs
termination_by cs => cs.length
decreasing_by
  · simp only [List.length_drop, List.length_cons]
    omega
  · simp only [List.length_cons]
    omega
  · simp

/-! ## Parts of a script -/

def setLengthFrom : Option Char → List Char → Option Nat
  | _, [] => none
  | some mark, c :: ']' :: cs =>
    if c = mark then (setLengthFrom none cs).map (· + 2)
    else (setLengthFrom (some mark) (']' :: cs)).map (· + 1)
  | some mark, _ :: cs => (setLengthFrom (some mark) cs).map (· + 1)
  | none, ']' :: _ => some 1
  | none, '[' :: c :: cs =>
    if c = ':' || c = '.' || c = '=' then (setLengthFrom (some c) cs).map (· + 2)
    else (setLengthFrom none (c :: cs)).map (· + 1)
  | none, _ :: cs => (setLengthFrom none cs).map (· + 1)
termination_by _ cs => cs.length

def setLength? (cs : List Char) : Option Nat :=
  let start := match cs with
    | '^' :: ']' :: _ => 2
    | '^' :: _ => 1
    | ']' :: _ => 1
    | _ => 0
  (setLengthFrom none (cs.drop start)).map (· + start)

/--
Characters up to a mark, which loses its backslash, and how many there are with the mark; `inside`
counts those that still belong to a set. Without the mark, the second part counts what was passed.
-/
def delimitedFrom (mark : Char) (isRegex : Bool) :
    Nat → List Char → Except Nat (List Char × Nat)
  | _, [] => .error 0
  | inside + 1, c :: cs => (delimitedFrom mark isRegex inside cs).map (fun p => (c :: p.1, p.2 + 1))
      |>.mapError (· + 1)
  | 0, c :: cs =>
    if c = '\n' then .error 0
    else if c = mark then .ok ([], 1)
    else if c = '\\' then
      match cs with
      | [] => .error 1
      | d :: ds =>
        let kept := if d = '\n' || d = mark && (isRegex || d ≠ '&') then [d] else ['\\', d]
        (delimitedFrom mark isRegex 0 ds).map (fun p => (kept ++ p.1, p.2 + 2))
          |>.mapError (· + 2)
    else
      let inside := if isRegex && c = '[' then (setLength? cs).getD cs.length else 0
      (delimitedFrom mark isRegex inside cs).map (fun p => (c :: p.1, p.2 + 1))
        |>.mapError (· + 1)

structure Source where
  rest : List Char
  count : Nat := 0
  isExtended : Bool := false

abbrev Reading := StateT Source (Except (Nat × String))

namespace Reading

def fail {α : Type} (reason : String) : Reading α := do throw ((← get).count, reason)

def peek? : Reading (Option Char) := return (← get).rest.head?

def advance (n : Nat) : Reading Unit := modify fun s =>
  { s with rest := s.rest.drop n, count := s.count + min n s.rest.length }

def next? : Reading (Option Char) := do
  let c ← peek?
  advance 1
  return c

def span (isWanted : Char → Bool) : Reading (List Char) := do
  let found := (← get).rest.takeWhile isWanted
  advance found.length
  return found

def blanks : Reading Unit := do let _ ← span fun c => isBlank c && c ≠ '\n'

def accept (c : Char) : Reading Bool := do
  if (← peek?) = some c then
    advance 1
    return true
  return false

def delimited (mark : Char) (isRegex : Bool) (reason : String) : Reading (List Char) := do
  match delimitedFrom mark isRegex 0 (← get).rest with
  | .ok (text, n) =>
    advance n
    return text
  | .error n =>
    advance n
    fail reason

def regex (text : List Char) (w : Wanted) : Reading (Wanted × Nat) := do
  if text.isEmpty then
    if w.ignoresCase || w.isMultiline then fail "cannot specify modifiers on empty regexp"
    return (w, 0)
  match Regex.read (← get).isExtended true (unescaped (fun _ => false) text) with
  | .ok (r, groups) => return ({ w with regex := some r }, groups)
  | .error e => fail e

def number : Reading (Option Nat) := return natural? (← span Char.isDigit)

def modifiers : Nat → Wanted → Reading Wanted
  | 0, w => return w
  | n + 1, w => do
    if ← accept 'I' then modifiers n { w with ignoresCase := true }
    else if ← accept 'M' then modifiers n { w with isMultiline := true }
    else return w

def found (mark : Char) : Reading Place := do
  let text ← delimited mark true "unterminated address regex"
  let w ← modifiers (← get).rest.length { regex := none }
  return .found (← regex text w).1

def place? : Reading (Option Place) := do
  match ← peek? with
  | some '$' =>
    advance 1
    return some .last
  | some '/' =>
    advance 1
    return some (← found '/')
  | some '\\' =>
    advance 1
    match ← next? with
    | some mark => return some (← found mark)
    | none => fail "unterminated address regex"
  | _ =>
    match ← number with
    | none => return none
    | some n =>
      if ← accept '~' then return some (.steps n ((← number).getD 0))
      return some (.line n)

def rangeEnd : Reading RangeEnd := do
  if ← accept '+' then return .after ((← number).getD 0)
  if ← accept '~' then return .multiple ((← number).getD 0)
  match ← place? with
  | some p => return .place p
  | none =>
    advance 1
    fail "unexpected \x60,'"

def lastPlace : Reading (Option RangeEnd) := do
  if ← accept ',' then
    blanks
    return some (← rangeEnd)
  return none

def address : Reading Address := do
  let first ← place?
  blanks
  let last ← if first matches none then pure none else lastPlace
  blanks
  match first, last with
  | some (.line 0), some (.place (.found ..)) => pure ()
  | some (.line 0), _ =>
    advance 1
    fail "invalid usage of line address 0"
  | _, _ => pure ()
  let isDenied ← accept '!'
  blanks
  if isDenied then
    if ← accept '!' then fail "multiple \x60!'s"
  return ⟨first, last, isDenied⟩

def ending : Reading Unit := do
  blanks
  match ← peek? with
  | none => return
  | some '#' => return
  | some '\x7d' => return
  | some c =>
    advance 1
    if c ≠ ';' && c ≠ '\n' then fail "extra characters after command"

def restOfLine : Reading (List Char) := do
  let text ← span (· ≠ '\n')
  advance 1
  return text

def textFrom : List Char → List Char × Nat
  | [] => ([], 0)
  | '\\' :: cs =>
    match escape? cs with
    | some (c, n) =>
      let (text, k) := textFrom (cs.drop n)
      (c :: text, n + 1 + k)
    | none =>
      match cs with
      | [] => ([], 1)
      | c :: cs =>
        let (text, k) := textFrom cs
        (c :: text, k + 2)
  | '\n' :: _ => ([], 1)
  | c :: cs =>
    let (text, k) := textFrom cs
    (c :: text, k + 1)
termination_by cs => cs.length
decreasing_by
  · simp only [List.length_drop, List.length_cons]
    omega
  · simp only [List.length_cons]
    omega
  · simp

def text : Reading (List Char) := do
  blanks
  if (← peek?).isNone then fail "expected \\ after \x60a', \x60c' or \x60i'"
  if ← accept '\\' then
    let rest := (← get).rest
    if rest.isEmpty then return []
    let gap := rest.takeWhile fun c => isBlank c && c ≠ '\n'
    if rest[gap.length]? = some '\n' then advance (gap.length + 1)
  let (text, n) := textFrom (← get).rest
  advance n
  return text ++ ['\n']

def label : Reading String := do
  blanks
  return .ofList (← span fun c => c ≠ ';' && c ≠ '\x7d' && !isBlank c)

def file : Reading String := do
  blanks
  let name ← span (· ≠ '\n')
  if name.isEmpty then fail "missing filename in r/R/w/W commands"
  advance 1
  return .ofList name

def replacementFrom : List Char → List Replacement
  | '\\' :: c :: cs =>
    (if c.isDigit then .group (c.toNat - 48)
      else if "ULulE".toList.contains c then .casing c
      else .char c) :: replacementFrom cs
  | '&' :: cs => .group 0 :: replacementFrom cs
  | c :: cs => .char c :: replacementFrom cs
  | [] => []

def flags : Nat → Substitution → Reading Substitution
  | 0, s => return s
  | n + 1, s => do
    match ← peek? with
    | none => return s
    | some c =>
      if c.isDigit then
        let k ← number
        if k = some 0 then fail "number option to \x60s' command may not be zero"
        if s.number.isSome then fail "multiple number options to \x60s' command"
        flags n { s with number := k }
      else if c = ';' || c = '\n' || c = '#' || c = '\x7d' then
        ending
        return s
      else
        advance 1
        match c with
        | 'g' =>
          if s.isGlobal then fail "multiple \x60g' options to \x60s' command"
          flags n { s with isGlobal := true }
        | 'p' =>
          if s.isPrinted then fail "multiple \x60p' options to \x60s' command"
          flags n { s with isPrinted := true }
        | 'w' => return { s with file := some (← file) }
        | c =>
          if c = 'i' || c = 'I' then flags n { s with wanted.ignoresCase := true }
          else if c = 'm' || c = 'M' then flags n { s with wanted.isMultiline := true }
          else if isBlank c then flags n s
          else fail "unknown option to \x60s'"

def substitution : Reading Action := do
  let reason := "unterminated \x60s' command"
  match ← next? with
  | none => fail reason
  | some mark =>
    let pattern ← delimited mark true reason
    let replacement ← delimited mark false reason
    let parts := replacementFrom (unescaped (fun c => c = '&' || c = '\\') replacement)
    let s ← flags (← get).rest.length.succ { wanted := { regex := none }, parts := parts }
    let (w, groups) ← regex pattern s.wanted
    for part in parts do
      if let .group n := part then
        if groups < n && !pattern.isEmpty then
          fail ("invalid reference \\" ++ Text.ofNat n ++ " on \x60s' command's RHS")
    return .substitute { s with wanted := w }

def unpaired : List Char → List Char
  | '\\' :: '\\' :: cs => '\\' :: unpaired cs
  | c :: cs => c :: unpaired cs
  | [] => []

def characterMap : Reading Action := do
  let reason := "unterminated \x60y' command"
  match ← next? with
  | none => fail reason
  | some mark =>
    let side : Reading (List Char) := do
      return unpaired (unescaped (· = '\\') (← delimited mark false reason))
    let source ← side
    let target ← side
    if source.length ≠ target.length then
      fail "strings for \x60y' command are different lengths"
    ending
    return .mapChars (source.zip target)

def simple (a : Action) : Reading Action := do
  ending
  return a

def counted (make : Option Nat → Action) : Reading Action := do
  blanks
  let n ← number
  ending
  return make n

def action (a : Address) : Reading Action := do
  let isAddressed := a.first matches some _
  match ← next? with
  | none => fail "missing command"
  | some c =>
    match c with
    | '\x7b' => return .begin
    | '\x7d' => simple .finish
    | '#' => fail "comments don't accept any addresses"
    | ':' =>
      if isAddressed then fail ": doesn't want any addresses"
      let name ← label
      if name.isEmpty then fail "\x22:\x22 lacks a label"
      return .label name
    | '=' => simple .number
    | 'a' => return .append (← text)
    | 'i' => return .insert (← text)
    | 'c' => return .change (← text)
    | 'b' => return .branch (← label)
    | 't' => return .test (← label)
    | 'T' => return .testNot (← label)
    | 'd' => simple .delete
    | 'D' => simple .deleteFirst
    | 'g' => simple .take
    | 'G' => simple .takeMore
    | 'h' => simple .keep
    | 'H' => simple .keepMore
    | 'x' => simple .exchange
    | 'l' => counted .list
    | 'n' => simple .next
    | 'N' => simple .nextMore
    | 'p' => simple .print
    | 'P' => simple .printFirst
    | 'q' =>
      if a.last matches some _ then fail "command only uses one address"
      counted fun n => .quit (n.getD 0) false
    | 'Q' =>
      if a.last matches some _ then fail "command only uses one address"
      counted fun n => .quit (n.getD 0) true
    | 'r' => return .read (← file)
    | 'R' => return .readLine (← file)
    | 'w' => return .write (← file)
    | 'W' => return .writeFirst (← file)
    | 's' => substitution
    | 'v' =>
      let _ ← span fun c => c.isDigit || c = '.'
      simple .nothing
    | 'y' => characterMap
    | 'z' => simple .clear
    | 'F' => simple .name
    | c => fail ("unknown command: \x60" ++ .singleton c ++ "'")

def commands : Nat → Nat → Reading (List Command)
  | 0, _ => return []
  | n + 1, depth => do
    let _ ← span fun c => isBlank c || c = ';'
    match ← peek? with
    | none =>
      if depth > 0 then throw (0, "unmatched \x60\x7b'")
      return []
    | some '#' =>
      let _ ← restOfLine
      commands n depth
    | some _ =>
      let a ← address
      if (← peek?) = some '\x7d' && (depth = 0 || (a.first matches some _)) then
        advance 1
        fail (if depth = 0 then "unexpected \x60\x7d'" else "\x7d doesn't want any addresses")
      let x ← action a
      let depth := match x with
        | .begin => depth + 1
        | .finish => depth - 1
        | _ => depth
      return ⟨a, x⟩ :: (← commands n depth)

end Reading

def read (isExtended : Bool) (script : List Char) : Except (Nat × String) (List Command) := do
  let (cs, _) ← (Reading.commands (script.length + 1) 0).run
    { rest := script, isExtended := isExtended }
  return cs

end Reporting.Shell.Editor
