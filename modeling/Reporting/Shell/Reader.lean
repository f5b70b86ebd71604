import Reporting.Shell.Syntax

/-!
The pieces of words, read from the characters of a script. Quoting takes the meaning from
characters; a backslash before the end of a line joins two lines almost everywhere.
-/

namespace Reporting.Shell

structure Fault where
  line : Nat
  reason : String
  deriving DecidableEq, Repr

structure Awaited where
  number : Nat
  ending : List Char
  dropsTabs : Bool
  isLiteral : Bool

inductive Token where
  | finish
  | newline
  | redirect (channel : Nat) (kind : Redirection)
  | promise (channel : Nat) (dropsTabs : Bool)
  | word (w : Word)
  | reserved (name : String)
  | semicolon
  | ampersand
  | both
  | either
  | bar
  | left
  | right
  | caseEnd

structure Reader where
  rest : List Char
  line : Nat := 1
  pushed : Option Token := none
  awaited : List Awaited := []
  documents : List (Nat × Word) := []
  next : Nat := 0

abbrev Reading := StateT Reader (Except Fault)

namespace Reading

def fail {α : Type} (reason : String) : Reading α := do throw ⟨(← get).line, reason⟩

def unjoined : List Char → Nat → List Char × Nat
  | '\\' :: '\n' :: cs, line => unjoined cs (line + 1)
  | cs, line => (cs, line)

def peek? : Reading (Option Char) := do
  let r ← get
  let (rest, line) := unjoined r.rest r.line
  set { r with rest := rest, line := line }
  return rest.head?

def skip : Reading Unit := modify fun r =>
  { r with
    rest := r.rest.tail
    line := if r.rest.head? == some '\n' then r.line + 1 else r.line }

def drop : Reading Unit := modify fun r => { r with rest := r.rest.tail }

def accept (c : Char) : Reading Bool := do
  if (← peek?) == some c then
    skip
    return true
  return false

def spanFrom (isWanted : Char → Bool) : List Char → Nat → List Char × List Char × Nat
  | '\\' :: '\n' :: cs, line => spanFrom isWanted cs (line + 1)
  | c :: cs, line =>
    if isWanted c then
      let (name, rest, line) := spanFrom isWanted cs line
      (c :: name, rest, line)
    else ([], c :: cs, line)
  | [], line => ([], [], line)

def span (isWanted : Char → Bool) : Reading (List Char) := do
  let r ← get
  let (found, rest, line) := spanFrom isWanted r.rest r.line
  set { r with rest := rest, line := line }
  return found

def singleQuoted : Reading Word := do
  let r ← get
  match Text.cutAt '\x27' r.rest with
  | none =>
    set { r with rest := [], line := r.line + r.rest.count '\n' }
    fail "Unterminated quoted string"
  | some (inner, rest) =>
    set { r with rest := rest, line := r.line + inner.count '\n' }
    return inner.map .quoted

end Reading

inductive Around where
  | bare
  | double
  | braces (isQuoted isInner : Bool)
  | document
  | sum (level : Nat)
  | ending
  deriving DecidableEq, Repr

namespace Around

def isQuoted : Around → Bool
  | bare => false
  | ending => false
  | braces isQuoted _ => isQuoted
  | _ => true

def piece (a : Around) (c : Char) : Piece := if a.isQuoted then .quoted c else .char c

def isBare (a : Around) : Bool := a = .bare || a = .ending

def isBraces : Around → Bool
  | braces .. => true
  | _ => false

def isEscapable (a : Around) (c : Char) : Bool :=
  !a.isQuoted || c = '\\' || c = '\x60' || c = '$' || c = '\x22' && a ≠ .document ||
    c = '\x7d' && a.isBraces

def endFault? : Around → Option String
  | bare => none
  | ending => none
  | document => none
  | double => some "Unterminated quoted string"
  | braces true _ => some "Unterminated quoted string"
  | braces false _ => some "Missing '\x7d'"
  | sum _ => some "Missing '))'"

end Around

def endsWord (c : Char) : Bool := " \t\n;&|<>()".toList.contains c

def isSpecial (c : Char) : Bool := c.isDigit || "@*#?$!-".toList.contains c

def useOf (unlessEmpty : Bool) (c : Char) : Use :=
  if c = '-' then .default unlessEmpty
  else if c = '=' then .assign unlessEmpty
  else if c = '?' then .require unlessEmpty
  else if c = '+' then .replace unlessEmpty
  else .bad

def backquoted (isQuoted : Bool) : List Char → Option (List Char × List Char)
  | [] => none
  | '\x60' :: cs => some ([], cs)
  | ['\\'] => none
  | '\\' :: c :: cs =>
    if c = '\n' then backquoted isQuoted cs
    else
      let kept := if c = '\\' || c = '\x60' || c = '$' || c = '\x22' && isQuoted then [c]
        else ['\\', c]
      (backquoted isQuoted cs).map fun p => (kept ++ p.1, p.2)
  | c :: cs => (backquoted isQuoted cs).map fun p => (c :: p.1, p.2)

namespace Reading

def inside {α : Type} (text : List Char) (line : Nat) (read : Reading α) : Reading α := do
  let r ← get
  set { r with rest := text, line := line, pushed := none, awaited := [] }
  let a ← read
  modify fun s => { r with documents := s.documents, next := s.next }
  return a

/-- The name of a parameter in braces, and whether its length is asked for; without a name, what
stands there is not understood. -/
def bracedName : Reading (Option (String × Bool)) := do
  match ← peek? with
  | none => return none
  | some c =>
    if isNameStart c then return some (.ofList (← span isNameChar), false)
    if c.isDigit then return some (.ofList (← span Char.isDigit), false)
    if c = '\x7d' then return none
    drop
    if c ≠ '#' then return if isSpecial c then some (.singleton c, false) else none
    match ← peek? with
    | none => return some ("#", false)
    | some d =>
      if isNameStart d then return some (.ofList (← span isNameChar), true)
      if d.isDigit then
        skip
        return some (.singleton d, true)
      let r ← get
      if d ≠ '\x7d' then
        skip
        if (← peek?) == some '\x7d' then
          if isSpecial d then return some (.singleton d, true)
          return none
      set r
      return some ("#", false)

def bracedUse (isLength : Bool) : Reading Use := do
  if isLength then
    return if ← accept '\x7d' then .length else .bad
  if ← accept '\x7d' then return .value
  if ← accept '#' then return .trimStart (← accept '#')
  if ← accept '%' then return .trimEnd (← accept '%')
  let unlessEmpty ← accept ':'
  match ← peek? with
  | some c =>
    drop
    return useOf unlessEmpty c
  | none => return .bad

def hasWord (u : Use) : Bool := u ≠ .value && u ≠ .length

def wordAround (a : Around) : Use → Around
  | .trimStart _ => .braces false false
  | .trimEnd _ => .braces false false
  | _ => .braces a.isQuoted false

def withQuotes : Word → Word
  -- No word is made if all in the quotes are the arguments, and they are none.
  | [.parameter "@" .value [] true] => [.parameter "@" .value [] true]
  | ps => .quotes :: ps

mutual

/--
The pieces up to the end of the word, after those that are there already, in reverse. Commands in
words are read up to their closing parenthesis, or up to the end of their text.
-/
def piecesFrom (commands : Bool → Nat → Reading (Option Command)) :
    Nat → Around → Word → Reading Word
  | 0, _, _ => fail "too long"
  | n + 1, a, acc => do
    match ← peek? with
    | none =>
      match a.endFault? with
      | some reason => fail reason
      | none => return acc.reverse
    | some c =>
      if a.isBare && endsWord c then return acc.reverse
      skip
      if c = '\\' then
        match (← get).rest with
        | [] => piecesFrom commands n a (a.piece '\\' :: acc)
        | d :: _ =>
          skip
          if a.isEscapable d then piecesFrom commands n a (.quoted d :: acc)
          else piecesFrom commands n a (.quoted d :: .quoted '\\' :: acc)
      else if c = '\x27' && !a.isQuoted then
        piecesFrom commands n a ((← singleQuoted).reverse ++ .quotes :: acc)
      else if c = '\x22' then
        match a with
        | .double => return acc.reverse
        | .braces true isInner => piecesFrom commands n (.braces true !isInner) acc
        | .document => piecesFrom commands n a (.quoted c :: acc)
        | .sum _ => piecesFrom commands n a (.quoted c :: acc)
        | _ =>
          let inner ← piecesFrom commands n .double []
          piecesFrom commands n a ((withQuotes inner).reverse ++ acc)
      else if c = '\x7d' then
        match a with
        | .braces _ false => return acc.reverse
        | _ => piecesFrom commands n a (a.piece c :: acc)
      else if c = '$' && a ≠ .ending then
        piecesFrom commands n a ((← dollar commands n a) :: acc)
      else if c = '\x60' && a ≠ .ending then
        piecesFrom commands n a ((← backquote commands n a) :: acc)
      else
        match a with
        | .sum level =>
          if c = '(' then piecesFrom commands n (.sum (level + 1)) (.quoted c :: acc)
          else if c ≠ ')' then piecesFrom commands n a (.quoted c :: acc)
          else if level = 0 then
            if ← accept ')' then return acc.reverse
            piecesFrom commands n a (.quoted c :: acc)
          else piecesFrom commands n (.sum (level - 1)) (.quoted c :: acc)
        | _ => piecesFrom commands n a (a.piece c :: acc)

def dollar (commands : Bool → Nat → Reading (Option Command)) : Nat → Around → Reading Piece
  | 0, _ => fail "too long"
  | n + 1, a => do
    match ← peek? with
    | none => return a.piece '$'
    | some c =>
      if c = '(' then
        skip
        if ← accept '(' then return .sum (← piecesFrom commands n (.sum 0) []) a.isQuoted
        return .output (← commands true n) a.isQuoted
      if c = '\x7b' then
        skip
        let (name, use) ← match ← bracedName with
          | some (name, isLength) => pure (name, ← bracedUse isLength)
          | none => pure ("", .bad)
        if hasWord use then
          let word ← piecesFrom commands n (wordAround a use) []
          return .parameter name use word a.isQuoted
        return .parameter name use [] a.isQuoted
      if isNameStart c then
        return .parameter (.ofList (← span isNameChar)) .value [] a.isQuoted
      if isSpecial c then
        skip
        return .parameter (.singleton c) .value [] a.isQuoted
      return a.piece '$'

def backquote (commands : Bool → Nat → Reading (Option Command)) : Nat → Around → Reading Piece
  | 0, _ => fail "too long"
  | n + 1, a => do
    let r ← get
    match backquoted a.isQuoted r.rest with
    | none =>
      set { r with rest := [], line := r.line + r.rest.count '\n' }
      fail "EOF in backquote substitution"
    | some (text, rest) =>
      let lines := r.rest.count '\n' - rest.count '\n'
      let command ← inside text 1 (commands false n)
      modify fun s => { s with rest := rest, line := s.line + lines }
      return .output command a.isQuoted

end

end Reading

end Reporting.Shell
