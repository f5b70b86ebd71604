import Reporting.Shell.Reader

/-!
The commands of a script, read line by line: what stands on earlier lines is run before a fault in a
later one is found.
-/

namespace Reporting.Shell

namespace Token

def reservedNames : List String :=
  ["!", "case", "do", "done", "elif", "else", "esac", "fi", "for", "if", "in", "then", "until",
    "while", "\x7b", "\x7d"]

def text : Token → String
  | finish => "end of file"
  | newline => "newline"
  | redirect .. => "redirection"
  | promise .. => "redirection"
  | word _ => "word"
  | reserved name => "\"" ++ name ++ "\""
  | semicolon => "\";\""
  | ampersand => "\"&\""
  | both => "\"&&\""
  | either => "\"||\""
  | bar => "\"|\""
  | left => "\"(\""
  | right => "\")\""
  | caseEnd => "\";;\""

def isReserved (name : String) : Token → Bool
  | reserved r => r = name
  | _ => false

def isSemicolon : Token → Bool
  | semicolon => true
  | _ => false

def isRight : Token → Bool
  | right => true
  | _ => false

def endsList : Token → Bool
  | finish => true
  | right => true
  | caseEnd => true
  | reserved name => ["!", "case", "for", "if", "in", "until", "while", "\x7b"].all (· ≠ name)
  | _ => false

def asReserved : Token → Token
  | word w =>
    match literal? w with
    | some cs =>
      if reservedNames.contains (.ofList cs) then reserved (.ofList cs) else word w
    | none => word w
  | t => t

def beginsSimple : Token → Bool
  | word _ => true
  | redirect .. => true
  | promise .. => true
  | _ => false

def word? : Token → Option Word
  | word w => some w
  | reserved name => some (name.toList.map .char)
  | _ => none

end Token

structure Simple where
  line : Nat
  assignments : List Word := []
  words : List Word := []
  redirects : List (Redirect Piece) := []

namespace Simple

def command (s : Simple) : Command := .simple s.line s.assignments s.words s.redirects

def soleWord? (s : Simple) : Option Word :=
  match s.words, s.assignments, s.redirects with
  | [w], [], [] => some w
  | _, _, _ => none

def addWord (s : Simple) (w : Word) : Simple :=
  if s.words.isEmpty && (assignment? w).isSome then
    { s with assignments := s.assignments ++ [w] }
  else { s with words := s.words ++ [w] }

end Simple

def specialNames : List String :=
  [".", ":", "break", "continue", "eval", "exec", "exit", "export", "local", "readonly", "return",
    "set", "shift", "times", "trap", "unset"]

def canBeFunction (name : List Char) : Bool :=
  isName name && !specialNames.contains (.ofList name)

inductive Extent where
  | line
  | body
  | block
  deriving DecidableEq, Repr

namespace Reading

def unexpected {α : Type} (t : Token) : Reading α := fail (t.text ++ " unexpected")

def expecting {α : Type} (t : Token) (wanted : String) : Reading α :=
  fail (t.text ++ " unexpected (expecting " ++ wanted ++ ")")

def channel? : Word → Option Nat
  | [.char c] => if c.isDigit then some (c.toNat - 48) else none
  | _ => none

def redirection (channel : Option Nat) : Reading Token := do
  if ← accept '>' then
    let n := channel.getD 1
    if ← accept '>' then return .redirect n .append
    if ← accept '|' then return .redirect n .overwrite
    if ← accept '&' then return .redirect n .duplicate
    return .redirect n .output
  skip
  let n := channel.getD 0
  if ← accept '<' then return .promise n (← accept '-')
  if ← accept '&' then return .redirect n .duplicate
  if ← accept '>' then return .redirect n .update
  return .redirect n .input

def comment : Reading Unit := modify fun r => { r with rest := r.rest.dropWhile (· ≠ '\n') }

def blanks : Nat → Reading Unit
  | 0 => fail "too long"
  | n + 1 => do
    match ← peek? with
    | some ' ' =>
      skip
      blanks n
    | some '\t' =>
      skip
      blanks n
    | some '#' =>
      comment
      blanks n
    | _ => return

def isRedirecting (c : Option Char) : Bool := c == some '<' || c == some '>'

section Commands

variable (commands : Bool → Nat → Reading (Option Command))

def wordToken (n : Nat) (a : Around) : Reading Token := do
  let w ← piecesFrom commands n a []
  if isRedirecting (← peek?) && (w.isEmpty || (channel? w).isSome) then redirection (channel? w)
  else return .word w

def freshToken (n : Nat) (a : Around) : Reading Token := do
  blanks n
  match ← peek? with
  | none => return .finish
  | some '\n' =>
    skip
    return .newline
  | some '&' =>
    skip
    return if ← accept '&' then .both else .ampersand
  | some '|' =>
    skip
    return if ← accept '|' then .either else .bar
  | some ';' =>
    skip
    return if ← accept ';' then .caseEnd else .semicolon
  | some '(' =>
    skip
    return .left
  | some ')' =>
    skip
    return .right
  | some _ => wordToken commands n a

def plainToken (n : Nat) (a : Around) : Reading Token := do
  match (← get).pushed with
  | some t =>
    modify fun r => { r with pushed := none }
    return t
  | none => freshToken commands n a

def documentLines (d : Awaited) : List (List Char) → List (List Char) × List (List Char)
  | [] => ([], [])
  | [last] =>
    let last := if d.dropsTabs then last.dropWhile (· = '\t') else last
    if last = d.ending then ([[]], []) else ([last], [])
  | l :: ls =>
    let l := if d.dropsTabs then l.dropWhile (· = '\t') else l
    if l = d.ending then ([[]], ls)
    else
      let (body, rest) := documentLines d ls
      (l :: body, rest)

def readDocuments (n : Nat) : List Awaited → Reading Unit
  | [] => modify fun r => { r with awaited := [] }
  | d :: ds => do
    let r ← get
    let (body, rest) := documentLines d (Text.splitOn '\n' r.rest)
    let body := ['\n'].intercalate body
    let w ← if d.isLiteral then pure (body.map .quoted)
      else inside body r.line (piecesFrom commands n .document [])
    modify fun s =>
      let rest := ['\n'].intercalate rest
      { s with
        rest := rest
        line := s.line + (r.rest.count '\n' - rest.count '\n')
        documents := s.documents ++ [(d.number, w)] }
    readDocuments n ds

def allDocuments (n : Nat) : Reading Unit := do readDocuments commands n (← get).awaited

def tokenBehindNewlines : Nat → Reading Token
  | 0 => fail "too long"
  | n + 1 => do
    match ← plainToken commands n .bare with
    | .newline =>
      allDocuments commands n
      tokenBehindNewlines n
    | t => return t

def leadingToken (n : Nat) (skipsNewlines : Bool) : Reading Token := do
  return (← if skipsNewlines then tokenBehindNewlines commands n
    else plainToken commands n .bare).asReserved

def pushBack (t : Token) : Reading Unit := modify fun r => { r with pushed := some t }

def redirect (n channel : Nat) (kind : Redirection) : Reading (Redirect Piece) := do
  match ← plainToken commands n .bare with
  | .word w => return ⟨channel, kind, w⟩
  | t => unexpected t

def promised (n channel : Nat) (dropsTabs : Bool) : Reading (Redirect Piece) := do
  match ← plainToken commands n .ending with
  | .word w =>
    let number := (← get).next
    let d : Awaited := ⟨number, charsOf w, dropsTabs, (literal? w).isNone⟩
    modify fun r => { r with next := number + 1, awaited := r.awaited ++ [d] }
    return ⟨channel, .document number, []⟩
  | t => unexpected t

def redirects : Nat → Reading (List (Redirect Piece))
  | 0 => fail "too long"
  | n + 1 => do
    match ← leadingToken commands n false with
    | .redirect channel kind =>
      let r ← redirect commands n channel kind
      return r :: (← redirects n)
    | .promise channel dropsTabs =>
      let r ← promised commands n channel dropsTabs
      return r :: (← redirects n)
    | t =>
      pushBack t
      return []

def closing (n : Nat) (name : String) : Reading Unit := do
  let t ← plainToken commands n .bare
  if !t.isReserved name then expecting t ("\"" ++ name ++ "\"")

def withRedirects (n line : Nat) (c : Command) : Reading Command := do
  let rs ← redirects commands n
  return if rs.isEmpty then c else .redirected line c rs

def variableName (n : Nat) : Reading String := do
  match (← plainToken commands n .bare).word?.bind literal? with
  | some cs => if isName cs then return .ofList cs else fail "Bad for loop variable"
  | none => fail "Bad for loop variable"

def wordsToStop : Nat → Reading (List Word)
  | 0 => fail "too long"
  | n + 1 => do
    match ← plainToken commands n .bare with
    | .word w => return w :: (← wordsToStop n)
    | .newline =>
      pushBack .newline
      return []
    | .semicolon => return []
    | t => unexpected t

def patternsFrom : Nat → Token → Reading (List Word)
  | 0, _ => fail "too long"
  | n + 1, t => do
    let w := t.word?.getD []
    match ← plainToken commands n .bare with
    | .bar =>
      let t ← plainToken commands n .bare
      return w :: (← patternsFrom n t)
    | .right => return [w]
    | t => expecting t "\")\""

mutual

def list : Nat → Extent → Option Command → Reading (Option Command)
  | 0, _, _ => fail "too long"
  | n + 1, extent, before => do
    let t ← leadingToken commands n (extent ≠ .line)
    match t with
    | .newline =>
      allDocuments commands n
      return before
    | .finish =>
      allDocuments commands n
      pushBack t
      return before
    | _ =>
      pushBack t
      if t.endsList && (extent = .block || extent = .body && before.isSome) then return before
      let c ← andOr n
      let t ← plainToken commands n .bare
      let c := match t with
        | .ampersand => Command.background c
        | _ => c
      let all := some <| match before with
        | some b => Command.joined .always b c
        | none => c
      match t with
      | .ampersand => list n extent all
      | .semicolon => list n extent all
      | .newline =>
        pushBack t
        list n extent all
      | .finish =>
        allDocuments commands n
        pushBack t
        return all
      | _ =>
        if extent = .line then unexpected t
        pushBack t
        return all

def andOr : Nat → Reading Command
  | 0 => fail "too long"
  | n + 1 => do
    let c ← pipeline n
    andOrFrom n c

def andOrFrom : Nat → Command → Reading Command
  | 0, _ => fail "too long"
  | n + 1, c => do
    match ← plainToken commands n .bare with
    | .both =>
      let next ← pipeline n
      andOrFrom n (.joined .onSuccess c next)
    | .either =>
      let next ← pipeline n
      andOrFrom n (.joined .onFailure c next)
    | t =>
      pushBack t
      return c

def pipeline : Nat → Reading Command
  | 0 => fail "too long"
  | n + 1 => do
    let t ← leadingToken commands n true
    let isNegated := t.isReserved "!"
    if !isNegated then pushBack t
    let c ← command n false
    let cs ← pipedFrom n
    let c := if cs.isEmpty then c else .piped (c :: cs)
    return if isNegated then .negated c else c

def pipedFrom : Nat → Reading (List Command)
  | 0 => fail "too long"
  | n + 1 => do
    match ← plainToken commands n .bare with
    | .bar =>
      let c ← command n true
      return c :: (← pipedFrom n)
    | t =>
      pushBack t
      return []

def command : Nat → Bool → Reading Command
  | 0, _ => fail "too long"
  | n + 1, skipsNewlines => do
    let t ← leadingToken commands n skipsNewlines
    let line := (← get).line
    match t with
    | .left =>
      let c ← body n
      let t ← plainToken commands n .bare
      if !t.isRight then expecting t "\")\""
      withRedirects commands n line (.subshell line c)
    | .reserved "\x7b" =>
      let c ← body n
      closing commands n "\x7d"
      withRedirects commands n line c
    | .reserved "if" =>
      let c ← branch n
      closing commands n "fi"
      withRedirects commands n line c
    | .reserved "while" => loop n line false
    | .reserved "until" => loop n line true
    | .reserved "for" => each n line
    | .reserved "case" => choice n line
    | t =>
      if t.beginsSimple then
        pushBack t
        simple n { line := line }
      else unexpected t

def body : Nat → Reading Command
  | 0 => fail "too long"
  | n + 1 => return (← list n .body none).getD default

def branch : Nat → Reading Command
  | 0 => fail "too long"
  | n + 1 => do
    let test ← body n
    closing commands n "then"
    let yes ← body n
    match ← plainToken commands n .bare with
    | .reserved "elif" => return .branch test yes (some (← branch n))
    | .reserved "else" => return .branch test yes (some (← body n))
    | t =>
      pushBack t
      return .branch test yes none

def loop : Nat → Nat → Bool → Reading Command
  | 0, _, _ => fail "too long"
  | n + 1, line, isUntil => do
    let test ← body n
    closing commands n "do"
    let c ← body n
    closing commands n "done"
    withRedirects commands n line (.loop isUntil test c)

def each : Nat → Nat → Reading Command
  | 0, _ => fail "too long"
  | n + 1, line => do
    let name ← variableName commands n
    let t ← leadingToken commands n true
    let words ← if t.isReserved "in" then wordsToStop commands n
      else do
        if !t.isSemicolon then pushBack t
        pure [[.parameter "@" .value [] true]]
    let t ← leadingToken commands n true
    if !t.isReserved "do" then expecting t "\"do\""
    let c ← body n
    closing commands n "done"
    withRedirects commands n line (.each line name words c)

def choice : Nat → Nat → Reading Command
  | 0, _ => fail "too long"
  | n + 1, line => do
    match ← plainToken commands n .bare with
    | .word w =>
      let t ← leadingToken commands n true
      if !t.isReserved "in" then expecting t "\"in\""
      let cases ← casesFrom n
      withRedirects commands n line (.choice line w cases)
    | t => expecting t "word"

def casesFrom : Nat → Reading (List (List Word × Option Command))
  | 0 => fail "too long"
  | n + 1 => do
    let t ← leadingToken commands n true
    if t.isReserved "esac" then return []
    let t ← match t with
      | .left => plainToken commands n .bare
      | t => pure t
    let patterns ← patternsFrom commands n t
    let c ← list n .block none
    match ← leadingToken commands n true with
    | .caseEnd => return (patterns, c) :: (← casesFrom n)
    | t =>
      if t.isReserved "esac" then return [(patterns, c)]
      expecting t "\";;\""

/-- Words, assignments before them and redirections among them; or a function, once its name is
followed by parentheses. -/
def simple : Nat → Simple → Reading Command
  | 0, _ => fail "too long"
  | n + 1, s => do
    match ← plainToken commands n .bare with
    | .word w => simple n (s.addWord w)
    | .redirect channel kind =>
      let r ← redirect commands n channel kind
      simple n { s with redirects := s.redirects ++ [r] }
    | .promise channel dropsTabs =>
      let r ← promised commands n channel dropsTabs
      simple n { s with redirects := s.redirects ++ [r] }
    | .left =>
      match s.soleWord? with
      | none =>
        pushBack .left
        return s.command
      | some w =>
        let t ← plainToken commands n .bare
        if !t.isRight then expecting t "\")\""
        match (literal? w).filter canBeFunction with
        | none => fail "Bad function name"
        | some cs =>
          let line := (← get).line
          return .function line (.ofList cs) (← command n true)
    | t =>
      pushBack t
      return s.command

end

end Commands

/-- Commands in words, which can have words with commands in them in turn; they are read up to
their parenthesis or to the end. -/
def inWord : Nat → Bool → Nat → Reading (Option Command)
  | 0, _, _ => fail "too deep"
  | depth + 1, isParenthesized, n => do
    let outer ← get
    set { outer with pushed := none, awaited := [] }
    let c ← list (inWord depth) n .block none
    if isParenthesized then
      let t ← plainToken (inWord depth) n .bare
      if !t.isRight then expecting t "\")\""
    modify fun r => { r with pushed := outer.pushed, awaited := outer.awaited }
    return c

end Reading

def Reader.document (text : List Char) : Except Fault Word :=
  let size := 4 * text.length + 16
  (Reading.piecesFrom (Reading.inWord size) size .document []).run' { rest := text }

def Reader.nextLine (r : Reader) : Except Fault ((Option Command × Bool) × Reader) :=
  let read : Reading (Option Command × Bool) := do
    let size := 4 * r.rest.length + 16
    let c ← Reading.list (Reading.inWord size) size .line none
    match (← get).pushed with
    | some .finish => return (c, true)
    | _ => return (c, false)
  read.run { r with pushed := none }

end Reporting.Shell
