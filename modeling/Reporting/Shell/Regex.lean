import Reporting.Shell.Pattern
import Reporting.Shell.Utility.Numbers

/-!
Regular expressions, plain and extended, as line editors and searchers use them. Of all matches that
begin first, the longest counts.
-/

namespace Reporting.Shell

inductive Regex where
  | empty
  | char (c : Char)
  | any
  | oneOf (isNegated : Bool) (members : List Member)
  | start
  | finish
  | textStart
  | textEnd
  | wordStart
  | wordEnd
  | edge (isThere : Bool)
  | group (number : Nat) (r : Regex)
  | both (a b : Regex)
  | either (a b : Regex)
  | many (least : Nat) (most : Option Nat) (r : Regex)
  | again (number : Nat)
  deriving Repr

namespace Regex

/-! ## Reading -/

structure Source where
  rest : List Char
  isExtended : Bool
  isStrict : Bool
  groups : Nat := 0

abbrev Reading := StateT Source (Except String)

def isMark (isExtended : Bool) (c : Char) : List Char → Bool
  | '\\' :: d :: _ => !isExtended && c = d
  | d :: _ => isExtended && c = d
  | [] => false

def atMark (c : Char) : Reading Bool := do
  let s ← get
  return isMark s.isExtended c s.rest

def drop (n : Nat) : Reading Unit := modify fun s => { s with rest := s.rest.drop n }

def dropMark : Reading Unit := do drop (if (← get).isExtended then 1 else 2)

def bracket : Reading Regex := do
  let s ← get
  let isNegated := s.rest.head? = some '^'
  let marks := (if isNegated then s.rest.tail else s.rest).map fun c => Pattern.Mark.mk c false
  match Pattern.membersFrom (marks.length + 1) true marks with
  | none =>
    throw (if marks.isEmpty then "Invalid regular expression" else "Unmatched [, [^, [:, [., or [=")
  | some (members, rest) =>
    for m in members do
      match m with
      | .letters name => if !classNames.contains name then throw "Invalid character class name"
      | .range low high => if high < low then throw "Invalid range end"
    set { s with rest := rest.map Pattern.Mark.char }
    return .oneOf isNegated members

def wordMembers : List Member := [.letters "alnum", .range '_' '_']

def escaped (c : Char) : Regex :=
  if c = 'w' then .oneOf false wordMembers
  else if c = 'W' then .oneOf true wordMembers
  else if c = 's' then .oneOf false [.letters "space"]
  else if c = 'S' then .oneOf true [.letters "space"]
  else if c = 'b' then .edge true
  else if c = 'B' then .edge false
  else if c = '<' then .wordStart
  else if c = '>' then .wordEnd
  else if c = '\x60' then .textStart
  else if c = '\x27' then .textEnd
  else if c = 'n' then .char '\n'
  else if c = 't' then .char '\t'
  else if c.isDigit && c ≠ '0' then .again (c.toNat - 48)
  else .char c

def interval? (isExtended : Bool) (cs : List Char) : Option ((Nat × Option Nat) × List Char) := do
  let ds := cs.takeWhile Char.isDigit
  let rest := cs.drop ds.length
  let close := fun (cs : List Char) =>
    match isExtended, cs with
    | true, '\x7d' :: cs => some cs
    | false, '\\' :: '\x7d' :: cs => some cs
    | _, _ => none
  match rest with
  | ',' :: more =>
    let es := more.takeWhile Char.isDigit
    let rest ← close (more.drop es.length)
    return (((natural? ds).getD 0, natural? es), rest)
  | rest =>
    let n ← natural? ds
    let rest ← close rest
    return ((n, some n), rest)

def limit : Nat := 32767

def repeated : Nat → Regex → Reading Regex
  | 0, r => return r
  | n + 1, r => do
    let s ← get
    if s.rest.head? = some '*' then
      drop 1
      repeated n (.many 0 none r)
    else if ← atMark '+' then
      dropMark
      repeated n (.many 1 none r)
    else if ← atMark '?' then
      dropMark
      repeated n (.many 0 (some 1) r)
    else if ← atMark '\x7b' then
      match interval? s.isExtended (s.rest.drop (if s.isExtended then 1 else 2)) with
      | some ((least, most), rest) =>
        if limit < max least (most.getD 0) then throw "Regular expression too big"
        if most.any (· < least) then throw "Invalid content of \\\x7b\\\x7d"
        set { s with rest := rest }
        repeated n (.many least most r)
      | none =>
        if s.isExtended && !s.isStrict then return r
        let close := if s.isExtended then ['\x7d'] else ['\\', '\x7d']
        let isClosed := (List.range s.rest.length).any fun i => close.isPrefixOf (s.rest.drop i)
        if isClosed then throw "Invalid content of \\\x7b\\\x7d"
        throw "Unmatched \\\x7b"
    else return r

def isEnding (isExtended : Bool) (cs : List Char) : Bool :=
  isExtended || cs.isEmpty || isMark isExtended ')' cs || isMark isExtended '|' cs

def isMisplaced : Reading Bool := do
  let s ← get
  return if s.isExtended then s.rest.head?.any "*+?\x7b".toList.contains
    else isMark false '\x7b' s.rest

mutual

def alternatives : Nat → Bool → Reading Regex
  | 0, _ => throw "Regular expression too big"
  | n + 1, isInner => do
    let a ← sequence n true isInner
    if ← atMark '|' then
      dropMark
      return .either a (← alternatives n isInner)
    return a

def sequence : Nat → Bool → Bool → Reading Regex
  -- At the beginning, operators stand for themselves, for nothing, or are wrong.
  | 0, _, _ => throw "Regular expression too big"
  | n + 1, isFirst, isInner => do
    let s ← get
    if s.rest.isEmpty || (← atMark '|') then return .empty
    if (← atMark ')') then
      if isInner then return .empty
      if !s.isExtended || s.isStrict then throw "Unmatched ) or \\)"
    if isFirst then
      if ← isMisplaced then
        if s.isStrict then throw "Invalid preceding regular expression"
        if s.isExtended && s.rest.head? ≠ some '\x7b' then
          drop 1
          return ← sequence n true isInner
    match s.rest with
    | '^' :: rest =>
      if s.isExtended || isFirst then
        set { s with rest := rest }
        return .both .start (← sequence n true isInner)
    | _ => pure ()
    let a ← atom n
    let a ← repeated s.rest.length a
    return .both a (← sequence n false isInner)

def atom : Nat → Reading Regex
  | 0 => throw "Regular expression too big"
  | n + 1 => do
    if ← atMark '(' then
      dropMark
      let number := (← get).groups + 1
      modify fun s => { s with groups := number }
      let r ← alternatives n true
      if !(← atMark ')') then throw "Unmatched ( or \\("
      dropMark
      return .group number r
    let s ← get
    match s.rest with
    | [] => return .empty
    | '.' :: rest =>
      set { s with rest := rest }
      return .any
    | '[' :: rest =>
      set { s with rest := rest }
      bracket
    | '$' :: rest =>
      set { s with rest := rest }
      return if isEnding s.isExtended rest then .finish else .char '$'
    | ['\\'] => throw "Trailing backslash"
    | '\\' :: c :: rest =>
      set { s with rest := rest }
      match escaped c with
      | .again number =>
        if s.groups < number then throw "Invalid back reference"
        return .again number
      | r => return r
    | c :: rest =>
      set { s with rest := rest }
      return .char c

end

def read (isExtended isStrict : Bool) (cs : List Char) : Except String (Regex × Nat) := do
  let (r, s) ← (alternatives (8 * cs.length + 16) false).run
    { rest := cs, isExtended := isExtended, isStrict := isStrict }
  match s.rest with
  | [] => return (r, s.groups)
  | _ => throw "Unmatched ) or \\)"

/-! ## Matching -/

structure Subject where
  text : Array Char
  ignoresCase : Bool := false
  isMultiline : Bool := false

abbrev Groups := List (Nat × Nat × Nat)

namespace Subject

def isWordAt (x : Subject) (i : Nat) : Bool :=
  match x.text[i]? with
  | some c => c.isAlphanum || c = '_'
  | none => false

def isWordBefore (x : Subject) : Nat → Bool
  | 0 => false
  | i + 1 => x.isWordAt i

def isLineStart (x : Subject) : Nat → Bool
  | 0 => true
  | i + 1 => x.isMultiline && x.text[i]? = some '\n'

def isLineEnd (x : Subject) (i : Nat) : Bool :=
  i = x.text.size || x.isMultiline && x.text[i]? = some '\n'

def isSame (x : Subject) (c d : Char) : Bool :=
  c = d || x.ignoresCase && c.toLower = d.toLower

def isIn (x : Subject) (members : List Member) (c : Char) : Bool :=
  members.any (·.has c) || x.ignoresCase && members.any fun m => m.has c.toLower || m.has c.toUpper

def repeats (x : Subject) (first last i : Nat) : Bool :=
  (List.range (last - first)).all fun k =>
    match x.text[first + k]?, x.text[i + k]? with
    | some c, some d => x.isSame c d
    | _, _ => false

end Subject

abbrev Hits := List (Nat × Groups)

def distinct (hs : Hits) : Hits :=
  hs.foldl (fun kept h => if kept.any (·.1 = h.1) then kept else kept ++ [h]) []

def iterate (step : Nat → Groups → Hits) (least : Nat) (most : Option Nat) :
    Nat → Nat → Nat → Groups → Hits
  | 0, _, i, gs => [(i, gs)]
  | n + 1, count, i, gs =>
    let isFull := most.any (· ≤ count)
    let further := if isFull then [] else
      (step i gs).flatMap fun h =>
        if h.1 = i && least ≤ count then [] else iterate step least most n (count + 1) h.1 h.2
    distinct (if count < least then further else further ++ [(i, gs)])

def hits (x : Subject) : Regex → Nat → Groups → Hits
  | .empty, i, gs => [(i, gs)]
  | .char c, i, gs =>
    match x.text[i]? with
    | some d => if x.isSame c d then [(i + 1, gs)] else []
    | none => []
  | .any, i, gs => if i < x.text.size then [(i + 1, gs)] else []
  | .oneOf isNegated members, i, gs =>
    match x.text[i]? with
    | some c => if x.isIn members c != isNegated then [(i + 1, gs)] else []
    | none => []
  | .start, i, gs => if x.isLineStart i then [(i, gs)] else []
  | .finish, i, gs => if x.isLineEnd i then [(i, gs)] else []
  | .textStart, i, gs => if i = 0 then [(i, gs)] else []
  | .textEnd, i, gs => if i = x.text.size then [(i, gs)] else []
  | .wordStart, i, gs => if !x.isWordBefore i && x.isWordAt i then [(i, gs)] else []
  | .wordEnd, i, gs => if x.isWordBefore i && !x.isWordAt i then [(i, gs)] else []
  | .edge isThere, i, gs =>
    if (x.isWordBefore i != x.isWordAt i) = isThere then [(i, gs)] else []
  | .group number r, i, gs =>
    (hits x r i gs).map fun h => (h.1, (number, i, h.1) :: h.2)
  | .both a b, i, gs => distinct ((hits x a i gs).flatMap fun h => hits x b h.1 h.2)
  | .either a b, i, gs => distinct (hits x a i gs ++ hits x b i gs)
  | .many least most r, i, gs =>
    iterate (hits x r) least most (x.text.size + least + 1) 0 i gs
  | .again number, i, gs =>
    match gs.lookup number with
    | some (first, last) => if x.repeats first last i then [(i + (last - first), gs)] else []
    | none => []

structure Found where
  first : Nat
  last : Nat
  groups : Groups

def matchAt (r : Regex) (x : Subject) (i : Nat) : Option Found :=
  (hits x r i []).foldl
    (fun best h =>
      match best with
      | some f => if f.last < h.1 then some ⟨i, h.1, h.2⟩ else best
      | none => some ⟨i, h.1, h.2⟩) none

def find (r : Regex) (x : Subject) (i : Nat) : Option Found :=
  (List.range (x.text.size + 1 - i)).findSome? fun k => r.matchAt x (i + k)

def Found.group (f : Found) (x : Subject) (number : Nat) : List Char :=
  let part := fun (first last : Nat) => ((x.text.toList.take last).drop first)
  if number = 0 then part f.first f.last
  else
    match f.groups.lookup number with
    | some (first, last) => part first last
    | none => []

end Regex

end Reporting.Shell
