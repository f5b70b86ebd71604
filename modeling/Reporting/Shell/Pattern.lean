/-!
Patterns for names: a star stands for any characters, a question mark for any one, and brackets for
one of a set. Quoted characters stand for themselves.
-/

namespace Reporting.Shell

inductive Member where
  | range (low high : Char)
  | letters (name : String)
  deriving DecidableEq, Repr

inductive Atom where
  | char (c : Char)
  | any
  | run
  | set (isNegated : Bool) (members : List Member)
  deriving DecidableEq, Repr

abbrev Pattern := List Atom

def classNames : List String :=
  ["alpha", "digit", "alnum", "upper", "lower", "space", "blank", "punct", "print", "graph",
    "cntrl", "xdigit"]

def isInClass (name : String) (c : Char) : Bool :=
  match name with
  | "alpha" => c.isAlpha
  | "digit" => c.isDigit
  | "alnum" => c.isAlphanum
  | "upper" => c.isUpper
  | "lower" => c.isLower
  | "space" => c = ' ' || 9 ≤ c.toNat && c.toNat ≤ 13
  | "blank" => c = ' ' || c = '\t'
  | "punct" => 33 ≤ c.toNat && c.toNat ≤ 126 && !c.isAlphanum
  | "print" => 32 ≤ c.toNat && c.toNat ≤ 126
  | "graph" => 33 ≤ c.toNat && c.toNat ≤ 126
  | "cntrl" => c.toNat < 32 || c.toNat = 127
  | "xdigit" => c.isDigit || 'a' ≤ c && c ≤ 'f' || 'A' ≤ c && c ≤ 'F'
  | _ => false

namespace Member

def has (c : Char) : Member → Bool
  | range low high => low ≤ c && c ≤ high
  | letters name => isInClass name c

end Member

def Atom.takes (c : Char) : Atom → Bool
  | char d => c = d
  | any => true
  | run => true
  | set isNegated members => members.any (·.has c) != isNegated

namespace Pattern

def fits : Pattern → List Char → Bool
  | [], cs => cs.isEmpty
  | .run :: as, [] => fits as []
  | .run :: as, c :: cs => fits as (c :: cs) || fits (.run :: as) cs
  | _ :: _, [] => false
  | a :: as, c :: cs => a.takes c && fits as cs
termination_by as cs => as.length + cs.length

structure Mark where
  char : Char
  isQuoted : Bool
  deriving DecidableEq, Repr

namespace Mark

def isActive (m : Mark) (c : Char) : Bool := m.char = c && !m.isQuoted

end Mark

def className? : List Mark → Option (String × List Mark)
  | ⟨':', _⟩ :: ⟨']', _⟩ :: ms => some ("", ms)
  | ⟨c, _⟩ :: ms =>
    if c.isAlpha then (className? ms).map fun p => (.singleton c ++ p.1, p.2) else none
  | [] => none

def membersFrom : Nat → Bool → List Mark → Option (List Member × List Mark)
  -- A bracket at the very beginning is a member.
  | 0, _, _ => none
  | _, _, [] => none
  | n + 1, isFirst, m :: ms =>
    let single := fun (ms : List Mark) =>
      let (member, ms) :=
        match ms with
        | dash :: high :: more =>
          if dash.char = '-' && !high.isActive ']' then (Member.range m.char high.char, more)
          else (.range m.char m.char, ms)
        | _ => (.range m.char m.char, ms)
      (membersFrom n false ms).map fun p => (member :: p.1, p.2)
    if m.isActive ']' && !isFirst then some ([], ms)
    else
      match m, ms with
      | ⟨'[', false⟩, ⟨':', _⟩ :: more =>
        match className? more with
        | some (name, rest) => (membersFrom n false rest).map fun p => (.letters name :: p.1, p.2)
        | none => single ms
      | _, ms => single ms

def ofMarksFrom : Nat → List Mark → Pattern
  | 0, _ => []
  | _, [] => []
  | n + 1, m :: ms =>
    if m.isQuoted then .char m.char :: ofMarksFrom n ms
    else
      match m.char, ms with
      | '*', ms => .run :: ofMarksFrom n ms
      | '?', ms => .any :: ofMarksFrom n ms
      | '\\', next :: ms => .char next.char :: ofMarksFrom n ms
      | '[', ms =>
        let isNegated := (ms.head?.map (·.isActive '!')).getD false
        match membersFrom n true (if isNegated then ms.tail else ms) with
        | some (members, rest) => .set isNegated members :: ofMarksFrom n rest
        | none => .char '[' :: ofMarksFrom n ms
      | c, ms => .char c :: ofMarksFrom n ms

def ofMarks (ms : List Mark) : Pattern := ofMarksFrom (ms.length + 1) ms

def isPlain (p : Pattern) : Bool := p.all fun | .char _ => true | _ => false

def withoutStart (p : Pattern) (isLongest : Bool) (cs : List Char) : List Char :=
  let sizes := List.range (cs.length + 1)
  match (if isLongest then sizes.reverse else sizes).find? fun n => p.fits (cs.take n) with
  | some n => cs.drop n
  | none => cs

def withoutEnd (p : Pattern) (isLongest : Bool) (cs : List Char) : List Char :=
  let sizes := List.range (cs.length + 1)
  match (if isLongest then sizes else sizes.reverse).find? fun n => p.fits (cs.drop n) with
  | some n => cs.take n
  | none => cs

end Pattern

end Reporting.Shell
