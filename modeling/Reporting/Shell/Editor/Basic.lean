import Reporting.Shell.Regex

/-!
Scripts that edit a text line by line: a list of commands, each with the lines that it is for.
-/

namespace Reporting.Shell.Editor

structure Wanted where
  regex : Option Regex
  ignoresCase : Bool := false
  isMultiline : Bool := false

inductive Place where
  | line (n : Nat)
  | last
  | found (w : Wanted)
  | steps (first step : Nat)

inductive RangeEnd where
  | place (p : Place)
  | after (n : Nat)
  | multiple (n : Nat)

structure Address where
  first : Option Place := none
  last : Option RangeEnd := none
  isDenied : Bool := false

inductive Replacement where
  | char (c : Char)
  | group (n : Nat)
  | casing (c : Char)

structure Substitution where
  wanted : Wanted
  parts : List Replacement
  isGlobal : Bool := false
  number : Option Nat := none
  isPrinted : Bool := false
  file : Option String := none

inductive Action where
  | begin
  | finish
  | label (name : String)
  | nothing
  | number
  | append (text : List Char)
  | insert (text : List Char)
  | change (text : List Char)
  | branch (label : String)
  | test (label : String)
  | testNot (label : String)
  | delete
  | deleteFirst
  | take
  | takeMore
  | keep
  | keepMore
  | exchange
  | list (width : Option Nat)
  | next
  | nextMore
  | print
  | printFirst
  | quit (status : Nat) (isSilent : Bool)
  | read (path : String)
  | readLine (path : String)
  | write (path : String)
  | writeFirst (path : String)
  | substitute (s : Substitution)
  | mapChars (pairs : List (Char × Char))
  | clear
  | name

structure Command where
  address : Address
  action : Action

def Action.output? : Action → Option String
  | write path => some path
  | writeFirst path => some path
  | substitute s => s.file
  | _ => none

def Action.target? : Action → Option String
  | branch goal => some goal
  | test goal => some goal
  | testNot goal => some goal
  | _ => none

def labelPlace (cs : List Command) (name : String) : Nat :=
  if name.isEmpty then cs.length
  else
    (cs.findIdx? fun c => match c.action with
      | .label l => l = name
      | _ => false).getD cs.length

def missingLabel? (cs : List Command) : Option String :=
  (cs.filterMap fun c => c.action.target?).find? fun name =>
    !name.isEmpty && labelPlace cs name = cs.length

def blockEnd : Nat → List Command → Nat → Nat
  | _, [], i => i
  | depth, c :: cs, i =>
    match c.action with
    | .begin => blockEnd (depth + 1) cs (i + 1)
    | .finish => if depth = 0 then i + 1 else blockEnd (depth - 1) cs (i + 1)
    | _ => blockEnd depth cs (i + 1)

end Reporting.Shell.Editor
