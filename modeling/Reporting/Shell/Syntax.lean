import Reporting.Text.Split

/-!
Scripts for the shell. Words are made of pieces, some of which get their text only when the script
runs; commands are words to be run as programs, or are made of smaller commands.

All texts of the shell are spread out: each character stands for one byte.
-/

namespace Reporting.Shell

/-- What is made of the value of a parameter. With `unlessEmpty`, an empty value counts as none. -/
inductive Use where
  | value
  | length
  | default (unlessEmpty : Bool)
  | assign (unlessEmpty : Bool)
  | require (unlessEmpty : Bool)
  | replace (unlessEmpty : Bool)
  | trimStart (isLongest : Bool)
  | trimEnd (isLongest : Bool)
  | bad
  deriving DecidableEq, Repr

inductive Redirection where
  | input
  | output
  | overwrite
  | append
  | update
  | duplicate
  | document (number : Nat)
  deriving DecidableEq, Repr

structure Redirect (α : Type) where
  channel : Nat
  kind : Redirection
  target : List α

inductive Joint where
  | always
  | onSuccess
  | onFailure
  deriving DecidableEq, Repr

mutual

inductive Piece where
  | char (c : Char)
  | quoted (c : Char)
  | quotes
  | parameter (name : String) (use : Use) (word : List Piece) (isQuoted : Bool)
  | output (command : Option Command) (isQuoted : Bool)
  | sum (text : List Piece) (isQuoted : Bool)

inductive Command where
  | simple (line : Nat) (assignments words : List (List Piece)) (redirects : List (Redirect Piece))
  | piped (commands : List Command)
  | negated (command : Command)
  | joined (joint : Joint) (first second : Command)
  | background (command : Command)
  | subshell (line : Nat) (command : Command)
  | redirected (line : Nat) (command : Command) (redirects : List (Redirect Piece))
  | branch (test yes : Command) (no : Option Command)
  | loop (isUntil : Bool) (test body : Command)
  | each (line : Nat) (name : String) (words : List (List Piece)) (body : Command)
  | choice (line : Nat) (word : List Piece) (cases : List (List (List Piece) × Option Command))
  | function (line : Nat) (name : String) (body : Command)

end

abbrev Word := List Piece

instance : Inhabited Command := ⟨.simple 0 [] [] []⟩

def literal? : Word → Option (List Char)
  | [] => some []
  | .char c :: ps => (literal? ps).map (c :: ·)
  | _ => none

def charsOf : Word → List Char
  | [] => []
  | .char c :: ps => c :: charsOf ps
  | .quoted c :: ps => c :: charsOf ps
  | _ :: ps => charsOf ps

def isNameStart (c : Char) : Bool := c.isAlpha || c = '_'

def isNameChar (c : Char) : Bool := c.isAlphanum || c = '_'

def isName : List Char → Bool
  | [] => false
  | c :: cs => isNameStart c && cs.all isNameChar

def assignment? : Word → Option (String × Word)
  | ps =>
    match Text.cutAt '=' ((ps.map fun | .char c => c | _ => ' ')) with
    | some (name, _) =>
      if isName name then some (.ofList name, ps.drop (name.length + 1)) else none
    | none => none

end Reporting.Shell
