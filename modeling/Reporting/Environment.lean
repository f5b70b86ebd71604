import Reporting.Text.Letters
import Reporting.Text.Split
import Reporting.Entries

/-!
Environment variables in texts: a dollar with a name in braces, or with the longest run of letters,
digits and underscores after it. What is put in is not looked at again.
-/

namespace Reporting

abbrev Environment := Entries String String

structure MissingVariable where
  name : String
  deriving DecidableEq, Repr

def MissingVariable.message (e : MissingVariable) : String :=
  "Missing environment variable: " ++ e.name

namespace Environment

inductive Segment where
  | char (c : Char)
  | dollar
  | braced (name : List Char)
  | bare (name : List Char)
  deriving DecidableEq, Repr

def isNameChar (c : Char) : Bool := Text.isAlphanumeric c || c = '_'

def isNotClosing (c : Char) : Bool := c ≠ '\x7d'

def segments : List Char → List Segment
  -- A brace that is never closed takes the rest of the text for its name.
  | [] => []
  | '$' :: '\x7b' :: cs =>
    .braced (cs.takeWhile isNotClosing) :: segments ((cs.dropWhile isNotClosing).drop 1)
  | '$' :: cs =>
    match cs.takeWhile isNameChar with
    | [] => .dollar :: segments cs
    | name => .bare name :: segments (cs.dropWhile isNameChar)
  | c :: cs => .char c :: segments cs
termination_by cs => cs.length
decreasing_by
  · have h := (List.dropWhile_sublist isNotClosing (l := cs)).length_le
    simp only [List.length_drop, List.length_cons]
    omega
  · simp
  · have h := (List.dropWhile_sublist isNameChar (l := cs)).length_le
    simp only [List.length_cons]
    omega
  · simp

/--
What a variable is set to. The environment is a list of texts `name=value`, and of the first that
begins with the name and an equals sign the rest is the value; so a name that has an equals sign in
it reaches into the value of a shorter name.
-/
def value? (env : Environment) (name : List Char) : Option (List Char) :=
  match Text.cutAt '=' name with
  | none => (env.get? (.ofList name)).map String.toList
  | some (shorter, rest) =>
    (env.get? (.ofList shorter)).bind fun s => (rest ++ ['=']).isPrefixOf? s.toList

def value (env : Environment) (name : List Char) : Except MissingVariable (List Char) :=
  match env.value? name with
  | some cs => .ok cs
  | none => .error ⟨.ofList name⟩

def expandSegment (env : Environment) : Segment → Except MissingVariable (List Char)
  | .char c => .ok [c]
  | .dollar => .ok ['$']
  | .braced name => value env name
  | .bare name => value env name

def expandAll (env : Environment) : List Segment → Except MissingVariable (List Char)
  -- The first missing variable is the one reported.
  | [] => .ok []
  | s :: rest =>
    match expandSegment env s with
    | .error e => .error e
    | .ok cs =>
      match expandAll env rest with
      | .error e => .error e
      | .ok ds => .ok (cs ++ ds)

def expand (env : Environment) (s : String) : Except MissingVariable String :=
  (expandAll env (segments s.toList)).map .ofList

end Environment

end Reporting
