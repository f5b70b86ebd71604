import Reporting.Shell.Arithmetic
import Reporting.Shell.Pattern
import Reporting.Shell.Session

/-!
What words become when a script runs. Parameters, the output of commands and arithmetic get their
text; what is not quoted is then split into fields, and patterns among these become the names of
files.
-/

namespace Reporting.Shell

inductive Part where
  | plain (c : Char)
  | loose (c : Char)
  | quoted (c : Char)
  | mark
  | gap
  deriving DecidableEq, Repr

namespace Part

def char? : Part → Option Char
  | plain c => some c
  | loose c => some c
  | quoted c => some c
  | mark => none
  | gap => some ' '

def mark? : Part → Option Pattern.Mark
  | plain c => some ⟨c, false⟩
  | loose c => some ⟨c, false⟩
  | quoted c => some ⟨c, true⟩
  | mark => none
  | gap => some ⟨' ', true⟩

end Part

abbrev Field := List Pattern.Mark

/-! ## Fields -/

def isBlankSeparator (c : Char) : Bool := c = ' ' || c = '\t' || c = '\n'

/--
The fields of some parts, with the one that has begun. Blanks among the separators count as one, and
together with another separator beside them they count as that; the flag says that blanks have just
ended a field.
-/
def fieldsFrom (separators : List Char) : List Part → Option Field → Bool → List Field
  | [], field, _ => (field.map List.reverse).toList
  | p :: ps, field, isClosed =>
    let add := fun (m : Pattern.Mark) => fieldsFrom separators ps (some (m :: field.getD [])) false
    match p with
    | .plain c => add ⟨c, false⟩
    | .quoted c => add ⟨c, true⟩
    | .mark => fieldsFrom separators ps (some (field.getD [])) isClosed
    | .gap => (field.map List.reverse).toList ++ fieldsFrom separators ps none false
    | .loose c =>
      if !separators.contains c then add ⟨c, false⟩
      else if isBlankSeparator c then
        match field with
        | some f => f.reverse :: fieldsFrom separators ps none true
        | none => fieldsFrom separators ps none isClosed
      else
        match field with
        | some f => f.reverse :: fieldsFrom separators ps none false
        | none =>
          if isClosed then fieldsFrom separators ps none false
          else [] :: fieldsFrom separators ps none false

def fields (separators : String) (ps : List Part) : List Field :=
  fieldsFrom separators.toList ps none false

def fieldText (f : Field) : String := .ofList (f.map (·.char))

/-! ## Names of files -/

def components : Field → List Field
  | [] => [[]]
  | m :: ms =>
    if m.char = '/' then [] :: components ms
    else
      match components ms with
      | [] => [[m]]
      | f :: fs => (m :: f) :: fs

/-- Names in a directory that have the form of a pattern; those that begin with a dot only if the
pattern does. -/
def namesLike (s : Session) (directory : String) (f : Field) : List String :=
  match s.files.locate (pathFrom s.here (if directory.isEmpty then "." else directory)) with
  | .error _ => []
  | .ok place =>
    match s.files.entryAt place with
    | some .directory =>
      let names := [".", ".."] ++ (s.files.children place).map fun c => Text.spread c.1
      let startsWithDot := f.head?.any fun m => m.char = '.'
      let pattern := Pattern.ofMarks f
      (names.filter fun name =>
        pattern.fits name.toList && (startsWithDot || name.toList.head? ≠ some '.')).mergeSort
          (· ≤ ·)
    | _ => []

def pathsFrom (s : Session) : List String → List Field → List String
  | starts, [] => starts
  | starts, f :: fs =>
    let slash := if fs.isEmpty then "" else "/"
    let next :=
      if (Pattern.ofMarks f).isPlain then starts.map fun start => start ++ fieldText f ++ slash
      else starts.flatMap fun start => (namesLike s start f).map fun name => start ++ name ++ slash
    pathsFrom s next fs

def filesLike (s : Session) (f : Field) : List String :=
  if s.options.contains 'f' || !f.any fun m => !m.isQuoted && "*?[".toList.contains m.char then
    [fieldText f]
  else
    let found := (pathsFrom s [""] (components f)).filter fun path =>
      s.files.hasEntry (pathFrom s.here path)
    if found.isEmpty then [fieldText f] else found

/-! ## Values -/

def homeOf (s : Session) (user : String) : Option String :=
  if user.isEmpty then (s.bindings.get? "HOME").bind (·.value)
  else if user = "root" then some "/root"
  else none

def withHome (s : Session) (isAssignment : Bool) : Word → Word
  | .char '~' :: ps =>
    let isEnd := fun (c : Char) => c = '/' || isAssignment && c = ':'
    let user := ps.takeWhile fun | .char c => !isEnd c | _ => false
    let rest := ps.drop user.length
    let isWhole := match rest with
      | [] => true
      | .char _ :: _ => true
      | _ => false
    match isWhole, homeOf s (.ofList (charsOf user)) with
    | true, some home => home.toList.map .quoted ++ rest
    | _, _ => .char '~' :: ps
  | ps => ps

def withHomes (s : Session) : Nat → Word → Word
  | 0, w => w
  | n + 1, w =>
    let w := withHome s true w
    let part := w.takeWhile fun | .char ':' => false | _ => true
    match w.drop part.length with
    | colon :: rest => part ++ colon :: withHomes s n rest
    | [] => part

structure Capturing where
  output : Option Command → Steps String

namespace Capturing

def isDigits (name : String) : Bool := !name.isEmpty && name.toList.all Char.isDigit

def joint (name : String) : Steps String := do
  if name = "@" then return " "
  return match ← Steps.value? "IFS" with
    | none => " "
    | some s => .ofList (s.toList.take 1)

def parameter? (name : String) : Steps (Option String) := do
  let s ← get
  let mark ← joint name
  let joined := if s.args.isEmpty then none else some (mark.intercalate s.args)
  match name with
  | "@" => return joined
  | "*" => return joined
  | "#" => return some (Text.ofNat s.args.length)
  | "?" => return some (Text.ofNat s.status)
  | "-" => return some (.ofList s.options.reverse)
  | "$" => return some (Text.ofNat s.number)
  | "!" => return s.jobs.head?.map fun j => Text.ofNat j.1
  | "0" => return some s.name
  | name =>
    if isDigits name then
      match name.toNat? with
      | some 0 => return some s.name
      | some n => return s.args[n - 1]?
      | none => return none
    Steps.value? name

def partsOf (isQuoted : Bool) (value : String) : List Part :=
  value.toList.map fun c => if isQuoted then .quoted c else .loose c

def argumentParts (isQuoted : Bool) (args : List String) : List Part :=
  [Part.gap].intercalate (args.map fun a =>
    (if isQuoted then [Part.mark] else []) ++ partsOf isQuoted a)

def valueParts (name : String) (isQuoted : Bool) (value : String) : Steps (List Part) := do
  let args := (← get).args
  if name = "@" || name = "*" && !isQuoted then return argumentParts isQuoted args
  return partsOf isQuoted value

def demand (name : String) (value : Option String) : Steps String := do
  match value with
  | some v => return v
  | none =>
    if (← get).options.contains 'u' && name ≠ "@" && name ≠ "*" then
      Steps.fault (name ++ ": parameter not set")
    return ""

def withoutNewlines (s : String) : String :=
  .ofList (s.toList.reverse.dropWhile (· = '\n')).reverse

def assign (name value : String) : Steps Unit := do
  if !isName name.toList then Steps.fault (name ++ ": bad variable name")
  Steps.setValue name value

def memory (text : String) : Arithmetic.Memory Steps where
  get := fun name => return (← demand name (← Steps.value? name))
  set := fun name n => Steps.setValue name (Text.ofInt n)
  fail := fun p =>
    match p with
    | .illegal s => Steps.fault ("Illegal number: " ++ s)
    | .zeroDivision =>
      Steps.fault ("arithmetic expression: division by zero: \"" ++ text ++ "\"")
    | .expecting what =>
      Steps.fault ("arithmetic expression: expecting " ++ what ++ ": \"" ++ text ++ "\"")

def sum (text : String) : Steps String := do
  let k := memory text
  match Arithmetic.read text.toList with
  | .ok e => return Text.ofInt (← Arithmetic.value k e)
  | .error p => k.fail p

def textOfParts (ps : List Part) : String := .ofList (ps.filterMap Part.char?)

def isMissing (unlessEmpty : Bool) (value : Option String) : Bool :=
  match value with
  | none => true
  | some v => unlessEmpty && v.isEmpty

variable (k : Capturing)

mutual

def parts : Nat → Bool → Word → Steps (List Part)
  | 0, _, _ => throw .exhausted
  | _, _, [] => return []
  | n + 1, splits, p :: ps => do
    let first ← piece n splits p
    let rest ← parts n splits ps
    return first ++ rest

def piece : Nat → Bool → Piece → Steps (List Part)
  | 0, _, _ => throw .exhausted
  | n + 1, splits, p => do
    match p with
    | .char c => return [if splits then .loose c else .plain c]
    | .quoted c => return [.quoted c]
    | .quotes => return [.mark]
    | .output command isQuoted =>
      return partsOf isQuoted (withoutNewlines (← k.output command))
    | .sum w isQuoted =>
      let text := textOfParts (← parts n false w)
      return partsOf isQuoted (← sum text)
    | .parameter name use w isQuoted =>
      let value ← parameter? name
      let inner := fun (isPattern : Bool) => do
        let s ← get
        let w := if isQuoted && !isPattern then w else withHome s false w
        parts n (!isQuoted && !isPattern) w
      match use with
      | .bad => Steps.fault "Bad substitution"
      | .value => valueParts name isQuoted (← demand name value)
      | .length => return partsOf isQuoted (Text.ofNat (← demand name value).length)
      | .default unlessEmpty =>
        if isMissing unlessEmpty value then inner false
        else valueParts name isQuoted (value.getD "")
      | .replace unlessEmpty => if isMissing unlessEmpty value then return [] else inner false
      | .assign unlessEmpty =>
        if !isMissing unlessEmpty value then return ← valueParts name isQuoted (value.getD "")
        let text := textOfParts (← inner false)
        assign name text
        return partsOf isQuoted text
      | .require unlessEmpty =>
        if !isMissing unlessEmpty value then return ← valueParts name isQuoted (value.getD "")
        let text := textOfParts (← inner false)
        let usual := if unlessEmpty then "parameter not set or null" else "parameter not set"
        Steps.fault (name ++ ": " ++ if w.isEmpty then usual else text)
      | .trimStart isLongest =>
        let pattern := Pattern.ofMarks ((← inner true).filterMap Part.mark?)
        let text := (← demand name value).toList
        return partsOf isQuoted (.ofList (pattern.withoutStart isLongest text))
      | .trimEnd isLongest =>
        let pattern := Pattern.ofMarks ((← inner true).filterMap Part.mark?)
        let text := (← demand name value).toList
        return partsOf isQuoted (.ofList (pattern.withoutEnd isLongest text))

end

def depth : Nat := 1000000

def text (w : Word) : Steps String := do
  return textOfParts (← parts k depth false (withHome (← get) false w))

def assigned (w : Word) : Steps String := do
  return textOfParts (← parts k depth false (withHomes (← get) w.length w))

def document (w : Word) : Steps String := return textOfParts (← parts k depth false w)

def pattern (w : Word) : Steps Pattern := do
  let ps ← parts k depth false (withHome (← get) false w)
  return Pattern.ofMarks (ps.filterMap Part.mark?)

def texts (w : Word) : Steps (List String) := do
  let ps ← parts k depth false (withHome (← get) false w)
  let found := fields (← Steps.separators) ps
  let s ← get
  return found.flatMap (filesLike s)

def allTexts : List Word → Steps (List String)
  | [] => return []
  | w :: ws => do
    let first ← texts k w
    let rest ← allTexts ws
    return first ++ rest

end Capturing

end Reporting.Shell
