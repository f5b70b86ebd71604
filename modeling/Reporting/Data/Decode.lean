import Reporting.Data.Node

/-!
Decoding trees into records. The first fault in the order of the tree is the one reported; missing
fields come after all faults in the fields that are there.
-/

namespace Reporting

/-- Where a tree comes from decides some rules of its decoding and some words of its messages. -/
inductive Origin where
  | jsonText
  | jsonValue
  | toml
  deriving DecidableEq, Repr

inductive Surplus where
  | malformed
  | tooLong
  | notConsumed
  | ignored
  deriving DecidableEq, Repr

def Origin.surplus : Origin → Surplus
  | .jsonText => .malformed
  | .jsonValue => .tooLong
  | .toml => .ignored

inductive Fault where
  | missingField (name : String)
  | duplicateField (name : String)
  | invalidType (found expected : String)
  | invalidValue (found expected : String)
  | invalidLength (length : Nat) (expected : String)
  | unknownVariant (name : String) (expected : List String)
  | unsuitable (reason : String)
  deriving DecidableEq, Repr

namespace Fault

def ticked (s : String) : String := "`" ++ s ++ "`"

def choice : List String → String
  | [a, b] => ticked a ++ " or " ++ ticked b
  | names => "one of " ++ ", ".intercalate (names.map ticked)

def message : Fault → String
  | missingField name => "missing field " ++ ticked name
  | duplicateField name => "duplicate field " ++ ticked name
  | invalidType found expected => "invalid type: " ++ found ++ ", expected " ++ expected
  | invalidValue found expected => "invalid value: " ++ found ++ ", expected " ++ expected
  | invalidLength length expected =>
    "invalid length " ++ Text.ofNat length ++ ", expected " ++ expected
  | unknownVariant name expected =>
    "unknown variant " ++ ticked name ++ ", expected " ++ choice expected
  | unsuitable reason => reason

end Fault

inductive DecodeError where
  /-- The text is not of its format at the place that decoding has come to. -/
  | malformed
  | fault (f : Fault)
  deriving DecidableEq, Repr

abbrev Decoded (α : Type) := Except DecodeError α

namespace Decode

def fail {α : Type} (f : Fault) : Decoded α := .error (.fault f)

def floatText (o : Origin) : Binary64 → String
  | .finite negative mantissa exponent _ =>
    let text :=
      match o with
      | .toml =>
        let d := Binary64.shortest .larger mantissa exponent
        if 0 ≤ d.exponent then d.plain ++ ['.', '0'] else d.plain
      | _ => (Binary64.shortest .even mantissa exponent).compact
    .ofList (Binary64.signed negative text)
  | x => x.text

def intText (n : Int) : String :=
  -- Integers that need more than 64 bits are named with the type of 128 bits that holds them.
  let text := "integer " ++ Fault.ticked (Text.ofInt n)
  if -(twoTo 63) ≤ n && n < twoTo 64 then text
  else if n < twoTo 127 then text ++ " as i128"
  else text ++ " as u128"

def found (o : Origin) : Node → String
  | .null => "null"
  | .bool b => "boolean " ++ Fault.ticked (if b then "true" else "false")
  | .int n => intText n
  | .float x => "floating point " ++ Fault.ticked (floatText o x)
  | .string s => "string " ++ Text.shown s
  | .list .. => "sequence"
  | _ => "map"

def mismatch {α : Type} (o : Origin) (expected : String) : Node → Decoded α
  | .unreadable => .error .malformed
  | .noNumber _ => .error .malformed
  | .malformed => .error .malformed
  | n => fail (.invalidType (found o n) expected)

def string (o : Origin) : Node → Decoded String
  | .string s => .ok s
  | n => mismatch o "a string" n

def bool (o : Origin) : Node → Decoded Bool
  | .bool b => .ok b
  | n => mismatch o "a boolean" n

def size (o : Origin) : Node → Decoded Nat
  | .int n =>
    if 0 ≤ n then .ok n.toNat else fail (.invalidValue (intText n) "usize")
  | n => mismatch o "usize" n

def closed : Ending → Decoded Unit
  | .closed => .ok ()
  | _ => .error .malformed

def items {α : Type} (read : Node → Decoded α) : List Node → Decoded (List α)
  | [] => .ok []
  | n :: ns => do
    let a ← read n
    let as ← items read ns
    return a :: as

def list {α : Type} (o : Origin) (read : Node → Decoded α) : Node → Decoded (List α)
  | .list ns ending => do
    let as ← items read ns
    closed ending
    return as
  | n => mismatch o "a sequence" n

def optional {α : Type} (read : Node → Decoded α) : Node → Decoded (Option α)
  | .null => .ok none
  | n => (read n).map some

def strings (o : Origin) : Node → Decoded (List String) := list o (string o)

structure Field (α : Type) where
  name : String
  legacy : Option String
  required : Bool
  read : Origin → α → Node → Decoded α

namespace Field

variable {α β : Type}

def goesBy (f : Field α) (key : String) : Bool := f.name == key || f.legacy == some key

def of (name : String) (read : Origin → Node → Decoded β) (set : α → β → α) : Field α :=
  ⟨name, none, false, fun o a n => (read o n).map (set a)⟩

def needed (f : Field α) : Field α := { f with required := true }

def formerly (f : Field α) (legacy : String) : Field α := { f with legacy := some legacy }

end Field

def elements (n : Nat) : String :=
  Text.ofNat n ++ (if n = 1 then " element" else " elements")

structure Shape (α : Type) where
  title : String
  start : α
  fields : List (Field α)

namespace Shape

variable {α : Type}

def entries (s : Shape α) (o : Origin) :
    α → List String → List (String × Node) → Decoded (α × List String)
  | a, seen, [] => .ok (a, seen)
  | a, seen, (key, n) :: es =>
    match s.fields.find? fun f => f.goesBy key with
    | none => if n.isMalformed then .error .malformed else entries s o a seen es
    | some f =>
      if seen.contains f.name then fail (.duplicateField f.name)
      else
        match f.read o a n with
        | .ok a => entries s o a (f.name :: seen) es
        | .error e => .error e

def table (s : Shape α) (o : Origin) (es : List (String × Node)) (ending : Ending) :
    Decoded α := do
  let (a, seen) ← s.entries o s.start [] es
  closed ending
  match s.fields.find? fun f => f.required && !seen.contains f.name with
  | some f => fail (.missingField f.name)
  | none => return a

/-- The fields in order, each from the next item; the rest of the items is handed back. -/
def positions (s : Shape α) (o : Origin) (ending : Ending) :
    Nat → α → List (Field α) → List Node → Decoded (α × List Node)
  | _, a, [], ns => .ok (a, ns)
  | i, a, f :: fs, [] =>
    match ending with
    | .closed =>
      if f.required then fail (.invalidLength i (s.title ++ " with " ++ elements s.fields.length))
      else positions s o ending (i + 1) a fs []
    | _ => .error .malformed
  | i, a, f :: fs, n :: ns =>
    match f.read o a n with
    | .ok a => positions s o ending (i + 1) a fs ns
    | .error e => .error e

def sequence (s : Shape α) (o : Origin) (surplus : Surplus) (ns : List Node) (ending : Ending) :
    Decoded α := do
  let (a, rest) ← s.positions o ending 0 s.start s.fields ns
  if !rest.isEmpty then
    match surplus with
    | .malformed => .error .malformed
    | .tooLong => fail (.invalidLength ns.length "fewer elements in array")
    | .notConsumed => fail (.invalidLength ns.length (elements s.fields.length ++ " in sequence"))
    | .ignored => return a
  else
    closed ending
    return a

def read (s : Shape α) (o : Origin) : Node → Decoded α
  | .table es ending => s.table o es ending
  | .list ns ending => s.sequence o o.surplus ns ending
  | .moment => s.table o [] .closed
  | n => mismatch o s.title n

end Shape

end Decode

end Reporting
