import Reporting.Data.Decode
import Reporting.Format

/-!
Display formats as data: a table whose entry `kind` says which format it is, or a list that begins
with the kind. Everything besides the kind is taken in first and decoded afterwards.
-/

namespace Reporting.Format

open Decode

def kinds : List (String × Shape Format) :=
  let decimals (set : Format → Nat → Format) : Decode.Field Format := .of "decimals" size set
  [("number",
      ⟨"struct variant ValueFormat::Number", .number 0, [decimals fun _ n => .number n]⟩),
    ("currency",
      ⟨"struct variant ValueFormat::Currency", .currency "$" 2,
        [.of "symbol" string fun f s =>
            match f with
            | .currency _ n => .currency s n
            | f => f,
          decimals fun f n =>
            match f with
            | .currency s _ => .currency s n
            | f => f]⟩),
    ("upper", ⟨"unit variant ValueFormat::Upper", .upper, []⟩),
    ("lower", ⟨"unit variant ValueFormat::Lower", .lower, []⟩),
    ("truncate",
      ⟨"struct variant ValueFormat::Truncate", .truncate 0,
        [(Field.of "len" size fun _ n => .truncate n).needed]⟩)]

def isKindNumber (o : Origin) (n : Int) : Bool :=
  -- The number fits 64 bits only without a sign.
  o == .toml && twoTo 63 ≤ n && n < twoTo 64

def readKind (o : Origin) : Node → Decoded (Shape Format)
  | .string s =>
    match kinds.lookup s with
    | some shape => .ok shape
    | none => fail (.unknownVariant s (kinds.map Prod.fst))
  | .int n =>
    if isKindNumber o n then
      fail (.invalidValue (intText n) ("variant index 0 <= i < " ++ Text.ofNat kinds.length))
    else mismatch o "variant identifier" (.int n)
  | n => mismatch o "variant identifier" n

/-- How deep lists and tables may stand within a format that is decoded while it is read. -/
def depthLimit : Nat := 122

mutual

def takeIn : Node → Decoded Unit
  | .malformed => .error .malformed
  | .unreadable => .error .malformed
  | .noNumber _ => .error .malformed
  | .int n =>
    if -(twoTo 63) ≤ n && n < twoTo 64 then .ok () else fail (.invalidType (intText n) "any value")
  | .list ns ending => do
    takeInItems ns
    closed ending
  | .table es ending => do
    takeInEntries es
    closed ending
  | _ => .ok ()

def takeInItems : List Node → Decoded Unit
  | [] => .ok ()
  | n :: ns => do
    takeIn n
    takeInItems ns

def takeInEntries : List (String × Node) → Decoded Unit
  | [] => .ok ()
  | (_, n) :: es => do
    takeIn n
    takeInEntries es

end

def takeInFrom (o : Origin) (n : Node) : Decoded Unit :=
  if o = .jsonText && n.deeperThan depthLimit then .error .malformed else takeIn n

def splitEntries (o : Origin) :
    Option (Shape Format) → List (String × Node) →
      Decoded (Option (Shape Format) × List (String × Node))
  | kind, [] => .ok (kind, [])
  | kind, (key, n) :: es =>
    if key = "kind" then
      if kind.isSome then fail (.duplicateField "kind")
      else
        match readKind o n with
        | .ok shape => splitEntries o (some shape) es
        | .error e => .error e
    else do
      takeInFrom o n
      let (kind, rest) ← splitEntries o kind es
      return (kind, (key, n) :: rest)

def ofEntries (o : Origin) (es : List (String × Node)) (ending : Ending) : Decoded Format := do
  let (kind, rest) ← splitEntries o none es
  closed ending
  match kind with
  | some shape => shape.table o rest .closed
  | none => fail (.missingField "kind")

def ofItems (o : Origin) (ns : List Node) (ending : Ending) : Decoded Format :=
  match ns with
  | [] => do
    closed ending
    fail (.missingField "kind")
  | n :: ns => do
    let shape ← readKind o n
    let _ ← items (takeInFrom o) ns
    closed ending
    shape.sequence o .notConsumed ns .closed

def read (o : Origin) : Node → Decoded Format
  | .table es ending => ofEntries o es ending
  | .list ns ending => ofItems o ns ending
  | .moment => fail (.missingField "kind")
  | n => mismatch o "internally tagged enum ValueFormat" n

def node : Format → Node
  | number decimals => .ofEntries [("kind", .string "number"), ("decimals", .int decimals)]
  | currency symbol decimals =>
    .ofEntries
      [("kind", .string "currency"), ("symbol", .string symbol), ("decimals", .int decimals)]
  | upper => .ofEntries [("kind", .string "upper")]
  | lower => .ofEntries [("kind", .string "lower")]
  | truncate length => .ofEntries [("kind", .string "truncate"), ("len", .int length)]

end Reporting.Format
