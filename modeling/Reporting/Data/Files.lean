import Reporting.Data.Definitions
import Reporting.Data.Json.Reader
import Reporting.Data.Toml.Reader

/-!
Definition files as text, in JSON or in TOML.
-/

namespace Reporting

inductive DefinitionError where
  | json (e : DecodeError)
  | toml (e : DecodeError)
  deriving DecidableEq, Repr

namespace DefinitionError

def message? : DefinitionError → Option String
  | json (.fault f) => some ("Failed to parse JSON definition: " ++ f.message)
  | toml (.fault f) => some ("Failed to parse TOML definition: " ++ f.message)
  | _ => none

end DefinitionError

def ofJson {α : Type} (read : Origin → Node → Decoded α) (s : String) : Decoded α := do
  let (n, complete) := Json.read s
  let a ← read .jsonText n
  if complete then return a else .error .malformed

def ofToml {α : Type} (read : Origin → Node → Decoded α) (s : String) : Decoded α :=
  match Toml.read? s with
  | some n => read .toml n
  | none => .error .malformed

namespace DefinitionFile

def ofJsonText (s : String) : Except DefinitionError DefinitionFile :=
  (ofJson shape.read s).mapError .json

def ofTomlText (s : String) : Except DefinitionError DefinitionFile :=
  (ofToml shape.read s).mapError .toml

end DefinitionFile

end Reporting
