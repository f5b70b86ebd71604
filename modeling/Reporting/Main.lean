import Reporting.Cli.Run
import Reporting.Programs

/-!
The command `folio`. Databases are read by an engine that is not part of it, so that opening one is
refused.
-/

open Reporting

def fileError : IO.Error → FileError
  | .noFileOrDirectory .. => .notFound
  | .inappropriateType .. => .isDirectory
  | .permissionDenied .. => .denied
  | _ => .notDirectory

def readFile (path : String) : IO (Except FileError ByteArray) := do
  try return .ok (← IO.FS.readBinFile path)
  catch e => return .error (fileError e)

def system : Cli.Host IO where
  setting := fun name => IO.getEnv name
  read := readFile
  openSource := fun path => return .error (.cannotOpen path)
  surroundings := return ⟨.empty, .new, ⟨1970, 1, 1, 0, 0⟩⟩
  programs := Programs.builtIn

def main (args : List String) : IO UInt32 := do
  let outcome ← Cli.outcome system args
  IO.print outcome.output
  IO.eprint outcome.errors
  return outcome.code.toUInt32
