import Reporting.Convert
import Reporting.Text.Blank

/-!
Conversion by an outside program. The program finds the rendered text in one file and leaves the
document in another; both are temporary, except for a document that is to be kept.
-/

namespace Reporting

structure Ended where
  status : Status
  said : String
  files : Tree

abbrev Programs := String → List String → Tree → Except String Ended

structure CommandConverter where
  command : String
  args : List String
  workDir : String
  deriving DecidableEq, Repr

namespace CommandConverter

def inputMark : String := "\x7binput\x7d"

def outputMark : String := "\x7boutput\x7d"

def isTemplate (arg : String) : Bool :=
  Text.occursIn inputMark.toList arg.toList || Text.occursIn outputMark.toList arg.toList

def arguments (c : CommandConverter) (input output : String) : List String :=
  let filled :=
    c.args.map fun arg => Text.replace (Text.replace arg inputMark input) outputMark output
  if c.args.any isTemplate then filled else filled ++ [input, output]

def run (programs : Programs) (c : CommandConverter) (input output : String) (t : Tree) :
    Except ConvertError Unit × Tree :=
  -- Only success is no error.
  match programs c.command (c.arguments input output) t with
  | .error reason => (.error (.notStarted c.command reason), t)
  | .ok ended =>
    if ended.status = .exited 0 then (.ok (), ended.files)
    else (.error (.failed c.command ended.status (Text.trimmed ended.said)), ended.files)

def prepare (c : CommandConverter) (text directory : String) (t : Tree) :
    Except ConvertError (String × String) × Tree :=
  match t.writeFresh c.workDir "folio" ".html" text.toUTF8 with
  | .error e => (.error (.files e.message), t)
  | .ok (input, t) =>
    match t.writeFresh directory "pdf" ".pdf" .empty with
    | .error e => (.error (.files e.message), t.remove input)
    | .ok (output, t) => (.ok (input, output), t)

def toFile (programs : Programs) (c : CommandConverter) (text directory : String) (t : Tree) :
    Except ConvertError (Option String) × Tree :=
  match c.prepare text directory t with
  | (.error e, t) => (.error e, t)
  | (.ok (input, output), t) =>
    match c.run programs input output t with
    | (.error e, t) => (.error e, (t.remove output).remove input)
    | (.ok (), t) => (.ok (some output), t.remove input)

def toClient (programs : Programs) (c : CommandConverter) (text : String) (client : Client)
    (t : Tree) : Except ConvertError Unit × Client × Tree :=
  match c.prepare text c.workDir t with
  | (.error e, t) => (.error e, client, t)
  | (.ok (input, output), t) =>
    match c.run programs input output t with
    | (.error e, t) => (.error e, client, (t.remove output).remove input)
    | (.ok (), t) =>
      let left := (t.remove output).remove input
      match t.read output with
      | .error e => (.error (.files e.message), client, left)
      | .ok bytes =>
        match client.send bytes with
        | (.error reason, client) => (.error (.files reason), client, left)
        | (.ok (), client) => (.ok (), client, left)

def converter (programs : Programs) (c : CommandConverter) : Converter :=
  ⟨c.toFile programs, c.toClient programs⟩

end CommandConverter

end Reporting
