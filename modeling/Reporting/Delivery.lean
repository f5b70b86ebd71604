import Reporting.Archive
import Reporting.Convert
import Reporting.Plan
import Reporting.Sheet.Renderers

/-!
Making a report and delivering it: rows are fetched and processed, the sheet is rendered, perhaps
converted, and the result is handed over, stored, or sent to a client. Every report is made anew.
-/

namespace Reporting

structure SourceError where
  reason : String
  deriving DecidableEq, Repr

namespace SourceError

def cannotOpen (path : String) : SourceError := ⟨"unable to open database file: " ++ path⟩

def message (e : SourceError) : String := "SQLite error: " ++ e.reason

end SourceError

inductive ReportError where
  | source (e : SourceError)
  | render (e : RenderError)
  | convert (e : ConvertError)
  | storage (e : StorageError)
  | create (e : FileError)
  | stream (reason : String)
  | noConverter (format : String)
  | notStored (format : String)
  deriving DecidableEq, Repr

def ReportError.message : ReportError → String
  | source e => "Failed to fetch report rows: " ++ e.message
  | render e => "Failed formatting report: " ++ e.message
  | convert e => "Failed converting report: " ++ e.message
  | storage e => "Storage error: " ++ e.message
  | create e => "Failed creating report: " ++ e.message
  | stream reason => "Failed writing report to client: " ++ reason
  | noConverter format => "No converter configured for format '" ++ format ++ "'"
  | notStored format => "Report in format '" ++ format ++ "' produced no file"

inductive Artifact where
  | content (text : String)
  | binary (bytes : ByteArray)
  | placeholder (text : String)
  | file (path : String)
  | streamed

namespace Artifact

def isPlaceholder : Artifact → Bool
  | placeholder _ => true
  | _ => false

def text? : Artifact → Option String
  | content s => some s
  | placeholder s => some s
  | _ => none

end Artifact

inductive Delivery where
  | inline
  | store
  | stream
  deriving DecidableEq, Repr

structure Pipeline where
  catalog : Catalog
  source : Plan → Except SourceError (List Row)
  renderers : Renderers := .standard
  converter : Option Converter := none
  tempDir : String

structure Surroundings where
  files : Tree
  client : Client
  now : Timestamp

namespace Pipeline

def prepare (p : Pipeline) (d : Definition) (format : String) (now : Timestamp) :
    Except ReportError Sheet :=
  let plan := Plan.ofDefinition p.catalog d
  match p.source plan with
  | .error e => .error (.source e)
  | .ok rows =>
    let pagination := plan.sectionKey.map fun key => { key := key, header := d.pageHeader }
    .ok
      { title := d.title
        description := d.description
        format := format
        generatedAt := now
        headers := plan.headers
        report := (Processing.ofDefinition d).report pagination rows
        formats := Sheet.formatsByKey p.catalog.formats }

def deliver (p : Pipeline) (text format : String) (delivery : Delivery) (s : Surroundings) :
    Except ReportError Artifact × Surroundings :=
  match delivery with
  | .inline => (.ok (.content text), s)
  | .store =>
    match s.files.writeFresh p.tempDir format ("." ++ format) text.toUTF8 with
    | .error e => (.error (.create e), s)
    | .ok (path, files) => (.ok (.file path), { s with files := files })
  | .stream =>
    match s.client.send text.toUTF8 with
    | (.error reason, client) => (.error (.stream reason), { s with client := client })
    | (.ok (), client) => (.ok .streamed, { s with client := client })

def convert (p : Pipeline) (text format : String) (delivery : Delivery) (s : Surroundings) :
    Except ReportError Artifact × Surroundings :=
  match p.converter with
  | none => (.error (.noConverter format), s)
  | some converter =>
    match delivery with
    | .inline =>
      match converter.toClient text .new s.files with
      | (.error e, _, files) => (.error (.convert e), { s with files := files })
      | (.ok (), taken, files) => (.ok (.binary taken.received), { s with files := files })
    | .store =>
      match converter.toFile text p.tempDir s.files with
      | (.error e, files) => (.error (.convert e), { s with files := files })
      | (.ok none, files) => (.error (.notStored format), { s with files := files })
      | (.ok (some path), files) => (.ok (.file path), { s with files := files })
    | .stream =>
      match converter.toClient text s.client s.files with
      | (.error e, client, files) =>
        (.error (.convert e), { s with files := files, client := client })
      | (.ok (), client, files) => (.ok .streamed, { s with files := files, client := client })

def placeholder (format : String) : String := "Formatter for " ++ format ++ " not found!"

def create (p : Pipeline) (d : Definition) (format : String) (delivery : Delivery)
    (s : Surroundings) : Except ReportError Artifact × Surroundings :=
  -- A placeholder is neither converted nor stored nor sent.
  match p.prepare d format s.now with
  | .error e => (.error e, s)
  | .ok sheet =>
    let (rendered, converted) := renderFormat format
    match p.renderers.get? rendered with
    | none => (.ok (.placeholder (placeholder format)), s)
    | some renderer =>
      match renderer.render sheet with
      | .error e => (.error (.render e), s)
      | .ok text =>
        if converted then p.convert text format delivery s else p.deliver text format delivery s

/--
Makes a report of a record, puts it into the archive, and notes in the record where it is. The
temporary file goes once it has been copied, or could not be.
-/
def generate (p : Pipeline) (archive : Archive) (r : Record) (format : OutputFormat)
    (s : Surroundings) : Except ReportError StoredFile × Record × Surroundings :=
  match p.create r.definition format.name .store s with
  | (.error e, s) => (.error e, r, s)
  | (.ok (.file temp), s) =>
    let name := StoredName.ofTitle r.definition.title format
    match archive.folder r.reportId r.id s.files with
    | (.error e, files) => (.error (.storage e), r, { s with files := files })
    | (.ok folder, files) =>
      match archive.store folder name temp files with
      | (.error e, files) => (.error (.storage e), r, { s with files := files.remove temp })
      | (.ok stored, files) =>
        (.ok stored, r.setFile format stored.path, { s with files := files.remove temp })
  | (.ok _, s) => (.error (.notStored format.name), r, s)

end Pipeline

end Reporting
