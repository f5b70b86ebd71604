import Reporting.Plan.Projection
import Reporting.Processing

/-!
A sheet is everything a renderer may show: titles, labelled columns, sections of rows and totals.
-/

namespace Reporting

structure Timestamp where
  year : Nat
  month : Nat
  day : Nat
  hour : Nat
  minute : Nat
  deriving DecidableEq, Repr

namespace Timestamp

def padded (width n : Nat) : List Char :=
  let ds := Text.digits n
  List.replicate (width - ds.length) '0' ++ ds

def text (t : Timestamp) : String :=
  .ofList (padded 4 t.year ++ '-' :: padded 2 t.month ++ '-' :: padded 2 t.day ++ ' ' ::
    padded 2 t.hour ++ ':' :: padded 2 t.minute ++ " UTC".toList)

end Timestamp

structure Sheet where
  title : String
  description : String
  /-- The format that was asked for, which may not be the one that is rendered. -/
  format : String := ""
  generatedAt : Timestamp
  headers : Headers
  report : ProcessedReport
  formats : Entries String Format

namespace Sheet

def rowTotalLabel : String := "Total"

def formatsByKey (formats : Entries String Format) : Entries String Format :=
  -- Of two formats for one key the later counts.
  .ofList (formats.toList.map fun e => (keyOf e.1, e.2))

def namedColumns (s : Sheet) : List (String × String) :=
  -- Without headers the columns of the first row are shown under their own names.
  if s.headers.isEmpty then
    match s.report.rows with
    | [] => []
    | r :: _ => (r.keys.filter (· ≠ rowTotalKey)).map fun key => (key, key)
  else s.headers.toList

def columns (s : Sheet) : List (String × String) :=
  let named := s.namedColumns
  let hasTotal := s.report.rows.any fun r => r.contains rowTotalKey
  if hasTotal && !(named.any fun c => c.1 == rowTotalKey) then
    named ++ [(rowTotalKey, rowTotalLabel)]
  else named

def display (s : Sheet) (key : String) (cell : Cell) : String :=
  if cell.isEmpty then ""
  else
    match s.formats.get? key with
    | some format => format.apply cell
    | none => cell.display

def cell (s : Sheet) (r : Row) (key : String) : String :=
  match r.get? key with
  | some cell => s.display key cell
  | none => ""

def texts (s : Sheet) (r : Row) : List String := s.columns.map fun c => s.cell r c.1

end Sheet

end Reporting
