import Reporting.Sheet

/-!
Sheets as comma-separated records, one a line: the labels, then for each section its title and its
rows, and the totals at the end.
-/

namespace Reporting.Csv

def isSpecial (c : Char) : Bool := c = ',' || c = '\x22' || c = '\r' || c = '\n'

def quotes : Text.Quotes := .double

def field (s : String) : List Char :=
  if s.toList.any isSpecial then (quotes.write s).toList else s.toList

def fields : List String → List Char
  | [] => []
  | [s] => field s
  | s :: ss => field s ++ ',' :: fields ss

def record (ss : List String) : List Char :=
  -- A record that would be an empty line is written as an empty quoted field.
  (match fields ss with
    | [] => ['\x22', '\x22']
    | cs => cs) ++ ['\r', '\n']

def sectionRecords (s : Sheet) (x : Section) : List (List String) :=
  x.title.toList.map (fun title => [title]) ++ x.rows.map s.texts

def records (s : Sheet) : List (List String) :=
  s.columns.map Prod.snd :: s.report.sections.flatMap (sectionRecords s) ++
    s.report.totals.toList.map s.texts

def render (s : Sheet) : String := .ofList ((records s).flatMap record)

end Reporting.Csv
