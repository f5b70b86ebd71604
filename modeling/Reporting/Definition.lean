import Reporting.Catalog
import Reporting.Text.Blank

/-!
Report definitions as they are stored, and the records of generated reports. The lists of a
definition are independent of each other and may differ in length; nothing is checked here.
-/

namespace Reporting

structure Definition where
  title : String := ""
  description : String := ""
  selected : List String := []
  /-- Headers by the position of the selected field; a blank one is none. -/
  headers : List String := []
  conditionFields : List String := []
  conditionOperators : List String := []
  conditionValues : List String := []
  paginateBy : Option String := none
  pageHeader : String := "$name"
  sortFields : List String := []
  sortDirections : List String := []
  clearColumns : List String := []
  addInRows : List String := []
  addColumns : List String := []
  deriving DecidableEq, Repr, Inhabited

namespace Definition

def select (d : Definition) (field : String) (header : Option String) : Definition :=
  { d with selected := d.selected ++ [field], headers := d.headers ++ [header.getD ""] }

def condition (d : Definition) (field operator value : String) : Definition :=
  { d with
    conditionFields := d.conditionFields ++ [field]
    conditionOperators := d.conditionOperators ++ [operator]
    conditionValues := d.conditionValues ++ [value] }

def sort (d : Definition) (field direction : String) : Definition :=
  { d with
    sortFields := d.sortFields ++ [field]
    sortDirections := d.sortDirections ++ [direction] }

def paginate (d : Definition) (field header : String) : Definition :=
  { d with paginateBy := some field, pageHeader := header }

def paginationField (d : Definition) : Option String :=
  d.paginateBy.filter fun f => !Text.isBlankText f

end Definition

structure DefinitionFile where
  catalog : Catalog
  report : Definition := {}
  deriving DecidableEq, Repr

inductive OutputFormat where
  | html
  | csv
  | pdf
  deriving DecidableEq, Repr, Inhabited

structure UnknownFormat where
  name : String
  deriving DecidableEq, Repr

def UnknownFormat.message (e : UnknownFormat) : String := "Unknown report format: " ++ e.name

namespace OutputFormat

def name : OutputFormat → String
  | html => "html"
  | csv => "csv"
  | pdf => "pdf"

def ofName (s : String) : Except UnknownFormat OutputFormat :=
  match [html, csv, pdf].find? fun f => f.name == Text.lowerAscii s with
  | some f => .ok f
  | none => .error ⟨s⟩

end OutputFormat

/--
A generated report and where its files are kept. One that was not made from a stored report is a
preview.
-/
structure Record where
  id : Nat
  reportId : Option Nat := none
  definition : Definition
  html : Option String := none
  csv : Option String := none
  pdf : Option String := none
  deriving DecidableEq, Repr

namespace Record

def file (r : Record) : OutputFormat → Option String
  | .html => r.html
  | .csv => r.csv
  | .pdf => r.pdf

def setFile (r : Record) (format : OutputFormat) (path : String) : Record :=
  match format with
  | .html => { r with html := some path }
  | .csv => { r with csv := some path }
  | .pdf => { r with pdf := some path }

@[simp] theorem file_setFile_self (r : Record) (f : OutputFormat) (path : String) :
    (r.setFile f path).file f = some path := by
  cases f <;> rfl

theorem file_setFile_of_ne (r : Record) {f g : OutputFormat} (path : String) (h : g ≠ f) :
    (r.setFile f path).file g = r.file g := by
  cases f <;> cases g <;> simp_all [setFile, file]

@[simp] theorem reportId_setFile (r : Record) (f : OutputFormat) (path : String) :
    (r.setFile f path).reportId = r.reportId := by
  cases f <;> rfl

@[simp] theorem id_setFile (r : Record) (f : OutputFormat) (path : String) :
    (r.setFile f path).id = r.id := by
  cases f <;> rfl

end Record

end Reporting
