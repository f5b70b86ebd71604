import Reporting.Definition
import Reporting.Plan.Names
import Reporting.Processing.Blanking
import Reporting.Processing.Sections
import Reporting.Processing.Totals

/-!
What happens to fetched rows before they are rendered: sums within rows, sums over all rows,
sections, and blanking of repeated values within each section. Sums are taken before anything is
blanked.
-/

namespace Reporting

structure Processing where
  clear : List String
  addInRow : List String
  addColumns : List String
  deriving DecidableEq, Repr

structure ProcessedReport where
  sections : List Section
  totals : Option Row
  deriving Repr

def ProcessedReport.rows (r : ProcessedReport) : List Row := r.sections.flatMap Section.rows

namespace Processing

def ofReferences (clear addInRow addColumns : List String) : Processing :=
  ⟨clear.map keyOf, addInRow.map keyOf, addColumns.map keyOf⟩

def ofDefinition (d : Definition) : Processing :=
  ofReferences d.clearColumns d.addInRows d.addColumns

def block (p : Processing) (rows : List Row) : List Row × Option Row :=
  let rows := Totals.addRowTotals p.addInRow rows
  (Blanking.rows p.clear rows, Totals.columnTotals p.addColumns rows)

def sections (pagination : Option Pagination) (rows : List Row) : List Section :=
  match pagination with
  | none => [⟨none, rows⟩]
  | some pagination => pagination.sections rows

def report (p : Processing) (pagination : Option Pagination) (rows : List Row) : ProcessedReport :=
  let rows := Totals.addRowTotals p.addInRow rows
  { sections :=
      (sections pagination rows).map fun s => { s with rows := Blanking.rows p.clear s.rows }
    totals := Totals.columnTotals p.addColumns rows }

end Processing

end Reporting
