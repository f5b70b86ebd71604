import Reporting.Cell

/-!
Sums within a row and over all rows. A cell without a number counts as nothing.
-/

namespace Reporting

def rowTotalKey : String := "RowTotal"

namespace Totals

def numbers (keys : List String) (row : Row) : List Binary64 :=
  keys.filterMap fun key => (row.get? key).bind Cell.number?

def rowTotal (keys : List String) (row : Row) : Cell := .ofSum (.sum (numbers keys row))

def addRowTotals (keys : List String) (rows : List Row) : List Row :=
  if keys.isEmpty then rows
  else rows.map fun row => row.insert rowTotalKey (rowTotal keys row)

def columnNumbers (rows : List Row) (key : String) : List Binary64 :=
  rows.filterMap fun row => (row.get? key).bind Cell.number?

def columnTotal (rows : List Row) (key : String) : Cell := .ofSum (.sum (columnNumbers rows key))

def columnTotals (keys : List String) (rows : List Row) : Option Row :=
  if keys.isEmpty then none
  else some (.ofList (keys.map fun key => (key, columnTotal rows key)))

end Totals

end Reporting
