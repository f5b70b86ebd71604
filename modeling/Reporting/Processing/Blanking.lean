import Reporting.Cell

/-!
Blanking of repeated values: where a cleared column has the same value as in the last row that had
the column, an empty text takes its place.
-/

namespace Reporting.Blanking

def row : List String → Entries String Cell → Row → Entries String Cell × Row
  -- `last` holds the values met last.
  | [], last, r => (last, r)
  | key :: keys, last, r =>
    match r.get? key with
    | none => row keys last r
    | some cell =>
      let repeated := (last.get? key).any fun before => before.same cell
      row keys (last.insert key cell) (if repeated then r.insert key (.text "") else r)

def rowsFrom (keys : List String) : Entries String Cell → List Row → List Row
  | _, [] => []
  | last, r :: rs =>
    let (last, r) := row keys last r
    r :: rowsFrom keys last rs

def rows (keys : List String) (rs : List Row) : List Row := rowsFrom keys .empty rs

end Reporting.Blanking
