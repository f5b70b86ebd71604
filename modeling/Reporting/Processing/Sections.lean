import Reporting.Cell

/-!
Sections of rows that show the same text in one column, in the order in which the texts are first
met.
-/

namespace Reporting

structure Pagination where
  key : String
  header : String
  deriving DecidableEq, Repr

structure Section where
  title : Option String
  rows : List Row
  deriving Repr

namespace Pagination

def title (p : Pagination) (name : String) : String := Text.replace p.header "$name" name

def name (p : Pagination) (r : Row) : String :=
  -- A missing cell counts as an empty one.
  match r.get? p.key with
  | some cell => cell.display
  | none => ""

def addRow (name : String) (r : Row) : List (String × List Row) → List (String × List Row)
  | [] => [(name, [r])]
  | g :: gs => if g.1 = name then (name, g.2 ++ [r]) :: gs else g :: addRow name r gs

def groups (p : Pagination) (rs : List Row) : List (String × List Row) :=
  rs.foldl (fun gs r => addRow (p.name r) r gs) []

def sections (p : Pagination) (rs : List Row) : List Section :=
  (p.groups rs).map fun g => ⟨some (p.title g.1), g.2⟩

end Pagination

end Reporting
