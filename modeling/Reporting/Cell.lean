import Reporting.Binary64.Decimal
import Reporting.Binary64.Reader
import Reporting.Entries
import Reporting.Text.Blank

/-!
Cells and rows as a source delivers them.
-/

namespace Reporting

inductive Cell where
  | null
  | int (n : Int)
  | float (x : Binary64)
  | text (s : String)
  deriving DecidableEq, Repr, Inhabited

namespace Cell

/--
The numeric reading. Text is trimmed and read; an unreadable text and one that names no finite
number have none.
-/
def number? : Cell → Option Binary64
  | null => none
  | int n => some (.ofInt n)
  | float x => some x
  | text s => (Binary64.read? (Text.trim s.toList)).filter Binary64.isFinite

def isEmpty : Cell → Bool
  | null => true
  | text s => s.isEmpty
  | _ => false

def ofSum (x : Binary64) : Cell :=
  -- An integer is kept where the sum is a whole number of 64 bits.
  match x.toInt? with
  | some n => if n.natAbs < twoTo 63 then int n else float x
  | none => float x

def display : Cell → String
  | null => ""
  | int n => Text.ofInt n
  | float x => x.text
  | text s => s

def same : Cell → Cell → Bool
  | null, null => true
  | int a, int b => a == b
  | float a, float b => a.same b
  | text a, text b => a == b
  | _, _ => false

end Cell

abbrev Row := Entries String Cell

end Reporting
