import Mathlib.Data.List.TakeWhile
import Mathlib.Data.List.Forall2
import Reporting.Environment
import Reporting.Proofs.Entries
import Reporting.Proofs.Text.Pieces

/-! What a text with references to variables stands for. A text is cut into segments in exactly one
way, and each segment brings in its own piece of the result. -/

namespace Reporting.Environment

section Runs

variable {p : Char → Bool} {name cs : List Char}

end Runs

def Segment.reference? : Segment → Option (List Char)
  | .char _ => none
  | .dollar => none
  | .braced name => some name
  | .bare name => some name

def references (ss : List Segment) : List (List Char) := ss.filterMap Segment.reference?

section Values

variable {env : Environment} {s : Segment} {ss : List Segment} {name cs : List Char}

end Values

end Reporting.Environment
