import Reporting.Text.Split

/-!
Keys of rows: a field reference names its column, with underscores for the dots.
-/

namespace Reporting

def keyOf (reference : String) : String :=
  .ofList (reference.toList.map fun c => if c = '.' then '_' else c)

theorem keyOf_eq_self {s : String} (h : '.' ∉ s.toList) : keyOf s = s := by
  have hm : s.toList.map (fun c => if c = '.' then '_' else c) = s.toList.map id :=
    List.map_congr_left fun c hc => if_neg fun hd : c = '.' => h (hd ▸ hc)
  simp only [keyOf, hm, List.map_id, String.ofList_toList]

end Reporting
