import Mathlib.Data.List.Nodup
import Mathlib.Logic.Function.Iterate
import Reporting.Proofs.Processing.Cells

/-! Which cells blanking takes away. The cell of a row is compared with the value carried along from
the rows before, once for each time that its column is listed. A column listed once loses the cells
that repeat the one before them; listed again, a cell is compared with itself. -/

namespace Reporting

theorem Binary64.same_self_of_same {a b : Binary64} (h : a.same b = true) : b.same b = true := by
  cases b with
  | nan => cases a <;> cases h
  | infinite negative => simp [same]
  | finite negative mantissa exponent canonical => simp [same]

theorem Cell.same_self_of_same {a b : Cell} (h : a.same b = true) : b.same b = true := by
  cases b with
  | null => rfl
  | int n => simp [same]
  | text s => simp [same]
  | float x =>
    cases a with
    | float y => exact Binary64.same_self_of_same h
    | null => cases h
    | int n => cases h
    | text s => cases h

namespace Blanking

def lastIn (rs : List Row) (key : String) : Option Cell := (rs.filterMap (·.get? key)).getLast?

def isRepeat (earlier : List Row) (key : String) (cell : Cell) : Bool :=
  (lastIn earlier key).any (·.same cell)

def isTaken (keys : List String) (earlier : List Row) (key : String) (cell : Cell) : Bool :=
  match keys.count key with
  | 0 => false
  | 1 => isRepeat earlier key cell
  | _ + 2 => cell.same cell

/-- The rows are shown with an empty text for each cell that goes, and otherwise as they were; the
rows before its own decide whether a cell goes. -/
structure Replaces (goes : List Row → String → Cell → Bool) (rs shown : List Row) : Prop where
  length : shown.length = rs.length
  cell : ∀ {i : Nat} {r s : Row}, rs[i]? = some r → shown[i]? = some s → ∀ key,
    s.get? key = (r.get? key).map fun c => if goes (rs.take i) key c then .text "" else c

theorem lastIn_concat (rs : List Row) (r : Row) (key : String) :
    lastIn (rs ++ [r]) key = (r.get? key).or (lastIn rs key) := by
  unfold lastIn
  rw [List.filterMap_append, List.getLast?_append]
  cases hcell : r.get? key <;> simp [hcell]

/-- What one listing of a column does to the value carried along and to the cell of the row. -/
def pass : Option Cell × Option Cell → Option Cell × Option Cell
  | (last, none) => (last, none)
  | (last, some cell) => (some cell, some (if last.any (·.same cell) then .text "" else cell))

theorem get?_row (keys : List String) (last : Entries String Cell) (r : Row) (key : String) :
    ((row keys last r).1.get? key, (row keys last r).2.get? key) =
      pass^[keys.count key] (last.get? key, r.get? key) := by
  induction keys generalizing last r with
  | nil => rfl
  | cons k keys ih =>
    unfold row
    by_cases hk : k = key
    · subst hk
      rw [List.count_cons_self, Function.iterate_succ_apply]
      cases hcell : r.get? k with
      | none =>
        rw [ih, hcell]
        rfl
      | some cell =>
        dsimp only
        rw [ih, Entries.get?_insert_self]
        split
        · rename_i hrepeat
          rw [Entries.get?_insert_self, pass, if_pos hrepeat]
        · rename_i hnew
          rw [hcell, pass, if_neg hnew]
    · rw [List.count_cons_of_ne hk]
      cases hcell : r.get? k with
      | none => exact ih last r
      | some cell =>
        dsimp only
        rw [ih, Entries.get?_insert_of_ne _ _ (Ne.symm hk)]
        split
        · rw [Entries.get?_insert_of_ne _ _ (Ne.symm hk)]
        · rfl

theorem pass_none (n : Nat) (last : Option Cell) : pass^[n] (last, none) = (last, none) :=
  Function.iterate_fixed rfl n

theorem pass_twice (n : Nat) (last : Option Cell) (cell : Cell) :
    (pass^[n + 2] (last, some cell)).2 = some (if cell.same cell then .text "" else cell) := by
  cases hself : cell.same cell with
  | false =>
    have hne (other : Cell) : other.same cell = false := by
      rw [← Bool.not_eq_true]
      intro h
      rw [Cell.same_self_of_same h] at hself
      cases hself
    have hfix : pass (some cell, some cell) = (some cell, some cell) := by simp [pass, hself]
    have hfirst : pass (last, some cell) = (some cell, some cell) := by simp [pass, hne]
    rw [Function.iterate_succ_apply, hfirst, Function.iterate_fixed hfix]
    rfl
  | true =>
    induction n with
    | zero =>
      show (pass (pass (last, some cell))).2 = _
      cases hrepeat : last.any (·.same cell) <;> simp [pass, hrepeat, hself]
    | succ n ih =>
      -- an empty text stays empty, whatever it is compared with
      rw [Function.iterate_succ_apply']
      generalize pass^[n + 2] (last, some cell) = state at ih
      obtain ⟨carried, shown⟩ := state
      cases ih
      simp [pass]

/-- The values carried along are those of the last rows, as far as the rows themselves decide. -/
def Carries (keys : List String) (last : Entries String Cell) (past : List Row) : Prop :=
  ∀ key, keys.count key = 1 → last.get? key = lastIn past key

theorem Carries.step {keys : List String} {last : Entries String Cell} {past : List Row}
    (h : Carries keys last past) (r : Row) : Carries keys (row keys last r).1 (past ++ [r]) := by
  intro key hkey
  have hrow := congrArg Prod.fst (get?_row keys last r key)
  rw [hkey, Function.iterate_one, h key hkey] at hrow
  rw [lastIn_concat]
  cases hcell : r.get? key with
  | none =>
    rw [hcell] at hrow
    exact hrow
  | some cell =>
    rw [hcell] at hrow
    exact hrow

theorem get?_row_of_carries {keys : List String} {last : Entries String Cell} {past : List Row}
    (h : Carries keys last past) (r : Row) (key : String) :
    (row keys last r).2.get? key =
      (r.get? key).map fun c => if isTaken keys past key c then .text "" else c := by
  have hrow := congrArg Prod.snd (get?_row keys last r key)
  dsimp only at hrow
  rw [hrow]
  cases hcell : r.get? key with
  | none =>
    rw [pass_none]
    rfl
  | some cell =>
    rw [Option.map_some, isTaken]
    match hcount : keys.count key with
    | 0 => rfl
    | 1 =>
      rw [h key hcount]
      rfl
    | n + 2 => exact pass_twice n _ cell

theorem replaces_rowsFrom {keys : List String} {last : Entries String Cell} {past : List Row}
    (h : Carries keys last past) (rs : List Row) :
    Replaces (fun earlier => isTaken keys (past ++ earlier)) rs (rowsFrom keys last rs) := by
  induction rs generalizing last past with
  | nil => exact ⟨rfl, nofun⟩
  | cons r rs ih =>
    have hrest := ih (h.step r)
    refine ⟨length_rowsFrom keys last (r :: rs), ?_⟩
    intro i r' s hr hs key
    cases i with
    | zero =>
      cases hr
      cases hs
      rw [List.take_zero, List.append_nil]
      exact get?_row_of_carries h r key
    | succ i =>
      rw [List.take_succ_cons, List.append_cons past r (rs.take i)]
      exact hrest.cell hr hs key

theorem replaces_rows (keys : List String) (rs : List Row) :
    Replaces (isTaken keys) rs (rows keys rs) := by
  have hnothing : Carries keys .empty [] := fun _ _ => rfl
  exact replaces_rowsFrom hnothing rs

def BlanksRepeats (keys : List String) (rs shown : List Row) : Prop :=
  Replaces (fun earlier key cell => key ∈ keys && isRepeat earlier key cell) rs shown

theorem isTaken_of_nodup {keys : List String} (hkeys : keys.Nodup) (earlier : List Row)
    (key : String) (cell : Cell) :
    isTaken keys earlier key cell = (decide (key ∈ keys) && isRepeat earlier key cell) := by
  by_cases hkey : key ∈ keys
  · simp [isTaken, List.count_eq_one_of_mem hkeys hkey, hkey]
  · simp [isTaken, List.count_eq_zero_of_not_mem hkey, hkey]

theorem blanksRepeats_of_nodup {keys : List String} (hkeys : keys.Nodup) (rs : List Row) :
    BlanksRepeats keys rs (rows keys rs) := by
  have hgoes : isTaken keys = fun earlier key cell => key ∈ keys && isRepeat earlier key cell := by
    funext earlier key cell
    exact isTaken_of_nodup hkeys earlier key cell
  rw [BlanksRepeats, ← hgoes]
  exact replaces_rows keys rs

theorem not_blanksRepeats_of_count {keys : List String} {key : String} {n : Nat}
    (hcount : keys.count key = n + 2) :
    ¬BlanksRepeats keys [.ofList [(key, .int 0)]] (rows keys [.ofList [(key, .int 0)]]) := by
  intro h
  have hcell : (Entries.ofList [(key, Cell.int 0)]).get? key = some (.int 0) :=
    Entries.get?_insert_self _ _ _
  have hshown := (replaces_rows keys [.ofList [(key, .int 0)]]).cell
    (i := 0) (s := (row keys .empty (.ofList [(key, .int 0)])).2) rfl rfl key
  have hrepeats := h.cell (i := 0) (s := (row keys .empty (.ofList [(key, .int 0)])).2) rfl rfl key
  rw [hcell] at hshown hrepeats
  rw [hshown] at hrepeats
  simp [isTaken, hcount, Cell.same, isRepeat, lastIn] at hrepeats

/-- How rows come out of blanking, whatever is listed. Exactly the repeats go, whatever the rows,
only if no two of the listed references have one key. -/
theorem replaces_and_blanksRepeats_iff (clear addInRow addColumns : List String) :
    (∀ rs, Replaces (isTaken (clear.map keyOf)) rs
      (rows (Processing.ofReferences clear addInRow addColumns).clear rs)) ∧
    ((∀ rs, BlanksRepeats (clear.map keyOf) rs
      (rows (Processing.ofReferences clear addInRow addColumns).clear rs)) ↔
        (clear.map keyOf).Nodup) := by
  refine ⟨replaces_rows _, fun h => ?_, blanksRepeats_of_nodup⟩
  by_contra hdup
  rw [List.nodup_iff_count_le_one, not_forall] at hdup
  obtain ⟨key, hkey⟩ := hdup
  obtain ⟨n, hn⟩ := Nat.exists_eq_add_of_le' (Nat.lt_of_not_le hkey)
  exact not_blanksRepeats_of_count hn (h _)

/-- With a column listed twice even the first row loses its cell. -/
theorem not_forall_blanksRepeats :
    ¬∀ (clear : List String) (rs : List Row),
      BlanksRepeats (clear.map keyOf) rs (rows (Processing.ofReferences clear [] []).clear rs) := by
  intro h
  have hcount : (["A", "A"].map keyOf).count "A" = 0 + 2 := by decide
  exact not_blanksRepeats_of_count hcount (h ["A", "A"] _)

end Blanking

end Reporting
