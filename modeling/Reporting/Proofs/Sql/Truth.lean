import Reporting.Proofs.Sql.Canonical

/-! The truth of conditions on a row, with a third value for what is neither true nor false. The text
of a condition tells enough of it to settle its truth. -/

namespace Reporting.Sql

inductive Truth where
  | yes
  | no
  | unknown
  deriving DecidableEq, Repr

namespace Truth

def ofBool (b : Bool) : Truth := if b then yes else no

def and : Truth → Truth → Truth
  | yes, t => t
  | no, _ => no
  | unknown, no => no
  | unknown, _ => unknown

def or : Truth → Truth → Truth
  | no, t => t
  | yes, _ => yes
  | unknown, yes => yes
  | unknown, _ => unknown

def all (ts : List Truth) : Truth := ts.foldr and yes

def any (ts : List Truth) : Truth := ts.foldr or no

theorem and_assoc (s t u : Truth) : (s.and t).and u = s.and (t.and u) := by
  cases s <;> cases t <;> cases u <;> rfl

theorem and_yes (t : Truth) : t.and yes = t := by cases t <;> rfl

theorem and_eq_yes_iff {s t : Truth} : s.and t = yes ↔ s = yes ∧ t = yes := by
  cases s <;> cases t <;> decide

theorem and_eq_no_iff {s t : Truth} : s.and t = no ↔ s = no ∨ t = no := by
  cases s <;> cases t <;> decide

theorem all_cons (t : Truth) (ts : List Truth) : all (t :: ts) = t.and (all ts) := rfl

theorem all_eq_yes_iff {ts : List Truth} : all ts = yes ↔ ∀ t ∈ ts, t = yes := by
  induction ts with
  | nil => exact iff_of_true rfl nofun
  | cons t ts ih => rw [all_cons, and_eq_yes_iff, ih, List.forall_mem_cons]

theorem all_eq_no_iff {ts : List Truth} : all ts = no ↔ no ∈ ts := by
  induction ts with
  | nil => exact iff_of_false nofun nofun
  | cons t ts ih => rw [all_cons, and_eq_no_iff, ih, List.mem_cons, eq_comm]

end Truth

inductive Value (α : Type) where
  | number (n : Int)
  | text (s : String)
  | cell (a : α)

structure Interpretation (α : Type) where
  cell : Option String → String → α
  compare : Operator → Value α → Value α → Truth

def Operator.onNumbers : Operator → Int → Int → Bool
  | eq, m, n => m == n
  | ne, m, n => m != n
  | lt, m, n => m < n
  | gt, m, n => n < m
  | le, m, n => m ≤ n
  | ge, m, n => n ≤ m
  | conj, m, n => m != 0 && n != 0

namespace Interpretation

variable {α : Type} (i : Interpretation α)

def value : Expr → Option (Value α)
  | .column table name => some (.cell (i.cell table name))
  | .int n => some (.number n)
  | .string s => some (.text s)
  | _ => none

def compared (op : Operator) : Option (Value α) → Option (Value α) → Truth
  | some (.number m), some (.number n) => .ofBool (op.onNumbers m n)
  | some v, some w => i.compare op v w
  | _, _ => .unknown

def truth : Expr → Truth
  | .binary .conj left right => (truth left).and (truth right)
  | .binary op left right => i.compared op (i.value left) (i.value right)
  | .member e values => .any (values.map fun v => i.compared .eq (i.value e) (i.value v))
  | _ => .unknown

theorem truth_compare {op : Operator} (hop : op ≠ .conj) (left right : Expr) :
    i.truth (.binary op left right) = i.compared op (i.value left) (i.value right) := by
  cases op <;> first | rfl | exact absurd rfl hop

theorem truth_conjuncts (e : Expr) (ts : List Expr) :
    i.truth (ts.foldl (.binary .conj) e) = (i.truth e).and (.all (ts.map i.truth)) := by
  induction ts generalizing e with
  | nil => exact (i.truth e).and_yes.symm
  | cons t ts ih => rw [List.foldl_cons, ih, truth, List.map_cons, Truth.all_cons, Truth.and_assoc]

theorem truth_conjoin (e f : Expr) : i.truth (e.conjoin f) = (i.truth e).and (i.truth f) := by
  fun_induction Expr.conjoin e f with
  | case1 left right ih => rw [truth, ih, truth, Truth.and_assoc]
  | case2 f _ => rw [truth]

theorem value_conjoin (e f : Expr) : i.value (e.conjoin f) = none := by
  cases f with
  | binary op left right => cases op <;> rfl
  | _ => rfl

theorem value_canonical (e : Expr) : i.value e.canonical = i.value e := by
  cases e with
  | binary op left right =>
    cases op with
    | conj => exact i.value_conjoin _ _
    | _ => rfl
  | member e values => cases values <;> rfl
  | column table name | int n | string s | numeric e | star => rfl

theorem truth_canonical (e : Expr) : i.truth e.canonical = i.truth e := by
  fun_induction truth i e with
  | case1 left right ihleft ihright => rw [Expr.canonical, truth_conjoin, ihleft, ihright]
  | case2 op left right hop =>
    rw [Expr.canonical, i.truth_compare hop, value_canonical, value_canonical]
    exact hop
  | case3 e values =>
    -- without values both sides are false: a number is not equal to another one
    cases values with
    | nil => rfl
    | cons v vs =>
      rw [Expr.canonical, truth, Expr.canonicalTail_eq_map, List.map_cons, List.map_cons,
        List.map_map]
      simp only [value_canonical, Function.comp_def]
  | case4 e hconj hbinary hmember =>
    cases e with
    | binary op left right => exact absurd rfl (hbinary op left right)
    | member e values => exact absurd rfl (hmember e values)
    | column table name | int n | string s | numeric e | star => rfl

end Interpretation

end Reporting.Sql
