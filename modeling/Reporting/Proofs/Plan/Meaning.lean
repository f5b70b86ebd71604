import Reporting.Proofs.Plan.Conditions
import Reporting.Proofs.Plan.Statement
import Reporting.Proofs.Sql.Grouping
import Reporting.Proofs.Sql.Truth
import Reporting.Proofs.Text.Pieces

/-! What the text of a filter means. Read by the usual precedences it is true of a row exactly if each
condition that counts holds there. -/

namespace Reporting

open Sql

namespace Sql.Interpretation

variable {α : Type} (i : Interpretation α)

def holds (f : String) (c : Comparison) (x : Operand) : Truth :=
  let cell := Value.cell (i.cell (Expr.columnOf f).1 (Expr.columnOf f).2)
  match c, x with
  | .eq, .single value => i.compare .eq cell (.text value)
  | .ne, .single value => i.compare .ne cell (.text value)
  | .ge, .single value => i.compare .ge cell (.text value)
  | .gt, .single value => i.compare .gt cell (.text value)
  | .lt, .single value => i.compare .lt cell (.text value)
  | .le, .single value => i.compare .le cell (.text value)
  | .member, .list members => .any (members.map fun m => i.compare .eq cell (.text m))
  | _, _ => .unknown

theorem truth_predicate {p : Predicate} {value : String}
    (h : Filter.IsOperand value p.comparison p.operand) :
    i.truth p.expr = i.holds p.field p.comparison p.operand := by
  obtain ⟨f, c, x⟩ := p
  have hvalue : i.value (Expr.field f) =
      some (.cell (i.cell (Expr.columnOf f).1 (Expr.columnOf f).2)) := by
    rw [Expr.field_eq_columnOf]
    rfl
  -- the operand is a list under membership only, so it is never tested by another comparison
  rcases h with hc | @⟨members, -⟩
  · cases c with
    | member => exact absurd rfl hc
    | _ =>
      show i.compared _ (i.value (.field f)) (some (.text value)) = _
      rw [hvalue]
      rfl
  · show i.truth (.member (.field f) (members.map .string)) = _
    rw [truth, List.map_map, hvalue]
    rfl

end Sql.Interpretation

namespace Filter

/-- The expression that is written for a filter; without predicates it is one that always holds. -/
def condition (f : Filter) : Expr := f.expr.getD (.binary .eq (.int 1) (.int 1))

theorem sql_eq_condition (d : Dialect) (f : Filter) : f.sql d = f.condition.sql d := by
  unfold sql condition
  cases f.expr with
  | none =>
    show "1 = 1" = String.join [Text.ofInt 1, " ", "=", " ", Text.ofInt 1]
    rw [Reading.ofInt_one]
    rfl
  | some e => rfl

theorem fits_condition (d : Dialect) (f : Filter) : f.condition.canonical.Fits d := by
  unfold condition
  cases he : f.expr with
  | none => exact .compare (by decide) (.int 1) (.int 1) rfl rfl
  | some e => exact (f.isConjunction_expr e he).fits_canonical d

theorem read_sql (d : Dialect) (f : Filter) :
    Expr.read d (f.sql d) = some f.condition.canonical := by
  rw [sql_eq_condition, ← Expr.sql_canonical]
  exact read_of_fits (f.fits_condition d)

theorem truth_condition {α : Type} (i : Interpretation α) (f : Filter) :
    i.truth f.condition = .all (f.map fun p => i.truth p.expr) := by
  cases f with
  | nil => rfl
  | cons p ps =>
    show i.truth (ps.foldl (fun e q => .binary .conj e q.expr) p.expr) = _
    rw [← List.foldl_map, i.truth_conjuncts, List.map_map]
    rfl

section

variable {allowed : FieldSet} {fields operators values : List String}

theorem truth_condition_eq_yes_iff {α : Type} (i : Interpretation α) :
    i.truth (ofLists allowed fields operators values).condition = .yes ↔
      ∀ n f c value, Accepted allowed fields operators values n f c value →
        ∃ x, IsOperand value c x ∧ i.holds f c x = .yes := by
  rw [truth_condition, Truth.all_eq_yes_iff, List.forall_mem_map]
  constructor
  · intro h n f c value haccepted
    have hx : IsOperand value c (operand c value) := isOperand_iff.mpr rfl
    have hp := h ⟨f, c, operand c value⟩ (mem_ofLists_iff.mpr ⟨n, value, haccepted, hx⟩)
    rw [i.truth_predicate hx] at hp
    exact ⟨_, hx, hp⟩
  · intro h p hp
    obtain ⟨n, value, haccepted, hoperand⟩ := mem_ofLists_iff.mp hp
    obtain ⟨x, hx, hyes⟩ := h n p.field p.comparison value haccepted
    rw [i.truth_predicate hoperand, isOperand_iff.mp hoperand, ← isOperand_iff.mp hx]
    exact hyes

theorem truth_condition_eq_no_iff {α : Type} (i : Interpretation α) :
    i.truth (ofLists allowed fields operators values).condition = .no ↔
      ∃ n f c value x, Accepted allowed fields operators values n f c value ∧
        IsOperand value c x ∧ i.holds f c x = .no := by
  rw [truth_condition, Truth.all_eq_no_iff, List.mem_map]
  constructor
  · rintro ⟨p, hp, hno⟩
    obtain ⟨n, value, haccepted, hoperand⟩ := mem_ofLists_iff.mp hp
    rw [i.truth_predicate hoperand] at hno
    exact ⟨n, p.field, p.comparison, value, p.operand, haccepted, hoperand, hno⟩
  · rintro ⟨n, f, c, value, x, haccepted, hx, hno⟩
    refine ⟨⟨f, c, x⟩, mem_ofLists_iff.mpr ⟨n, value, haccepted, hx⟩, ?_⟩
    rw [i.truth_predicate hx, hno]

end

/-! Members are pieces that need no more trimming, so they can be joined again and cut again. -/

theorem isList_intercalate {ms : List String}
    (h : ∀ m ∈ ms, ',' ∉ m.toList ∧ Text.IsTrimmed m.toList m.toList ∧ m ≠ "") :
    IsList (",".intercalate ms) ms := by
  by_cases hms : ms = []
  · rw [hms, isList_iff]
    rfl
  refine ⟨ms.map String.toList, ms.map String.toList, List.map_eq_nil_iff.not.mpr hms, ?_, ?_, ?_, ?_⟩
  · exact List.forall_mem_map.mpr fun m hm => (h m hm).1
  · rw [String.toList_intercalate]
    rfl
  · rw [List.forall₂_map_left_iff, List.forall₂_map_right_iff]
    exact List.forall₂_same.mpr fun m hm => (h m hm).2.1
  · refine (List.filter_eq_self.mpr (List.forall_mem_map.mpr fun m hm => ?_)).symm
    simpa using (h m hm).2.2

theorem isList_members_rejoined (value : String) :
    IsList (",".intercalate (members value)) (members value) := by
  refine isList_intercalate fun m hm => ?_
  obtain ⟨piece, hpiece, hne, rfl⟩ := mem_members_iff.mp hm
  rw [String.toList_ofList]
  refine ⟨fun hcomma => ?_, Text.isTrimmed_iff.mpr (Text.trim_trim piece), ?_⟩
  · exact Text.not_mem_of_mem_splitOn hpiece (Text.mem_of_mem_trim hcomma)
  · rw [Ne, ← String.toList_inj, String.toList_ofList]
    exact hne

/-- The text of a filter is true of a row if all conditions that count hold, as they do if there are
none, and false if one of them is, as a membership in nothing is. Each value makes one list, which is
that of its members joined again. -/
theorem truth_read_sql (allowed : FieldSet) (fields operators values : List String) (d : Dialect) :
    (∃ e, Expr.read d (sql d (ofLists allowed fields operators values)) = some e ∧
      ∀ (α : Type) (i : Interpretation α),
        (i.truth e = .yes ↔ ∀ n f c value, Accepted allowed fields operators values n f c value →
          ∃ x, IsOperand value c x ∧ i.holds f c x = .yes) ∧
        (i.truth e = .no ↔ ∃ n f c value x, Accepted allowed fields operators values n f c value ∧
          IsOperand value c x ∧ i.holds f c x = .no) ∧
        ((∀ n f c value, ¬Accepted allowed fields operators values n f c value) →
          i.truth e = .yes) ∧
        ∀ n f value, Accepted allowed fields operators values n f .member value →
          IsList value [] → i.truth e = .no) ∧
    ∀ value, ∃ members, (∀ members', IsList value members' ↔ members' = members) ∧
      IsList (",".intercalate members) members := by
  refine ⟨⟨_, read_sql d _, fun α i => ?_⟩, fun value => ?_⟩
  · have hyes : i.truth (ofLists allowed fields operators values).condition = .yes ↔ _ :=
      truth_condition_eq_yes_iff i
    have hno : i.truth (ofLists allowed fields operators values).condition = .no ↔ _ :=
      truth_condition_eq_no_iff i
    rw [i.truth_canonical]
    refine ⟨hyes, hno, fun hnone => ?_, fun n f value haccepted hempty => ?_⟩
    · exact hyes.mpr fun n f c value haccepted => absurd haccepted (hnone n f c value)
    · exact hno.mpr ⟨n, f, .member, value, .list [], haccepted, .list hempty, rfl⟩
  · exact ⟨members value, fun _ => isList_iff, isList_members_rejoined value⟩

theorem exists_read_sql_books :
    let allowed := (Catalog.offer
      { name := "Books", entity := "Book", fields := [{ name := "Title" }] }).fields
    (∃ e, Expr.read .postgres
        (sql .postgres (ofLists allowed ["Title"] [" in "] [" Emma,, Persuasion ,"])) = some e ∧
      ∀ (α : Type) (i : Interpretation α), i.truth e = .yes ↔
        i.compare .eq (.cell (i.cell none "Title")) (.text "Emma") = .yes ∨
          i.compare .eq (.cell (i.cell none "Title")) (.text "Persuasion") = .yes) ∧
    ∃ e, Expr.read .postgres (sql .postgres (ofLists allowed ["Title"] [" in "] [", ,"])) = some e ∧
      ∀ (α : Type) (i : Interpretation α), i.truth e = .no := by
  intro allowed
  have hoffered : allowed.contains "Title" = true :=
    (Catalog.contains_fieldSet _ "Title").mpr (List.mem_singleton_self _)
  have haccepted (value : String) (hvalue : value ≠ "") :
      Accepted allowed ["Title"] [" in "] [value] 0 "Title" .member value :=
    ⟨rfl, hoffered, ⟨⟨" in ", rfl, by decide, by decide⟩, rfl, hvalue⟩, nofun⟩
  refine ⟨?_, ?_⟩
  · obtain ⟨⟨e, hread, htruth⟩, -⟩ :=
      truth_read_sql allowed ["Title"] [" in "] [" Emma,, Persuasion ,"] .postgres
    refine ⟨e, hread, fun α i => ?_⟩
    have hx : IsOperand " Emma,, Persuasion ," .member (.list ["Emma", "Persuasion"]) :=
      .list (isList_iff.mpr (by decide))
    have hor (s t : Truth) : Truth.any [s, t] = .yes ↔ s = .yes ∨ t = .yes := by
      cases s <;> cases t <;> decide
    have hholds : i.holds "Title" .member (.list ["Emma", "Persuasion"]) = .yes ↔
        i.compare .eq (.cell (i.cell none "Title")) (.text "Emma") = .yes ∨
          i.compare .eq (.cell (i.cell none "Title")) (.text "Persuasion") = .yes := hor _ _
    have hone := haccepted " Emma,, Persuasion ," (by decide)
    rw [(htruth α i).1, ← hholds]
    constructor
    · intro h
      obtain ⟨x, hx', hyes⟩ := h 0 "Title" .member _ hone
      rwa [isOperand_iff.mp hx', ← isOperand_iff.mp hx] at hyes
    · intro hyes n f c value h
      obtain ⟨hn, rfl⟩ := List.getElem?_eq_some_iff.mp h.field
      obtain rfl := Nat.lt_one_iff.mp hn
      obtain ⟨rfl, rfl⟩ := h.written.unique hone.written
      exact ⟨_, hx, hyes⟩
  · obtain ⟨⟨e, hread, htruth⟩, -⟩ :=
      truth_read_sql allowed ["Title"] [" in "] [", ,"] .postgres
    exact ⟨e, hread, fun α i => (htruth α i).2.2.2 0 "Title" ", ," (haccepted ", ," (by decide))
      (isList_iff.mpr (by decide))⟩

end Filter

end Reporting
