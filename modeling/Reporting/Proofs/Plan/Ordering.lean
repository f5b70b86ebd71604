import Mathlib.Data.List.Forall2
import Reporting.Plan
import Reporting.Proofs.Catalog.FieldSet
import Reporting.Proofs.Sql.Columns

/-! The order of a report's rows: each field on offer makes a term, in the direction that was written
last beside such a field. Without any term the rows are ordered by their identity. -/

namespace Reporting

open Sql

namespace FieldSet

variable {α : Type} {s : FieldSet} {f : String}

/-- What is left of a second list if all that stands beside hidden fields is taken out. -/
def dropHidden (s : FieldSet) : List String → List α → List α
  | [], xs => xs
  | _ :: _, [] => []
  | f :: fs, x :: xs => if s.contains f then x :: s.dropHidden fs xs else s.dropHidden fs xs

theorem dropHidden_of_hidden (hf : s.contains f = false) (fields : List String) (xs : List α) :
    s.dropHidden (f :: fields) xs = s.dropHidden fields xs.tail := by
  cases xs with
  | nil => cases fields <;> rfl
  | cons x xs => rw [dropHidden, hf, if_neg Bool.false_ne_true, List.tail_cons]

theorem head?_dropHidden (hf : s.contains f = true) (fields : List String) (xs : List α) :
    (s.dropHidden (f :: fields) xs).head? = xs.head? := by
  cases xs with
  | nil => rfl
  | cons x xs => rw [dropHidden, if_pos hf, List.head?_cons, List.head?_cons]

theorem tail_dropHidden (hf : s.contains f = true) (fields : List String) (xs : List α) :
    (s.dropHidden (f :: fields) xs).tail = s.dropHidden fields xs.tail := by
  cases xs with
  | nil => cases fields <;> rfl
  | cons x xs => rw [dropHidden, if_pos hf, List.tail_cons, List.tail_cons]

end FieldSet

namespace SortOrder

theorem direction?_eq_some_iff {s : String} {dir : Direction} :
    direction? s = some dir ↔ s = dir.text := by
  unfold direction?
  split_ifs with hasc hdesc
  · rw [hasc]
    cases dir <;> decide
  · rw [hdesc]
    cases dir <;> decide
  · cases dir
    · exact iff_of_false nofun hasc
    · exact iff_of_false nofun hdesc

def Writes (allowed : FieldSet) (fields directions : List String) (j : Nat) (dir : Direction) :
    Prop :=
  (∃ f, fields[j]? = some f ∧ allowed.contains f = true) ∧ directions[j]? = some dir.text

/-- The direction written last, up to and with a position, or else the one from the start. -/
def InForce (start : Direction) (writes : Nat → Direction → Prop) (i : Nat) (dir : Direction) :
    Prop :=
  (∃ j ≤ i, writes j dir ∧ ∀ k, j < k → k ≤ i → ∀ other, ¬writes k other) ∨
    dir = start ∧ ∀ j ≤ i, ∀ other, ¬writes j other

section

variable {start next dir : Direction} {writes : Nat → Direction → Prop} {i : Nat}

theorem InForce.ofWrites (h : writes i dir) : InForce start writes i dir :=
  .inl ⟨i, Nat.le_refl i, h, fun _ hlt hle => absurd hlt (Nat.not_lt.mpr hle)⟩

theorem InForce.ofNone (h : ∀ other, ¬writes 0 other) : InForce start writes 0 start := by
  refine .inr ⟨rfl, fun j hj => ?_⟩
  rw [Nat.le_zero.mp hj]
  exact h

theorem InForce.succ (hfirst : InForce start writes 0 next)
    (h : InForce next (fun j => writes (j + 1)) i dir) : InForce start writes (i + 1) dir := by
  have hlater {j : Nat} (hnone : ∀ k, j ≤ k → k ≤ i → ∀ other, ¬writes (k + 1) other) :
      ∀ k, j < k → k ≤ i + 1 → ∀ other, ¬writes k other := by
    intro k hlt hle
    obtain ⟨k, rfl⟩ := Nat.exists_eq_add_one_of_ne_zero (Nat.ne_zero_of_lt hlt)
    exact hnone k (Nat.le_of_lt_succ hlt) (Nat.le_of_succ_le_succ hle)
  rcases h with ⟨j, hj, hwrites, hnone⟩ | ⟨rfl, hnone⟩
  · exact .inl ⟨j + 1, Nat.succ_le_succ hj, hwrites,
      hlater fun k hle => hnone k (Nat.lt_of_succ_le hle)⟩
  -- nothing is written later on, so the first position settles it
  have hnone := hlater (j := 0) fun k _ => hnone k
  rcases hfirst with ⟨j, hj, hwrites, -⟩ | ⟨rfl, hfirst⟩
  · rw [Nat.le_zero.mp hj] at hwrites
    exact .inl ⟨0, Nat.zero_le _, hwrites, hnone⟩
  · refine .inr ⟨rfl, fun k hk => ?_⟩
    rcases Nat.eq_zero_or_pos k with rfl | hpos
    · exact hfirst 0 (Nat.le_refl 0)
    · exact hnone k hpos hk

end

structure IsTermAt (allowed : FieldSet) (numeric : List String) (start : Direction)
    (fields directions : List String) (i : Nat) (t : SortTerm) : Prop where
  field : fields[i]? = some t.field
  key : t.key = keyOf t.field
  direction : InForce start (Writes allowed fields directions) i t.direction
  numeric : t.numeric = true ↔ ∃ g ∈ numeric, keyOf g = keyOf t.field

section

variable {allowed : FieldSet} {numeric fields directions : List String} {f : String}
  {start next : Direction} {i : Nat} {t : SortTerm}

theorem writes_succ (f : String) : (fun j => Writes allowed (f :: fields) directions (j + 1)) =
    Writes allowed fields directions.tail := by
  funext j dir
  rw [Writes, Writes, List.getElem?_cons_succ, List.getElem?_tail]

theorem not_writes_zero (hf : allowed.contains f = false) (dir : Direction) :
    ¬Writes allowed (f :: fields) directions 0 dir := by
  rintro ⟨⟨g, hg, hoffered⟩, -⟩
  cases hg
  exact Bool.false_ne_true (hf.symm.trans hoffered)

theorem inForce_zero (hf : allowed.contains f = true) :
    InForce start (Writes allowed (f :: fields) directions) 0
      ((directions.head?.bind direction?).getD start) := by
  rw [List.head?_eq_getElem?]
  cases h : directions[0]?.bind direction? with
  | some dir =>
    obtain ⟨s, hs, hdir⟩ := Option.bind_eq_some_iff.mp h
    rw [direction?_eq_some_iff.mp hdir] at hs
    exact .ofWrites ⟨⟨f, rfl, hf⟩, hs⟩
  | none =>
    refine .ofNone ?_
    rintro dir ⟨-, hs⟩
    rw [hs, Option.bind_some, direction?_eq_some_iff.mpr rfl] at h
    cases h

theorem IsTermAt.succ
    (hfirst : InForce start (Writes allowed (f :: fields) directions) 0 next)
    (h : IsTermAt allowed numeric next fields directions.tail i t) :
    IsTermAt allowed numeric start (f :: fields) directions (i + 1) t where
  field := h.field
  key := h.key
  direction := .succ hfirst (by
    rw [writes_succ]
    exact h.direction)
  numeric := h.numeric

end

theorem forall₂_sortTerms (allowed : FieldSet) (numeric : List String) (start : Direction)
    (fields directions : List String) :
    List.Forall₂ (IsTermAt allowed numeric start fields directions) (allowed.positions fields)
      (sortTerms allowed (numeric.map keyOf) start fields directions) := by
  induction fields generalizing start directions with
  | nil => exact .nil
  | cons f fs ih =>
    -- the other terms are one position further on, with what is in force here as their start
    have hrest {next : Direction} (hnext : InForce start (Writes allowed (f :: fs) directions) 0 next) :
        List.Forall₂ (IsTermAt allowed numeric start (f :: fs) directions)
          ((allowed.positions fs).map (· + 1))
          (sortTerms allowed (numeric.map keyOf) next fs directions.tail) := by
      rw [List.forall₂_map_left_iff]
      exact (ih next directions.tail).imp fun i t ht => ht.succ hnext
    rw [FieldSet.positions_cons, sortTerms]
    cases hf : allowed.contains f with
    | true =>
      have hforce : InForce start (Writes allowed (f :: fs) directions) 0 _ := inForce_zero hf
      refine .cons ⟨rfl, rfl, hforce, ?_⟩ (hrest hforce)
      rw [List.contains_iff_mem, List.mem_map]
    | false => exact hrest (.ofNone (not_writes_zero hf))

theorem sortTerms_filter (allowed : FieldSet) (keys : List String) (start : Direction)
    (fields directions : List String) :
    sortTerms allowed keys start (fields.filter allowed.contains)
        (allowed.dropHidden fields directions) =
      sortTerms allowed keys start fields directions := by
  induction fields generalizing start directions with
  | nil => rfl
  | cons f fs ih =>
    cases hf : allowed.contains f with
    | true =>
      rw [List.filter_cons_of_pos hf, sortTerms, sortTerms, if_pos hf, if_pos hf,
        FieldSet.head?_dropHidden hf, FieldSet.tail_dropHidden hf]
      exact congrArg (_ :: ·) (ih _ _)
    | false =>
      have hneg : ¬allowed.contains f = true := by
        rw [hf]
        exact Bool.false_ne_true
      rw [List.filter_cons_of_neg hneg, FieldSet.dropHidden_of_hidden hf, sortTerms, if_neg hneg, ih]

theorem ofLists_cases (allowed : FieldSet) (fields directions numeric : List String)
    (identity : String) :
    (∀ f ∈ fields, allowed.contains f = false) ∧
        ofLists allowed fields directions numeric identity = byIdentity identity ∨
      (∃ f ∈ fields, allowed.contains f = true) ∧
        (ofLists allowed fields directions numeric identity).fallback = false ∧
          List.Forall₂ (IsTermAt allowed numeric .asc fields directions) (allowed.positions fields)
            (ofLists allowed fields directions numeric identity).terms := by
  have hterms := forall₂_sortTerms allowed numeric .asc fields directions
  rw [ofLists]
  cases hsort : sortTerms allowed (numeric.map keyOf) .asc fields directions with
  | nil =>
    rw [hsort, List.forall₂_nil_right_iff] at hterms
    exact .inl ⟨FieldSet.positions_eq_nil_iff.mp hterms, rfl⟩
  | cons t ts =>
    rw [hsort] at hterms
    refine .inr ⟨?_, rfl, hterms⟩
    by_contra hnone
    have hhidden : ∀ f ∈ fields, allowed.contains f = false := fun f hf =>
      Bool.eq_false_iff.mpr fun hoffered => hnone ⟨f, hf, hoffered⟩
    rw [FieldSet.positions_eq_nil_iff.mpr hhidden] at hterms
    cases hterms

theorem contains_of_mem_terms {allowed : FieldSet} {numeric fields directions : List String}
    {start : Direction} {terms : List SortTerm}
    (h : List.Forall₂ (IsTermAt allowed numeric start fields directions) (allowed.positions fields)
      terms) : ∀ t ∈ terms, allowed.contains t.field = true := by
  intro t ht
  obtain ⟨hlength, hat⟩ := List.forall₂_iff_get.mp h
  obtain ⟨k, hk, rfl⟩ := List.mem_iff_getElem.mp ht
  have hterm := hat k (hlength ▸ hk) hk
  obtain ⟨f, hf, hoffered⟩ := FieldSet.mem_positions.mp (List.getElem_mem (hlength ▸ hk))
  have hfield : f = terms[k].field := Option.some.inj (hf.symm.trans hterm.field)
  exact hfield ▸ hoffered

theorem ofLists_eq_byIdentity {allowed : FieldSet} {fields : List String}
    (h : ∀ f ∈ fields, allowed.contains f = false) (directions numeric : List String)
    (identity : String) : ofLists allowed fields directions numeric identity = byIdentity identity := by
  rcases ofLists_cases allowed fields directions numeric identity with ⟨-, horder⟩ | ⟨hsome, -⟩
  · exact horder
  · obtain ⟨f, hf, hoffered⟩ := hsome
    exact absurd ((h f hf).symm.trans hoffered) Bool.false_ne_true

/-- Each field on offer makes a term, with the direction written last beside such fields; the identity
orders the rows where there is none. Hidden fields can be taken out with what stands beside them. -/
theorem terms_and_ofLists_filter (allowed : FieldSet) (fields directions numeric : List String)
    (identity : String) :
    let order := ofLists allowed fields directions numeric identity
    ((∀ f ∈ fields, allowed.contains f = false) ∧ order = ⟨[⟨identity, identity, .asc, false⟩], true⟩ ∨
      (∃ f ∈ fields, allowed.contains f = true) ∧ order.fallback = false ∧
        List.Forall₂ (IsTermAt allowed numeric .asc fields directions) (allowed.positions fields)
          order.terms) ∧
    order.terms ≠ [] ∧
    ofLists allowed (fields.filter allowed.contains) (allowed.dropHidden fields directions) numeric
      identity = order := by
  intro order
  have hcases := ofLists_cases allowed fields directions numeric identity
  refine ⟨hcases, ?_, ?_⟩
  · rcases hcases with ⟨-, horder⟩ | ⟨⟨f, hf, hoffered⟩, -, hterms⟩
    · rw [show order = byIdentity identity from horder]
      exact List.cons_ne_nil _ _
    · intro hnil
      rw [show order.terms = [] from hnil, List.forall₂_nil_right_iff,
        FieldSet.positions_eq_nil_iff] at hterms
      exact Bool.false_ne_true ((hterms f hf).symm.trans hoffered)
  · rw [ofLists, sortTerms_filter, ← ofLists]

end SortOrder

namespace Plan

/-- One ascending term, on the column that the identity names. With joins its table is told: the one
that the identity names, or else that of the catalog. -/
def NamesIdentity (o : Offer) (terms : List Ordered) : Prop :=
  ∃ table, terms = [⟨.column table (Expr.columnOf o.identity).2, .asc⟩] ∧
    (o.joins ≠ [] → table = some ((Expr.columnOf o.identity).1.getD o.source.table))

section

variable {o : Offer} {d : Definition}

theorem orderBy_of_hidden (h : ∀ f ∈ d.sortFields, o.fields.contains f = false) :
    (ofOffer o d).orderBy =
      [⟨if o.joins = [] then .field o.identity else .column (some o.source.table) o.identity,
        .asc⟩] := by
  have horder : (ofOffer o d).order = .byIdentity o.identity :=
    SortOrder.ofLists_eq_byIdentity h d.sortDirections o.numeric o.identity
  have hjoins : (ofOffer o d).joins = o.joins.map JoinSpec.join := rfl
  rw [orderBy, horder, hjoins]
  cases o.joins with
  | nil => rfl
  | cons j js => rfl

theorem namesIdentity_iff (h : ∀ f ∈ d.sortFields, o.fields.contains f = false) :
    NamesIdentity o (ofOffer o d).orderBy ↔
      o.joins = [] ∨ Expr.columnOf o.identity = (none, o.identity) := by
  rw [orderBy_of_hidden h, NamesIdentity]
  by_cases hjoins : o.joins = []
  · rw [if_pos hjoins, Expr.field_eq_columnOf]
    exact iff_of_true ⟨_, rfl, fun hne => absurd hjoins hne⟩ (.inl hjoins)
  rw [if_neg hjoins, or_iff_right hjoins, ← Expr.snd_columnOf_eq_iff]
  constructor
  · rintro ⟨table, hterms, -⟩
    exact (Expr.column.inj (Ordered.mk.inj (List.cons.inj hterms).1).1).2.symm
  · intro hbare
    refine ⟨some o.source.table, by rw [hbare], fun _ => ?_⟩
    rw [(Expr.snd_columnOf_eq_iff _).mp hbare, Option.getD_none]

theorem columnName_orderBy (h : ∀ f ∈ d.sortFields, o.fields.contains f = false) :
    (ofOffer o d).orderBy.map Ordered.columnName =
      [some (if o.joins = [] then (Expr.columnOf o.identity).2 else o.identity)] := by
  rw [orderBy_of_hidden h, Expr.field_eq_columnOf]
  split_ifs <;> rfl

end

/-- Without a field to sort by the rows are ordered by the identity. It is split into a table and a
column as other references are only where nothing is joined, so with joins it is named, and the same
column stays, only if it is a bare reference. -/
theorem orderBy_and_namesIdentity_iff (o : Offer) (d : Definition)
    (h : ∀ f ∈ d.sortFields, o.fields.contains f = false) :
    (ofOffer o d).orderBy =
      [⟨if o.joins = [] then .field o.identity else .column (some o.source.table) o.identity,
        .asc⟩] ∧
    (NamesIdentity o (ofOffer o d).orderBy ↔
      o.joins = [] ∨ Expr.columnOf o.identity = (none, o.identity)) ∧
    ((∀ joins, (ofOffer { o with joins := joins } d).orderBy.map Ordered.columnName =
        (ofOffer { o with joins := [] } d).orderBy.map Ordered.columnName) ↔
      Expr.columnOf o.identity = (none, o.identity)) := by
  refine ⟨orderBy_of_hidden h, namesIdentity_iff h, ?_⟩
  have hname (joins : List JoinSpec) := columnName_orderBy (o := { o with joins := joins }) h
  rw [← Expr.snd_columnOf_eq_iff]
  constructor
  · intro hsame
    have hjoined := hsame [⟨"", .left, "", ""⟩]
    rw [hname, hname, if_pos rfl, if_neg (List.cons_ne_nil _ _)] at hjoined
    exact (Option.some.inj (List.cons.inj hjoined).1).symm
  · intro hbare joins
    rw [hname, hname, hbare, ite_self, ite_self]

theorem orderBy_books :
    let o := Catalog.offer
      { name := "Books", entity := "Book", identity := "Book.ID",
        joins := [⟨"Author", .left, "Book.AuthorID", "Author.ID"⟩] }
    (ofOffer o { sortFields := ["Price"] }).orderBy = [⟨.column (some "Book") "Book.ID", .asc⟩] := by
  intro o
  have hhidden : ∀ f ∈ ["Price"], o.fields.contains f = false := fun _ _ =>
    Catalog.contains_fieldSet_eq_false _ List.not_mem_nil
  exact (orderBy_and_namesIdentity_iff o { sortFields := ["Price"] } hhidden).1

/-- An identity that tells its table is not named where another table is joined. -/
theorem not_forall_namesIdentity :
    ¬∀ (c : Catalog) (d : Definition), (∀ f ∈ d.sortFields, c.fieldSet.contains f = false) →
      NamesIdentity c.offer (ofDefinition c d).orderBy := by
  intro h
  let c : Catalog :=
    { name := "Books", entity := "Book", identity := "Book.ID",
      joins := [⟨"Author", .left, "Book.AuthorID", "Author.ID"⟩] }
  have hnames := (namesIdentity_iff (o := c.offer) (d := {}) nofun).mp (h c {} nofun)
  rcases hnames with hjoins | hbare
  · cases hjoins
  · revert hbare
    decide

end Plan

end Reporting
