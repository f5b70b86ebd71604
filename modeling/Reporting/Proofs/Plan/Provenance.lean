import Mathlib.Data.Option.Basic
import Reporting.Proofs.Plan.Conditions
import Reporting.Proofs.Plan.Ordering
import Reporting.Proofs.Plan.Selection
import Reporting.Proofs.Sql.Quoting
import Reporting.Proofs.Sql.Spacing

/-! Where the names and strings of a statement come from. Names come from the catalog alone and
strings from the values of conditions, so hidden references leave no trace. -/

namespace Reporting

open Sql

inductive Offer.Names (o : Offer) : String → Prop
  | field {f n : String} (hf : o.fields.contains f = true) (hn : .name n ∈ (Expr.field f).quoted) :
      Names o n
  | key {f : String} (hf : o.fields.contains f = true) : Names o (keyOf f)
  | entity : Names o o.source.table
  | schema {s : String} (hs : o.source.schema = some s) : Names o s
  | identity : Names o o.identity
  | identityPart {n : String} (hn : .name n ∈ (Expr.field o.identity).quoted) : Names o n
  | joined {j : JoinSpec} (hj : j ∈ o.joins) : Names o j.table
  | joinedOn {j : JoinSpec} {n : String} (hj : j ∈ o.joins)
      (hn : .name n ∈ (Expr.field j.left).quoted ++ (Expr.field j.right).quoted) : Names o n

/-- The value at a position of the conditions. Under `IN` it is a piece of it between commas, without
the blanks around it. -/
inductive Definition.Literal (d : Definition) : String → Prop
  | value {i : Nat} {operator v : String} {c : Comparison}
      (hoperator : d.conditionOperators[i]? = some operator)
      (hvalue : d.conditionValues[i]? = some v)
      (hc : Comparison.ofText? operator = some c) (hne : c ≠ .member) : Literal d v
  | piece {i : Nat} {operator v : String} {piece : List Char}
      (hoperator : d.conditionOperators[i]? = some operator)
      (hvalue : d.conditionValues[i]? = some v)
      (hc : Comparison.ofText? operator = some .member)
      (hpiece : piece ∈ Text.splitOn ',' v.toList) : Literal d (.ofList (Text.trim piece))

def Traced (o : Offer) (d : Definition) : Lexeme → Prop
  | .word w => w ∈ vocabulary
  | .name s => o.Names s
  | .string s => d.Literal s
  | .number _ => True
  | .mark _ => True

theorem Sql.Expr.exists_name_of_mem_field {reference : String} {l : Lexeme}
    (h : l ∈ (Expr.field reference).quoted) : ∃ n, l = .name n := by
  rcases Expr.field_eq reference with hf | ⟨_, _, hf, -⟩ <;> rw [hf] at h
  · exact ⟨_, List.mem_singleton.mp h⟩
  · rcases List.mem_cons.mp h with h | h
    · exact ⟨_, h⟩
    · exact ⟨_, List.mem_singleton.mp h⟩

theorem Sql.Expr.mem_quoted_member {e : Expr} {values : List String} {l : Lexeme}
    (h : l ∈ (Expr.member e (values.map .string)).quoted) :
    l ∈ e.quoted ∨ ∃ s ∈ values, l = .string s := by
  cases values with
  | nil => cases h
  | cons v vs =>
    have hl : l ∈ e.quoted ++ [.string v] ++ Expr.quotedAll (vs.map .string) := h
    rw [Expr.quotedAll_map_string, List.append_assoc] at hl
    rcases List.mem_append.mp hl with hl | hl
    · exact .inl hl
    · obtain ⟨s, hs, rfl⟩ := List.mem_map.mp (show l ∈ (v :: vs).map .string from hl)
      exact .inr ⟨s, hs, rfl⟩

section

variable {o : Offer} {d : Definition}

theorem traced_of_mem_field {reference : String}
    (h : ∀ n, .name n ∈ (Expr.field reference).quoted → o.Names n) :
    ∀ l ∈ (Expr.field reference).quoted, Traced o d l := by
  intro l hl
  obtain ⟨n, rfl⟩ := Expr.exists_name_of_mem_field hl
  exact h n hl

theorem traced_of_offered {f : String} (hf : o.fields.contains f = true) :
    ∀ l ∈ (Expr.field f).quoted, Traced o d l :=
  traced_of_mem_field fun _ => .field hf

theorem traced_select {s : Selected} (hs : s ∈ (Plan.ofOffer o d).query.select) :
    ∀ l ∈ s.quoted, Traced o d l := by
  rcases Plan.eq_star_or_offered hs with rfl | ⟨f, hf, rfl⟩
  · exact fun l hl => nomatch hl
  · intro l hl
    rcases List.mem_append.mp hl with hl | hl
    · exact traced_of_offered hf l hl
    · obtain ⟨n, hn, rfl⟩ := List.mem_map.mp hl
      have hrename : (ProjectedField.ofReference f).rename = some n := Option.mem_toList.mp hn
      have hkey := ProjectedField.key_ofReference f
      rw [ProjectedField.key, hrename, Option.getD_some] at hkey
      rw [hkey]
      exact .key hf

theorem traced_source : ∀ l ∈ o.source.quoted, Traced o d l := by
  intro l hl
  rcases List.mem_append.mp hl with hl | hl
  · obtain ⟨s, hs, rfl⟩ := List.mem_map.mp hl
    exact .schema (Option.mem_toList.mp hs)
  · rw [List.mem_singleton.mp hl]
    exact .entity

theorem traced_join {j : JoinSpec} (hj : j ∈ o.joins) : ∀ l ∈ j.join.quoted, Traced o d l := by
  intro l hl
  rcases List.mem_append.mp hl with hl | hl
  · rw [List.mem_singleton.mp hl]
    exact .joined hj
  · have hside : l ∈ (Expr.field j.left).quoted ++ (Expr.field j.right).quoted := hl
    obtain ⟨n, rfl⟩ : ∃ n, l = .name n :=
      (List.mem_append.mp hside).elim Expr.exists_name_of_mem_field Expr.exists_name_of_mem_field
    exact .joinedOn hj hside

theorem traced_predicate {p : Predicate} (hp : p ∈ (Plan.ofOffer o d).filter) :
    ∀ l ∈ p.expr.quoted, Traced o d l := by
  obtain ⟨i, v, haccepted, hoperand⟩ := Filter.mem_ofLists_iff.mp hp
  have hfield := haccepted.offered
  obtain ⟨⟨operator, hoperator, -, hc⟩, hv, -⟩ := haccepted.written
  rw [← Comparison.ofText?_eq_some_iff] at hc
  obtain ⟨f, c, x⟩ := p
  have hx : x = Filter.operand c v := Filter.isOperand_iff.mp hoperand
  subst hx
  intro l hl
  cases c with
  | member =>
    rcases Expr.mem_quoted_member hl with hl | ⟨s, hs, rfl⟩
    · exact traced_of_offered hfield l hl
    · obtain ⟨piece, hpiece, -, rfl⟩ := Filter.mem_members_iff.mp hs
      exact .piece hoperator hv hc hpiece
  | _ =>
    rcases List.mem_append.mp hl with hl | hl
    · exact traced_of_offered hfield l hl
    · rw [List.mem_singleton.mp hl]
      exact .value hoperator hv hc (fun h => nomatch h)

theorem Filter.traced_quoted (f : Filter)
    (h : ∀ p ∈ f, ∀ l ∈ p.expr.quoted, Traced o d l) :
    ∀ l ∈ f.expr.toList.flatMap Expr.quoted, Traced o d l := by
  cases f with
  | nil => exact fun l hl => nomatch hl
  | cons p ps =>
    have hquoted (e : Expr) : (ps.foldl (fun e q => .binary .conj e q.expr) e).quoted =
        e.quoted ++ ps.flatMap fun q => q.expr.quoted := by
      clear h
      -- over the expression built so far, since each predicate is joined on the right
      induction ps generalizing e with
      | nil => exact (List.append_nil _).symm
      | cons q qs ih =>
        rw [List.foldl_cons, ih, Expr.quoted, List.append_assoc]
        rfl
    intro l hl
    have hl : l ∈ (ps.foldl (fun e q => .binary .conj e q.expr) p.expr).quoted ++ [] := hl
    rw [List.append_nil, hquoted] at hl
    rcases List.mem_append.mp hl with hl | hl
    · exact h p List.mem_cons_self l hl
    · obtain ⟨q, hq, hl⟩ := List.mem_flatMap.mp hl
      exact h q (List.mem_cons_of_mem _ hq) l hl

theorem SortTerm.quoted_ordered (t : SortTerm) : t.ordered.expr.quoted = (Expr.field t.field).quoted := by
  rw [SortTerm.ordered]
  split_ifs <;> rfl

theorem traced_orderBy {x : Ordered} (hx : x ∈ (Plan.ofOffer o d).orderBy) :
    ∀ l ∈ x.expr.quoted, Traced o d l := by
  have hidentity : ∀ l ∈ (Expr.field o.identity).quoted, Traced o d l :=
    traced_of_mem_field fun _ => .identityPart
  have horder := SortOrder.ofLists_cases o.fields d.sortFields d.sortDirections o.numeric o.identity
  change _ ∧ (Plan.ofOffer o d).order = _ ∨ _ ∧ (Plan.ofOffer o d).order.fallback = false ∧
    List.Forall₂ _ _ (Plan.ofOffer o d).order.terms at horder
  unfold Plan.orderBy at hx
  rcases horder with ⟨-, horder⟩ | ⟨-, hfallback, hterms⟩
  · rw [horder] at hx
    -- with joins the identity is taken from the table of the catalog, else it is read as a field
    split_ifs at hx
    · rw [List.mem_singleton.mp hx]
      intro l hl
      rcases List.mem_cons.mp hl with rfl | hl
      · exact .entity
      · rw [List.mem_singleton.mp hl]
        exact .identity
    · rw [List.mem_singleton.mp hx]
      exact hidentity
  · rw [hfallback, Bool.false_and, if_neg Bool.false_ne_true] at hx
    obtain ⟨t, ht, rfl⟩ := List.mem_map.mp hx
    rw [t.quoted_ordered]
    exact traced_of_offered (SortOrder.contains_of_mem_terms hterms t ht)

theorem traced_query {l : Lexeme} (hl : l ∈ (Plan.ofOffer o d).query.quoted) : Traced o d l := by
  rw [Query.quoted] at hl
  rcases List.mem_append.mp hl with hl | hl
  · rcases List.mem_append.mp hl with hl | hl
    · rcases List.mem_append.mp hl with hl | hl
      · rcases List.mem_append.mp hl with hl | hl
        · obtain ⟨s, hs, hl⟩ := List.mem_flatMap.mp hl
          exact traced_select hs l hl
        · obtain ⟨t, ht, hl⟩ := List.mem_flatMap.mp hl
          rw [Plan.query_source] at ht
          rw [List.mem_singleton.mp ht] at hl
          exact traced_source l hl
      · obtain ⟨j, hj, hl⟩ := List.mem_flatMap.mp hl
        rw [Plan.query_joins] at hj
        obtain ⟨spec, hspec, rfl⟩ := List.mem_map.mp hj
        exact traced_join hspec l hl
    · rw [Plan.query_condition] at hl
      exact Filter.traced_quoted _ (fun p hp => traced_predicate hp) l hl
  · obtain ⟨x, hx, hl⟩ := List.mem_flatMap.mp hl
    rw [Plan.query_orderBy] at hx
    exact traced_orderBy hx l hl

theorem traced_sql (dialect : Dialect) {ls : List Lexeme}
    (h : lexemes dialect ((Plan.ofOffer o d).sql dialect).toList = some ls) :
    ∀ l ∈ ls, Traced o d l := by
  rw [Plan.sql, lexemes_sql] at h
  cases h
  intro l hl
  cases l with
  | word w => exact mem_vocabulary hl
  | number s | mark m => trivial
  | name s | string s =>
    apply traced_query
    rw [← Query.quotedIn_tokens dialect]
    exact List.mem_filter.mpr ⟨hl, rfl⟩

end

/-! Two reports that differ in hidden references only. -/

def FieldSet.Interchangeable (allowed : FieldSet) (f g : String) : Prop :=
  f = g ∨ allowed.contains f = false ∧ allowed.contains g = false

structure Definition.Interchangeable (allowed : FieldSet) (d d' : Definition) : Prop where
  selected : List.Forall₂ allowed.Interchangeable d.selected d'.selected
  conditionFields : List.Forall₂ allowed.Interchangeable d.conditionFields d'.conditionFields
  conditionOperators : d.conditionOperators = d'.conditionOperators
  conditionValues : d.conditionValues = d'.conditionValues
  paginateBy : Option.Rel allowed.Interchangeable d.paginateBy d'.paginateBy
  sortFields : List.Forall₂ allowed.Interchangeable d.sortFields d'.sortFields
  sortDirections : d.sortDirections = d'.sortDirections

section

variable {allowed : FieldSet}

theorem filter_eq_of_interchangeable {fs gs : List String}
    (h : List.Forall₂ allowed.Interchangeable fs gs) :
    fs.filter allowed.contains = gs.filter allowed.contains := by
  induction h with
  | nil => rfl
  | cons hfg _ ih =>
    rcases hfg with rfl | ⟨hf, hg⟩
    · rw [List.filter_cons, List.filter_cons, ih]
    · rw [List.filter_cons_of_neg (by rw [hf]; exact Bool.false_ne_true),
        List.filter_cons_of_neg (by rw [hg]; exact Bool.false_ne_true), ih]

theorem Filter.ofLists_eq {fs gs : List String} (h : List.Forall₂ allowed.Interchangeable fs gs)
    (operators values : List String) :
    Filter.ofLists allowed fs operators values = Filter.ofLists allowed gs operators values := by
  -- both sides stop or go on together, whether their fields are on offer or not
  induction h generalizing operators values with
  | nil => rfl
  | cons hfg _ ih =>
    rw [Filter.ofLists, Filter.ofLists, ih]
    rcases hfg with rfl | ⟨hf, hg⟩
    · rfl
    · rw [hf, hg]
      rfl

theorem SortOrder.sortTerms_eq {fs gs : List String}
    (h : List.Forall₂ allowed.Interchangeable fs gs) (numeric : List String) (direction : Direction)
    (directions : List String) :
    SortOrder.sortTerms allowed numeric direction fs directions =
      SortOrder.sortTerms allowed numeric direction gs directions := by
  induction h generalizing direction directions with
  | nil => rfl
  | cons hfg _ ih =>
    rw [SortOrder.sortTerms, SortOrder.sortTerms]
    rcases hfg with rfl | ⟨hf, hg⟩
    · simp only [ih]
    · rw [hf, hg, ih]
      rfl

theorem sectionField_eq {d d' : Definition}
    (h : Option.Rel allowed.Interchangeable d.paginateBy d'.paginateBy) :
    Plan.sectionField allowed d = Plan.sectionField allowed d' := by
  have hfilter : d.paginationField.filter allowed.contains =
      d'.paginationField.filter allowed.contains := by
    rw [Definition.paginationField, Definition.paginationField, Option.filter_filter,
      Option.filter_filter]
    revert h
    generalize d.paginateBy = f, d'.paginateBy = g
    rintro (hfg | _)
    · rcases hfg with rfl | ⟨hf, hg⟩
      · rfl
      · simp [Option.filter, hf, hg]
    · rfl
  rw [Plan.sectionField, Plan.sectionField, hfilter]

end

theorem query_eq {o : Offer} {d d' : Definition} (h : d.Interchangeable o.fields d') :
    (Plan.ofOffer o d).query = (Plan.ofOffer o d').query := by
  have hselected : Projection.ofSelected o.fields d.selected =
      Projection.ofSelected o.fields d'.selected := by
    rw [Projection.ofSelected, Projection.ofSelected, filter_eq_of_interchangeable h.selected]
  have hprojection : (Plan.ofOffer o d).projection = (Plan.ofOffer o d').projection := by
    show ((Plan.sectionField o.fields d).map (Plan.withSection _)).getD _ = _
    rw [sectionField_eq h.paginateBy, hselected]
    rfl
  have hfilter : (Plan.ofOffer o d).filter = (Plan.ofOffer o d').filter := by
    show Filter.ofLists o.fields d.conditionFields d.conditionOperators d.conditionValues = _
    rw [Filter.ofLists_eq h.conditionFields, h.conditionOperators, h.conditionValues]
    rfl
  have horder : (Plan.ofOffer o d).order = (Plan.ofOffer o d').order := by
    show SortOrder.ofLists o.fields d.sortFields d.sortDirections o.numeric o.identity =
      SortOrder.ofLists o.fields d'.sortFields d'.sortDirections o.numeric o.identity
    rw [SortOrder.ofLists, SortOrder.ofLists, SortOrder.sortTerms_eq h.sortFields, h.sortDirections]
  rw [Plan.query_eq, Plan.query_eq, Plan.orderBy, Plan.orderBy, hprojection, hfilter, horder]
  rfl

/-- Every word of a statement is its own or one of the catalog's names or of the conditions' values,
and what is not on offer does not change it. -/
theorem traced_and_sql_eq (o : Offer) (dialect : Dialect) :
    (∀ d : Definition, ∃ ls, lexemes dialect ((Plan.ofOffer o d).sql dialect).toList = some ls ∧
      ∀ l ∈ ls, Traced o d l) ∧
    ∀ d d' : Definition, d.Interchangeable o.fields d' →
      (Plan.ofOffer o d).sql dialect = (Plan.ofOffer o d').sql dialect := by
  refine ⟨fun d => ⟨_, lexemes_sql dialect _, ?_⟩, fun d d' h => ?_⟩
  · exact traced_sql dialect (lexemes_sql dialect _)
  · rw [Plan.sql, Plan.sql, query_eq h]

theorem sql_eq_of_hidden :
    (Plan.ofOffer (Catalog.offer { name := "Books", entity := "Book", fields := [{ name := "Title" }] })
        { selected := ["Title", "Secret"], sortFields := ["Price"] }).sql .tSql =
      (Plan.ofOffer (Catalog.offer { name := "Books", entity := "Book", fields := [{ name := "Title" }] })
        { selected := ["Title", "x]; --"], sortFields := ["Cost"] }).sql .tSql := by
  have hidden (f : String) (hf : f ≠ "Title") : (Catalog.offer
      { name := "Books", entity := "Book", fields := [{ name := "Title" }] }).fields.contains f =
        false := by
    rw [Bool.eq_false_iff]
    intro h
    exact hf (List.mem_singleton.mp ((Catalog.contains_fieldSet _ f).mp h))
  refine (traced_and_sql_eq _ _).2 _ _ ⟨?_, .nil, rfl, rfl, .none, ?_, rfl⟩
  · exact .cons (.inl rfl) (.cons (.inr ⟨hidden _ (by decide), hidden _ (by decide)⟩) .nil)
  · exact .cons (.inr ⟨hidden _ (by decide), hidden _ (by decide)⟩) .nil

end Reporting
