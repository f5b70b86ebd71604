import Reporting.Proofs.Plan.Conditions
import Reporting.Proofs.Sql.Columns

/-! The statement of a plan is one that can be read back: it selects columns, joins on two of them,
compares them with strings and orders by them. Each part of the plan has its own place there. -/

namespace Reporting

open Sql

theorem isItem_selected (p : ProjectedField) : p.selected.IsItem := .inl (Expr.isColumn_field p.field)

theorem Projection.isItem_of_mem_selected (p : Projection) : ∀ s ∈ p.selected, s.IsItem := by
  intro s hs
  rcases List.mem_append.mp hs with hs | hs
  · split_ifs at hs
    · rw [List.mem_singleton.mp hs]
      exact .inr ⟨rfl, rfl⟩
    · cases hs
  · obtain ⟨f, -, rfl⟩ := List.mem_map.mp hs
    exact isItem_selected f

theorem isEquality_join (j : JoinSpec) : j.join.IsEquality :=
  ⟨_, _, Expr.isColumn_field j.left, Expr.isColumn_field j.right, rfl⟩

theorem Comparison.operator?_ne_conj (c : Comparison) : c.operator? ≠ some .conj := by
  cases c <;> decide

theorem Predicate.isTest_expr (p : Predicate) : p.expr.IsTest := by
  have hfield := Expr.isColumn_field p.field
  unfold Predicate.expr
  split
  · exact .member _ hfield
  · rename_i op _ hop
    exact .compare _ (fun h => p.comparison.operator?_ne_conj (h ▸ hop)) hfield
  · exact .member [_] hfield

theorem Filter.isConjunction_expr (f : Filter) : ∀ e ∈ f.expr, e.IsConjunction := by
  intro e he
  cases f with
  | nil => cases he
  | cons p ps =>
    cases he
    have htests : ∀ t ∈ p.expr :: ps.map Predicate.expr, t.IsTest := by
      rw [← List.map_cons]
      rintro t ht
      obtain ⟨q, -, rfl⟩ := List.mem_map.mp ht
      exact q.isTest_expr
    rw [← List.foldl_map]
    exact .mk _ _ htests

theorem SortTerm.isTerm_ordered (t : SortTerm) : t.ordered.IsTerm := by
  unfold SortTerm.ordered
  split
  · exact .inr ⟨_, Expr.isColumn_field t.field, rfl⟩
  · exact .inl (Expr.isColumn_field t.field)

theorem SortTerm.isTerm_orderedIn (table : String) (t : SortTerm) : (t.orderedIn table).IsTerm := by
  unfold SortTerm.orderedIn
  dsimp only
  split
  · exact .inr ⟨_, ⟨_, _, rfl⟩, rfl⟩
  · exact .inl ⟨_, _, rfl⟩

namespace Plan

theorem isTerm_of_mem_orderBy (p : Plan) : ∀ o ∈ p.orderBy, o.IsTerm := by
  intro o ho
  unfold orderBy at ho
  split_ifs at ho
  · obtain ⟨t, -, rfl⟩ := List.mem_map.mp ho
    exact t.isTerm_orderedIn _
  · obtain ⟨t, -, rfl⟩ := List.mem_map.mp ho
    exact t.isTerm_ordered

theorem select_ne_nil (p : Plan) : p.query.select ≠ [] := by
  rw [query_eq]
  dsimp only
  split_ifs with hfields
  · exact List.cons_ne_nil _ _
  · intro h
    have hmap := (List.append_eq_nil_iff.mp h).2
    rw [List.map_eq_nil_iff.mp hmap] at hfields
    exact hfields rfl

theorem isItem_of_mem_select (p : Plan) : ∀ s ∈ p.query.select, s.IsItem := by
  rw [query_eq]
  dsimp only
  split_ifs
  · intro s hs
    rw [List.mem_singleton.mp hs]
    exact .inr ⟨rfl, rfl⟩
  · exact p.projection.isItem_of_mem_selected

theorem isReport_query {p : Plan} (hjoins : ∀ j ∈ p.joins, j.IsEquality) : p.query.IsReport where
  select_ne_nil := p.select_ne_nil
  select := p.isItem_of_mem_select
  source := p.query_source ▸ Option.some_ne_none _
  joins := p.query_joins ▸ hjoins
  condition := p.query_condition ▸ p.filter.isConjunction_expr
  orderBy := p.query_orderBy ▸ p.isTerm_of_mem_orderBy

theorem isReport_ofOffer (o : Offer) (d : Definition) : (ofOffer o d).query.IsReport := by
  apply isReport_query
  intro j hj
  obtain ⟨spec, -, rfl⟩ := List.mem_map.mp hj
  exact isEquality_join spec

/-- How a predicate is tested: its column is compared with a text, or sought in a list of them. -/
inductive IsTestOf (p : Predicate) : Expr → Prop
  | single {value : String} {op : Operator} (h : p.operand = .single value)
      (hop : p.comparison.operator? = some op) :
      IsTestOf p (.binary op (.reference p.field) (.string value))
  | list {members : List String} (h : p.operand = .list members) :
      IsTestOf p (.member (.reference p.field) (members.map .string))

theorem isTestOf_expr {p : Predicate} {value : String}
    (h : Filter.IsOperand value p.comparison p.operand) : IsTestOf p p.expr := by
  obtain ⟨f, c, x⟩ := p
  rw [Predicate.expr, Expr.field_eq_columnOf]
  cases h with
  | single hc =>
    obtain ⟨op, hop⟩ : ∃ op, c.operator? = some op := by
      cases c <;> first | exact ⟨_, rfl⟩ | exact absurd rfl hc
    dsimp only
    rw [hop]
    exact .single rfl hop
  | list _ => exact .list rfl

/-- The term that sorts in a query; the identity is that of the base table where others are joined. -/
def termOf (o : Offer) (order : SortOrder) (t : SortTerm) : Ordered :=
  let column : Expr :=
    if order.fallback = true ∧ o.joins ≠ [] then .column (some o.source.table) t.field
    else .reference t.field
  ⟨if t.numeric then .numeric column else column, t.direction⟩

/-- The parts of a plan, and what is offered to it, as they stand in a query. -/
structure States (o : Offer) (p : Plan) (q : Query) : Prop where
  select : q.select =
    (if p.projection.allColumns = true ∨ p.projection.fields = [] then [⟨.star, none⟩] else []) ++
      p.projection.fields.map fun f => ⟨.reference f.field, f.rename⟩
  source : q.source = some o.source
  joins : q.joins = o.joins.map fun j =>
    ⟨j.kind, ⟨none, j.table⟩, .binary .eq (.reference j.left) (.reference j.right)⟩
  condition : (p.filter = [] ∧ q.condition = none) ∨
    ∃ test tests, List.Forall₂ IsTestOf p.filter (test :: tests) ∧
      q.condition = some (tests.foldl (.binary .conj) test)
  orderBy : q.orderBy = p.order.terms.map (termOf o p.order)

theorem select_query (p : Plan) : p.query.select =
    (if p.projection.allColumns = true ∨ p.projection.fields = [] then [⟨.star, none⟩] else []) ++
      p.projection.fields.map fun f => ⟨.reference f.field, f.rename⟩ := by
  have hselected : p.projection.fields.map ProjectedField.selected =
      p.projection.fields.map fun f => ⟨.reference f.field, f.rename⟩ := by
    refine List.map_congr_left fun f _ => ?_
    rw [ProjectedField.selected, Expr.field_eq_columnOf]
    rfl
  rw [← hselected]
  rw [query_eq]
  dsimp only
  split_ifs with hnone hor hor
  · rw [List.isEmpty_iff.mp hnone]
    rfl
  · exact absurd (.inr (List.isEmpty_iff.mp hnone)) hor
  · rw [Projection.selected, if_pos (hor.resolve_right fun h => hnone (List.isEmpty_iff.mpr h))]
  · rw [Projection.selected, if_neg (not_or.mp hor).1]

theorem condition_query {p : Plan}
    (h : ∀ t ∈ p.filter, ∃ value, Filter.IsOperand value t.comparison t.operand) :
    (p.filter = [] ∧ p.query.condition = none) ∨
      ∃ test tests, List.Forall₂ IsTestOf p.filter (test :: tests) ∧
        p.query.condition = some (tests.foldl (.binary .conj) test) := by
  rw [query_condition]
  cases hfilter : p.filter with
  | nil => exact .inl ⟨rfl, rfl⟩
  | cons t ts =>
    rw [hfilter] at h
    refine .inr ⟨t.expr, ts.map Predicate.expr, ?_, ?_⟩
    · rw [← List.map_cons, List.forall₂_map_right_iff, List.forall₂_same]
      intro t ht
      obtain ⟨value, hoperand⟩ := h t ht
      exact isTestOf_expr hoperand
    · rw [List.foldl_map]
      rfl

theorem states_query (o : Offer) (d : Definition) : (ofOffer o d).States o (ofOffer o d).query where
  select := select_query _
  source := query_source _
  joins := by
    rw [query_joins]
    refine List.map_congr_left fun j _ => ?_
    rw [JoinSpec.join, Expr.field_eq_columnOf, Expr.field_eq_columnOf]
    rfl
  condition := by
    refine condition_query fun t ht => ?_
    obtain ⟨_, value, -, hoperand⟩ := Filter.mem_ofLists_iff.mp ht
    exact ⟨value, hoperand⟩
  orderBy := by
    rw [query_orderBy]
    have hjoined : ((ofOffer o d).order.fallback && !(ofOffer o d).joins.isEmpty) = true ↔
        (ofOffer o d).order.fallback = true ∧ o.joins ≠ [] := by
      rw [Bool.and_eq_true, Bool.not_eq_true', List.isEmpty_eq_false_iff, ofOffer, ne_eq, ne_eq,
        List.map_eq_nil_iff]
    unfold orderBy
    split_ifs with h <;> rw [hjoined] at h
    · refine List.map_congr_left fun t _ => ?_
      rw [termOf, if_pos h]
      rfl
    · refine List.map_congr_left fun t _ => ?_
      rw [termOf, if_neg h, SortTerm.ordered, Expr.field_eq_columnOf]
      rfl

/-- Each name and each string is a lexeme of its own, and the query can be read back from them. It
holds what the report asks for, part by part. -/
theorem lexemes_and_read_sql (o : Offer) (d : Definition) (dialect : Dialect) :
    lexemes dialect ((ofOffer o d).sql dialect).toList =
        some (lexed ((ofOffer o d).query.tokens dialect)) ∧
      Query.read dialect ((ofOffer o d).sql dialect) = some (ofOffer o d).query.visible ∧
      (ofOffer o d).States o (ofOffer o d).query :=
  ⟨lexemes_sql dialect _, Sql.read_sql dialect (isReport_ofOffer o d), states_query o d⟩

end Plan

end Reporting
