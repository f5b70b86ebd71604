import Reporting.Proofs.Sql.Lexing
import Reporting.Sql.Query

/-! The writers leave room between the tokens of every expression and of every query, so the text of
a query always has the lexemes of its tokens. -/

namespace Reporting.Sql

instance (ts : List Token) : Decidable (Spaced ts) :=
  inferInstanceAs (Decidable (ts.IsChain fun t u => t.needsRoom = true → u.givesRoom = true))

namespace Spaced

theorem append {ts us : List Token} (ht : Spaced ts) (hu : Spaced us)
    (h : ∀ u ∈ us.head?, u.givesRoom = true) : Spaced (ts ++ us) :=
  List.isChain_append.mpr ⟨ht, hu, fun _ _ u hu _ => h u hu⟩

theorem cons {t : Token} {ts : List Token} (h : Spaced ts)
    (ht : t.needsRoom = true → ∀ u ∈ ts.head?, u.givesRoom = true) : Spaced (t :: ts) :=
  List.isChain_cons.mpr ⟨fun u hu hn => ht hn u hu, h⟩

theorem nil : Spaced [] := List.isChain_nil

theorem singleton (t : Token) : Spaced [t] := List.isChain_singleton t

theorem behind {t : Token} {ts : List Token} (ht : t.needsRoom = false) (h : Spaced ts) :
    Spaced (t :: ts) :=
  h.cons fun hn => absurd hn (by rw [ht]; exact Bool.false_ne_true)

theorem behindAll {ts us : List Token} (ht : ∀ t ∈ ts, t.needsRoom = false) (hu : Spaced us) :
    Spaced (ts ++ us) := by
  induction ts with
  | nil => exact hu
  | cons t ts ih =>
    exact (ih fun u hu => ht u (List.mem_cons_of_mem _ hu)).behind (ht t List.mem_cons_self)

theorem glue {ts us : List Token} (m : Mark) (hm : m.givesRoom = true) (ht : Spaced ts)
    (hu : Spaced us) : Spaced (ts ++ .mark m :: us) := by
  have hroom : (Token.mark m).needsRoom = false := by cases m <;> first | rfl | cases hm
  refine ht.append (hu.behind hroom) ?_
  intro u hu
  cases hu
  exact hm

end Spaced

theorem spaced_coerce (d : Dialect) {ts : List Token} (h : Spaced ts) : Spaced (coerce d ts) := by
  have hcast (word : Keyword) (kind : NumericType) :
      Spaced ([.keyword word, .mark .lparen] ++ ts ++
        [.mark .space, .keyword .naming, .mark .space, .typeName kind, .mark .rparen]) := by
    rw [List.append_assoc]
    have htail : Spaced [.keyword .naming, .mark .space, .typeName kind, .mark .rparen] := by
      cases kind <;> decide
    exact (Spaced.singleton (.keyword word)).glue .lparen rfl (h.glue .space rfl htail)
  cases d with
  | mySql | sqlite =>
    have htail : Spaced [.mark .plus, .mark .space, .int 0] := by decide
    exact h.glue .space rfl htail
  | postgres => exact hcast .cast .numeric
  | duckDb => exact hcast .tryCast .double
  | tSql => exact hcast .tryCast .float

namespace Expr

mutual

theorem spaced_tokens (d : Dialect) : (e : Expr) → Spaced (e.tokens d)
  | column none name => Spaced.singleton _
  | column (some table) name => (Spaced.singleton _).glue .dot rfl (Spaced.singleton _)
  | int n => Spaced.singleton _
  | string s => Spaced.singleton _
  | star => Spaced.singleton _
  | numeric e => spaced_coerce d (spaced_tokens d e)
  | binary op left right => by
    have hop : Spaced (op.token :: .mark .space :: right.tokens d) :=
      ((spaced_tokens d right).behind rfl).cons fun _ u hu => by cases hu; rfl
    rw [tokens, List.append_assoc]
    exact (spaced_tokens d left).glue .space rfl hop
  | member e [] => by
    rw [tokens]
    decide
  | member e (v :: vs) => by
    have hvs : Spaced (tailTokens d vs ++ [.mark .rparen]) :=
      (spaced_tailTokens d vs).glue .rparen rfl Spaced.nil
    have hv : Spaced (v.tokens d ++ (tailTokens d vs ++ [.mark .rparen])) := by
      refine (spaced_tokens d v).append hvs ?_
      intro u hu
      cases vs with
      | nil => cases hu; rfl
      | cons w ws => cases hu; rfl
    rw [tokens, List.append_assoc, List.append_assoc, List.append_assoc]
    refine (spaced_tokens d e).glue .space rfl ?_
    exact ((hv.behind rfl).behind rfl).cons fun _ u hu => by cases hu; rfl

theorem spaced_tailTokens (d : Dialect) : (es : List Expr) → Spaced (tailTokens d es)
  | [] => Spaced.nil
  | e :: es => by
    have hes : Spaced (e.tokens d ++ tailTokens d es) := by
      refine (spaced_tokens d e).append (spaced_tailTokens d es) ?_
      intro u hu
      cases es with
      | nil => cases hu
      | cons w ws => cases hu; rfl
    rw [tailTokens, List.append_assoc]
    exact (hes.behind rfl).behind rfl

end

end Expr

theorem spaced_selected (d : Dialect) (s : Selected) : Spaced (s.tokens d) := by
  obtain ⟨e, rename⟩ := s
  cases rename with
  | none =>
    rw [Selected.tokens, List.append_nil]
    exact e.spaced_tokens d
  | some name =>
    have hname : Spaced [.keyword .naming, .mark .space, .name name] :=
      ((Spaced.singleton _).behind rfl).cons fun _ u hu => by cases hu; rfl
    exact (e.spaced_tokens d).glue .space rfl hname

theorem spaced_join (d : Dialect) (j : Join) : Spaced (j.tokens d) := by
  have hon : Spaced (.keyword .onto :: .mark .space :: j.on.tokens d) :=
    ((j.on.spaced_tokens d).behind rfl).cons fun _ u hu => by cases hu; rfl
  have htable : Spaced (j.table.token :: .mark .space :: .keyword .onto :: .mark .space ::
      j.on.tokens d) := (hon.behind rfl).cons fun _ u hu => by cases hu; rfl
  have hjoin : Spaced (.keyword .join :: .mark .space :: j.table.token :: .mark .space ::
      .keyword .onto :: .mark .space :: j.on.tokens d) :=
    (htable.behind rfl).cons fun _ u hu => by cases hu; rfl
  exact (hjoin.behind rfl).cons fun _ u hu => by cases hu; rfl

theorem spaced_ordered (d : Dialect) (o : Ordered) : Spaced (o.tokens d) :=
  (o.expr.spaced_tokens d).glue .space rfl (Spaced.singleton _)

theorem spaced_separated {m : Mark} (hm : m.givesRoom = true) {between : List Token}
    (hb : ∀ t ∈ between, t.needsRoom = false) {tss : List (List Token)}
    (h : ∀ ts ∈ tss, Spaced ts) : Spaced (Query.separated (.mark m :: between) tss) := by
  induction tss with
  | nil => exact Spaced.nil
  | cons ts tss ih =>
    have hts := h ts List.mem_cons_self
    cases tss with
    | nil => exact hts
    | cons us tss =>
      have hrest := ih fun vs hvs => h vs (List.mem_cons_of_mem _ hvs)
      rw [Query.separated, List.append_assoc]
      · exact hts.glue m hm (hrest.behindAll hb)
      · exact List.cons_ne_nil _ _

def IsClause (ts : List Token) : Prop := Spaced ts ∧ ∀ u ∈ ts.head?, u.givesRoom = true

namespace IsClause

theorem nil : IsClause [] := ⟨Spaced.nil, fun _ hu => nomatch hu⟩

theorem line {ts : List Token} (h : Spaced ts) : IsClause (.mark .newline :: ts) :=
  ⟨h.behind rfl, fun u hu => by cases hu; rfl⟩

theorem ofKeyword (k : Keyword) {ts : List Token} (h : Spaced ts) :
    IsClause (.mark .newline :: .keyword k :: .mark .space :: ts) :=
  line ((h.behind rfl).cons fun _ u hu => by cases hu; rfl)

end IsClause

theorem isClause_select (d : Dialect) (items : List Selected) :
    IsClause (Query.selectTokens d items) := by
  cases items with
  | nil => exact IsClause.nil
  | cons s items =>
    have hitems : Spaced (Query.separated [.mark .comma, .mark .newline, .indent 1]
        ((s :: items).map (Selected.tokens d))) :=
      spaced_separated rfl (by decide) fun ts hts => by
        obtain ⟨s, -, rfl⟩ := List.mem_map.mp hts
        exact spaced_selected d s
    exact IsClause.line (hitems.behind rfl)

theorem isClause_source (t : Option TableRef) : IsClause (Query.sourceTokens t) := by
  cases t with
  | none => exact IsClause.nil
  | some t => exact IsClause.ofKeyword .source (Spaced.singleton _)

theorem isClause_joins (d : Dialect) (joins : List Join) : IsClause (Query.joinTokens d joins) := by
  induction joins with
  | nil => exact IsClause.nil
  | cons j joins ih =>
    rw [Query.joinTokens, List.flatMap_cons, List.cons_append]
    exact IsClause.line ((spaced_join d j).append ih.1 ih.2)

theorem isClause_condition (d : Dialect) (e : Option Expr) :
    IsClause (Query.conditionTokens d e) := by
  cases e with
  | none => exact IsClause.nil
  | some e => exact IsClause.ofKeyword .condition (e.spaced_tokens d)

theorem isClause_order (d : Dialect) (terms : List Ordered) :
    IsClause (Query.orderTokens d terms) := by
  cases terms with
  | nil => exact IsClause.nil
  | cons o terms =>
    have hterms : Spaced (Query.separated [.mark .comma, .mark .space]
        ((o :: terms).map (Ordered.tokens d))) :=
      spaced_separated rfl (by decide) fun ts hts => by
        obtain ⟨o, -, rfl⟩ := List.mem_map.mp hts
        exact spaced_ordered d o
    exact IsClause.ofKeyword .orderBy hterms

theorem spaced_query (d : Dialect) (q : Query) : Spaced (q.tokens d) := by
  have hselect := isClause_select d q.select
  have hsource := isClause_source q.source
  have hjoins := isClause_joins d q.joins
  have hcondition := isClause_condition d q.condition
  have horder := isClause_order d q.orderBy
  exact ((((hselect.1.cons fun _ => hselect.2).append hsource.1 hsource.2).append
    hjoins.1 hjoins.2).append hcondition.1 hcondition.2).append horder.1 horder.2

theorem lexemes_sql (d : Dialect) (q : Query) :
    lexemes d (q.sql d).toList = some (lexed (q.tokens d)) :=
  lexemes_write d (spaced_query d q)

end Reporting.Sql
