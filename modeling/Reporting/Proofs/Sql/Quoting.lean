import Reporting.Proofs.Sql.Lexing
import Reporting.Sql.Query

/-! What a query quotes. The names and strings of a text are those of the query in their order, and
all other words of it are known beforehand. -/

namespace Reporting.Sql

def vocabulary : List String :=
  ["SELECT", "FROM", "WHERE", "AND", "AS", "ON", "JOIN", "INNER", "LEFT", "ORDER", "BY", "ASC",
    "DESC", "IN", "CAST", "TRY_CAST", "NUMERIC", "DOUBLE", "FLOAT"]

theorem mem_vocabulary {ts : List Token} {w : String} (h : .word w ∈ lexed ts) : w ∈ vocabulary := by
  have hwords (k : Keyword) : ∀ w ∈ k.words, w ∈ vocabulary := by cases k <;> decide
  obtain ⟨t, -, ht⟩ := List.mem_flatMap.mp h
  cases t with
  | keyword k =>
    obtain ⟨w', hw', hword⟩ := List.mem_map.mp ht
    cases hword
    exact hwords k w hw'
  | typeName kind =>
    cases List.mem_singleton.mp ht
    cases kind <;> decide
  | mark m =>
    rw [Token.lexemes] at ht
    split_ifs at ht
    · cases ht
    · cases List.mem_singleton.mp ht
  | qualified schema s =>
    cases schema <;> simp [Token.lexemes] at ht
  | _ => simp [Token.lexemes] at ht

def Lexeme.isQuoted : Lexeme → Bool
  | name _ => true
  | string _ => true
  | _ => false

def quotedIn (ts : List Token) : List Lexeme := (lexed ts).filter Lexeme.isQuoted

theorem quotedIn_append (ts us : List Token) : quotedIn (ts ++ us) = quotedIn ts ++ quotedIn us := by
  rw [quotedIn, lexed_append, List.filter_append]
  rfl

theorem quotedIn_cons (t : Token) (ts : List Token) :
    quotedIn (t :: ts) = quotedIn [t] ++ quotedIn ts :=
  quotedIn_append [t] ts

@[simp] theorem quotedIn_keyword (k : Keyword) : quotedIn [.keyword k] = [] := by
  cases k <;> rfl

@[simp] theorem quotedIn_mark (m : Mark) : quotedIn [.mark m] = [] := by
  cases m <;> rfl

theorem quotedIn_coerce (d : Dialect) (ts : List Token) : quotedIn (coerce d ts) = quotedIn ts := by
  have hcast (k : Keyword) (kind : NumericType) :
      quotedIn ([.keyword k, .mark .lparen] ++ ts ++
        [.mark .space, .keyword .naming, .mark .space, .typeName kind, .mark .rparen]) =
        quotedIn ts := by
    have hopening : quotedIn [.keyword k, .mark .lparen] = [] := by
      rw [quotedIn_cons, quotedIn_keyword]
      rfl
    have hclosing : quotedIn [.mark .space, .keyword .naming, .mark .space, .typeName kind,
        .mark .rparen] = [] := rfl
    rw [quotedIn_append, quotedIn_append, hopening, hclosing, List.append_nil, List.nil_append]
  rw [coerce]
  cases d.coercion with
  | plusZero => exact (quotedIn_append ts _).trans (List.append_nil _)
  | cast kind => exact hcast .cast kind
  | tryCast kind => exact hcast .tryCast kind

namespace Expr

mutual

/-- The names and strings of an expression; without members nothing of a membership is written. -/
def quoted : Expr → List Lexeme
  | column none name => [.name name]
  | column (some table) name => [.name table, .name name]
  | int _ => []
  | string s => [.string s]
  | binary _ left right => quoted left ++ quoted right
  -- written as a comparison of numbers, which quotes nothing
  | member _ [] => []
  | member e (v :: vs) => quoted e ++ quoted v ++ quotedAll vs
  | numeric e => quoted e
  | star => []

def quotedAll : List Expr → List Lexeme
  | [] => []
  | e :: es => quoted e ++ quotedAll es

end

mutual

theorem quotedIn_tokens (d : Dialect) : (e : Expr) → quotedIn (e.tokens d) = e.quoted
  | column none name => rfl
  | column (some table) name => rfl
  | int n => rfl
  | string s => rfl
  | star => rfl
  | member e [] => rfl
  | numeric e => by rw [tokens, quotedIn_coerce, quotedIn_tokens d e, quoted]
  | binary op left right => by
    have hop : quotedIn [.mark .space, op.token, .mark .space] = [] := by cases op <;> rfl
    rw [tokens, quotedIn_append, quotedIn_append, hop, quotedIn_tokens d left,
      quotedIn_tokens d right, List.append_nil, quoted]
  | member e (v :: vs) => by
    have hopening : quotedIn [.mark .space, .keyword .member, .mark .space, .mark .lparen] = [] := rfl
    rw [tokens, quotedIn_append, quotedIn_append, quotedIn_append, quotedIn_append, hopening,
      quotedIn_mark, quotedIn_tokens d e, quotedIn_tokens d v, quotedIn_tailTokens d vs,
      List.append_nil, List.append_nil, quoted]

theorem quotedIn_tailTokens (d : Dialect) : (es : List Expr) →
    quotedIn (tailTokens d es) = quotedAll es
  | [] => rfl
  | e :: es => by
    have hcomma : quotedIn [.mark .comma, .mark .space] = [] := rfl
    rw [tailTokens, quotedIn_append, quotedIn_append, hcomma, quotedIn_tokens d e,
      quotedIn_tailTokens d es, List.nil_append, quotedAll]

end

theorem quotedAll_map_string (values : List String) :
    quotedAll (values.map .string) = values.map .string := by
  induction values with
  | nil => rfl
  | cons v vs ih => exact congrArg (.string v :: ·) ih

end Expr

theorem quotedIn_separated {α : Type} {between : List Token} (hb : quotedIn between = [])
    (text : α → List Token) (xs : List α) :
    quotedIn (Query.separated between (xs.map text)) = xs.flatMap fun x => quotedIn (text x) := by
  induction xs with
  | nil => rfl
  | cons x xs ih =>
    cases xs with
    | nil => exact (List.append_nil _).symm
    | cons y ys =>
      show quotedIn (text x ++ between ++ Query.separated between ((y :: ys).map text)) = _
      rw [quotedIn_append, quotedIn_append, hb, ih, List.append_nil]
      rfl

def Selected.quoted (s : Selected) : List Lexeme := s.expr.quoted ++ s.rename.toList.map .name

def TableRef.quoted (t : TableRef) : List Lexeme := t.schema.toList.map .name ++ [.name t.table]

def Join.quoted (j : Join) : List Lexeme := j.table.quoted ++ j.on.quoted

namespace Query

def quoted (q : Query) : List Lexeme :=
  q.select.flatMap Selected.quoted ++ q.source.toList.flatMap TableRef.quoted ++
    q.joins.flatMap Join.quoted ++ q.condition.toList.flatMap Expr.quoted ++
      q.orderBy.flatMap fun o => o.expr.quoted

theorem quotedIn_selected (d : Dialect) (s : Selected) : quotedIn (s.tokens d) = s.quoted := by
  obtain ⟨e, rename⟩ := s
  rw [Selected.tokens, quotedIn_append, e.quotedIn_tokens]
  cases rename <;> rfl

theorem quotedIn_token (t : TableRef) : quotedIn [t.token] = t.quoted := by
  obtain ⟨schema, table⟩ := t
  cases schema <;> rfl

theorem quotedIn_join (d : Dialect) (j : Join) : quotedIn (j.tokens d) = j.quoted := by
  obtain ⟨kind, t, on⟩ := j
  have hopening : quotedIn [.keyword kind.keyword, .mark .space, .keyword .join, .mark .space,
      t.token, .mark .space, .keyword .onto, .mark .space] = t.quoted := by
    obtain ⟨schema, table⟩ := t
    cases kind <;> cases schema <;> rfl
  rw [Join.tokens, quotedIn_append, hopening, on.quotedIn_tokens]
  rfl

theorem quotedIn_select (d : Dialect) (items : List Selected) :
    quotedIn (selectTokens d items) = items.flatMap Selected.quoted := by
  cases items with
  | nil => rfl
  | cons s items =>
    show quotedIn (separated _ ((s :: items).map (Selected.tokens d))) = _
    rw [quotedIn_separated rfl]
    simp only [quotedIn_selected]

theorem quotedIn_source (t : Option TableRef) :
    quotedIn (sourceTokens t) = t.toList.flatMap TableRef.quoted := by
  cases t with
  | none => rfl
  | some t =>
    show quotedIn [t.token] = t.quoted ++ []
    rw [quotedIn_token, List.append_nil]

theorem quotedIn_joins (d : Dialect) (joins : List Join) :
    quotedIn (joinTokens d joins) = joins.flatMap Join.quoted := by
  induction joins with
  | nil => rfl
  | cons j joins ih =>
    show quotedIn (.mark .newline :: j.tokens d ++ joinTokens d joins) = _
    rw [quotedIn_append, quotedIn_cons, quotedIn_mark, quotedIn_join, ih]
    rfl

theorem quotedIn_condition (d : Dialect) (e : Option Expr) :
    quotedIn (conditionTokens d e) = e.toList.flatMap Expr.quoted := by
  cases e with
  | none => rfl
  | some e =>
    show quotedIn (e.tokens d) = e.quoted ++ []
    rw [e.quotedIn_tokens, List.append_nil]

theorem quotedIn_ordered (d : Dialect) (o : Ordered) : quotedIn (o.tokens d) = o.expr.quoted := by
  have hdirection : quotedIn [.mark .space, .keyword o.direction.keyword] = [] := by
    cases o.direction <;> rfl
  rw [Ordered.tokens, quotedIn_append, o.expr.quotedIn_tokens, hdirection, List.append_nil]

theorem quotedIn_order (d : Dialect) (terms : List Ordered) :
    quotedIn (orderTokens d terms) = terms.flatMap fun o => o.expr.quoted := by
  cases terms with
  | nil => rfl
  | cons o terms =>
    show quotedIn (separated _ ((o :: terms).map (Ordered.tokens d))) = _
    rw [quotedIn_separated rfl]
    simp only [quotedIn_ordered]

theorem quotedIn_tokens (d : Dialect) (q : Query) : quotedIn (q.tokens d) = q.quoted := by
  rw [tokens, quotedIn_append, quotedIn_append, quotedIn_append, quotedIn_append, quotedIn_cons,
    quotedIn_keyword, quotedIn_select, quotedIn_source, quotedIn_joins, quotedIn_condition,
    quotedIn_order, List.nil_append, quoted]

end Query

end Reporting.Sql
