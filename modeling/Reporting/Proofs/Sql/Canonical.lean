import Reporting.Sql.Expr

/-! What the text of an expression can tell at most: conjunctions associate to the left, and of a
membership in an empty list only that it never holds. -/

namespace Reporting.Sql.Expr

/-- The conjunction of two expressions, associated to the left whatever the second one is. -/
def conjoin (e : Expr) : Expr → Expr
  | binary .conj left right => binary .conj (conjoin e left) right
  | f => binary .conj e f

mutual

def canonical : Expr → Expr
  | binary .conj left right => conjoin (canonical left) (canonical right)
  | binary op left right => binary op (canonical left) (canonical right)
  | member _ [] => binary .eq (int 1) (int 0)
  | member e (v :: vs) => member (canonical e) (canonical v :: canonicalTail vs)
  | numeric e => numeric (canonical e)
  | e => e

def canonicalTail : List Expr → List Expr
  | [] => []
  | e :: es => canonical e :: canonicalTail es

end

theorem canonicalTail_eq_map (es : List Expr) : canonicalTail es = es.map canonical := by
  induction es with
  | nil => rfl
  | cons e es ih => rw [canonicalTail, ih, List.map_cons]

theorem tokens_conjoin (d : Dialect) (e f : Expr) :
    (conjoin e f).tokens d = (binary .conj e f).tokens d := by
  fun_induction conjoin e f with
  | case1 left right ih =>
    rw [tokens, ih, tokens, tokens, tokens]
    simp only [List.append_assoc]
  | case2 f _ => rfl

mutual

theorem tokens_canonical (d : Dialect) : (e : Expr) → e.canonical.tokens d = e.tokens d
  | column table name => rfl
  | int n => rfl
  | string s => rfl
  | star => rfl
  | numeric e => by rw [canonical, tokens, tokens, tokens_canonical d e]
  | member e [] => rfl
  | member e (v :: vs) => by
    rw [canonical, tokens, tokens, tokens_canonical d e, tokens_canonical d v,
      tailTokens_canonicalTail d vs]
  | binary op left right => by
    have htokens : (binary op left.canonical right.canonical).tokens d =
        (binary op left right).tokens d := by
      rw [tokens, tokens, tokens_canonical d left, tokens_canonical d right]
    cases op with
    | conj => rw [canonical, tokens_conjoin, htokens]
    | _ => exact htokens

theorem tailTokens_canonicalTail (d : Dialect) :
    (es : List Expr) → tailTokens d (canonicalTail es) = tailTokens d es
  | [] => rfl
  | e :: es => by
    rw [canonicalTail, tailTokens, tailTokens, tokens_canonical d e, tailTokens_canonicalTail d es]

end

theorem sql_canonical (d : Dialect) (e : Expr) : e.canonical.sql d = e.sql d := by
  rw [sql, tokens_canonical, sql]

end Reporting.Sql.Expr
