import Reporting.Sql.Token

/-!
Expressions of a report query: columns, literals, comparisons, conjunction, membership and numeric
coercion.
-/

namespace Reporting.Sql

inductive Operator where
  | eq
  | ne
  | lt
  | gt
  | le
  | ge
  | conj
  deriving DecidableEq, Repr

def Operator.token : Operator → Token
  | eq => .mark .eq
  | ne => .mark .ne
  | lt => .mark .lt
  | gt => .mark .gt
  | le => .mark .le
  | ge => .mark .ge
  | conj => .keyword .conj

inductive Expr where
  | column (table : Option String) (name : String)
  | int (n : Int)
  | string (s : String)
  | binary (op : Operator) (left right : Expr)
  | member (e : Expr) (values : List Expr)
  | numeric (e : Expr)
  | star
  deriving Repr, Inhabited

namespace Expr

/-- `table.name` where the reference has a dot with something on both sides, else a bare column. -/
def field (reference : String) : Expr :=
  match Text.cutAt '.' reference.toList with
  | some (t :: ts, c :: cs) => .column (some (.ofList (t :: ts))) (.ofList (c :: cs))
  | _ => .column none reference

def neverHolds : List Token :=
  -- The list in `e IN ()` would not be SQL, so an empty one becomes a comparison that never
  -- holds.
  [.int 1, .mark .space, .mark .eq, .mark .space, .int 0]

mutual

def tokens (d : Dialect) : Expr → List Token
  | column none name => [.name name]
  | column (some table) name => [.name table, .mark .dot, .name name]
  | int n => [.int n]
  | string s => [.string s]
  | binary op left right =>
    tokens d left ++ [.mark .space, op.token, .mark .space] ++ tokens d right
  | member _ [] => neverHolds
  | member e (v :: vs) =>
    tokens d e ++ [.mark .space, .keyword .member, .mark .space, .mark .lparen] ++ tokens d v ++
      tailTokens d vs ++ [.mark .rparen]
  | numeric e => coerce d (tokens d e)
  | star => [.mark .star]

def tailTokens (d : Dialect) : List Expr → List Token
  | [] => []
  | e :: es => [.mark .comma, .mark .space] ++ tokens d e ++ tailTokens d es

end

def sql (d : Dialect) (e : Expr) : String := write d (e.tokens d)

end Expr

end Reporting.Sql
