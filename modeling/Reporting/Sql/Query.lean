import Reporting.Sql.Expr

/-!
Queries with a selection, joins, one condition and an ordering, and their text.
-/

namespace Reporting.Sql

structure Selected where
  expr : Expr
  rename : Option String
  deriving Repr

structure TableRef where
  schema : Option String
  table : String
  deriving DecidableEq, Repr

inductive JoinKind where
  | inner
  | left
  deriving DecidableEq, Repr

structure Join where
  kind : JoinKind
  table : TableRef
  on : Expr
  deriving Repr

inductive Direction where
  | asc
  | desc
  deriving DecidableEq, Repr

structure Ordered where
  expr : Expr
  direction : Direction
  deriving Repr

structure Query where
  select : List Selected
  source : Option TableRef
  joins : List Join
  condition : Option Expr
  orderBy : List Ordered
  deriving Repr

def Selected.tokens (d : Dialect) (s : Selected) : List Token :=
  s.expr.tokens d ++
    match s.rename with
    | some name => [.mark .space, .keyword .naming, .mark .space, .name name]
    | none => []

def TableRef.token (t : TableRef) : Token := .qualified t.schema t.table

def JoinKind.keyword : JoinKind → Keyword
  | inner => .inner
  | left => .left

def Join.tokens (d : Dialect) (j : Join) : List Token :=
  [.keyword j.kind.keyword, .mark .space, .keyword .join, .mark .space, j.table.token, .mark .space,
    .keyword .onto, .mark .space] ++ j.on.tokens d

def Direction.keyword : Direction → Keyword
  | asc => .asc
  | desc => .desc

def Direction.text (d : Direction) : String := d.keyword.text

def Ordered.tokens (d : Dialect) (o : Ordered) : List Token :=
  o.expr.tokens d ++ [.mark .space, .keyword o.direction.keyword]

namespace Query

def empty : Query := ⟨[], none, [], none, []⟩

def selectItems (q : Query) (items : List Selected) : Query := { q with select := items }

def selectAll (q : Query) : Query := q.selectItems [⟨.star, none⟩]

def filter (q : Query) (e : Expr) : Query :=
  { q with
    condition := some <|
      match q.condition with
      | some given => .binary .conj given e
      | none => e }

def separated (between : List Token) : List (List Token) → List Token
  | [] => []
  | [ts] => ts
  | ts :: rest => ts ++ between ++ separated between rest

def selectTokens (d : Dialect) : List Selected → List Token
  | [] => []
  | items =>
    [.mark .newline, .indent 1] ++
      separated [.mark .comma, .mark .newline, .indent 1] (items.map (Selected.tokens d))

def sourceTokens : Option TableRef → List Token
  | some t => [.mark .newline, .keyword .source, .mark .space, t.token]
  | none => []

def joinTokens (d : Dialect) (joins : List Join) : List Token :=
  joins.flatMap fun j => .mark .newline :: j.tokens d

def conditionTokens (d : Dialect) : Option Expr → List Token
  | some e => [.mark .newline, .keyword .condition, .mark .space] ++ e.tokens d
  | none => []

def orderTokens (d : Dialect) : List Ordered → List Token
  | [] => []
  | terms =>
    [.mark .newline, .keyword .orderBy, .mark .space] ++
      separated [.mark .comma, .mark .space] (terms.map (Ordered.tokens d))

def tokens (d : Dialect) (q : Query) : List Token :=
  .keyword .select :: selectTokens d q.select ++ sourceTokens q.source ++ joinTokens d q.joins ++
    conditionTokens d q.condition ++ orderTokens d q.orderBy

def sql (d : Dialect) (q : Query) : String := write d (q.tokens d)

end Query

end Reporting.Sql
