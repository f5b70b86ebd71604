import Reporting.Catalog.FieldSet
import Reporting.Sql.Expr
import Reporting.Text.Blank

/-!
Conditions of a report. The lists of fields, operators and values are read side by side up to the
first position that lacks an operator or a value or has an unknown operator; a position whose field
the catalog does not offer is left out.
-/

namespace Reporting

inductive Comparison where
  | eq
  | ne
  | ge
  | gt
  | lt
  | le
  | member
  deriving DecidableEq, Repr

namespace Comparison

def ofText? (s : String) : Option Comparison :=
  let t := Text.trimmed s
  if t = "=" then some eq
  else if t = "!=" || t = "<>" then some ne
  else if t = ">=" then some ge
  else if t = ">" then some gt
  else if t = "<" then some lt
  else if t = "<=" then some le
  else if Text.lowerAscii t = "in" then some member
  else none

def label : Comparison → String
  | eq => "="
  | ne => "!="
  | ge => ">="
  | gt => ">"
  | lt => "<"
  | le => "<="
  | member => "In List"

def key : Comparison → String
  | eq => "="
  | ne => "<>"
  | ge => ">="
  | gt => ">"
  | lt => "<"
  | le => "<="
  | member => "IN"

def all : List Comparison := [eq, ne, ge, gt, lt, le, member]

def operator? : Comparison → Option Sql.Operator
  | eq => some .eq
  | ne => some .ne
  | ge => some .ge
  | gt => some .gt
  | lt => some .lt
  | le => some .le
  | member => none

end Comparison

inductive Operand where
  | single (s : String)
  | list (members : List String)
  deriving DecidableEq, Repr

structure Predicate where
  field : String
  comparison : Comparison
  operand : Operand
  deriving DecidableEq, Repr

def Predicate.expr (p : Predicate) : Sql.Expr :=
  -- A list is always tested for membership, and a single value under `IN` is a list of one.
  match p.operand, p.comparison.operator? with
  | .list members, _ => .member (.field p.field) (members.map .string)
  | .single s, some op => .binary op (.field p.field) (.string s)
  | .single s, none => .member (.field p.field) [.string s]

abbrev Filter := List Predicate

namespace Filter

def expr (f : Filter) : Option Sql.Expr :=
  match f with
  | [] => none
  | p :: ps => some (ps.foldl (fun e q => .binary .conj e q.expr) p.expr)

def sql (d : Sql.Dialect) (f : Filter) : String :=
  match f.expr with
  | some e => e.sql d
  | none => "1 = 1"

def members (s : String) : List String :=
  ((Text.splitOn ',' s.toList).map Text.trim).filter (fun m => !m.isEmpty) |>.map .ofList

def operand (c : Comparison) (value : String) : Operand :=
  match c with
  | .member => .list (members value)
  | _ => .single value

def complete? (operator value : String) : Option (Comparison × Operand) :=
  if operator.isEmpty || value.isEmpty then none
  else (Comparison.ofText? operator).map fun c => (c, Filter.operand c value)

def ofLists (allowed : FieldSet) : List String → List String → List String → Filter
  | [], _, _ => []
  | f :: fs, operators, values =>
    match complete? (operators.head?.getD "") (values.head?.getD "") with
    | none => []
    | some (c, operand) =>
      let rest := ofLists allowed fs operators.tail values.tail
      if allowed.contains f then ⟨f, c, operand⟩ :: rest else rest

end Filter

end Reporting
