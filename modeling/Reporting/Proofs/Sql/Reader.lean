import Mathlib.Data.List.Basic
import Reporting.Proofs.Sql.Lexeme
import Reporting.Sql.Query

/-! Reading queries from lexemes: a selection, a table, joins on two equal columns, tests of columns
against strings, and an ordering by columns. -/

namespace Reporting.Sql

abbrev Reading (α : Type) := List Lexeme → Option (α × List Lexeme)

namespace Reading

variable {α β : Type}

def expect (w : List Lexeme) (ls : List Lexeme) : Option (List Lexeme) := ls.dropPrefix? w

def many (read : Reading α) (ls : List Lexeme) : List α × List Lexeme :=
  match read ls with
  | none => ([], ls)
  | some (a, rest) =>
    if rest.length < ls.length then
      let p := many read rest
      (a :: p.1, p.2)
    else ([], ls)
termination_by ls.length

def separated (between : Lexeme) (read : Reading α) : Reading (List α) := fun ls => do
  let (a, ls) ← read ls
  let (as, ls) := many (fun ls => (expect [between] ls).bind read) ls
  some (a :: as, ls)

def column : Reading Expr
  | .name table :: .mark .dot :: .name name :: ls => some (.column (some table) name, ls)
  | .name name :: ls => some (.column none name, ls)
  | _ => none

def table : Reading TableRef
  | .name schema :: .mark .dot :: .name table :: ls => some (⟨some schema, table⟩, ls)
  | .name table :: ls => some (⟨none, table⟩, ls)
  | _ => none

def rename : Reading (Option String)
  | .word "AS" :: .name s :: ls => some (some s, ls)
  | ls => some (none, ls)

def selected : Reading Selected
  | .mark .star :: ls => some (⟨.star, none⟩, ls)
  | ls => do
    let (e, ls) ← column ls
    let (s, ls) ← rename ls
    some (⟨e, s⟩, ls)

def joinKind : Reading JoinKind
  | .word "INNER" :: .word "JOIN" :: ls => some (.inner, ls)
  | .word "LEFT" :: .word "JOIN" :: ls => some (.left, ls)
  | _ => none

def join : Reading Join := fun ls => do
  let (kind, ls) ← joinKind ls
  let (t, ls) ← table ls
  let ls ← expect [.word "ON"] ls
  let (left, ls) ← column ls
  let ls ← expect [.mark .eq] ls
  let (right, ls) ← column ls
  some (⟨kind, t, .binary .eq left right⟩, ls)

def strings : Reading (List Expr)
  | .string s :: .mark .rparen :: ls => some ([.string s], ls)
  | .string s :: .mark .comma :: ls => (strings ls).map fun p => (.string s :: p.1, p.2)
  | _ => none

def operator? : Mark → Option Operator
  | .eq => some .eq
  | .ne => some .ne
  | .lt => some .lt
  | .gt => some .gt
  | .le => some .le
  | .ge => some .ge
  | _ => none

def testOf (e : Expr) : Reading Expr
  | .word "IN" :: .mark .lparen :: ls => (strings ls).map fun p => (.member e p.1, p.2)
  | .mark m :: .string s :: ls => (operator? m).map fun op => (.binary op e (.string s), ls)
  | _ => none

def test : Reading Expr := fun ls =>
  match expect [.number "1", .mark .eq, .number "0"] ls with
  | some ls => some (.binary .eq (.int 1) (.int 0), ls)
  | none => (column ls).bind fun p => testOf p.1 p.2

def condition : Reading (Option Expr) := fun ls =>
  match expect [.word "WHERE"] ls with
  | none => some (none, ls)
  | some ls =>
    match separated (.word "AND") test ls with
    | some (e :: es, ls) => some (some (es.foldl (.binary .conj) e), ls)
    | _ => none

def casted (word : String) (kind : NumericType) : Reading Expr := fun ls =>
  match expect [.word word, .mark .lparen] ls with
  | none => column ls
  | some ls => do
    let (e, ls) ← column ls
    let ls ← expect [.word "AS", .word kind.text, .mark .rparen] ls
    some (.numeric e, ls)

def added : Reading Expr := fun ls => do
  let (e, ls) ← column ls
  match expect [.mark .plus, .number "0"] ls with
  | none => some (e, ls)
  | some ls => some (.numeric e, ls)

def magnitude (d : Dialect) : Reading Expr :=
  match d.coercion with
  | .plusZero => added
  | .cast kind => casted "CAST" kind
  | .tryCast kind => casted "TRY_CAST" kind

def direction : Reading Direction
  | .word "ASC" :: ls => some (.asc, ls)
  | .word "DESC" :: ls => some (.desc, ls)
  | _ => none

def ordered (d : Dialect) : Reading Ordered := fun ls => do
  let (e, ls) ← magnitude d ls
  let (dir, ls) ← direction ls
  some (⟨e, dir⟩, ls)

def orderBy (d : Dialect) : Reading (List Ordered) := fun ls =>
  match expect [.word "ORDER", .word "BY"] ls with
  | none => some ([], ls)
  | some ls => separated (.mark .comma) (ordered d) ls

def query (d : Dialect) : Reading Query := fun ls => do
  let ls ← expect [.word "SELECT"] ls
  let (select, ls) ← separated (.mark .comma) selected ls
  let ls ← expect [.word "FROM"] ls
  let (source, ls) ← table ls
  let (joins, ls) := many join ls
  let (condition, ls) ← condition ls
  let (orderBy, ls) ← orderBy d ls
  some (⟨select, some source, joins, condition, orderBy⟩, ls)

end Reading

def Query.read (d : Dialect) (text : String) : Option Query :=
  match (lexemes d text.toList).bind (Reading.query d) with
  | some (q, []) => some q
  | _ => none

end Reporting.Sql
