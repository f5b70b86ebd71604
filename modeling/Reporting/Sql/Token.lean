import Reporting.Sql.Dialect

/-!
Tokens of SQL text. Names and strings are quoted here and nowhere else.
-/

namespace Reporting.Sql

inductive Keyword where
  | select
  | source
  | condition
  | conj
  | naming
  | onto
  | join
  | inner
  | left
  | orderBy
  | asc
  | desc
  | member
  | cast
  | tryCast
  deriving DecidableEq, Repr

def Keyword.text : Keyword → String
  | select => "SELECT"
  | source => "FROM"
  | condition => "WHERE"
  | conj => "AND"
  | naming => "AS"
  | onto => "ON"
  | join => "JOIN"
  | inner => "INNER"
  | left => "LEFT"
  | orderBy => "ORDER BY"
  | asc => "ASC"
  | desc => "DESC"
  | member => "IN"
  | cast => "CAST"
  | tryCast => "TRY_CAST"

inductive Mark where
  | comma
  | dot
  | star
  | lparen
  | rparen
  | eq
  | ne
  | lt
  | gt
  | le
  | ge
  | plus
  | space
  | newline
  deriving DecidableEq, Repr

def Mark.text : Mark → String
  | comma => ","
  | dot => "."
  | star => "*"
  | lparen => "("
  | rparen => ")"
  | eq => "="
  | ne => "<>"
  | lt => "<"
  | gt => ">"
  | le => "<="
  | ge => ">="
  | plus => "+"
  | space => " "
  | newline => "\n"

inductive Token where
  | keyword (k : Keyword)
  | mark (m : Mark)
  | indent (depth : Nat)
  | name (s : String)
  | qualified (schema : Option String) (s : String)
  | int (n : Int)
  | string (s : String)
  | typeName (t : NumericType)
  deriving DecidableEq, Repr

namespace Token

def indentation (depth : Nat) : String := .ofList (List.replicate (2 * depth) ' ')

def text (d : Dialect) : Token → String
  | keyword k => k.text
  | mark m => m.text
  | indent depth => indentation depth
  | name s => d.quoteName s
  | qualified (some schema) s => d.quoteName schema ++ "." ++ d.quoteName s
  | qualified none s => d.quoteName s
  | int n => Text.ofInt n
  | string s => d.quoteString s
  | typeName t => t.text

end Token

def write (d : Dialect) (ts : List Token) : String := String.join (ts.map (Token.text d))

def coerce (d : Dialect) (ts : List Token) : List Token :=
  let cast (word : Keyword) (kind : NumericType) : List Token :=
    [.keyword word, .mark .lparen] ++ ts ++
      [.mark .space, .keyword .naming, .mark .space, .typeName kind, .mark .rparen]
  match d.coercion with
  | .plusZero => ts ++ [.mark .space, .mark .plus, .mark .space, .int 0]
  | .cast kind => cast .cast kind
  | .tryCast kind => cast .tryCast kind

end Reporting.Sql
