import Reporting.Text.Quoted
import Reporting.Text.Split

/-!
The SQL dialects a query can be written in, and how each quotes names and strings.
-/

namespace Reporting.Sql

inductive Dialect where
  | duckDb
  | tSql
  | mySql
  | postgres
  | sqlite
  deriving DecidableEq, Repr, Inhabited

inductive NumericType where
  | numeric
  | double
  | float
  deriving DecidableEq, Repr

def NumericType.text : NumericType → String
  | numeric => "NUMERIC"
  | double => "DOUBLE"
  | float => "FLOAT"

inductive Coercion where
  | plusZero
  | cast (kind : NumericType)
  | tryCast (kind : NumericType)
  deriving DecidableEq, Repr

structure UnknownDialect where
  name : String
  deriving DecidableEq, Repr

def UnknownDialect.message (e : UnknownDialect) : String := "unknown SQL dialect: " ++ e.name

namespace Dialect

def all : List Dialect := [duckDb, mySql, postgres, sqlite, tSql]

def name : Dialect → String
  | duckDb => "duckdb"
  | tSql => "tsql"
  | mySql => "mysql"
  | postgres => "postgres"
  | sqlite => "sqlite"

def title : Dialect → String
  | duckDb => "DuckDb"
  | tSql => "TSql"
  | mySql => "MySql"
  | postgres => "Postgres"
  | sqlite => "Sqlite"

def standard : Dialect := duckDb

def names : List (String × Dialect) :=
  [("duckdb", duckDb), ("postgres", postgres), ("postgresql", postgres), ("mysql", mySql),
    ("mariadb", mySql), ("tsql", tSql), ("mssql", tSql), ("sqlserver", tSql), ("sqlite", sqlite)]

def ofName (s : String) : Except UnknownDialect Dialect :=
  match names.lookup (Text.lowerAscii s) with
  | some d => .ok d
  | none => .error ⟨s⟩

def nameQuotes : Dialect → Text.Quotes
  | mySql => .backtick
  | tSql => .bracket
  | _ => .double

def stringQuotes (d : Dialect) (s : String) : Text.Quotes :=
  match d with
  | mySql => .backslash
  | tSql => if s.toList.all fun c => c.toNat < 128 then .single else .national
  | _ => .single

def quoteName (d : Dialect) (s : String) : String := d.nameQuotes.write s

def quoteString (d : Dialect) (s : String) : String := (d.stringQuotes s).write s

def coercion : Dialect → Coercion
  | duckDb => .tryCast .double
  | tSql => .tryCast .float
  | postgres => .cast .numeric
  | mySql => .plusZero
  | sqlite => .plusZero

end Dialect

end Reporting.Sql
