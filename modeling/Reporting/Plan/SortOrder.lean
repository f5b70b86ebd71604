import Reporting.Catalog.FieldSet
import Reporting.Plan.Names
import Reporting.Sql.Query

/-!
The order of a report's rows. A written direction holds from its position on until another one is
written; positions whose field is not offered are passed over together with their direction.
-/

namespace Reporting

structure SortTerm where
  field : String
  key : String
  direction : Sql.Direction
  numeric : Bool
  deriving DecidableEq, Repr

namespace SortTerm

def ordered (t : SortTerm) : Sql.Ordered :=
  ⟨if t.numeric then .numeric (.field t.field) else .field t.field, t.direction⟩

def orderedIn (table : String) (t : SortTerm) : Sql.Ordered :=
  let column : Sql.Expr := .column (some table) t.field
  ⟨if t.numeric then .numeric column else column, t.direction⟩

def text (t : SortTerm) : String :=
  t.key ++ (if t.numeric then " + 0 " else " ") ++ t.direction.text

end SortTerm

structure SortOrder where
  terms : List SortTerm
  /-- The order by identity, taken where the report has no usable term. -/
  fallback : Bool
  deriving DecidableEq, Repr

namespace SortOrder

def byIdentity (identity : String) : SortOrder := ⟨[⟨identity, identity, .asc, false⟩], true⟩

def direction? (s : String) : Option Sql.Direction :=
  -- A direction counts only where it is written in capitals.
  if s = "ASC" then some .asc else if s = "DESC" then some .desc else none

def sortTerms (allowed : FieldSet) (numeric : List String) :
    Sql.Direction → List String → List String → List SortTerm
  | _, [], _ => []
  | direction, f :: fs, directions =>
    if allowed.contains f then
      let direction := (directions.head?.bind direction?).getD direction
      ⟨f, keyOf f, direction, numeric.contains (keyOf f)⟩ ::
        sortTerms allowed numeric direction fs directions.tail
    else sortTerms allowed numeric direction fs directions.tail

def ofLists (allowed : FieldSet) (fields directions numeric : List String) (identity : String) :
    SortOrder :=
  match sortTerms allowed (numeric.map keyOf) .asc fields directions with
  | [] => byIdentity identity
  | t :: ts => ⟨t :: ts, false⟩

def ordered (o : SortOrder) : List Sql.Ordered := o.terms.map SortTerm.ordered

def text (o : SortOrder) : String := ", ".intercalate (o.terms.map SortTerm.text)

end SortOrder

end Reporting
