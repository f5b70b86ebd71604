import Reporting.Catalog.FieldSet
import Reporting.Format
import Reporting.Sql.Query

/-!
A catalog says what reports of one kind may select, filter and sort by, and where their rows come
from.
-/

namespace Reporting

structure CatalogField where
  name : String
  label : Option String := none
  numeric : Bool := false
  format : Option Format := none
  deriving DecidableEq, Repr

structure JoinSpec where
  table : String
  kind : Sql.JoinKind := .left
  left : String
  right : String
  deriving DecidableEq, Repr

def JoinSpec.join (j : JoinSpec) : Sql.Join :=
  ⟨j.kind, ⟨none, j.table⟩, .binary .eq (.field j.left) (.field j.right)⟩

structure Offer where
  fields : FieldSet
  /-- The fields that sort by magnitude, named by reference or by key. -/
  numeric : List String
  source : Sql.TableRef
  joins : List JoinSpec
  identity : String

structure Catalog where
  name : String
  entity : String
  schema : Option String := none
  identity : String := "ID"
  fields : List CatalogField := []
  joins : List JoinSpec := []
  deriving DecidableEq, Repr

namespace Catalog

def fieldSet (c : Catalog) : FieldSet :=
  -- Of two fields of one name the later labels it.
  .ofList (c.fields.map fun f => (f.name, f.label.getD f.name))

def numericFields (c : Catalog) : List String :=
  ((c.fields.filter CatalogField.numeric).map CatalogField.name).eraseDups

def source (c : Catalog) : Sql.TableRef := ⟨c.schema, c.entity⟩

def offer (c : Catalog) : Offer :=
  { fields := c.fieldSet
    numeric := c.numericFields
    source := c.source
    joins := c.joins
    identity := c.identity }

def formats (c : Catalog) : Entries String Format :=
  .ofList (c.fields.filterMap fun f => f.format.map fun format => (f.name, format))

def addField (c : Catalog) (f : CatalogField) : Catalog := { c with fields := c.fields ++ [f] }

def addJoin (c : Catalog) (j : JoinSpec) : Catalog := { c with joins := c.joins ++ [j] }

def formatField (name : String) (format : Format) : List CatalogField → List CatalogField
  | [] => []
  | f :: fs =>
    if f.name = name then { f with format := some format } :: fs
    else f :: formatField name format fs

def addFormat (c : Catalog) (name : String) (format : Format) : Catalog :=
  { c with fields := formatField name format c.fields }

end Catalog

end Reporting
