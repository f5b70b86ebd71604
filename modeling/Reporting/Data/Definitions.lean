import Reporting.Data.Formats
import Reporting.Definition

/-!
Catalogs and definitions as data. Every field of a definition may be missing and has a second, older
name.
-/

namespace Reporting

open Decode

namespace Sql.JoinKind

def names : List (String × JoinKind) := [("inner", .inner), ("left", .left)]

def ofName (s : String) : Decoded JoinKind :=
  match names.lookup s with
  | some kind => .ok kind
  | none => fail (.unknownVariant s (names.map Prod.fst))

/-- What stands for nothing beside the name of a kind, where the kind is written as a table. -/
def readUnit (o : Origin) : Node → Decoded Unit
  | .null => .ok ()
  | .list ns _ =>
    if o ≠ .toml then fail (.invalidType "sequence" "unit")
    else if ns.isEmpty then .ok ()
    else fail (.unsuitable "expected empty array")
  | .table es _ =>
    if o ≠ .toml then fail (.invalidType "map" "unit")
    else if es.isEmpty then .ok ()
    else fail (.unsuitable "expected empty table")
  | n =>
    if o ≠ .toml then mismatch o "unit" n
    else
      let kind :=
        match n with
        | .bool _ => "boolean"
        | .int _ => "integer"
        | .float _ => "float"
        | .noNumber isWhole => if isWhole then "integer" else "float"
        | .string _ => "string"
        | _ => "datetime"
      fail (.unsuitable ("expected table, found " ++ kind))

def ofEntries (o : Origin) (es : List (String × Node)) (ending : Ending) : Decoded JoinKind :=
  match es, o with
  | [(key, n)], _ => do
    let kind ← ofName key
    readUnit o n
    closed ending
    return kind
  | (key, n) :: _, .jsonText => do
    let _ ← ofName key
    readUnit o n
    .error .malformed
  | [], .jsonText => .error .malformed
  | _, .jsonValue => fail (.invalidValue "map" "map with a single key")
  | [], .toml => fail (.unsuitable "wanted exactly 1 element, found 0 elements")
  | _, .toml => fail (.unsuitable "wanted exactly 1 element, more than 1 element")

def read (o : Origin) : Node → Decoded JoinKind
  | .string s => ofName s
  | .table es ending => ofEntries o es ending
  | n =>
    match o with
    | .jsonText => .error .malformed
    | .jsonValue => mismatch o "string or map" n
    | .toml => fail (.unsuitable "wanted string or table")

def name : JoinKind → String
  | inner => "inner"
  | left => "left"

end Sql.JoinKind

namespace JoinSpec

def shape : Shape JoinSpec :=
  { title := "struct JoinSpec"
    start := { table := "", left := "", right := "" }
    fields :=
      [(Field.of "table" string fun j s => { j with table := s }).needed,
        .of "kind" Sql.JoinKind.read fun j k => { j with kind := k },
        (Field.of "left" string fun j s => { j with left := s }).needed,
        (Field.of "right" string fun j s => { j with right := s }).needed] }

def node (j : JoinSpec) : Node :=
  .ofEntries
    [("table", .string j.table), ("kind", .string j.kind.name), ("left", .string j.left),
      ("right", .string j.right)]

end JoinSpec

def optionalString (o : Origin) : Node → Decoded (Option String) := optional (string o)

namespace CatalogField

def shape : Shape CatalogField :=
  { title := "struct CatalogField"
    start := { name := "" }
    fields :=
      [(Field.of "name" string fun f s => { f with name := s }).needed,
        .of "label" optionalString fun f s => { f with label := s },
        .of "numeric" bool fun f b => { f with numeric := b },
        .of "format" (fun o => optional (Format.read o)) fun f x => { f with format := x }] }

def node (f : CatalogField) : Node :=
  .ofEntries
    [("name", .string f.name), ("label", .ofOption .string f.label), ("numeric", .bool f.numeric),
      ("format", .ofOption Format.node f.format)]

end CatalogField

namespace Catalog

def shape : Shape Catalog :=
  { title := "struct StaticCatalog"
    start := { name := "", entity := "" }
    fields :=
      [(Field.of "name" string fun c s => { c with name := s }).needed,
        (Field.of "entity" string fun c s => { c with entity := s }).needed,
        .of "schema" optionalString fun c s => { c with schema := s },
        .of "identity" string fun c s => { c with identity := s },
        .of "fields" (fun o => list o (CatalogField.shape.read o)) fun c fs =>
          { c with fields := fs },
        .of "joins" (fun o => list o (JoinSpec.shape.read o)) fun c js => { c with joins := js }] }

def node (c : Catalog) : Node :=
  .ofEntries
    [("name", .string c.name), ("entity", .string c.entity), ("schema", .ofOption .string c.schema),
      ("identity", .string c.identity), ("fields", .list (c.fields.map CatalogField.node) .closed),
      ("joins", .list (c.joins.map JoinSpec.node) .closed)]

end Catalog

namespace Definition

def shape : Shape Definition :=
  { title := "struct ReportDefinition"
    start := {}
    fields :=
      [(Field.of "title" string fun d s => { d with title := s }).formerly "Title",
        (Field.of "description" string fun d s => { d with description := s }).formerly
          "Description",
        (Field.of "selected_fields" strings fun d s => { d with selected := s }).formerly
          "ReportFields",
        (Field.of "field_headers" strings fun d s => { d with headers := s }).formerly
          "ReportHeaders",
        (Field.of "condition_fields" strings fun d s => { d with conditionFields := s }).formerly
          "ConditionFields",
        (Field.of "condition_operators" strings fun d s =>
          { d with conditionOperators := s }).formerly
          "ConditionOps",
        (Field.of "condition_values" strings fun d s => { d with conditionValues := s }).formerly
          "ConditionValues",
        (Field.of "paginate_by" optionalString fun d s => { d with paginateBy := s }).formerly
          "PaginateBy",
        (Field.of "page_header" string fun d s => { d with pageHeader := s }).formerly "PageHeader",
        (Field.of "sort_fields" strings fun d s => { d with sortFields := s }).formerly "SortBy",
        (Field.of "sort_directions" strings fun d s => { d with sortDirections := s }).formerly
          "SortDir",
        (Field.of "clear_columns" strings fun d s => { d with clearColumns := s }).formerly
          "ClearColumns",
        (Field.of "add_in_rows" strings fun d s => { d with addInRows := s }).formerly "AddInRows",
        (Field.of "add_cols" strings fun d s => { d with addColumns := s }).formerly "AddCols"] }

def node (d : Definition) : Node :=
  .ofEntries
    [("title", .string d.title), ("description", .string d.description),
      ("selected_fields", .strings d.selected), ("field_headers", .strings d.headers),
      ("condition_fields", .strings d.conditionFields),
      ("condition_operators", .strings d.conditionOperators),
      ("condition_values", .strings d.conditionValues),
      ("paginate_by", .ofOption .string d.paginateBy), ("page_header", .string d.pageHeader),
      ("sort_fields", .strings d.sortFields), ("sort_directions", .strings d.sortDirections),
      ("clear_columns", .strings d.clearColumns), ("add_in_rows", .strings d.addInRows),
      ("add_cols", .strings d.addColumns)]

end Definition

namespace DefinitionFile

def shape : Shape DefinitionFile :=
  { title := "struct DefinitionFile"
    start := { catalog := { name := "", entity := "" } }
    fields :=
      [(Field.of "catalog" Catalog.shape.read fun f c => { f with catalog := c }).needed,
        .of "report" Definition.shape.read fun f d => { f with report := d }] }

def node (f : DefinitionFile) : Node :=
  .ofEntries [("catalog", f.catalog.node), ("report", f.report.node)]

end DefinitionFile

end Reporting
