import Reporting.Definition
import Reporting.Plan.Filter
import Reporting.Plan.Projection
import Reporting.Plan.SortOrder

/-!
The plan of a report: its definition checked against the catalog. Planning never fails; what cannot
be used is left out.
-/

namespace Reporting

structure Plan where
  source : Sql.TableRef
  joins : List Sql.Join
  projection : Projection
  filter : Filter
  order : SortOrder
  headers : Headers
  sectionKey : Option String

namespace Plan

def sectionField (allowed : FieldSet) (d : Definition) : Option ProjectedField :=
  (d.paginationField.filter allowed.contains).map ProjectedField.ofReference

/--
Sections need their field even where it is not displayed. If all columns are selected, only a field
of another table has to be added, since it would not have its key.
-/
def withSection (p : Projection) (f : ProjectedField) : Projection :=
  if !p.fields.isEmpty then p.push f
  else if f.rename.isSome then .allColumnsWith f
  else p

def ofOffer (o : Offer) (d : Definition) : Plan :=
  let allowed := o.fields
  let sectionField := sectionField allowed d
  let projection := Projection.ofSelected allowed d.selected
  { source := o.source
    joins := o.joins.map JoinSpec.join
    projection := (sectionField.map (withSection projection)).getD projection
    filter := .ofLists allowed d.conditionFields d.conditionOperators d.conditionValues
    order := .ofLists allowed d.sortFields d.sortDirections o.numeric o.identity
    headers := .ofLists allowed d.selected d.headers
    sectionKey := sectionField.map ProjectedField.key }

def ofDefinition (c : Catalog) (d : Definition) : Plan := ofOffer c.offer d

def orderBy (p : Plan) : List Sql.Ordered :=
  -- With joins, the identity of the base table has to be told from those of the others.
  if p.order.fallback && !p.joins.isEmpty then
    p.order.terms.map (SortTerm.orderedIn p.source.table)
  else p.order.ordered

def query (p : Plan) : Sql.Query :=
  let selection :=
    if p.projection.fields.isEmpty then Sql.Query.empty.selectAll
    else Sql.Query.empty.selectItems p.projection.selected
  let joined := { selection with source := some p.source, joins := p.joins }
  let filtered :=
    match p.filter.expr with
    | some e => joined.filter e
    | none => joined
  { filtered with orderBy := p.orderBy }

theorem query_eq (p : Plan) : p.query =
    { select := if p.projection.fields.isEmpty then [⟨.star, none⟩] else p.projection.selected
      source := some p.source
      joins := p.joins
      condition := p.filter.expr
      orderBy := p.orderBy } := by
  unfold query
  cases p.filter.expr <;> cases p.projection.fields.isEmpty <;> rfl

@[simp] theorem query_source (p : Plan) : p.query.source = some p.source := by rw [query_eq]

@[simp] theorem query_joins (p : Plan) : p.query.joins = p.joins := by rw [query_eq]

@[simp] theorem query_condition (p : Plan) : p.query.condition = p.filter.expr := by rw [query_eq]

@[simp] theorem query_orderBy (p : Plan) : p.query.orderBy = p.orderBy := by rw [query_eq]

def sql (d : Sql.Dialect) (p : Plan) : String := p.query.sql d

end Plan

end Reporting
