import EntityQuery.Query
import EntityQuery.Statement

/-!
# Rendering of queries

The statement of a query selects the base columns and the values of all fields in use, each under
its name, and puts the conditions of the lookups in order of their keys.

* `Query.statement`: the statement of a query;
* `Query.countSql`, `Query.schemaGroupsSql`: counts over all rows that the lookups ask for.
-/

namespace EntityQuery

/-- The text of an order; `joined` tells whether columns are qualified. The direction stands once,
at the end. -/
def SortOrder.sql (order : SortOrder) (joined : Bool) : String :=
  ", ".intercalate (order.fields.filterMap fun f => (f.orderExpression joined).toOption) ++ " " ++
    order.direction.word

namespace Query

/-- The columns that every query selects. -/
def baseColumns : List String := ["t.id", "t.schema", "t.entity"]

/-- The source of the property lists, each as `r.value`: one row for each property of an entity. -/
def reverseSource : String := "json_each(t.entity, '$.properties') r"

/-- A lookup asks for a value of any property. -/
def hasReverse (q : Query) : Bool := q.lookupFields.any (· == .reverse)

/-- The table and, for lookups of any property, the property lists. -/
def source (q : Query) : String :=
  if q.hasReverse then q.table ++ " t, " ++ reverseSource else q.table ++ " t"

/-- The expressions to extract, by the names they are selected under. -/
def extractions (q : Query) : Dict String :=
  .ofList (q.fields.filterMap fun f => f.expression?.map (f.reference, ·))

/-- The base columns and the extractions in order of their names. -/
def columns (q : Query) : List String :=
  baseColumns ++ q.extractions.entries.map fun e => e.2 ++ " AS " ++ e.1

/-- The values that the lookups bind, in order of the keys. -/
def parameters (q : Query) : List Json := q.lookups.values.flatMap (·.predicate.values)

/-- The statement of a query. -/
def statement (q : Query) : Statement where
  select := q.columns
  source := q.source
  conditions := q.lookups.values.map fun l => "(" ++ l.predicate.sql ++ ")"
  parameters := q.parameters
  order := q.order.map (·.sql q.hasReverse)
  limit := q.limit
  offset := q.offset

/-- The text of a query. -/
def sql (q : Query) : String := q.statement.render

/-- The text of the count of all rows that the lookups ask for. -/
def countSql (q : Query) : String := q.unpaged.statement.countSql

/-- The text of the counts of these rows for each schema. -/
def schemaGroupsSql (q : Query) : String := q.unpaged.statement.schemaGroupsSql

end Query

end EntityQuery
