import EntityQuery.Aggregation
import EntityQuery.Entity
import EntityQuery.Json.Printer
import EntityQuery.Row
import EntityQuery.Table

/-!
# Stores

A store keeps entities in a table of a database and answers queries over them. A database is given
by how it answers a statement with bound values in each of its states; a call that fails leaves what
was done before it.

* `Store.put`, `Store.putAll`: entities come into the table and the index;
* `Store.entities`, `Store.search`, `Store.count`, `Store.stats`, `Store.aggregations`: what is
  found.
-/

namespace EntityQuery

/-- Work on a database with states `σ`, which may fail and keeps the state it has reached then. -/
abbrev Work (σ : Type) := ExceptT QueryError (StateM σ)

/-- A database: how it carries out a statement, and how it answers one with rows. -/
structure Database (σ : Type) where
  execute : String → List Json → Work σ Unit
  fetch : String → List Json → Work σ (List Row)

/-- An entity table with the registry of its entities. -/
structure Store where
  table : EntityTable
  registry : Registry

/-- Counts of entities, all of them and by schema. -/
structure EntityCounts where
  total : Int
  schemata : Dict Int

/-- The value of each aggregate function, by field and by the word for the function. -/
structure AggregateValues where
  fields : Dict (Dict Json)

namespace AggregateValues

/-- No values. -/
def empty : AggregateValues := ⟨.empty⟩

/-- Sets the value of a function of a field. -/
def set (v : AggregateValues) (field function : String) (value : Json) : AggregateValues :=
  ⟨v.fields.alter field fun functions => (functions.getD .empty).insert function value⟩

/-- The value of a function of a field. -/
def get? (v : AggregateValues) (field function : String) : Option Json :=
  (v.fields.get? field).bind (·.get? function)

/-- The values as an object of objects. -/
def json (v : AggregateValues) : Json :=
  .object (v.fields.entries.map fun e => (e.1, .ofDict e.2))

end AggregateValues

namespace Store

variable {σ : Type}

/-- The store of a table's entities. -/
def new (table : String) (registry : Registry) : Except QueryError Store :=
  (EntityTable.new table).map (⟨·, registry⟩)

/-- Every entity of the store. -/
def query (s : Store) : Query := .new s.table.name s.registry

/-! ## Changes -/

/-- Creates the table and its indexes. -/
def create (s : Store) (db : Database σ) : Work σ Unit :=
  s.table.definitions.forM fun sql => db.execute sql []

/-- The text that an entity is found by: its names, in the form of search terms. -/
def searchText (s : Store) (e : Entity) : String :=
  let named := e.properties.entries.filter fun p => s.registry.propertyType p.1 == some .name
  " ".intercalate (((named.flatMap (·.2)).map Term.normalize).filter (!·.isEmpty))

/-- The values of an entity's row: the id, the schema, the first dataset and the document. -/
def rowValues (e : Entity) : List Json :=
  [.text e.id, .text e.schema, (e.datasets.head?.map .text).getD .null, .text e.document.compact]

/-- Puts an entity in place of the one of the same id, in the table first and then in the index. -/
def put (s : Store) (db : Database σ) (e : Entity) : Work σ Unit := do
  db.execute s.table.insertSql (rowValues e)
  db.execute s.table.indexDeleteSql [.text e.id]
  let text := s.searchText e
  if !text.isEmpty then
    db.execute s.table.indexInsertSql [.text e.id, .text text]

/-- Puts entities one after the other, and tells how many. -/
def putAll (s : Store) (db : Database σ) (es : List Entity) : Work σ Nat := do
  es.forM (s.put db)
  return es.length

/-! ## Answers -/

/-- The entity in a row. -/
def entityOf (row : Row) : Except QueryError Entity :=
  match row.document? "entity" with
  | none => .error (.storage .missingDocument)
  | some document =>
    match Entity.ofJson? document with
    | some e => .ok e
    | none => .error .json

/-- The entities that a statement finds. -/
def found (db : Database σ) (statement : Statement) : Work σ (List Entity) := do
  let rows ← db.fetch statement.render statement.parameters
  match rows.mapM entityOf with
  | .ok es => return es
  | .error e => throw e

/-- The entities of a query. -/
def entities (db : Database σ) (q : Query) : Work σ (List Entity) := found db q.statement

/-- The entities of a search. -/
def search (db : Database σ) (q : Search) : Work σ (List Entity) := found db q.statement

/-- The column of a count. -/
def countColumn : String := "COUNT(*)"

/-- The number of entities that the lookups of a query ask for. -/
def count (db : Database σ) (q : Query) : Work σ Int := do
  let rows ← db.fetch q.countSql q.parameters
  return (rows.head?.bind (·.signed? countColumn)).getD 0

/-- Takes the count in a row into the counts; a row without a schema or a count says nothing. -/
def addCount (counts : EntityCounts) (row : Row) : EntityCounts :=
  match row.text? "schema", row.signed? countColumn with
  | some schema, some n => ⟨wrapSigned (counts.total + n), counts.schemata.insert schema n⟩
  | _, _ => counts

/-- The numbers of entities that the lookups of a query ask for. -/
def stats (db : Database σ) (q : Query) : Work σ EntityCounts := do
  let rows ← db.fetch q.schemaGroupsSql q.parameters
  return rows.foldl addCount ⟨0, .empty⟩

/-- Runs one aggregate statement; without a value in the first row the function is `null`. -/
def aggregate (db : Database σ) (values : AggregateValues) (s : AggregateStatement) :
    Work σ AggregateValues := do
  let rows ← db.fetch s.sql s.parameters
  let value := (rows.head?.bind (·.value? s.function.resultName)).getD .null
  return values.set s.field s.function.word value

/-- The values of all aggregate functions asked for. -/
def aggregations (db : Database σ) (a : Aggregation) : Work σ AggregateValues :=
  a.statements.foldlM (aggregate db) .empty

end Store

end EntityQuery
