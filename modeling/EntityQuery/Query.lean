import EntityQuery.Predicate

/-!
# Queries

A query over an entity table collects lookups, an order and a window of rows. Each step makes a new
query or is refused, so that a query that exists can always be rendered.

* `Query.filter`, `Query.filterAll`: lookups come, are merged, are replaced or go;
* `Query.orderBy`: the order is replaced;
* `Query.row`, `Query.slice`, `Query.page`, `Query.withLimit`, `Query.withOffset`: the window is
  set.
-/

namespace EntityQuery

/-- The direction of an order. -/
inductive Direction
  | ascending
  | descending
  deriving DecidableEq

/-- The word for a direction in SQL. -/
def Direction.word : Direction → String
  | .ascending => "ASC"
  | .descending => "DESC"

/-- The fields that rows are ordered by, with one direction. -/
structure SortOrder where
  fields : List Field
  direction : Direction

/-- What was asked for under a key, and the predicate made of it. -/
structure Lookup where
  value : Json
  predicate : Predicate

/-- Lookups, an order and a window over an entity table. -/
structure Query where
  table : String
  registry : Registry
  lookups : Dict Lookup
  order : Option SortOrder
  limit : Option Int
  offset : Option Int

namespace Query

/-- Every row of a table. -/
def new (table : String) (registry : Registry) : Query :=
  ⟨table, registry, .empty, none, none, none⟩

/-- What is asked for under a key. -/
def lookup? (q : Query) (key : String) : Option Json := (q.lookups.get? key).map (·.value)

/-- The fields of the lookups, in order of the keys. -/
def lookupFields (q : Query) : List Field := q.lookups.values.map (·.predicate.field)

/-- The fields that rows are ordered by. -/
def orderFields (q : Query) : List Field :=
  match q.order with
  | some order => order.fields
  | none => []

/-- The fields in use. -/
def fields (q : Query) : List Field := q.lookupFields ++ q.orderFields

/-- A field in use would be selected under the name of this field. -/
def clashes (q : Query) (field : Field) : Bool := q.fields.any field.collides

/-! ## Lookups -/

/-- A list without the items that another one has already, appended to that one. Repetitions among
the items that are new go too. -/
def union (stored new : List Json) : List Json :=
  new.foldl (fun items item => if item.occurs items then items else items ++ [item]) stored

/-- What is asked for under a key after a value is given: a list is merged into a list, and any
other value replaces what there was. -/
def merge : Option Json → Json → Json
  | some (.array stored), .array new => .array (union stored new)
  | _, value => value

/-- Asks for a value under a key, merged with what is asked for already; `null` takes the lookup
away. -/
def filter (q : Query) (key : String) (value : Json) : Except QueryError Query :=
  if value.isNull then .ok { q with lookups := q.lookups.erase key }
  else do
    let value := merge (q.lookup? key) value
    let predicate ← Predicate.compile q.registry key value
    let others := { q with lookups := q.lookups.erase key }
    if others.clashes predicate.field then throw (.invalidField predicate.field.name)
    return { q with lookups := q.lookups.insert key ⟨value, predicate⟩ }

/-- Asks for a value under each of the keys, one after the other. -/
def filterAll (q : Query) (filters : List (String × Json)) : Except QueryError Query :=
  filters.foldlM (fun q f => q.filter f.1 f.2) q

/-! ## Order -/

/-- A field that rows can be ordered by. -/
def orderField (registry : Registry) (key : String) : Except QueryError Field := do
  let field ← Field.resolve registry key
  if field == .reverse then throw (.invalidField field.name)
  return field

/-- The first field that collides with a lookup's field or with a field before it. -/
def firstClash? (q : Query) : List Field → List Field → Option Field
  | _, [] => none
  | before, field :: rest =>
    if q.clashes field || before.any field.collides then some field
    else firstClash? q (before ++ [field]) rest

/-- Orders the rows by fields, in place of the order there was; no fields mean no order. -/
def orderBy (q : Query) (keys : List String) (direction : Direction) : Except QueryError Query := do
  let fields ← keys.mapM (orderField q.registry)
  let unordered := { q with order := none }
  match unordered.firstClash? [] fields with
  | some field => throw (.invalidField field.name)
  | none =>
    return if fields.isEmpty then unordered else { q with order := some ⟨fields, direction⟩ }

/-! ## Windows -/

/-- The one row at an index. -/
def row (q : Query) (index : Int) : Except QueryError Query :=
  if index < 0 then .error (.invalidWindow (.negativeIndex index))
  else .ok { q with limit := some 1, offset := some index }

/-- The rows from a start up to a stop; without a stop, all that follow. -/
def range (q : Query) (start : Int) (stop : Option Int) : Except QueryError Query :=
  if start < 0 then .error (.invalidWindow (.negativeStart start))
  else match stop with
    | none => .ok { q with limit := some (-1), offset := some start }
    | some stop =>
      if stop ≤ start then .error (.invalidWindow (.emptyRange start stop))
      else .ok { q with limit := some (stop - start), offset := some start }

/-- The rows from a start up to a stop, one by one: no other step is served. -/
def slice (q : Query) (start stop step : Option Int) : Except QueryError Query :=
  match step with
  | some step =>
    if step = 1 then q.range (start.getD 0) stop
    else .error (.invalidWindow (.unsupportedStep step))
  | none => q.range (start.getD 0) stop

/-- A page of so many rows, the first page being page 1. The page ends within 64 bits. -/
def page (q : Query) (page limit : Int) : Except QueryError Query :=
  if page < 1 then .error (.invalidWindow (.pageOutOfRange page))
  else if limit < 1 then .error (.limitOutOfRange limit)
  else if signedMax < page * limit then .error (.invalidWindow (.pageOutOfRange page))
  else q.range ((page - 1) * limit) (some (page * limit))

/-- At most so many rows; -1 means all. -/
def withLimit (q : Query) (limit : Int) : Except QueryError Query :=
  if limit < -1 then .error (.limitOutOfRange limit) else .ok { q with limit := some limit }

/-- The rows after so many. -/
def withOffset (q : Query) (offset : Int) : Except QueryError Query :=
  if offset < 0 then .error (.invalidWindow (.negativeOffset offset))
  else .ok { q with offset := some offset }

/-- All rows that the lookups ask for, in no order. -/
def unpaged (q : Query) : Query := { q with order := none, limit := none, offset := none }

end Query

end EntityQuery
