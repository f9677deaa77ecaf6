import EntityQuery.Query.Sql

/-!
# Aggregations

Aggregate functions over the values of fields in all rows that a query's lookups ask for. Each pair
of a field and a function has a statement of its own, which wraps the query without order and
window.

* `Aggregations`: the functions asked for, by field;
* `Aggregation.new`: the aggregations of a query, if each field has values of its own;
* `Aggregation.statements`: one statement for each pair.
-/

namespace EntityQuery

/-- An aggregate function. -/
inductive Aggregate
  | count
  | sum
  | avg
  | min
  | max
  deriving DecidableEq

namespace Aggregate

/-- Every function, in the order in which they are listed. -/
def all : List Aggregate := [.count, .sum, .avg, .min, .max]

/-- The word for a function. -/
def word : Aggregate → String
  | .count => "count"
  | .sum => "sum"
  | .avg => "avg"
  | .min => "min"
  | .max => "max"

/-- The name of a function's result, and of the parameter that asks for it. -/
def resultName : Aggregate → String
  | .count => "aggCount"
  | .sum => "aggSum"
  | .avg => "aggAvg"
  | .min => "aggMin"
  | .max => "aggMax"

/-- The function applied to an expression. -/
def sql (f : Aggregate) (expression : String) : String :=
  let function := match f with
    | .count => "COUNT("
    | .sum => "SUM("
    | .avg => "AVG("
    | .min => "MIN("
    | .max => "MAX("
  function ++ expression ++ ")"

/-- The function that a word stands for, in any case of its letters. -/
def ofWord (word : String) : Except QueryError Aggregate :=
  match all.find? fun f => f.word == word.toLower with
  | some f => .ok f
  | none => .error (.invalidAggregation word)

/-- The function that a parameter asks for. -/
def ofParameter? (key : String) : Option Aggregate := all.find? fun f => f.resultName == key

theorem mem_all (f : Aggregate) : f ∈ all := by cases f <;> decide

end Aggregate

/-- The functions asked for, by field; each list is in the order of `Aggregate.all`. -/
structure Aggregations where
  functions : Dict (List Aggregate)

namespace Aggregations

/-- Nothing asked for. -/
def empty : Aggregations := ⟨.empty⟩

/-- Asks for a function of a field too. -/
def add (a : Aggregations) (f : Aggregate) (field : String) : Aggregations :=
  ⟨a.functions.alter field fun fs =>
    Aggregate.all.filter fun g => g == f || (fs.getD []).contains g⟩

/-- Every pair of a field and a function, in order. -/
def pairs (a : Aggregations) : List (String × Aggregate) :=
  a.functions.entries.flatMap fun e => e.2.map (e.1, ·)

/-- Nothing is asked for. -/
def isEmpty (a : Aggregations) : Bool := a.functions.isEmpty

end Aggregations

/-- The statement for one pair of a field and a function. -/
structure AggregateStatement where
  field : String
  function : Aggregate
  sql : String
  parameters : List Json

/-- A query with the fields whose values are aggregated, and the functions of each. -/
structure Aggregation where
  query : Query
  requested : Aggregations
  fields : Dict Field

namespace Aggregation

/-- The fields of the names, refusing a name that has none and the field that matches any
property. -/
def resolveAll (registry : Registry) (names : List String) : Except QueryError (Dict Field) :=
  names.foldlM (fun fields name => (Query.orderField registry name).map (fields.insert name)) .empty

/-- The aggregations of a query. -/
def new (query : Query) (requested : Aggregations) : Except QueryError Aggregation :=
  (resolveAll query.registry requested.functions.keys).map fun fields =>
    ⟨query, requested, fields⟩

/-- The text of the statement for a field and a function over the rows of an inner statement. The
values of a list are aggregated one by one, a single extracted value and a column as they are. -/
def statementSql (inner : String) (field : Field) (f : Aggregate) : String :=
  let wrapped (expression sources : String) :=
    "SELECT " ++ f.sql expression ++ " AS " ++ f.resultName ++
      " FROM (" ++ inner ++ ") t" ++ sources
  match field.expression?, field.kind with
  | some expression, .scalar => wrapped expression ""
  | some expression, _ => wrapped "value" (", json_each(" ++ expression ++ ")")
  | none, _ => wrapped field.reference ""

/-- One statement for each pair of a field and a function, in order. -/
def statements (a : Aggregation) : List AggregateStatement :=
  let inner := a.query.unpaged.statement
  a.requested.pairs.filterMap fun (name, f) =>
    (a.fields.get? name).map fun field =>
      ⟨name, f, statementSql inner.render field f, inner.parameters⟩

/-- The text of the query itself. -/
def sql (a : Aggregation) : String := a.query.sql

end Aggregation

end EntityQuery
