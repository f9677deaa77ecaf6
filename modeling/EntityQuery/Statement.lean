import EntityQuery.Json

/-!
# Statements

The parts of a SELECT statement, as text, with the values that its question marks bind. The
conditions and the values are filled together, so the values stand in the order of the question
marks.

* `Statement.render`: the text of the statement;
* `Statement.countSql`, `Statement.schemaGroupsSql`: counts over its rows, all of them and for each
  schema.
-/

namespace EntityQuery

/-- The parts of a SELECT statement. -/
structure Statement where
  select : List String
  source : String
  conditions : List String := []
  parameters : List Json := []
  order : Option String := none
  limit : Option Int := none
  offset : Option Int := none

namespace Statement

/-- The statement over all rows, in no order. -/
def unpaged (s : Statement) : Statement := { s with order := none, limit := none, offset := none }

/-- The columns. -/
def selectPart (s : Statement) : String := ", ".intercalate s.select

/-- The conditions, if there are any. -/
def wherePart (s : Statement) : Option String :=
  if s.conditions.isEmpty then none else some ("WHERE " ++ " AND ".intercalate s.conditions)

/-- The order, if there is one. -/
def orderPart (s : Statement) : Option String := s.order.map ("ORDER BY " ++ ·)

/-- The window, if it is bounded on either side. A limit of -1 bounds nothing. -/
def limitPart (s : Statement) : Option String :=
  match s.limit, s.offset with
  | none, none => none
  | limit, offset =>
    some ("LIMIT " ++ (limit.getD (-1)).repr ++ " OFFSET " ++ (offset.getD 0).repr)

/-- A part of the text after a space; nothing for a part that is missing. -/
def spaced : Option String → String
  | none => ""
  | some part => " " ++ part

/-- The text of the statement. -/
def render (s : Statement) : String :=
  "SELECT " ++ s.selectPart ++ " FROM " ++ s.source ++ spaced s.wherePart ++ spaced s.orderPart ++
    spaced s.limitPart

/-- The text of the count of all rows. -/
def countSql (s : Statement) : String := "SELECT COUNT(*) FROM (" ++ s.unpaged.render ++ ")"

/-- The text of the counts of the rows of each schema. -/
def schemaGroupsSql (s : Statement) : String :=
  "SELECT schema, COUNT(*) FROM (" ++ s.unpaged.render ++ ") GROUP BY schema"

end Statement

end EntityQuery
