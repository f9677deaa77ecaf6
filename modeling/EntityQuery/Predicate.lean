import EntityQuery.Field
import EntityQuery.Json
import EntityQuery.Operator

/-!
# Predicates

A predicate is a lookup made ready for SQL: a field and the test that its values are put to. The
values of a test are bound to the question marks of its SQL text, one to each, in order.

* `Test.of`: the test that an operator makes of the value asked for;
* `Predicate.compile`: the predicate of a lookup, by a registry;
* `Predicate.sql`: the condition it stands for.
-/

namespace EntityQuery

/-- A test of the values of a field: a relation with one value, membership in a list that is not
empty, or absence. -/
inductive Test
  | single (r : Relation) (value : Json)
  | among (negated : Bool) (first : Json) (rest : List Json)
  | absent (expected : Bool)

namespace Test

/-- The operator that the test comes to: a list asks for membership, and `not` with a list for its
contrary. -/
def operator : Test → Operator
  | .single r _ => .relation r
  | .among false _ _ => .among
  | .among true _ _ => .relation .different
  | .absent _ => .absent

/-- The values that the test binds. -/
def values : Test → List Json
  | .single _ value => [value]
  | .among _ first rest => first :: rest
  | .absent _ => []

/-- The words that mean yes, and those that mean no. -/
def flag? : Json → Option Bool
  | .bool b => some b
  | .int 1 => some true
  | .int 0 => some false
  | .text s =>
    let word := s.toLower
    if word == "true" || word == "1" || word == "yes" then some true
    else if word == "false" || word == "0" || word == "no" then some false
    else none
  | _ => none

/-- The test of membership in a list. -/
def ofList (op : Operator) (first : Json) (rest : List Json) : Except ValueFault Test :=
  match op with
  | .relation .equal | .among => .ok (.among false first rest)
  | .relation .different => .ok (.among true first rest)
  | op => .error (.listRefused op.word)

/-- The test that an operator makes of the value asked for. -/
def of : Operator → Json → Except ValueFault Test
  | .absent, value =>
    match flag? value with
    | some b => .ok (.absent b)
    | none => .error .notFlag
  | _, .array [] => .error .emptyList
  | op, .array (first :: rest) =>
    if (first :: rest).all Json.isScalar then ofList op first rest else .error .nestedList
  | op, value =>
    if value.isScalar then
      match op with
      | .relation r => .ok (.single r value)
      | _ => .ok (.among false value [])
    else .error .notScalar

/-- The condition that the test puts on an expression. -/
def condition (subject : String) : Test → String
  | .single r _ => subject ++ " " ++ r.sign ++ " ?"
  | .among negated _ rest =>
    subject ++ (if negated then " NOT IN (" else " IN (") ++
      ", ".intercalate ("?" :: rest.map fun _ => "?") ++ ")"
  | .absent true => subject ++ " IS NULL"
  | .absent false => subject ++ " IS NOT NULL"

end Test

/-- A field and the test that its values are put to. -/
structure Predicate where
  field : Field
  test : Test

namespace Predicate

/-- What the test is put to: the field itself, or each of its values in turn. -/
def subject (p : Predicate) : String :=
  match p.field.isMultivalued, p.field.isNumeric with
  | false, _ => p.field.reference
  | true, true => "CAST(value AS NUMERIC)"
  | true, false => "value"

/-- The condition. Of a field with many values it asks that one of them passes the test. -/
def sql (p : Predicate) : String :=
  if p.field.isMultivalued then
    "EXISTS (SELECT 1 FROM json_each(" ++ p.field.reference ++ ") WHERE " ++
      p.test.condition p.subject ++ ")"
  else p.test.condition p.subject

/-- The values that the condition binds. -/
def values (p : Predicate) : List Json := p.test.values

/-- The predicate of a lookup. The field is refused first, then the operator, then the value. -/
def compile (registry : Registry) (key : String) (value : Json) : Except QueryError Predicate := do
  let field ← Field.resolve registry key
  let op ← Operator.ofKey key
  match Test.of op value with
  | .ok test => return ⟨field, test⟩
  | .error fault => throw (.invalidValue key fault)

end Predicate

end EntityQuery
