import EntityQuery.Error
import EntityQuery.Field.Key

/-!
# Operators

The operator in a lookup key says how the values of a field are compared with the value asked for:
by a relation with one value, by membership in a list, or by absence. A key without an operator asks
for equality.

* `Operator.ofWord?_word`: an operator is read back from its word;
* `Operator.ofKey`: the operator of a key.
-/

namespace EntityQuery

/-- A comparison with one value. Both likenesses are the same comparison in SQL. -/
inductive Relation
  | equal
  | different
  | like
  | ilike
  | above
  | atLeast
  | below
  | atMost
  deriving DecidableEq

/-- The word for a relation in a key. -/
def Relation.word : Relation → String
  | .equal => "eq"
  | .different => "not"
  | .like => "like"
  | .ilike => "ilike"
  | .above => "gt"
  | .atLeast => "gte"
  | .below => "lt"
  | .atMost => "lte"

/-- The sign of a relation in SQL. -/
def Relation.sign : Relation → String
  | .equal => "="
  | .different => "!="
  | .like => "LIKE"
  | .ilike => "LIKE"
  | .above => ">"
  | .atLeast => ">="
  | .below => "<"
  | .atMost => "<="

/-- How the values of a field are compared with the value asked for. -/
inductive Operator
  | relation (r : Relation)
  | among
  | absent
  deriving DecidableEq

namespace Operator

/-- Every operator. -/
def all : List Operator :=
  [.relation .equal, .relation .like, .relation .ilike, .relation .above, .relation .atLeast,
    .relation .below, .relation .atMost, .among, .absent, .relation .different]

/-- The word for an operator in a key. -/
def word : Operator → String
  | .relation r => r.word
  | .among => "in"
  | .absent => "null"

/-- The operator that a word stands for. -/
def ofWord? (word : String) : Option Operator := all.find? fun op => op.word == word

theorem ofWord?_word (op : Operator) : ofWord? op.word = some op := by
  rcases op with r | _ | _
  · cases r <;> decide
  · decide
  · decide

theorem ofWord?_eq_some_iff {word : String} {op : Operator} :
    ofWord? word = some op ↔ op.word = word := by
  constructor
  · intro h
    simpa using List.find?_some h
  · rintro rfl
    exact ofWord?_word op

/-- The operator that a word stands for, or its refusal. -/
def ofWord (word : String) : Except QueryError Operator :=
  match ofWord? word with
  | some op => .ok op
  | none => .error (.invalidOperator word)

/-- The operator of a key. Parts of an operator are refused before the operator itself. -/
def ofKey (key : String) : Except QueryError Operator :=
  match Key.token? key with
  | none => .ok (.relation .equal)
  | some token =>
    if Key.isDivided token then .error (.invalidOperatorArity key)
    else match ofWord? token with
      | some op => .ok op
      | none => .error (.invalidOperator key)

end Operator

end EntityQuery
