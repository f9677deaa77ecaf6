/-!
# Errors

Why a field name, a lookup, a query, a request or a call to the database is refused. Each cause has
one wording; the causes that lie in the request are told apart from those that lie in the storage.

* `QueryError.message`: the wording of every cause but those of `file` and `json`;
* `QueryError.isClient`: the cause lies in the request.
-/

namespace EntityQuery

/-- Why a window of rows is refused. -/
inductive WindowFault
  | negativeIndex (index : Int)
  | unsupportedStep (step : Int)
  | negativeStart (start : Int)
  | emptyRange (start stop : Int)
  | pageOutOfRange (page : Int)
  | negativeOffset (offset : Int)
  deriving DecidableEq

/-- Why the value of a lookup or of a parameter is refused. -/
inductive ValueFault
  | notFlag
  | emptyList
  | nestedList
  | listRefused (operator : String)
  | notScalar
  | notInteger (text : String)
  | requires (parameter : String)
  | belowOne
  deriving DecidableEq

/-- Why a model is refused. -/
inductive ModelFault
  | noMetaField
  | declaredTwice (name : String)
  deriving DecidableEq

/-- What went wrong in the storage. -/
inductive StorageFault
  | tableName (name : String)
  | missingDocument
  | failed (reason : String)
  deriving DecidableEq

/-- Why an operation is refused. -/
inductive QueryError
  | invalidField (name : String)
  | invalidOperator (key : String)
  | invalidOperatorArity (key : String)
  | invalidWindow (fault : WindowFault)
  | limitOutOfRange (limit : Int)
  | invalidValue (field : String) (fault : ValueFault)
  | invalidSchema (name : String)
  | invalidSearchTerm (term : String)
  | invalidAggregation (name : String)
  | model (fault : ModelFault)
  | storage (fault : StorageFault)
  | file
  | json
  deriving DecidableEq

/-- The wording of a refused window. -/
def WindowFault.message : WindowFault → String
  | .negativeIndex index => "negative index " ++ index.repr
  | .unsupportedStep step => "unsupported step " ++ step.repr
  | .negativeStart start => "negative start " ++ start.repr
  | .emptyRange start stop => "empty or reversed range " ++ start.repr ++ ":" ++ stop.repr
  | .pageOutOfRange page => "page " ++ page.repr ++ " out of range"
  | .negativeOffset offset => "negative offset " ++ offset.repr

/-- The wording of a refused value. -/
def ValueFault.message : ValueFault → String
  | .notFlag => "`null` expects a boolean"
  | .emptyList => "empty list"
  | .nestedList => "list items must be scalars"
  | .listRefused operator => "`" ++ operator ++ "` does not accept a list"
  | .notScalar => "expected a scalar or a list of scalars"
  | .notInteger text => "expected an integer, got `" ++ text ++ "`"
  | .requires parameter => "requires `" ++ parameter ++ "`"
  | .belowOne => "must be at least 1"

/-- The wording of a refused model. -/
def ModelFault.message : ModelFault → String
  | .noMetaField => "model must declare at least one meta field"
  | .declaredTwice name => "`" ++ name ++ "` is declared both as meta field and property"

/-- The wording of a storage fault. -/
def StorageFault.message : StorageFault → String
  | .tableName name => "Invalid table name: " ++ name
  | .missingDocument => "row without entity document"
  | .failed reason => reason

/-- The wording of an error. -/
def QueryError.message : QueryError → String
  | .invalidField name => "Invalid field: `" ++ name ++ "`"
  | .invalidOperator key => "Invalid operator: `" ++ key ++ "`"
  | .invalidOperatorArity key => "Invalid operator arity: `" ++ key ++ "`"
  | .invalidWindow fault => "Invalid slice: " ++ fault.message
  | .limitOutOfRange limit => "Limit out of range: " ++ limit.repr
  | .invalidValue field fault => "Invalid value for `" ++ field ++ "`: " ++ fault.message
  | .invalidSchema name => "Invalid schema: `" ++ name ++ "`"
  | .invalidSearchTerm term => "Invalid search query: `" ++ term ++ "`"
  | .invalidAggregation name => "Invalid aggregation: `" ++ name ++ "`"
  | .model fault => "Registry error: " ++ fault.message
  | .storage fault => "Database error: " ++ fault.message
  | .file => "IO error"
  | .json => "JSON error"

/-- The cause lies in the request and not in the storage. -/
def QueryError.isClient : QueryError → Bool
  | .model _ | .storage _ | .file | .json => false
  | _ => true

end EntityQuery
