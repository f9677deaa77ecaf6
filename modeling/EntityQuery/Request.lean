import EntityQuery.Aggregation
import EntityQuery.Config
import EntityQuery.Pagination
import EntityQuery.Search
import EntityQuery.Text.Form

/-!
# Requests

A request is read from the pairs of a query string under a configuration. Some keys have a meaning
of their own; every other key is a lookup, of one text or of the list of all its texts. Of a key
that is given more than once and is no lookup, the last value counts.

* `Request.ofPairs`, `Request.ofQueryString`: the request that pairs make, or why it is refused;
* `Request.toQuery`, `Request.toSearch`, `Request.toAggregation`: what a request asks for.
-/

namespace EntityQuery

/-- The fields asked for, by aggregate function. -/
structure AggregationRequest where
  fields : Aggregate → List String

namespace AggregationRequest

/-- Nothing asked for. -/
def empty : AggregationRequest := ⟨fun _ => []⟩

/-- Asks for a function of one more field. -/
def add (r : AggregationRequest) (f : Aggregate) (field : String) : AggregationRequest :=
  ⟨fun g => if g = f then r.fields g ++ [field] else r.fields g⟩

/-- Nothing is asked for. -/
def isEmpty (r : AggregationRequest) : Bool := Aggregate.all.all fun f => (r.fields f).isEmpty

/-- The functions asked for, by field. -/
def inverse (r : AggregationRequest) : Aggregations :=
  (Aggregate.all.flatMap fun f => (r.fields f).map (f, ·)).foldl (fun a p => a.add p.1 p.2) .empty

end AggregationRequest

/-- A request, with the least length of a search term that it was read under. -/
structure Request where
  limit : Int
  page : Int
  schema : Option String
  orderBy : List String
  direction : Direction
  term : Option String
  lookups : Dict Json
  aggregations : AggregationRequest
  minSearchLength : Nat

namespace Request

/-! ## Parameters -/

/-- The keys with a meaning of their own, the aggregate functions apart. -/
def reserved : List String :=
  ["limit", "page", "order_by", "schema", "q", "prop", "value", "api_key"]

/-- The key is a lookup. -/
def isLookup (key : String) : Bool :=
  !reserved.contains key && (Aggregate.ofParameter? key).isNone

/-- All values of each key, in order. -/
def group (pairs : List (String × String)) : Dict (List String) :=
  pairs.foldl (fun d p => d.alter p.1 fun values => values.getD [] ++ [p.2]) .empty

/-- The last value of a key. -/
def last? (grouped : Dict (List String)) (key : String) : Option String :=
  (grouped.get? key).bind (·.getLast?)

/-- The integer that the last value of a key writes; the default if there is none. -/
def integer (grouped : Dict (List String)) (key : String) (default : Int) : Except QueryError Int :=
  match last? grouped key with
  | none => .ok default
  | some text =>
    match Text.signed? (Text.trim text.toList) with
    | some n => .ok n
    | none => .error (.invalidValue key (.notInteger text))

/-- The direction and the field names of an order: a minus sign before all of them turns the
direction. -/
def sortOrder (text : String) : Direction × List String :=
  let names (cs : List Char) :=
    (((cs.splitOn ',').map Text.trim).filter (!·.isEmpty)).map String.ofList
  match text.toList with
  | '-' :: cs => (.descending, names cs)
  | cs => (.ascending, names cs)

/-- What a lookup key asks for. -/
def lookupValue : List String → Json
  | [value] => .text value
  | values => .ofTexts values

/-- The lookups among the keys. -/
def lookupsOf (grouped : Dict (List String)) : Dict Json :=
  .ofList ((grouped.filter fun key _ => isLookup key).entries.map fun e => (e.1, lookupValue e.2))

/-- The lookups with the one that `prop` and `value` make together. Neither is taken alone. -/
def withProperty (grouped : Dict (List String)) (lookups : Dict Json) :
    Except QueryError (Dict Json) :=
  match last? grouped "prop", last? grouped "value" with
  | some name, some value => .ok (lookups.insert name (.text value))
  | some _, none => .error (.invalidValue "prop" (.requires "value"))
  | none, some _ => .error (.invalidValue "value" (.requires "prop"))
  | none, none => .ok lookups

/-- The fields that the keys of the aggregate functions name. -/
def aggregationsOf (grouped : Dict (List String)) : AggregationRequest :=
  ⟨fun f => (grouped.get? f.resultName).getD []⟩

/-- The number of rows served: a request that is not authenticated gets no more than the configured
number. -/
def cap (config : Config) (authenticated : Bool) (limit : Int) : Int :=
  if !authenticated && config.defaultLimit < limit then config.defaultLimit else limit

/-- The request that pairs make under a configuration. -/
def ofPairs (pairs : List (String × String)) (config : Config) (authenticated : Bool) :
    Except QueryError Request := do
  let grouped := group pairs
  let limit ← integer grouped "limit" config.defaultLimit
  let page ← integer grouped "page" 1
  let lookups ← withProperty grouped (lookupsOf grouped)
  if page < 1 then throw (.invalidValue "page" .belowOne)
  if limit < 1 then throw (.limitOutOfRange limit)
  let (direction, orderBy) := sortOrder ((last? grouped "order_by").getD "")
  return {
    limit := cap config authenticated limit
    page := page
    schema := (last? grouped "schema").filter (!·.isEmpty)
    orderBy := orderBy
    direction := direction
    term := last? grouped "q"
    lookups := lookups
    aggregations := aggregationsOf grouped
    minSearchLength := config.minSearchLength }

/-- The pairs of a query string, which a question mark may precede. -/
def pairsOf (text : String) : List (String × String) :=
  match text.toList with
  | '?' :: cs => Text.Form.pairs (String.ofList cs)
  | _ => Text.Form.pairs text

/-- The request that a query string makes under a configuration. -/
def ofQueryString (text : String) (config : Config) (authenticated : Bool) :
    Except QueryError Request :=
  ofPairs (pairsOf text) config authenticated

/-! ## What a request asks for -/

/-- The query of the request's schema, which the registry must know. -/
def withSchema (query : Query) : Option String → Except QueryError Query
  | none => .ok query
  | some schema =>
    if query.registry.isKnownSchema schema then query.filter "schema" (.text schema)
    else .error (.invalidSchema schema)

/-- The query of the request's page, order, schema and lookups. -/
def toQuery (r : Request) (table : String) (registry : Registry) : Except QueryError Query := do
  let query ← (Query.new table registry).page r.page r.limit
  let query ← if r.orderBy.isEmpty then pure query else query.orderBy r.orderBy r.direction
  let query ← withSchema query r.schema
  query.filterAll r.lookups.entries

/-- The search for the request's term, which must be long enough. -/
def toSearch (r : Request) (table : String) (registry : Registry) : Except QueryError Search := do
  let term := (r.term.map Term.normalize).getD ""
  if term.length < r.minSearchLength then throw (.invalidSearchTerm (r.term.getD ""))
  return Search.new (← r.toQuery table registry) (some term)

/-- The aggregations of the request. -/
def toAggregation (r : Request) (table : String) (registry : Registry) :
    Except QueryError Aggregation := do
  Aggregation.new (← r.toQuery table registry) r.aggregations.inverse

/-- The place of the request's page among the pages of a number of rows. -/
def pagination (r : Request) (total : Int) : Pagination := ⟨r.page, r.limit, total⟩

end Request

end EntityQuery
