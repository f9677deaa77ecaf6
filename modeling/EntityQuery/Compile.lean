import EntityQuery.CommandLine
import EntityQuery.Json.Printer
import EntityQuery.Request

/-!
# Compilation

The command that compiles one query string and writes the statements as JSON.

* `Compile.run`: what the command writes, and the status it ends with.
-/

namespace EntityQuery.Compile

/-- What the command is asked for. -/
structure Invocation where
  config : Config
  search : Bool
  authenticated : Bool
  execute : Bool
  query : String

/-- What a command line may hold: three switches and the query. -/
def grammar : CommandLine.Grammar := ⟨["search", "authenticated", "execute"], true⟩

/-- What a command line asks for. -/
def Invocation.ofArguments (environment : String → Option String) (args : List String) :
    Except UsageError Invocation := do
  let st ← CommandLine.read grammar environment args
  return {
    config := st.config
    search := st.switches.contains "search"
    authenticated := st.switches.contains "authenticated"
    execute := st.switches.contains "execute"
    query := st.query.getD "" }

/-- The members of an object, in order of their keys. -/
def object (members : List (String × Json)) : Json := .ofDict (.ofList members)

/-- The statements of a search. -/
def searchJson (s : Search) : Json :=
  object
    [("sql", .text s.sql), ("parameters", .array s.parameters), ("count_sql", .text s.countSql)]

/-- An aggregate statement. -/
def aggregateJson (s : AggregateStatement) : Json :=
  object [("field", .text s.field), ("func", .text s.function.word), ("sql", .text s.sql)]

/-- The statements of a query and of its aggregations, if there are any. -/
def queryJson (q : Query) (statements : List AggregateStatement) : Json :=
  object ([("sql", .text q.sql), ("parameters", .array q.parameters),
      ("count_sql", .text q.countSql), ("schema_groups_sql", .text q.schemaGroupsSql)] ++
    if statements.isEmpty then [] else [("aggregations", .array (statements.map aggregateJson))])

/-- The statements that the query string asks for. -/
def statements (readFile : String → Option (List UInt8)) (i : Invocation) :
    Except QueryError Json := do
  let registry ← i.config.loadRegistry readFile
  let request ← Request.ofQueryString i.query i.config i.authenticated
  if i.search then
    return searchJson (← request.toSearch i.config.table registry)
  else
    let query ← request.toQuery i.config.table registry
    let aggregation ← request.toAggregation i.config.table registry
    return queryJson query aggregation.statements

/-- What a command writes to its two outputs, and the status it ends with. -/
structure Outcome where
  status : UInt8
  output : String := ""
  complaint : String := ""

/-- What the command can be asked for. -/
def usage : String :=
  "usage: compile [--search] [--authenticated] [--execute] [--table NAME] [--default-limit N]\n" ++
    "  [--min-search-length N] [--model-path FILE] [--database-url URL] [--log-level LEVEL] QUERY\n"

/-- The command. There is no database to run statements against, so `--execute` fails after the
statements have been written. -/
def run (readFile : String → Option (List UInt8)) (i : Invocation) : Outcome :=
  if i.config.faults.isEmpty then
    match statements readFile i with
    | .error e => { status := 1, complaint := e.message }
    | .ok j =>
      let output := j.pretty ++ "\n"
      if i.execute then { status := 1, output := output, complaint := "there is no database" }
      else { status := 0, output := output }
  else { status := 1, complaint := ", ".intercalate i.config.faults }

/-- What becomes of a command line that is refused or asks for help. -/
def refuse : UsageError → Outcome
  | .help => { status := 0, output := usage }
  | _ => { status := 2, complaint := usage }

/-- The command with its arguments and variables. -/
def command (readFile : String → Option (List UInt8)) (environment : String → Option String)
    (args : List String) : Outcome :=
  match Invocation.ofArguments environment args with
  | .ok i => run readFile i
  | .error e => refuse e

end EntityQuery.Compile
