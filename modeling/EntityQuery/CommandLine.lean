import EntityQuery.Config

/-!
# Command lines

Settings are read from the arguments of a command line, and those that it leaves open from variables
of the environment. An argument that begins with two hyphens names an option; the value of a setting
follows after `=` or as the next argument. After `--` alone every argument is the query.

An option that is not known is refused at once, even if the option before it is at fault. The value
given as an argument of its own is looked at when the next option, the query or the end is reached.

* `CommandLine.read`: the arguments under a grammar;
* `CommandLine.config`: the settings of a command line that has nothing else.
-/

namespace EntityQuery

/-- A setting that an option or a variable gives. -/
inductive Setting
  | table
  | defaultLimit
  | minSearchLength
  | modelPath
  | databaseUrl
  | logLevel
  deriving DecidableEq

/-- What is wrong with a command line, or that it asks for help. -/
inductive UsageError
  | unknownArgument
  | invalidValue
  | valueValidation
  | argumentConflict
  | unneededValue
  | missingArgument
  | help
  deriving DecidableEq

namespace Setting

/-- Every setting, in the order in which variables are looked up. -/
def all : List Setting :=
  [.table, .defaultLimit, .minSearchLength, .modelPath, .databaseUrl, .logLevel]

/-- The name of the option, after the hyphens. -/
def optionName : Setting → String
  | .table => "table"
  | .defaultLimit => "default-limit"
  | .minSearchLength => "min-search-length"
  | .modelPath => "model-path"
  | .databaseUrl => "database-url"
  | .logLevel => "log-level"

/-- The name of the variable. -/
def variableName : Setting → String
  | .table => "FTMQ_TABLE"
  | .defaultLimit => "FTMQ_DEFAULT_LIMIT"
  | .minSearchLength => "FTMQ_MIN_SEARCH_LENGTH"
  | .modelPath => "FTMQ_MODEL_PATH"
  | .databaseUrl => "FTMQ_DATABASE_URL"
  | .logLevel => "FTMQ_LOG_LEVEL"

/-- The configuration with the setting's value read from text. Numbers are integers of 64 bits, and
a path is not empty. -/
def assign (s : Setting) (value : String) (c : Config) : Except UsageError Config :=
  match s with
  | .table => .ok { c with table := value }
  | .defaultLimit =>
    match Text.signed? value.toList with
    | some n => .ok { c with defaultLimit := n }
    | none => .error .valueValidation
  | .minSearchLength =>
    match Text.unsigned? value.toList with
    | some n => .ok { c with minSearchLength := n }
    | none => .error .valueValidation
  | .modelPath =>
    if value.isEmpty then .error .invalidValue else .ok { c with modelPath := some value }
  | .databaseUrl => .ok { c with databaseUrl := some value }
  | .logLevel => .ok { c with logLevel := value }

end Setting

namespace CommandLine

/-- What a command line may hold beside settings: switches, by their names, and a query. -/
structure Grammar where
  switches : List String
  takesQuery : Bool

/-- A command line read so far. A setting is pending until its value has been looked at. -/
structure State where
  config : Config := {}
  given : List Setting := []
  pending : Option (Setting × Option String) := none
  switches : List String := []
  query : Option String := none
  onlyQuery : Bool := false

/-- Gives a setting its value, once. -/
def give (st : State) (s : Setting) (value : String) : Except UsageError State :=
  if st.given.contains s then .error .argumentConflict
  else (s.assign value st.config).map fun c => { st with config := c, given := s :: st.given }

/-- Looks at the value of the pending setting. -/
def settle (st : State) : Except UsageError State :=
  match st.pending with
  | none => .ok st
  | some (_, none) => .error .invalidValue
  | some (s, some value) => give { st with pending := none } s value

/-- The query, of which there is one at most. -/
def takeQuery (g : Grammar) (st : State) (arg : String) : Except UsageError State :=
  if g.takesQuery && st.query.isNone then (settle st).map fun st => { st with query := some arg }
  else .error .unknownArgument

/-- An option and the value after its `=`, if there is one. -/
def takeOption (g : Grammar) (st : State) (name : String) (value : Option String) :
    Except UsageError State :=
  match Setting.all.find? (·.optionName == name), value with
  | some s, some value => do give (← settle st) s value
  | some s, none => (settle st).map fun st => { st with pending := some (s, none) }
  | none, value =>
    if name == "help" || g.switches.contains name then
      if value.isSome then .error .unneededValue
      else do
        let st ← settle st
        if name == "help" then throw .help
        if st.switches.contains name then throw .argumentConflict
        return { st with switches := name :: st.switches }
    else .error .unknownArgument

/-- The name of an option and the value after its `=`. -/
def splitOption (cs : List Char) : String × Option String :=
  let name := String.ofList (cs.takeWhile (· != '='))
  match cs.dropWhile (· != '=') with
  | [] => (name, none)
  | _ :: value => (name, some (String.ofList value))

/-- Takes one argument. -/
def take (g : Grammar) (st : State) (arg : String) : Except UsageError State :=
  if st.onlyQuery then takeQuery g st arg
  else match arg.toList with
    | ['-', '-'] => .ok { st with onlyQuery := true }
    | '-' :: '-' :: cs => takeOption g st (splitOption cs).1 (splitOption cs).2
    | '-' :: 'h' :: _ => takeOption g st "help" none
    | '-' :: _ :: _ => .error .unknownArgument
    | _ =>
      match st.pending with
      | some (s, none) => .ok { st with pending := some (s, some arg) }
      | _ => takeQuery g st arg

/-- Gives the settings that the command line leaves open the values of their variables. -/
def withEnvironment (environment : String → Option String) (st : State) :
    Except UsageError State :=
  (Setting.all.filter (!st.given.contains ·)).foldlM (fun st s =>
    match environment s.variableName with
    | none => .ok st
    | some value => give st s value) st

/-- The arguments of a command line, and the variables. -/
def read (g : Grammar) (environment : String → Option String) (args : List String) :
    Except UsageError State := do
  let st ← args.foldlM (take g) {}
  let st ← withEnvironment environment (← settle st)
  if g.takesQuery && st.query.isNone then throw .missingArgument
  return st

/-- The settings of a command line without switches and query. -/
def config (environment : String → Option String) (args : List String) :
    Except UsageError Config :=
  (read ⟨[], false⟩ environment args).map (·.config)

/-- The settings of the variables alone; the default ones if a variable is at fault. -/
def environmentConfig (environment : String → Option String) : Config :=
  match config environment [] with
  | .ok c => c
  | .error _ => {}

end CommandLine

end EntityQuery
