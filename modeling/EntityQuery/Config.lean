import EntityQuery.Registry.Bundled
import EntityQuery.Text.Utf8

/-!
# Configuration

The settings under which requests are read and run.

* `Config.faults`: what is wrong with a configuration;
* `Config.loadRegistry`: the registry of the configured model.
-/

namespace EntityQuery

/-- The settings. -/
structure Config where
  table : String := "ftm"
  defaultLimit : Int := 100
  minSearchLength : Nat := 4
  modelPath : Option String := none
  databaseUrl : Option String := none
  logLevel : String := "info"

namespace Config

/-- The settings for tests: a table of their own in a database in memory. -/
def forTesting : Config :=
  { table := "ftm_test", databaseUrl := some "sqlite::memory:", logLevel := "debug" }

/-- What is wrong with the settings. -/
def faults (c : Config) : List String :=
  (if c.table.isEmpty then ["Table name cannot be empty"] else []) ++
    (if c.defaultLimit ≤ 0 then ["Default limit must be positive"] else []) ++
    (if c.minSearchLength = 0 then ["Minimum search length cannot be 0"] else [])

/-- The registry of the configured model, or of the bundled one. A file that cannot be read, or is
not UTF-8, is refused as a file, and one that holds no model as a model. -/
def loadRegistry (readFile : String → Option (List UInt8)) (c : Config) :
    Except QueryError Registry :=
  match c.modelPath with
  | none => .ok Model.bundled.registry
  | some path =>
    match (readFile path).bind Text.Utf8.decode? with
    | none => .error .file
    | some text => (Model.ofText (String.ofList text)).map Model.registry

end Config

end EntityQuery
