import EntityQuery.Error
import EntityQuery.Search

/-!
# Entity tables

The layout of an entity table and its full-text index. A row holds the id, the schema, the first
dataset and the document of an entity; the index holds the text that an entity is found by, under
its id.

* `EntityTable.new`: the table of a name that can stand in SQL text as it is;
* `EntityTable.definitions`: the statements that create it;
* `EntityTable.insertSql`, `EntityTable.indexInsertSql`, `EntityTable.indexDeleteSql`: the
  statements that fill it.
-/

namespace EntityQuery

/-- The type of a column. -/
inductive ColumnType
  | text
  | json
  deriving DecidableEq

/-- The word for a type of columns in SQL. -/
def ColumnType.word : ColumnType → String
  | .text => "TEXT"
  | .json => "JSON"

/-- A column of a table. -/
structure Column where
  name : String
  type : ColumnType
  nullable : Bool

/-- An index on columns of a table. -/
structure Index where
  name : String
  columns : List String
  unique : Bool

/-- An entity table. -/
structure EntityTable where
  name : String
  columns : List Column
  indexes : List Index

namespace EntityTable

/-- A name of ASCII letters, digits and underscores. -/
def isName (name : String) : Bool :=
  !name.isEmpty && name.toList.all fun c => c.isAlphanum || c == '_'

/-- The table of a name. -/
def new (name : String) : Except QueryError EntityTable :=
  if isName name then
    .ok {
      name := name
      columns := [⟨"id", .text, false⟩, ⟨"schema", .text, false⟩, ⟨"dataset", .text, true⟩,
        ⟨"entity", .json, false⟩]
      indexes := [⟨"idx_" ++ name ++ "_schema", ["schema"], false⟩,
        ⟨"idx_" ++ name ++ "_dataset", ["dataset"], false⟩] }
  else .error (.storage (.tableName name))

/-- The name of the full-text index. -/
def indexTable (t : EntityTable) : String := t.name ++ Search.indexEnding

/-! ## Definitions -/

/-- A column in the definition of its table. -/
def columnDefinition (c : Column) : String :=
  "    " ++ c.name ++ " " ++ c.type.word ++ if c.nullable then "" else " NOT NULL"

/-- The statement that creates the table. -/
def tableDefinition (t : EntityTable) : String :=
  "CREATE TABLE IF NOT EXISTS " ++ t.name ++ " (\n" ++
    ",\n".intercalate (t.columns.map columnDefinition) ++ ",\n    PRIMARY KEY (id)\n);"

/-- The statement that creates an index. -/
def indexDefinition (t : EntityTable) (i : Index) : String :=
  "CREATE " ++ (if i.unique then "UNIQUE " else "") ++ "INDEX IF NOT EXISTS " ++ i.name ++ " ON " ++
    t.name ++ " (" ++ ", ".intercalate i.columns ++ ");"

/-- The statement that creates the full-text index. -/
def searchDefinition (t : EntityTable) : String :=
  "CREATE VIRTUAL TABLE IF NOT EXISTS " ++ t.indexTable ++ " USING fts5(id UNINDEXED, text);"

/-- All statements that create the table and its indexes, in order. -/
def definitions (t : EntityTable) : List String :=
  t.tableDefinition :: t.indexes.map t.indexDefinition ++ [t.searchDefinition]

/-! ## Changes -/

/-- The statement that puts a row in place of the one of the same id, binding the id, the schema,
the dataset and the document. -/
def insertSql (t : EntityTable) : String :=
  "INSERT OR REPLACE INTO " ++ t.name ++ " (id, schema, dataset, entity) VALUES (?, ?, ?, ?)"

/-- The statement that indexes a text, binding the id and the text. -/
def indexInsertSql (t : EntityTable) : String :=
  "INSERT INTO " ++ t.indexTable ++ " (id, text) VALUES (?, ?)"

/-- The statement that takes the texts of an entity out of the index, binding the id. -/
def indexDeleteSql (t : EntityTable) : String := "DELETE FROM " ++ t.indexTable ++ " WHERE id = ?"

end EntityTable

end EntityQuery
