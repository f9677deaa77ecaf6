import EntityQuery.Query.Sql
import EntityQuery.Text.Blank
import EntityQuery.Text.Normal

/-!
# Searches

A search is a query joined with the full-text index of its table by a term. Terms are compared
without accents, and the words of a term are matched as text: each is quoted in the match
expression.

* `Term.normalize`: the form of a term that is searched for and indexed;
* `Term.matchExpression`: the expression for the words of a term;
* `Search.statement`: the statement of a search, which is the query's own if there is no term.
-/

namespace EntityQuery

namespace Term

/-- The term in composed normal form without marks and without blanks at its ends. -/
def normalize (term : String) : String :=
  String.ofList (Text.trim (Text.Normal.withoutMarks term.toList))

/-- A word in quotes, with each quote in it written twice. -/
def quote (word : List Char) : List Char :=
  '"' :: (word.flatMap fun c => if c == '"' then ['"', '"'] else [c]) ++ ['"']

/-- The words of a term, each in quotes, with a space between two of them. -/
def matchExpression (term : String) : String :=
  String.ofList ([' '].intercalate ((Text.words term.toList).map quote))

end Term

/-- A query and the term that its entities are searched for, if there is any. -/
structure Search where
  query : Query
  term : Option String

namespace Search

/-- The ending of the name of a table's full-text index. -/
def indexEnding : String := "__fts"

/-- The search of a query's rows for a term. A term without characters of its own is none. -/
def new (query : Query) (term : Option String) : Search :=
  ⟨query, (term.map Term.normalize).filter (!·.isEmpty)⟩

/-- The same search of another query's rows. -/
def withQuery (s : Search) (query : Query) : Search := { s with query := query }

/-- The search of the same rows for another term. -/
def withTerm (s : Search) (term : Option String) : Search := new s.query term

/-- A step of the query in a search. -/
def step (s : Search) (f : Query → Except QueryError Query) : Except QueryError Search :=
  (f s.query).map s.withQuery

/-- The search of all rows that the lookups ask for, in no order but the index's own. -/
def unpaged (s : Search) : Search := s.withQuery s.query.unpaged

/-- The name of the full-text index. -/
def indexTable (s : Search) : String := s.query.table ++ indexEnding

/-- The index joined with the table and, for lookups of any property, the property lists. -/
def source (s : Search) : String :=
  s.indexTable ++ " s LEFT JOIN " ++ s.query.table ++ " t ON s.id = t.id" ++
    if s.query.hasReverse then ", " ++ Query.reverseSource else ""

/-- The order of the query, its columns qualified, or else the rank in the index. -/
def order (s : Search) : String :=
  match s.query.order with
  | some order => order.sql true
  | none => "s.rank"

/-- The statement of a search. The match is its last condition and the last value it binds. -/
def statement (s : Search) : Statement :=
  match s.term with
  | none => s.query.statement
  | some term => { s.query.statement with
      source := s.source
      conditions := s.query.statement.conditions ++ ["s.text MATCH ?"]
      parameters := s.query.statement.parameters ++ [.text (Term.matchExpression term)]
      order := some s.order }

/-- The text of a search. -/
def sql (s : Search) : String := s.statement.render

/-- The values that a search binds. -/
def parameters (s : Search) : List Json := s.statement.parameters

/-- The text of the count of all rows found. -/
def countSql (s : Search) : String := s.unpaged.statement.countSql

/-- The text of the counts of the rows found for each schema. -/
def schemaGroupsSql (s : Search) : String := s.unpaged.statement.schemaGroupsSql

end Search

end EntityQuery
