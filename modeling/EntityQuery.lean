import EntityQuery.Aggregation
import EntityQuery.CommandLine
import EntityQuery.Compile
import EntityQuery.Config
import EntityQuery.Dict
import EntityQuery.Double
import EntityQuery.Double.Quantity
import EntityQuery.Double.Shortest
import EntityQuery.Entity
import EntityQuery.Error
import EntityQuery.Field
import EntityQuery.Field.Key
import EntityQuery.Field.Slug
import EntityQuery.Json
import EntityQuery.Json.Printer
import EntityQuery.Json.Reader
import EntityQuery.Json.Written
import EntityQuery.Main
import EntityQuery.Operator
import EntityQuery.Pagination
import EntityQuery.Predicate
import EntityQuery.Proofs.AggregateAnswers
import EntityQuery.Proofs.AllRows
import EntityQuery.Proofs.BoundValues
import EntityQuery.Proofs.ByteOrder
import EntityQuery.Proofs.Calls
import EntityQuery.Proofs.Capture
import EntityQuery.Proofs.Classification
import EntityQuery.Proofs.Closed
import EntityQuery.Proofs.Consistency
import EntityQuery.Proofs.Dict
import EntityQuery.Proofs.Exports
import EntityQuery.Proofs.FanOut
import EntityQuery.Proofs.Fill
import EntityQuery.Proofs.FilterOrder
import EntityQuery.Proofs.Given
import EntityQuery.Proofs.Identifiers
import EntityQuery.Proofs.IndexedNames
import EntityQuery.Proofs.Injection
import EntityQuery.Proofs.Intake
import EntityQuery.Proofs.Literals
import EntityQuery.Proofs.LookupLanguage
import EntityQuery.Proofs.Matching
import EntityQuery.Proofs.Merging
import EntityQuery.Proofs.Names
import EntityQuery.Proofs.NormalForm
import EntityQuery.Proofs.Numeral
import EntityQuery.Proofs.Outcome
import EntityQuery.Proofs.PageSize
import EntityQuery.Proofs.Pages
import EntityQuery.Proofs.Placeholders
import EntityQuery.Proofs.Quotation
import EntityQuery.Proofs.Reachable
import EntityQuery.Proofs.Refusals
import EntityQuery.Proofs.RequestFilters
import EntityQuery.Proofs.Runs
import EntityQuery.Proofs.SearchSteps
import EntityQuery.Proofs.SearchTerm
import EntityQuery.Proofs.Select
import EntityQuery.Proofs.SelectList
import EntityQuery.Proofs.Shapes
import EntityQuery.Proofs.Slugs
import EntityQuery.Proofs.SortDirection
import EntityQuery.Proofs.Step
import EntityQuery.Proofs.StoredRows
import EntityQuery.Proofs.Windows
import EntityQuery.Proofs.Words
import EntityQuery.Query
import EntityQuery.Query.Sql
import EntityQuery.Registry
import EntityQuery.Registry.Bundled
import EntityQuery.Registry.Model
import EntityQuery.Request
import EntityQuery.Row
import EntityQuery.Search
import EntityQuery.Statement
import EntityQuery.Storage
import EntityQuery.Store
import EntityQuery.Table
import EntityQuery.Text.Blank
import EntityQuery.Text.Form
import EntityQuery.Text.Integer
import EntityQuery.Text.Normal
import EntityQuery.Text.Normal.CombiningClass
import EntityQuery.Text.Normal.Composition
import EntityQuery.Text.Normal.Decomposition
import EntityQuery.Text.Normal.Mark
import EntityQuery.Text.Utf8
