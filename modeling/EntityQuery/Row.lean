import EntityQuery.Double.Quantity
import EntityQuery.Json.Reader

/-!
# Rows

A row of a result maps the names of columns to values. A column that is `null` reads as one that is
not there.
-/

namespace EntityQuery

/-- A row of a result. -/
structure Row where
  columns : Dict Json

namespace Row

/-- The value of a column. -/
def value? (row : Row) (column : String) : Option Json :=
  (row.columns.get? column).filter (!·.isNull)

/-- The text in a column. -/
def text? (row : Row) (column : String) : Option String := (row.value? column).bind Json.text?

/-- The integer of 64 bits in a column. -/
def signed? (row : Row) (column : String) : Option Int := (row.value? column).bind Json.signed?

/-- The boolean in a column. -/
def bool? (row : Row) (column : String) : Option Bool := (row.value? column).bind Json.bool?

/-- The byte in a column. -/
def byte? (row : Row) (column : String) : Option Int :=
  (row.signed? column).filter fun n => 0 ≤ n && n ≤ 255

/-- The list of texts in a column. -/
def texts? (row : Row) (column : String) : Option (List String) :=
  (row.value? column).bind Json.texts?

/-- The quantity in a column, as a number or as text. -/
def quantity? (row : Row) (column : String) : Option Quantity :=
  match row.value? column with
  | some (.double d) => some (.finite d)
  | some (.int n) => (Double.ofInt? n).map .finite
  | some (.text s) => Quantity.ofText? s
  | _ => none

/-- The JSON document in a column: the value itself, or the one that its text writes. -/
def document? (row : Row) (column : String) : Option Json :=
  match row.value? column with
  | some (.text s) => Json.ofText? s
  | other => other

end Row

end EntityQuery
