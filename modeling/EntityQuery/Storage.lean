import EntityQuery.Json.Printer
import EntityQuery.Text.Utf8

/-!
# Stored values

What a database stores for a value that is bound to a statement, and the value that is read back.
There are no booleans and no JSON in storage: a boolean becomes 0 or 1, an array or an object its
text, and an integer above a signed word of 64 bits a double.

* `StoredValue.ofJson`, `StoredValue.toJson`: storing and reading.
-/

namespace EntityQuery

/-- A value in storage. -/
inductive StoredValue
  | null
  | integer (n : Int)
  | real (d : Double)
  | text (s : String)
  | blob (bytes : List UInt8)

namespace StoredValue

/-- What is stored for a value. -/
def ofJson : Json → StoredValue
  | .null => .null
  | .bool b => .integer (if b then 1 else 0)
  | .int n =>
    if isSigned n then .integer n
    else match Double.ofInt? n with
      | some d => .real d
      | none => .null
  | .double d => .real d
  | .text s => .text s
  | j => .text j.compact

/-- The value that is read. The bytes of a blob are read as UTF-8, with U+FFFD for each fault. -/
def toJson : StoredValue → Json
  | .null => .null
  | .integer n => .int n
  | .real d => .double d
  | .text s => .text s
  | .blob bytes => .text (String.ofList (Text.Utf8.decodeLossy bytes))

end StoredValue

end EntityQuery
