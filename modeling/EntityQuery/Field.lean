import EntityQuery.Error
import EntityQuery.Field.Key
import EntityQuery.Field.Slug
import EntityQuery.Registry

/-!
# Fields

A field is where the values of a name are found: a column of the entity table, the list of datasets,
a property, an extra member of the entity document (one value, or a list marked by `[]`), or any
property at all (`reverse`).

* `Field.expression?`, `Field.reference`: how SQL extracts the values, and the name it gives them;
* `Field.resolve`: the field of a name, by a registry.
-/

namespace EntityQuery

/-- The kinds of fields. -/
inductive FieldKind
  | column
  | property
  | scalar
  | list
  | reverse
  deriving DecidableEq

/-- The word for a kind. -/
def FieldKind.word : FieldKind → String
  | .column => "meta"
  | .property => "property"
  | .scalar => "context"
  | .list => "array"
  | .reverse => "reverse"

/-- Where the values of a name are found. Extra members have a path below the entity document. -/
inductive Field
  | column (name : String)
  | datasets
  | property (name : String) (numeric : Bool)
  | scalar (name path : String)
  | list (name path : String)
  | reverse
  deriving DecidableEq

namespace Field

/-- The name of the field that matches any property. -/
def reverseName : String := "reverse"

/-- The meta field that stands for the list of datasets. -/
def datasetName : String := "dataset"

/-- The name that the field was resolved from. -/
def name : Field → String
  | .column name => name
  | .datasets => datasetName
  | .property name _ => name
  | .scalar name _ => name
  | .list name _ => name
  | .reverse => reverseName

/-- The kind of the field. -/
def kind : Field → FieldKind
  | .column _ => .column
  | .datasets => .list
  | .property _ _ => .property
  | .scalar _ _ => .scalar
  | .list _ _ => .list
  | .reverse => .reverse

/-- Values are compared as numbers. -/
def isNumeric : Field → Bool
  | .property _ numeric => numeric
  | _ => false

/-- The field holds a list of values, and a lookup asks for one of them. -/
def isMultivalued : Field → Bool
  | .column _ | .scalar _ _ => false
  | _ => true

/-- The path of the values below the entity document. -/
def path? : Field → Option String
  | .datasets => some "datasets"
  | .property name _ => some ("properties." ++ name)
  | .scalar _ path => some path
  | .list _ path => some path
  | .column _ | .reverse => none

/-- The extraction of a path from the entity document. -/
def extraction (path : String) : String := "json_extract(t.entity, '$." ++ path ++ "')"

/-- The expression that extracts the values. -/
def expression? (field : Field) : Option String := field.path?.map extraction

/-- The name of the values in a statement: a column, or what the extraction is selected as. -/
def reference : Field → String
  | .column name => "t." ++ name
  | .datasets => "datasets"
  | .property name _ => slug name
  | .scalar name _ => slug name
  | .list name _ => slug name
  | .reverse => "r.value"

/-- Two fields whose values would be selected under one name though they are not the same values. -/
def collides (a b : Field) : Bool := a.reference == b.reference && a.expression? != b.expression?

/-- What rows are ordered by. A column is qualified where other sources are joined to the table, as
they may have a column of that name too. -/
def orderExpression (field : Field) (joined : Bool) : Except QueryError String :=
  match field with
  | .column name => .ok (if joined then field.reference else name)
  | .property _ true => .ok ("CAST(json_extract(" ++ field.reference ++ ", '$[0]') AS NUMERIC)")
  | .reverse => .error (.invalidField field.name)
  | _ => .ok field.reference

/-! ## Resolution -/

/-- What the name of an extra member may begin with. -/
def contextMark : List Char := ['c', 'o', 'n', 't', 'e', 'x', 't', '.']

/-- What the name of a list of extra values ends with. -/
def listMark : List Char := ['[', ']']

/-- The characters after the context mark; all of them if there is none. -/
def withoutContextMark (cs : List Char) : List Char :=
  if contextMark.isPrefixOf cs then cs.drop contextMark.length else cs

/-- The characters before the list mark; all of them if there is none. -/
def withoutListMark (cs : List Char) : List Char :=
  if listMark.isSuffixOf cs then cs.take (cs.length - listMark.length) else cs

/-- A segment of a path: ASCII letters, digits and underscores, at least one of them. -/
def isSegment (cs : List Char) : Bool := !cs.isEmpty && cs.all fun c => c.isAlphanum || c == '_'

/-- A path: segments with points between them. -/
def isPath (cs : List Char) : Bool := (cs.splitOn '.').all isSegment

/-- The extra member that a name with a mark stands for. -/
def extra? (name : String) : Option Field :=
  let path := withoutListMark (withoutContextMark name.toList)
  if isPath path then
    if listMark.isSuffixOf name.toList then some (.list name (String.ofList path))
    else some (.scalar name (String.ofList path))
  else none

/-- The meta field or property that a name without a mark stands for. -/
def declared? (registry : Registry) (name : String) : Option Field :=
  if registry.isMeta name then
    if name == datasetName then some .datasets else some (.column name)
  else if registry.isProperty name then some (.property name (registry.isNumeric name))
  else none

/-- The field that a name stands for. -/
def ofName? (registry : Registry) (name : String) : Option Field :=
  if name.isEmpty then none
  else if name == reverseName then some .reverse
  else if contextMark.isPrefixOf name.toList || listMark.isSuffixOf name.toList then extra? name
  else declared? registry name

/-- The field of a key, whatever its operator. A refusal carries the whole key. -/
def resolve (registry : Registry) (key : String) : Except QueryError Field :=
  match ofName? registry (Key.base key) with
  | some field => .ok field
  | none => .error (.invalidField key)

end Field

end EntityQuery
