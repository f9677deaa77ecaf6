import EntityQuery.Dict
import EntityQuery.Error
import EntityQuery.Json.Reader
import EntityQuery.Registry

/-!
# Models

A model lists the meta fields, the properties with their types and the schemata; a registry is made
of it. A model document is a JSON object with the members `schemata`, `properties` and `meta`, or an
array of the three in this order. All of them may be missing, and other members are held to the
grammar only.

* `Model.registry`: what a model knows of names;
* `Model.ofText`: the model of a document, or why it is refused.
-/

namespace EntityQuery

/-- Meta fields, schemata and properties. No schemata at all stand for any schema. -/
structure Model where
  metaFields : List String
  schemata : List String
  properties : Dict PropertyType

namespace Model

/-- The meta fields of a model that names none. -/
def defaultMetaFields : List String := ["id", "schema", "dataset", "entity"]

/-- No properties, any schema and the default meta fields. -/
def empty : Model := ⟨defaultMetaFields, [], .empty⟩

instance : Inhabited Model := ⟨empty⟩

/-- The model with one more property, or another type for one that it has. -/
def withProperty (model : Model) (name : String) (type : PropertyType) : Model :=
  { model with properties := model.properties.insert name type }

/-- The model with one more schema. -/
def withSchema (model : Model) (name : String) : Model :=
  { model with schemata := model.schemata ++ [name] }

/-- The model with one more meta field. -/
def withMetaField (model : Model) (name : String) : Model :=
  { model with metaFields := model.metaFields ++ [name] }

/-- What a model knows of names. -/
def registry (model : Model) : Registry where
  isMeta name := model.metaFields.contains name
  isProperty name := model.properties.contains name
  propertyType name := model.properties.get? name
  isKnownSchema name := model.schemata.isEmpty || model.schemata.contains name

/-! ## Documents -/

/-- The type that a value names: a word, or an object whose only member has the word as its key and
`null` as its value. -/
def type? : Json → Option PropertyType
  | .text word => some (.ofWord word)
  | .object [(word, .null)] => some (.ofWord word)
  | _ => none

/-- The properties that an object declares, the last of a repeated name winning. -/
def properties? (j : Json) : Option (Dict PropertyType) := do
  let members ← j.members?
  let typed ← members.mapM fun (name, value) => (type? value).map (name, ·)
  return .ofList typed

/-- The meta fields of a document: nothing said, or a list of texts. -/
def metaFields? : Json → Option (Option (List String))
  | .null => some none
  | j => j.texts?.map some

/-- The parts of a document, as far as it has them. -/
structure Document where
  schemata : Option Json.Written := none
  properties : Option Json.Written := none
  metaFields : Option Json.Written := none

/-- Takes a member of a document in; a part that is there already is refused. -/
def Document.add? (d : Document) (key : String) (value : Json.Written) : Option Document :=
  if key == "schemata" then
    if d.schemata.isSome then none else some { d with schemata := some value }
  else if key == "properties" then
    if d.properties.isSome then none else some { d with properties := some value }
  else if key == "meta" then
    if d.metaFields.isSome then none else some { d with metaFields := some value }
  else some d

/-- The parts of a written document. -/
def Document.ofWritten? : Json.Written → Option Document
  | .object members => members.foldlM (fun d (pieces, value) => do
      d.add? (← Json.string? pieces) value) ({} : Document)
  | .array [] => some {}
  | .array [schemata] => some { schemata := schemata }
  | .array [schemata, properties] => some { schemata := schemata, properties := properties }
  | .array [schemata, properties, metaFields] =>
    some { schemata := schemata, properties := properties, metaFields := metaFields }
  | _ => none

/-- A part read as a value; a part that is missing has the value given. -/
def part? {α : Type} (read? : Json → Option α) (missing : α) :
    Option Json.Written → Option α
  | none => some missing
  | some w => (w.toJson? Json.nestingBound).bind read?

/-- The schemata, properties and meta fields that a text declares. -/
def declared? (text : String) :
    Option (List String × Dict PropertyType × Option (List String)) := do
  let document ← Document.ofWritten? (← Json.Written.ofText? text)
  let schemata ← part? Json.texts? [] document.schemata
  let properties ← part? properties? .empty document.properties
  let metaFields ← part? metaFields? none document.metaFields
  return (schemata, properties, metaFields)

/-- The model of a document. Its meta fields, if it names any, are not empty, and no name is a meta
field and a property; the least such name is the one refused. -/
def ofText (text : String) : Except QueryError Model :=
  match declared? text with
  | none => .error .json
  | some (schemata, properties, metaFields) =>
    if metaFields == some [] then .error (.model .noMetaField)
    else
      let metaFields := metaFields.getD defaultMetaFields
      match properties.keys.find? metaFields.contains with
      | some name => .error (.model (.declaredTwice name))
      | none => .ok ⟨metaFields, schemata, properties⟩

end Model

end EntityQuery
