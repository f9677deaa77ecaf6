import EntityQuery.Json.Reader

/-!
# Entities

An entity has an id, a schema, properties that each hold a list of texts, datasets, and extra
members. Its document is a JSON object with all of these; the extra members stand beside the others
and, where they share a name, in their place.

* `Entity.document`: the document of an entity;
* `Entity.ofJson?`, `Entity.ofText?`: the entity of a document.
-/

namespace EntityQuery

/-- An entity. -/
structure Entity where
  id : String
  schema : String
  properties : Dict (List String)
  datasets : List String
  extra : Dict Json

namespace Entity

/-- An entity without properties, datasets and extra members. -/
def new (id schema : String) : Entity := ⟨id, schema, .empty, [], .empty⟩

/-- The entity with one more value of a property. -/
def withProperty (e : Entity) (name value : String) : Entity :=
  { e with properties := e.properties.alter name fun values => values.getD [] ++ [value] }

/-- The entity in one more dataset. -/
def withDataset (e : Entity) (dataset : String) : Entity :=
  { e with datasets := e.datasets ++ [dataset] }

/-- The entity with an extra member, in place of the one of the same name. -/
def withExtra (e : Entity) (key : String) (value : Json) : Entity :=
  { e with extra := e.extra.insert key value }

/-- The values of a property. -/
def values (e : Entity) (property : String) : List String := (e.properties.get? property).getD []

/-! ## Documents -/

/-- The properties as an object. -/
def propertiesJson (e : Entity) : Json :=
  .object (e.properties.entries.map fun p => (p.1, .ofTexts p.2))

/-- The members of the document in the order in which they are written; a later one replaces an
earlier one of the same name. Datasets are left out if there are none. -/
def members (e : Entity) : List (String × Json) :=
  [("id", .text e.id), ("schema", .text e.schema), ("properties", e.propertiesJson)] ++
    (if e.datasets.isEmpty then [] else [("datasets", .ofTexts e.datasets)]) ++ e.extra.entries

/-- The document of an entity. -/
def document (e : Entity) : Json := .ofDict (.ofList e.members)

/-- The members of a document that have a meaning of their own. -/
def known : List String := ["id", "schema", "properties", "datasets"]

/-- The values under a key. -/
def valuesOf (key : String) (members : List (String × Json)) : List Json :=
  (members.filter (·.1 == key)).map (·.2)

/-- The one value under a key; a repeated key is refused. -/
def only? (key : String) (members : List (String × Json)) : Option Json :=
  match valuesOf key members with
  | [value] => some value
  | _ => none

/-- The value under a key, read; the default if the key is missing. A repeated key is refused. -/
def optional? {α : Type} (key : String) (read? : Json → Option α) (default : α)
    (members : List (String × Json)) : Option α :=
  match valuesOf key members with
  | [] => some default
  | [value] => read? value
  | _ => none

/-- Lists of texts by property, the last of a repeated name winning. -/
def properties? (j : Json) : Option (Dict (List String)) := do
  let listed ← (← j.members?).mapM fun (name, value) => value.texts?.map (name, ·)
  return .ofList listed

/-- The entity of an object's members as written. The extra members are read as values of their own,
the last of a repeated name winning. -/
def ofMembers? (members : List (String × Json)) : Option Entity := do
  let id ← (← only? "id" members).text?
  let schema ← (← only? "schema" members).text?
  let properties ← optional? "properties" properties? .empty members
  let datasets ← optional? "datasets" Json.texts? [] members
  let extra ← Json.memberMeanings? Json.ofText? (members.filter fun m => !known.contains m.1)
  return ⟨id, schema, properties, datasets, .ofList extra⟩

/-- The entity of a document. -/
def ofJson? (j : Json) : Option Entity := j.members?.bind ofMembers?

/-- The entity of a document's text. -/
def ofText? (text : String) : Option Entity := (Json.asWritten? text).bind ofJson?

end Entity

end EntityQuery
