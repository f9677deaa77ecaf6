/-!
# Registries

A registry answers which names are columns of the entity table, which are properties of the entity
model and of what type, and which schemata exist.

* `PropertyType.ofWord_word`: a type is the one that its word stands for.
-/

namespace EntityQuery

/-- The type of a property's values. -/
inductive PropertyType
  | name | string | text | date | number | country | entity | url | email | phone | identifier
  | address | ip | language | mimetype | checksum | topic | gender | json | html | other
  deriving DecidableEq

namespace PropertyType

/-- Every type but `other`. -/
def named : List PropertyType :=
  [.name, .string, .text, .date, .number, .country, .entity, .url, .email, .phone, .identifier,
    .address, .ip, .language, .mimetype, .checksum, .topic, .gender, .json, .html]

/-- The word for a type. -/
def word : PropertyType → String
  | .name => "name"
  | .string => "string"
  | .text => "text"
  | .date => "date"
  | .number => "number"
  | .country => "country"
  | .entity => "entity"
  | .url => "url"
  | .email => "email"
  | .phone => "phone"
  | .identifier => "identifier"
  | .address => "address"
  | .ip => "ip"
  | .language => "language"
  | .mimetype => "mimetype"
  | .checksum => "checksum"
  | .topic => "topic"
  | .gender => "gender"
  | .json => "json"
  | .html => "html"
  | .other => "other"

/-- The type that a word stands for; a word that no other type has stands for `other`. -/
def ofWord (word : String) : PropertyType :=
  (named.find? fun type => type.word == word).getD .other

/-- Values of the type are compared as numbers. -/
def isNumeric (type : PropertyType) : Bool := type == .number

theorem ofWord_word (type : PropertyType) : ofWord type.word = type := by
  cases type <;> decide

end PropertyType

/-- What is known of names. -/
structure Registry where
  isMeta : String → Bool
  isProperty : String → Bool
  propertyType : String → Option PropertyType
  isNumeric : String → Bool := fun name => (propertyType name).any PropertyType.isNumeric
  isKnownSchema : String → Bool := fun _ => true

/-- The same registry without a restriction of schemata. -/
def Registry.withAnySchema (registry : Registry) : Registry :=
  { registry with isKnownSchema := fun _ => true }

end EntityQuery
