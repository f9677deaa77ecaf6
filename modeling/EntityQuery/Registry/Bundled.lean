import EntityQuery.Registry.Model

/-!
# The bundled model

The schemata and properties of the entity model that is used where no other is configured.
-/

namespace EntityQuery.Model

/-- The schemata of the bundled model. -/
def bundledSchemata : List String := [
  "Address", "Airplane", "Article", "Asset", "BankAccount", "Call", "Company", "Contract",
  "ContractAward", "CourtCase", "Debt", "Directorship", "Document", "Email", "Employment",
  "Event", "Family", "Folder", "Interval", "LegalEntity", "License", "Membership", "Mention",
  "Organization", "Ownership", "Passport", "Payment", "Person", "PlainText", "Position",
  "Project", "PublicBody", "RealEstate", "Representation", "Sanction", "Security", "Succession",
  "Thing", "Trip", "UnknownLink", "Vessel"]

/-- The properties of the bundled model with their types. -/
def bundledProperties : List (String × PropertyType) := [
  ("name", .name), ("alias", .name), ("previousName", .name), ("weakAlias", .name),
  ("firstName", .name), ("lastName", .name), ("middleName", .name), ("fatherName", .name),
  ("title", .string), ("summary", .text), ("description", .text), ("notes", .text),
  ("keywords", .string), ("topics", .topic), ("country", .country), ("jurisdiction", .country),
  ("nationality", .country), ("mainCountry", .country), ("citizenship", .country),
  ("address", .address), ("addressEntity", .entity), ("email", .email), ("phone", .phone),
  ("website", .url), ("sourceUrl", .url), ("date", .date), ("startDate", .date),
  ("endDate", .date), ("birthDate", .date), ("deathDate", .date), ("incorporationDate", .date),
  ("dissolutionDate", .date), ("publishedAt", .date), ("modifiedAt", .date),
  ("retrievedAt", .date), ("gender", .gender), ("idNumber", .identifier),
  ("registrationNumber", .identifier), ("taxNumber", .identifier), ("vatCode", .identifier),
  ("leiCode", .identifier), ("innCode", .identifier), ("ogrnCode", .identifier),
  ("swiftBic", .identifier), ("iban", .identifier), ("imoNumber", .identifier),
  ("status", .string), ("legalForm", .string), ("sector", .string), ("classification", .string),
  ("program", .string), ("reason", .text), ("authority", .string), ("purpose", .text),
  ("role", .string), ("relationship", .string), ("amount", .number), ("amountUsd", .number),
  ("amountEur", .number), ("currency", .string), ("percentage", .number),
  ("sharesCount", .number), ("sharesValue", .number), ("capital", .number),
  ("employees", .number), ("tonnage", .number), ("grossRegisteredTonnage", .number),
  ("buildDate", .date), ("flag", .country), ("language", .language), ("mimeType", .mimetype),
  ("contentHash", .checksum), ("fileName", .string), ("fileSize", .number), ("bodyText", .text),
  ("bodyHtml", .html), ("indexText", .text), ("ipAddress", .ip), ("payer", .entity),
  ("beneficiary", .entity), ("owner", .entity), ("asset", .entity), ("director", .entity),
  ("organization", .entity), ("employer", .entity), ("employee", .entity), ("member", .entity),
  ("person", .entity), ("relative", .entity), ("holder", .entity), ("parent", .entity),
  ("proof", .entity)]

/-- The bundled model. -/
def bundled : Model :=
  ⟨defaultMetaFields, bundledSchemata, .ofList bundledProperties⟩

end EntityQuery.Model
