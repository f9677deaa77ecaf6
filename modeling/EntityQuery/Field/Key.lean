/-!
# Lookup keys

A lookup key is the name of a field, with an operator after two underscores if it has one. The first
two underscores in a row divide the key.
-/

namespace EntityQuery.Key

/-- The characters before the first two underscores in a row, and those after them if there are any
such. -/
def split : List Char → List Char × Option (List Char)
  | [] => ([], none)
  | '_' :: '_' :: cs => ([], some cs)
  | c :: cs => (c :: (split cs).1, (split cs).2)

/-- The name of the field in a key. -/
def base (key : String) : String := String.ofList (split key.toList).1

/-- The operator in a key. -/
def token? (key : String) : Option String := (split key.toList).2.map String.ofList

/-- The text holds two underscores in a row. -/
def isDivided (text : String) : Bool := (split text.toList).2.isSome

end EntityQuery.Key
