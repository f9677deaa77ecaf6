/-!
# Slugs

The slug of a name is an identifier made of it: the runs of ASCII letters and digits in the name, in
order and in their case, with one underscore between two of them.
-/

namespace EntityQuery

namespace Slug

/-- What follows the first letter or digit. An underscore is owed once another character has been
passed over, and is written before the next letter or digit. -/
def continued : Bool → List Char → List Char
  | _, [] => []
  | owed, c :: cs =>
    if c.isAlphanum then (if owed then ['_', c] else [c]) ++ continued false cs
    else continued true cs

/-- The slug of a name, as characters. -/
def characters : List Char → List Char
  | [] => []
  | c :: cs => if c.isAlphanum then c :: continued false cs else characters cs

end Slug

/-- The slug of a name. -/
def slug (name : String) : String := String.ofList (Slug.characters name.toList)

end EntityQuery
