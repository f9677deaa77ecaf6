import EntityQuery.Dict
import EntityQuery.Double
import EntityQuery.Text.Integer

/-!
# JSON values

Integers and doubles are different values, even where they are the same number. The members of an
object are kept in the order given, repetitions included; `EntityQuery.Json.Reader` puts those that
it reads from text in order of their keys.

* `same_refl`: equality, under which the two zeros of the doubles are one, holds of each value with
  itself.
-/

namespace EntityQuery

/-- A JSON value. -/
inductive Json
  | null
  | bool (b : Bool)
  | int (n : Int)
  | double (d : Double)
  | text (s : String)
  | array (items : List Json)
  | object (members : List (String × Json))

namespace Json

instance : Inhabited Json := ⟨.null⟩

/-! ## Equality -/

mutual

/-- Equality of values; doubles are compared as numbers. -/
def same : Json → Json → Bool
  | .null, .null => true
  | .bool a, .bool b => a == b
  | .int a, .int b => a == b
  | .double a, .double b => a.same b
  | .text a, .text b => a == b
  | .array xs, .array ys => sameItems xs ys
  | .object xs, .object ys => sameMembers xs ys
  | _, _ => false

/-- Equality of lists of values. -/
def sameItems : List Json → List Json → Bool
  | [], [] => true
  | x :: xs, y :: ys => same x y && sameItems xs ys
  | _, _ => false

/-- Equality of lists of members. -/
def sameMembers : List (String × Json) → List (String × Json) → Bool
  | [], [] => true
  | (k, x) :: xs, (l, y) :: ys => k == l && same x y && sameMembers xs ys
  | _, _ => false

end

mutual

theorem same_refl : (j : Json) → same j j = true
  | .null => by simp [same]
  | .bool _ => by simp [same]
  | .int _ => by simp [same]
  | .double _ => by simp [same]
  | .text _ => by simp [same]
  | .array xs => by simp [same, sameItems_refl xs]
  | .object xs => by simp [same, sameMembers_refl xs]

theorem sameItems_refl : (xs : List Json) → sameItems xs xs = true
  | [] => by simp [sameItems]
  | x :: xs => by simp [sameItems, same_refl x, sameItems_refl xs]

theorem sameMembers_refl : (xs : List (String × Json)) → sameMembers xs xs = true
  | [] => by simp [sameMembers]
  | (_, x) :: xs => by simp [sameMembers, same_refl x, sameMembers_refl xs]

end

/-- The value occurs among the items. -/
def occurs (j : Json) (items : List Json) : Bool := items.any (same j)

/-! ## Shapes -/

/-- The value is `null`. -/
def isNull : Json → Bool
  | .null => true
  | _ => false

/-- A text, a number or a boolean. -/
def isScalar : Json → Bool
  | .text _ | .int _ | .double _ | .bool _ => true
  | _ => false

/-- The text that the value is. -/
def text? : Json → Option String
  | .text s => some s
  | _ => none

/-- The boolean that the value is. -/
def bool? : Json → Option Bool
  | .bool b => some b
  | _ => none

/-- The integer that the value is, if it fits a signed word of 64 bits. -/
def signed? : Json → Option Int
  | .int n => if isSigned n then some n else none
  | _ => none

/-- The texts that the items of an array are. -/
def texts? : Json → Option (List String)
  | .array items => items.mapM text?
  | _ => none

/-- The members of an object. -/
def members? : Json → Option (List (String × Json))
  | .object members => some members
  | _ => none

/-- The array of these texts. -/
def ofTexts (texts : List String) : Json := .array (texts.map .text)

/-- The object of a dictionary's entries. -/
def ofDict (d : Dict Json) : Json := .object d.entries

end Json

end EntityQuery
