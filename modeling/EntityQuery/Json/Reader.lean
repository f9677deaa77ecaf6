import EntityQuery.Json.Written

/-!
# Reading of JSON values

What a written JSON text means. A number without point and power of ten that fits 64 bits is an
integer; any other is a double. A string is Unicode text, so a surrogate needs its partner. A value
may nest 127 containers. The members of an object are put in order of their keys, the last of a
repeated key winning. An object whose first key is the embedding key is no object of its own: it
holds one JSON text, which may again nest 127 containers, and means what that text means.

* `Numeral.toJson?`: the value of a number;
* `meaning?`: the value of a value as written;
* `ofText?`: the value of a text.
-/

namespace EntityQuery.Json

/-! ## Numbers -/

namespace Numeral

/-- The number is `0` with a minus sign. -/
def isNegativeZero (n : Numeral) : Bool := n.negative && Text.ofDigits n.whole == 0

/-- The integer that the digits before the point write. -/
def integer (n : Numeral) : Int :=
  if n.negative then -(Text.ofDigits n.whole : Int) else Text.ofDigits n.whole

/-- The number is an integer of 64 bits, signed or unsigned. Negative zero is a double. -/
def isInteger (n : Numeral) : Bool :=
  n.fraction.isNone && n.exponent.isNone && !n.isNegativeZero &&
    (isSigned n.integer || isUnsigned n.integer)

/-- The leading digits that fit an unsigned word, and how many digits are left over. -/
def leading : Nat → List Nat → Nat × Int
  | s, [] => (s, 0)
  | s, d :: ds =>
    if isUnsigned ((s * 10 + d : Nat) : Int) then leading (s * 10 + d) ds else (s, ds.length + 1)

/-- The digits after the point that still fit, each lowering the power of ten; the rest are
dropped. -/
def trailing : Nat → Int → List Nat → Nat × Int
  | s, e, [] => (s, e)
  | s, e, d :: ds =>
    if isUnsigned ((s * 10 + d : Nat) : Int) then trailing (s * 10 + d) (e - 1) ds else (s, e)

/-- The significand and its power of ten. -/
def significand (n : Numeral) : Nat × Int :=
  let (s, e) := leading 0 n.whole
  let (s, e) := trailing s e (n.fraction.getD [])
  (s, e + n.exponent.getD 0)

/-- A double below `2 ^ 64` times a power of ten, in one multiplication with or division by a power
that is itself a double; a power too small for that is divided by in two steps. There is no value
above the doubles. -/
def scale? (d : Double) (e : Int) : Option Double := do
  if d.isZero then return d
  if 308 < e then none
  else if 0 ≤ e then d.mul? (← Double.powerOfTen? e.natAbs)
  else if -308 ≤ e then d.div? (← Double.powerOfTen? e.natAbs)
  else if -616 ≤ e then
    (← d.div? (← Double.powerOfTen? 308)).div? (← Double.powerOfTen? (e.natAbs - 308))
  else return Double.zero

/-- The double that a number means. Its last bit may differ from the nearest double's, as the
significand and the power of ten are rounded on their own. -/
def double? (n : Numeral) : Option Double := do
  let (s, e) := n.significand
  let d ← scale? (← Double.ofInt? s) e
  return if n.negative then d.neg else d

/-- The value of a number, unless it is too large. -/
def toJson? (n : Numeral) : Option Json :=
  if n.isInteger then some (.int n.integer) else n.double?.map .double

end Numeral

/-! ## Strings -/

/-- The first surrogate of a pair. -/
def isHighSurrogate (n : Nat) : Bool := 0xD800 ≤ n && n ≤ 0xDBFF

/-- The second surrogate of a pair. -/
def isLowSurrogate (n : Nat) : Bool := 0xDC00 ≤ n && n ≤ 0xDFFF

/-- The characters that the pieces of a string mean; a surrogate without its partner means none. -/
def characters? : List Piece → Option (List Char)
  | [] => some []
  | .char c :: ps => (characters? ps).map (c :: ·)
  | .codeUnit a :: .codeUnit b :: ps =>
    if isHighSurrogate a then
      if isLowSurrogate b then
        (characters? ps).map (Char.ofNat (0x10000 + (a - 0xD800) * 0x400 + (b - 0xDC00)) :: ·)
      else none
    else if isLowSurrogate a then none
    else (characters? (.codeUnit b :: ps)).map (Char.ofNat a :: ·)
  | .codeUnit a :: ps =>
    if isHighSurrogate a || isLowSurrogate a then none
    else (characters? ps).map (Char.ofNat a :: ·)

/-- The text that the pieces of a string mean. -/
def string? (ps : List Piece) : Option String := (characters? ps).map String.ofList

/-! ## Values -/

mutual

/-- The value that a written text means, members as written, if it nests no more containers than
given. -/
def Written.toJson? : Nat → Written → Option Json
  | _, .null => some .null
  | _, .bool b => some (.bool b)
  | _, .number n => n.toJson?
  | _, .string ps => (string? ps).map .text
  | 0, .array _ => none
  | n + 1, .array ws => (Written.itemsToJson? n ws).map .array
  | 0, .object _ => none
  | n + 1, .object ms => (Written.membersToJson? n ms).map .object

/-- The values of the items of an array. -/
def Written.itemsToJson? : Nat → List Written → Option (List Json)
  | _, [] => some []
  | n, w :: ws => do
    let x ← Written.toJson? n w
    let xs ← Written.itemsToJson? n ws
    return x :: xs

/-- The keys and values of the members of an object. -/
def Written.membersToJson? : Nat → List (List Piece × Written) → Option (List (String × Json))
  | _, [] => some []
  | n, (ps, w) :: ms => do
    let key ← string? ps
    let x ← Written.toJson? n w
    let xs ← Written.membersToJson? n ms
    return (key, x) :: xs

end

/-- The greatest number of containers that a value may nest. -/
def nestingBound : Nat := 127

/-- The value of a text, with members as written, repetitions included. -/
def asWritten? (text : String) : Option Json := do
  (← Written.ofText? text).toJson? nestingBound

/-! ## Embedded texts -/

/-- The key under which an object holds a JSON text that stands in place of the object. -/
def embeddingKey : String := "$serde_json::private::RawValue"

/-- The first member is under the embedding key. -/
def isEmbedding (members : List (String × Json)) : Bool := members.head?.any (·.1 == embeddingKey)

/-- The text that the only member holds. -/
def embedded? : List (String × Json) → Option String
  | [(_, value)] => value.text?
  | _ => none

mutual

/-- What a value as written means: an object is in order of its keys, the last of a repeated key
winning, or else is the value of the text embedded in it, as `read?` reads that. -/
def meaning? (read? : String → Option Json) : Json → Option Json
  | .array items => (itemMeanings? read? items).map .array
  | .object members =>
    if isEmbedding members then (embedded? members).bind read?
    else (memberMeanings? read? members).map fun ms => .object (Entries.ofList ms)
  | j => some j

/-- What the items of an array mean. -/
def itemMeanings? (read? : String → Option Json) : List Json → Option (List Json)
  | [] => some []
  | x :: xs => do
    let y ← meaning? read? x
    let ys ← itemMeanings? read? xs
    return y :: ys

/-- What the members of an object mean, in place. -/
def memberMeanings? (read? : String → Option Json) :
    List (String × Json) → Option (List (String × Json))
  | [] => some []
  | (key, x) :: xs => do
    let y ← meaning? read? x
    let ys ← memberMeanings? read? xs
    return (key, y) :: ys

end

/-- The value of a text that holds texts in texts less deep than a bound. -/
def ofTextWithin? : Nat → String → Option Json
  | 0, _ => none
  | n + 1, s => (asWritten? s).bind (meaning? (ofTextWithin? n))

/-- The value of a text. An embedded text is shorter than the text that it is embedded in, so the
bound is never reached. -/
def ofText? (text : String) : Option Json := ofTextWithin? (text.length + 1) text

end EntityQuery.Json
