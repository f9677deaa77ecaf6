import EntityQuery.Double.Shortest
import EntityQuery.Json

/-!
# Printing of JSON values

The compact text of a value has no white space; the pretty text puts each item and member on a line
of its own, indented by two spaces a level, and leaves empty containers together. Doubles are
printed with the fewest digits that mean the same double.
-/

namespace EntityQuery.Json

/-! ## Strings and numbers -/

/-- The two lower-case hexadecimal digits of a number below 256. -/
def hexPair (n : Nat) : List Char := [Nat.digitChar (n / 16), Nat.digitChar (n % 16)]

/-- A character inside a string: quotes, backslashes and control characters are escaped. -/
def escape (c : Char) : List Char :=
  if c == '"' then ['\\', '"']
  else if c == '\\' then ['\\', '\\']
  else if c == '\n' then ['\\', 'n']
  else if c == '\r' then ['\\', 'r']
  else if c == '\t' then ['\\', 't']
  else if c == '\x08' then ['\\', 'b']
  else if c == '\x0c' then ['\\', 'f']
  else if c.toNat < 0x20 then '\\' :: 'u' :: '0' :: '0' :: hexPair c.toNat
  else [c]

/-- A string in quotes. -/
def quote (s : String) : String := String.ofList ('"' :: s.toList.flatMap escape ++ ['"'])

/-- The magnitudes written without a power of ten: those from `10 ^ -5` up to `10 ^ 16`. -/
def isPositional (s : Scientific) : Bool := -5 ≤ s.exponent && s.exponent ≤ 15

/-- The digits as characters. -/
def digitChars (ds : List Nat) : List Char := ds.map Nat.digitChar

/-- Digits with a point among them, and at least one digit on each side of it. -/
def positional (s : Scientific) : List Char :=
  let ds := digitChars s.digits
  if s.exponent < 0 then
    '0' :: '.' :: (List.replicate (s.exponent.natAbs - 1) '0' ++ ds)
  else
    let n := s.exponent.natAbs + 1
    let whole := ds.take n ++ List.replicate (n - ds.length) '0'
    let part := ds.drop n
    whole ++ '.' :: (if part.isEmpty then ['0'] else part)

/-- Digits with a point after the first, if there are more, and a power of ten with its sign. -/
def exponential (s : Scientific) : List Char :=
  let head := digitChars (s.digits.take 1)
  let tail := digitChars (s.digits.drop 1)
  head ++ (if tail.isEmpty then [] else '.' :: tail) ++
    'e' :: (if s.exponent < 0 then '-' else '+') :: Nat.toDigits 10 s.exponent.natAbs

/-- The text of a double. -/
def doubleText (d : Double) : String :=
  let s := d.shortest
  let magnitude := if isPositional s then positional s else exponential s
  String.ofList (if d.negative then '-' :: magnitude else magnitude)

/-- The text of an integer. -/
def intText (n : Int) : String := n.repr

/-! ## Compact text -/

mutual

/-- The text of a value without white space. -/
def compact : Json → String
  | .null => "null"
  | .bool b => if b then "true" else "false"
  | .int n => intText n
  | .double d => doubleText d
  | .text s => quote s
  | .array items => "[" ++ ",".intercalate (compactItems items) ++ "]"
  | .object members => "\x7b" ++ ",".intercalate (compactMembers members) ++ "\x7d"

/-- The texts of items. -/
def compactItems : List Json → List String
  | [] => []
  | x :: xs => compact x :: compactItems xs

/-- The texts of members. -/
def compactMembers : List (String × Json) → List String
  | [] => []
  | (k, x) :: xs => (quote k ++ ":" ++ compact x) :: compactMembers xs

end

/-! ## Pretty text -/

/-- A line break and the indentation of a level. -/
def lineBreak (level : Nat) : String := "\n" ++ String.ofList (List.replicate (2 * level) ' ')

/-- Parts between brackets, each on a line of the next level. -/
def block (opening closing : String) (level : Nat) (parts : List String) : String :=
  if parts.isEmpty then opening ++ closing
  else opening ++ lineBreak (level + 1) ++ ("," ++ lineBreak (level + 1)).intercalate parts ++
    lineBreak level ++ closing

mutual

/-- The indented text of a value at a level. -/
def prettyAt (level : Nat) : Json → String
  | .array items => block "[" "]" level (prettyItems (level + 1) items)
  | .object members => block "\x7b" "\x7d" level (prettyMembers (level + 1) members)
  | .null => "null"
  | .bool b => if b then "true" else "false"
  | .int n => intText n
  | .double d => doubleText d
  | .text s => quote s

/-- The indented texts of items. -/
def prettyItems (level : Nat) : List Json → List String
  | [] => []
  | x :: xs => prettyAt level x :: prettyItems level xs

/-- The indented texts of members. -/
def prettyMembers (level : Nat) : List (String × Json) → List String
  | [] => []
  | (k, x) :: xs => (quote k ++ ": " ++ prettyAt level x) :: prettyMembers level xs

end

/-- The indented text of a value. -/
def pretty (j : Json) : String := prettyAt 0 j

end EntityQuery.Json
