import EntityQuery.Json

/-!
# JSON text as written

The grammar of JSON text, read into a tree that keeps what is written: numbers as digits, escapes in
strings as code units, and the members of objects in order with repetitions. What a number, a string
or the whole text means is for `EntityQuery.Json.Reader` to say, so that a part whose meaning does
not matter is held to the grammar only.
-/

namespace EntityQuery.Json

/-- A number as written: a sign, digits, digits after a point and a power of ten. -/
structure Numeral where
  negative : Bool
  whole : List Nat
  fraction : Option (List Nat)
  exponent : Option Int

/-- A part of a string as written: a character, or a code unit of 16 bits in hexadecimal digits. -/
inductive Piece
  | char (c : Char)
  | codeUnit (n : Nat)

/-- A JSON text as written. -/
inductive Written
  | null
  | bool (b : Bool)
  | number (n : Numeral)
  | string (pieces : List Piece)
  | array (items : List Written)
  | object (members : List (List Piece × Written))

namespace Written

/-- White space between tokens: space, tab, line feed and carriage return. -/
def isSpace (c : Char) : Bool := c == ' ' || c == '\t' || c == '\n' || c == '\r'

/-- The characters after the white space. -/
def skip (cs : List Char) : List Char := cs.dropWhile isSpace

/-! ## Strings -/

/-- The character that a letter after a backslash stands for. -/
def escape? : Char → Option Char
  | '"' => some '"'
  | '\\' => some '\\'
  | '/' => some '/'
  | 'b' => some '\x08'
  | 'f' => some '\x0c'
  | 'n' => some '\n'
  | 'r' => some '\r'
  | 't' => some '\t'
  | _ => none

/-- The code unit that four hexadecimal digits write. -/
def codeUnit? (a b c d : Char) : Option Nat := do
  return (((← Text.hexDigit? a) * 16 + (← Text.hexDigit? b)) * 16 + (← Text.hexDigit? c)) * 16 +
    (← Text.hexDigit? d)

/-- The pieces of a string up to its closing quote, and the characters after that. -/
def pieces? : List Char → Option (List Piece × List Char)
  | [] => none
  | '"' :: cs => some ([], cs)
  | '\\' :: 'u' :: a :: b :: c :: d :: cs =>
    match codeUnit? a b c d, pieces? cs with
    | some n, some (ps, r) => some (.codeUnit n :: ps, r)
    | _, _ => none
  | '\\' :: e :: cs =>
    match escape? e, pieces? cs with
    | some c, some (ps, r) => some (.char c :: ps, r)
    | _, _ => none
  | c :: cs =>
    if c.toNat < 0x20 || c == '\\' then none
    else (pieces? cs).map fun (ps, r) => (.char c :: ps, r)

/-! ## Numbers -/

/-- The digits at the start, and the characters after them. -/
def digits (cs : List Char) : List Nat × List Char :=
  ((cs.takeWhile Char.isDigit).map fun c => c.toNat - '0'.toNat, cs.dropWhile Char.isDigit)

/-- At least one digit, and the characters after. -/
def someDigits? (cs : List Char) : Option (List Nat × List Char) :=
  if (digits cs).1.isEmpty then none else some (digits cs)

/-- Digits that begin with zero only if they are that zero. -/
def wholeDigits? (cs : List Char) : Option (List Nat × List Char) :=
  match digits cs with
  | ([], _) => none
  | (0 :: _ :: _, _) => none
  | ds => some ds

/-- An optional point with digits. -/
def fraction? : List Char → Option (Option (List Nat) × List Char)
  | '.' :: cs => (someDigits? cs).map fun (ds, r) => (some ds, r)
  | cs => some (none, cs)

/-- The digits of a power of ten, after its sign. -/
def power? (negative : Bool) (cs : List Char) : Option (Option Int × List Char) :=
  (someDigits? cs).map fun (ds, r) =>
    (some (if negative then -(Text.ofDigits ds : Int) else Text.ofDigits ds), r)

/-- An optional power of ten: `e`, a sign or none, and digits. -/
def exponent? : List Char → Option (Option Int × List Char)
  | c :: cs =>
    if c == 'e' || c == 'E' then
      match cs with
      | '+' :: r => power? false r
      | '-' :: r => power? true r
      | r => power? false r
    else some (none, c :: cs)
  | [] => some (none, [])

/-- A number after its sign. -/
def numeral? (negative : Bool) (cs : List Char) : Option (Written × List Char) := do
  let (whole, r) ← wholeDigits? cs
  let (fraction, r) ← fraction? r
  let (exponent, r) ← exponent? r
  return (.number ⟨negative, whole, fraction, exponent⟩, r)

/-! ## Values -/

mutual

/-- A value at the start of the characters, and the characters after it. The number bounds the
nesting. -/
def value? : Nat → List Char → Option (Written × List Char)
  | 0, _ => none
  | n + 1, cs =>
    match skip cs with
    | 'n' :: 'u' :: 'l' :: 'l' :: r => some (.null, r)
    | 't' :: 'r' :: 'u' :: 'e' :: r => some (.bool true, r)
    | 'f' :: 'a' :: 'l' :: 's' :: 'e' :: r => some (.bool false, r)
    | '"' :: r => (pieces? r).map fun (ps, r) => (.string ps, r)
    | '[' :: r =>
      match skip r with
      | ']' :: r => some (.array [], r)
      | r => (items? n r).map fun (xs, r) => (.array xs, r)
    | '\x7b' :: r =>
      match skip r with
      | '\x7d' :: r => some (.object [], r)
      | r => (members? n r).map fun (ms, r) => (.object ms, r)
    | '-' :: r => numeral? true r
    | r => numeral? false r

/-- Values with commas between them, up to the closing bracket. -/
def items? : Nat → List Char → Option (List Written × List Char)
  | 0, _ => none
  | n + 1, cs => do
    let (x, r) ← value? n cs
    match skip r with
    | ']' :: r => return ([x], r)
    | ',' :: r =>
      let (xs, r) ← items? n r
      return (x :: xs, r)
    | _ => none

/-- Members with commas between them, up to the closing brace. -/
def members? : Nat → List Char → Option (List (List Piece × Written) × List Char)
  | 0, _ => none
  | n + 1, cs =>
    match skip cs with
    | '"' :: r => do
      let (key, r) ← pieces? r
      match skip r with
      | ':' :: r =>
        let (x, r) ← value? n r
        match skip r with
        | '\x7d' :: r => return ([(key, x)], r)
        | ',' :: r =>
          let (ms, r) ← members? n r
          return ((key, x) :: ms, r)
        | _ => none
      | _ => none
    | _ => none

end

/-- The text is one value with nothing but white space around it. At most two steps of the reader
fall on one character, so the bound is never reached. -/
def ofText? (text : String) : Option Written :=
  match value? (2 * text.length + 2) text.toList with
  | some (w, r) => if (skip r).isEmpty then some w else none
  | none => none

end Written

end EntityQuery.Json
