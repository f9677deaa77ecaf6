import EntityQuery.Text.Integer
import EntityQuery.Text.Utf8

/-!
# Form-encoded pairs

A query string is a list of pieces `name=value` joined by `&`. Empty pieces are skipped, a piece
without `=` has an empty value, `+` stands for a space and `%` with two hexadecimal digits for a
byte. The bytes are read as UTF-8, with U+FFFD for each fault.
-/

namespace EntityQuery.Text.Form

/-- The bytes of an encoded piece of text. A `%` that no two hexadecimal digits follow is itself. -/
def bytes : List Char → List UInt8
  | [] => []
  | '+' :: cs => 0x20 :: bytes cs
  | '%' :: a :: b :: cs =>
    match hexDigit? a, hexDigit? b with
    | some x, some y => UInt8.ofNat (x * 16 + y) :: bytes cs
    | _, _ => 0x25 :: bytes (a :: b :: cs)
  | c :: cs => String.utf8EncodeChar c ++ bytes cs

/-- The text that an encoded piece stands for. -/
def decode (cs : List Char) : String := String.ofList (Utf8.decodeLossy (bytes cs))

/-- A piece, split at its first `=`. -/
def pair (cs : List Char) : String × String :=
  (decode (cs.takeWhile (· != '=')), decode ((cs.dropWhile (· != '=')).drop 1))

/-- The pairs of a form-encoded text, in order. -/
def pairs (text : String) : List (String × String) :=
  ((text.toList.splitOn '&').filter (!·.isEmpty)).map pair

end EntityQuery.Text.Form
