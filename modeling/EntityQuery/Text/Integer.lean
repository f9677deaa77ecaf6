/-!
# Integers in text

Digits, and integers of 64 bits written with an optional sign and at least one digit.

* `wrapSigned_of_isSigned`: a sum that fits its 64 bits stays as it is;
* `signed?`, `unsigned?`: the number that a text writes, if it fits its 64 bits.
-/

namespace EntityQuery

/-- The greatest signed integer of 64 bits. -/
def signedMax : Int := 9223372036854775807

/-- The least signed integer of 64 bits. -/
def signedMin : Int := -9223372036854775808

/-- The greatest unsigned integer of 64 bits. -/
def unsignedMax : Int := 18446744073709551615

/-- A number that fits a signed word of 64 bits. -/
def isSigned (n : Int) : Bool := signedMin ≤ n && n ≤ signedMax

/-- A number that fits an unsigned word of 64 bits. -/
def isUnsigned (n : Int) : Bool := 0 ≤ n && n ≤ unsignedMax

/-- The signed word of 64 bits that a sum comes to: numbers beyond one end go on from the other. -/
def wrapSigned (n : Int) : Int := n.bmod 18446744073709551616

theorem wrapSigned_of_isSigned {n : Int} (h : isSigned n = true) : wrapSigned n = n := by
  have hn : signedMin ≤ n ∧ n ≤ signedMax := by simpa [isSigned] using h
  simp only [signedMin, signedMax] at hn
  rw [wrapSigned, Int.bmod_def]
  omega

namespace Text

/-- The value of a decimal digit. -/
def digit? (c : Char) : Option Nat := if c.isDigit then some (c.toNat - '0'.toNat) else none

/-- The value of a hexadecimal digit. -/
def hexDigit? (c : Char) : Option Nat :=
  if c.isDigit then some (c.toNat - '0'.toNat)
  else if 'a' ≤ c ∧ c ≤ 'f' then some (c.toNat - 'a'.toNat + 10)
  else if 'A' ≤ c ∧ c ≤ 'F' then some (c.toNat - 'A'.toNat + 10)
  else none

/-- The number with these decimal digits, the first one counting most. -/
def ofDigits (ds : List Nat) : Nat := ds.foldl (fun n d => n * 10 + d) 0

/-- The number that a non-empty row of digits writes. -/
def natural? (cs : List Char) : Option Nat :=
  if cs.isEmpty then none else (cs.mapM digit?).map ofDigits

/-- The number that digits after an optional sign write. -/
def integer? : List Char → Option Int
  | '+' :: cs => (natural? cs).map Int.ofNat
  | '-' :: cs => (natural? cs).map (-Int.ofNat ·)
  | cs => (natural? cs).map Int.ofNat

/-- A signed integer of 64 bits. -/
def signed? (cs : List Char) : Option Int := (integer? cs).filter isSigned

/-- An unsigned integer of 64 bits, which takes no minus sign. -/
def unsigned? : List Char → Option Nat
  | '+' :: cs => (natural? cs).filter (isUnsigned ·)
  | cs => (natural? cs).filter (isUnsigned ·)

end Text

end EntityQuery
