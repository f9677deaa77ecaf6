/-!
# UTF-8

Reading of a byte sequence, one byte at a time. A sequence that no character has, and one that ends
too early, is a *fault*; each fault covers the longest run of bytes that could have begun a
character. A reader may refuse faults (`decode?`) or put U+FFFD in place of each (`decodeLossy`).

* `step`: what a byte completes and what it leaves begun;
* `read`: the characters of a byte sequence, and its faults.
-/

namespace EntityQuery.Text.Utf8

/-- A character begun: the bytes still owed, the least and the greatest next one, and the bits so
far. -/
structure Partial where
  owed : Nat
  low : Nat
  high : Nat
  bits : Nat

/-- What a byte of a new character begins: the character itself, the first of several bytes, or
nothing. The range of the second byte excludes overlong forms, surrogates and numbers above
0x10FFFF. -/
inductive Opening
  | char (c : Char)
  | begun (p : Partial)
  | fault

/-- The reading of a byte that opens a character. -/
def opening (b : Nat) : Opening :=
  if b < 0x80 then .char (Char.ofNat b)
  else if b < 0xC2 then .fault
  else if b < 0xE0 then .begun ⟨1, 0x80, 0xBF, b - 0xC0⟩
  else if b == 0xE0 then .begun ⟨2, 0xA0, 0xBF, 0⟩
  else if b == 0xED then .begun ⟨2, 0x80, 0x9F, 0xD⟩
  else if b < 0xF0 then .begun ⟨2, 0x80, 0xBF, b - 0xE0⟩
  else if b == 0xF0 then .begun ⟨3, 0x90, 0xBF, 0⟩
  else if b < 0xF4 then .begun ⟨3, 0x80, 0xBF, b - 0xF0⟩
  else if b == 0xF4 then .begun ⟨3, 0x80, 0x8F, 4⟩
  else .fault

/-- The characters (`none` for a fault) that a byte completes, and the character it leaves begun. -/
def step : Option Partial → Nat → List (Option Char) × Option Partial
  | none, b => match opening b with
    | .char c => ([some c], none)
    | .begun p => ([], some p)
    | .fault => ([none], none)
  | some p, b =>
    if p.low ≤ b ∧ b ≤ p.high then
      let bits := p.bits * 0x40 + (b - 0x80)
      if p.owed ≤ 1 then ([some (Char.ofNat bits)], none)
      else ([], some ⟨p.owed - 1, 0x80, 0xBF, bits⟩)
    else match opening b with
      | .char c => ([none, some c], none)
      | .begun q => ([none], some q)
      | .fault => ([none, none], none)

/-- The characters of a byte sequence, `none` standing for a fault. -/
def read : Option Partial → List UInt8 → List (Option Char)
  | none, [] => []
  | some _, [] => [none]
  | p, b :: bs => (step p b.toNat).1 ++ read (step p b.toNat).2 bs

/-- The text of a byte sequence without faults. -/
def decode? (bs : List UInt8) : Option (List Char) := (read none bs).mapM id

/-- The text of a byte sequence, with U+FFFD for each fault. -/
def decodeLossy (bs : List UInt8) : List Char := (read none bs).map (·.getD '\uFFFD')

end EntityQuery.Text.Utf8
