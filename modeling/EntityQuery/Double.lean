/-!
# Finite doubles

A finite IEEE 754 double is a sign and the rank of its magnitude among the non-negative doubles,
zero having rank 0. Every magnitude is a whole number of units of `2 ^ -1074`, so that comparison
and rounding are exact arithmetic on natural numbers. Rounding goes to the nearest double, and from
half way between two to the one of even rank.

* `unitsAt_strictMono`: a higher rank is a larger magnitude;
* `same_refl`: every double equals itself, and the two zeros equal each other.
-/

namespace EntityQuery

/-- The number of doubles of one binary exponent, `2 ^ 52`. -/
def binade : Nat := 0x10000000000000

/-- The rank that infinity would have: one above the greatest finite double. -/
def rankBound : Nat := 2047 * binade

/-- A finite double. -/
structure Double where
  negative : Bool
  rank : Nat
  rank_lt : rank < rankBound
  deriving DecidableEq

namespace Double

/-- The number of units in 1. -/
def unitsPerOne : Nat := Nat.pow 2 1074

/-- The magnitude of a rank, in units of `2 ^ -1074`. -/
def unitsAt (rank : Nat) : Nat :=
  if rank < binade then rank else (binade + rank % binade) * Nat.pow 2 (rank / binade - 1)

/-- The magnitude, in units of `2 ^ -1074`. -/
def units (d : Double) : Nat := unitsAt d.rank

/-- The 64 bits of the interchange format, as a number. -/
def bits (d : Double) : Nat := (if d.negative then 0x8000000000000000 else 0) + d.rank

/-- The zero with a plus sign. -/
def zero : Double := ⟨false, 0, by decide⟩

instance : Inhabited Double := ⟨zero⟩

/-- The double is a zero of either sign. -/
def isZero (d : Double) : Bool := d.rank == 0

/-- The same magnitude with the other sign. -/
def neg (d : Double) : Double := { d with negative := !d.negative }

/-- Equality of numbers: the two zeros are equal. -/
def same (a b : Double) : Bool := a.rank == b.rank && (a.negative == b.negative || a.rank == 0)

/-! ## Rounding -/

/-- The whole number nearest to a quotient, and the even one of two equally near. -/
def divRound (num den : Nat) : Nat :=
  let q := num / den
  let r := num % den
  if 2 * r < den then q else if den < 2 * r then q + 1 else q + q % 2

/-- The rank nearest to a quotient, `rankBound` or more where the quotient is too large. -/
def rankNear (num den : Nat) : Nat :=
  let n := num * unitsPerOne
  let scale := (n / den).log2 - 52
  scale * binade + divRound n (den * Nat.pow 2 scale)

/-- The double nearest to a quotient, if that is finite. -/
def round? (negative : Bool) (num den : Nat) : Option Double :=
  if h : rankNear num den < rankBound then some ⟨negative, rankNear num den, h⟩ else none

/-- The double nearest to an integer. -/
def ofInt? (n : Int) : Option Double := round? (n < 0) n.natAbs 1

/-- The product, rounded. -/
def mul? (a b : Double) : Option Double :=
  round? (a.negative != b.negative) (a.units * b.units) (unitsPerOne * unitsPerOne)

/-- The quotient, rounded; none by zero. -/
def div? (a b : Double) : Option Double :=
  if b.units = 0 then none else round? (a.negative != b.negative) a.units b.units

/-- The double nearest to a power of ten. -/
def powerOfTen? (e : Nat) : Option Double := round? false (Nat.pow 10 e) 1

/-! ## Basic laws -/

theorem unitsAt_succ (rank : Nat) :
    unitsAt (rank + 1) = unitsAt rank + Nat.pow 2 (rank / binade - 1) := by
  unfold unitsAt binade
  by_cases h1 : rank + 1 < 0x10000000000000
  · have h2 : rank < 0x10000000000000 := by omega
    rw [if_pos h1, if_pos h2, Nat.div_eq_of_lt h2]
  by_cases h2 : rank < 0x10000000000000
  · have h3 : rank = 0xFFFFFFFFFFFFF := by omega
    subst h3
    decide
  rw [if_neg h1, if_neg h2]
  by_cases h3 : rank % 0x10000000000000 = 0xFFFFFFFFFFFFF
  · have h4 : (rank + 1) / 0x10000000000000 = rank / 0x10000000000000 + 1 := by omega
    have h5 : (rank + 1) % 0x10000000000000 = 0 := by omega
    obtain ⟨k, hk⟩ : ∃ k, rank / 0x10000000000000 = k + 1 :=
      ⟨rank / 0x10000000000000 - 1, by omega⟩
    rw [h4, h5, h3, hk, Nat.add_sub_cancel, Nat.add_sub_cancel]
    have hp : Nat.pow 2 (k + 1) = Nat.pow 2 k * 2 := rfl
    omega
  · have h4 : (rank + 1) / 0x10000000000000 = rank / 0x10000000000000 := by omega
    have h5 : (rank + 1) % 0x10000000000000 = rank % 0x10000000000000 + 1 := by omega
    rw [h4, h5, ← Nat.add_assoc, Nat.succ_mul]

theorem unitsAt_strictMono {a b : Nat} (h : a < b) : unitsAt a < unitsAt b := by
  induction b with
  | zero => omega
  | succ b ih =>
    have hpos : 0 < Nat.pow 2 (b / binade - 1) := Nat.pow_pos (by decide)
    rw [unitsAt_succ]
    rcases Nat.lt_succ_iff_lt_or_eq.1 h with h | rfl
    · have := ih h; omega
    · omega

@[simp] theorem same_refl (d : Double) : same d d = true := by simp [same]

end Double

end EntityQuery
