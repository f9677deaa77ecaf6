import EntityQuery.Double

/-!
# Shortest decimals

The shortest decimal of a double is the one with the fewest digits among those that round to it, and
of these the one nearest to it. For each number of digits only the two decimals next to the double
on the grid of that many digits can be it.

* `Scientific`: digits with a point after the first one and a power of ten;
* `Double.shortest`: the shortest decimal of a magnitude.
-/

namespace EntityQuery

/-- Digits with a point after the first one, times a power of ten. -/
structure Scientific where
  digits : List Nat
  exponent : Int
  deriving DecidableEq

namespace Double

/-- The number of decimal digits. -/
def width (n : Nat) : Nat := (Nat.toDigits 10 n).length

/-- The power of ten of a quotient's leading digit. -/
def leadingPower (num den : Nat) : Int :=
  if den ≤ num then (width (num / den) : Int) - 1
  else
    let below := width (den / num) - 1
    if num * Nat.pow 10 below = den then -(below : Int) else -(below : Int) - 1

/-- The decimals that round to a double lie between the middles to its neighbours, the middles
included if the double's rank is even. Here a decimal is `x / grid` for whole `x`, its double has
magnitude `num / den` with `den` the scale of the units, and `scale` turns units into parts of the
grid. -/
def roundsTo (rank x den scale : Nat) : Bool :=
  let low := (unitsAt (rank - 1) + unitsAt rank) * scale
  let high := (unitsAt rank + unitsAt (rank + 1)) * scale
  if rank % 2 == 0 then low ≤ 2 * x * den && 2 * x * den ≤ high
  else low < 2 * x * den && 2 * x * den < high

/-- The decimal on one grid that rounds to the double, the nearer of two such. -/
def onGrid? (rank den scale : Nat) : Option Nat :=
  let num := unitsAt rank * scale
  let x := num / den
  match roundsTo rank x den scale, roundsTo rank (x + 1) den scale with
  | true, true => some (divRound num den)
  | true, false => some x
  | false, true => some (x + 1)
  | false, false => none

/-- The decimal of so many digits that rounds to the double, with the power of ten of its last
digit. -/
def ofWidth? (rank : Nat) (lead : Int) (n : Nat) : Option (Nat × Int) :=
  let last := lead - (n : Int) + 1
  if last ≤ 0 then (onGrid? rank unitsPerOne (Nat.pow 10 last.natAbs)).map (·, last)
  else (onGrid? rank (unitsPerOne * Nat.pow 10 last.natAbs) 1).map (·, last)

/-- The digits of a number, without the zeros at the end. -/
def significantDigits (n : Nat) : List Nat :=
  (((Nat.toDigits 10 n).reverse.dropWhile (· == '0')).reverse).map fun c => c.toNat - '0'.toNat

/-- The shortest decimal of the magnitude. Seventeen digits always suffice. -/
def shortest (d : Double) : Scientific :=
  if d.isZero then ⟨[0], 0⟩
  else
    let lead := leadingPower d.units unitsPerOne
    match (List.range 17).findSome? fun n => ofWidth? d.rank lead (n + 1) with
    | some (x, last) => ⟨significantDigits x, last + width x - 1⟩
    | none => ⟨[0], 0⟩

end Double

end EntityQuery
