import EntityQuery.Double
import EntityQuery.Text.Blank
import EntityQuery.Text.Integer

/-!
# Quantities in text

A quantity is a double, an infinity or the undefined number. Text writes one as an optional sign and
then `inf`, `infinity` or `nan` in any case, or digits with an optional point and an optional power
of ten; the digits may stand on one side of the point only. Digits are rounded to the nearest
double.
-/

namespace EntityQuery

/-- A double or what lies beyond the doubles. -/
inductive Quantity
  | finite (d : Double)
  | infinite (negative : Bool)
  | undefined
  deriving DecidableEq

namespace Quantity

/-- The quantity nearest to a whole number times a power of ten. Numbers of more than 310 places are
infinite and those that begin after the 330th decimal are zero, so no greater power is computed. -/
def ofDecimal (negative : Bool) (coefficient : Nat) (exponent : Int) : Quantity :=
  let magnitude := exponent + (Nat.toDigits 10 coefficient).length
  if coefficient = 0 ∨ magnitude < -330 then .finite { Double.zero with negative := negative }
  else if 310 < magnitude then .infinite negative
  else
    let rounded :=
      if 0 ≤ exponent then Double.round? negative (coefficient * Nat.pow 10 exponent.natAbs) 1
      else Double.round? negative coefficient (Nat.pow 10 exponent.natAbs)
    match rounded with
    | some d => .finite d
    | none => .infinite negative

/-- The power of ten after the digits: nothing, or `e` and an integer. -/
def exponent? : List Char → Option Int
  | [] => some 0
  | 'e' :: cs => Text.integer? cs
  | 'E' :: cs => Text.integer? cs
  | _ => none

/-- Digits with an optional point and an optional power of ten. -/
def decimal? (negative : Bool) (cs : List Char) : Option Quantity := do
  let whole := cs.takeWhile Char.isDigit
  let rest := cs.dropWhile Char.isDigit
  let (fraction, tail) := match rest with
    | '.' :: r => (r.takeWhile Char.isDigit, r.dropWhile Char.isDigit)
    | r => ([], r)
  let coefficient ← Text.natural? (whole ++ fraction)
  let exponent ← exponent? tail
  return ofDecimal negative coefficient (exponent - fraction.length)

/-- A quantity without its sign. -/
def magnitude? (negative : Bool) (cs : List Char) : Option Quantity :=
  let word := String.ofList (cs.map Char.toLower)
  if word == "inf" || word == "infinity" then some (.infinite negative)
  else if word == "nan" then some .undefined
  else decimal? negative cs

/-- The quantity that a text writes, blanks at its ends apart. -/
def ofText? (text : String) : Option Quantity :=
  match Text.trim text.toList with
  | '+' :: cs => magnitude? false cs
  | '-' :: cs => magnitude? true cs
  | cs => magnitude? false cs

end Quantity

end EntityQuery
