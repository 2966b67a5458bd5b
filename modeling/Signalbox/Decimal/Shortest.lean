import Signalbox.Decimal.Binary64

/-!
The fewest decimal digits that read back as a given number, and of those the nearest to it.
All quantities are whole multiples of `1 / (2 ^ 1077 * 10 ^ 400)`, which divides every finite
number, the ends of its rounding interval and the points of every decimal grid in use.
-/
namespace Signalbox

/-- The number `0.d₁d₂… * 10 ^ point`. -/
structure DecimalDigits where
  digits : List Char
  point : Int
deriving DecidableEq

/-- The digits of a place on a grid, which is given with the exponent of the step. Zeros at the
end say nothing. -/
def DecimalDigits.onGrid (found : Nat × Nat) : DecimalDigits :=
  let digits := Nat.toDigits 10 found.1
  ⟨(digits.reverse.dropWhile (· = '0')).reverse, (digits.length + found.2 : Nat) - (400 : Int)⟩

namespace Binary64

def inUnits (x : Binary64) : Nat := 4 * x.significand * Nat.pow 2 x.scale * Nat.pow 10 400

/-- The least and the greatest real that round to the number, in the common unit. Below a
power of two the neighbour is only half as far. -/
def interval (x : Binary64) : Nat × Nat :=
  let below := if x.significand = Nat.pow 2 52 ∧ 1 < x.scale then 1 else 2
  ((4 * x.significand - below) * Nat.pow 2 x.scale * Nat.pow 10 400,
    (4 * x.significand + 2) * Nat.pow 2 x.scale * Nat.pow 10 400)

/-- Whether a real, in the common unit, rounds to the number. The ends of the interval do so
exactly when the significand is even. -/
def readsBack (x : Binary64) (r : Nat) : Bool :=
  let (low, high) := x.interval
  if x.significand % 2 = 0 then low ≤ r && r ≤ high else low < r && r < high

/-- The point of the grid of step `10 ^ j` that reads back as the number, if there is one: of
the two neighbours the nearer, and the upper one on a tie. -/
def nearestOnGrid? (x : Binary64) (j : Nat) : Option Nat :=
  let step := Nat.pow 10 j * Nat.pow 2 1077
  let d := x.inUnits / step
  let lower := x.readsBack (d * step)
  let upper := x.readsBack ((d + 1) * step)
  let nearUpper := (d + 1) * step - x.inUnits ≤ x.inUnits - d * step
  if upper && (!lower || nearUpper) then some (d + 1)
  else if lower then some d
  else none

def shortestFrom (x : Binary64) : Nat → Nat × Nat
  | 0 => (x.inUnits / Nat.pow 2 1077, 0)
  | j + 1 =>
    match x.nearestOnGrid? (j + 1) with
    | some d => (d, j + 1)
    | none => shortestFrom x j

def topGrid (x : Binary64) : Nat := (Nat.toDigits 10 (x.inUnits / Nat.pow 2 1077)).length - 1

def shortest (x : Binary64) : DecimalDigits := .onGrid (x.shortestFrom x.topGrid)

end Binary64

end Signalbox
