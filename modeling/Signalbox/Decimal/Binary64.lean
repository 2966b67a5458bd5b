/-!
The data of the binary64 format: numbers with their signs, infinity, and what is not a number.
A datum is kept as its interchange code. The codes of what is read from a text have no sign, and
they ascend with the values.
-/
namespace Signalbox

/-- A binary64 datum, by its interchange code. -/
structure Binary64 where
  code : Nat
  code_lt : code < Nat.pow 2 64 := by decide
deriving DecidableEq

namespace Binary64

def zero : Binary64 := ⟨0, by decide⟩

def infinity : Binary64 := ⟨0x7FF0000000000000, by decide⟩

instance : Inhabited Binary64 := ⟨zero⟩

def isNegative (x : Binary64) : Bool := Nat.pow 2 63 ≤ x.code

def magnitude (x : Binary64) : Nat := x.code % Nat.pow 2 63

def isInfinite (x : Binary64) : Bool := x.magnitude == infinity.code

def isNaN (x : Binary64) : Bool := infinity.code < x.magnitude

/-- The binade: up to its sign, a finite number is `significand * 2 ^ scale / 2 ^ 1075`. The
numbers below the first normal one share the lowest scale. -/
def scale (x : Binary64) : Nat := max (x.magnitude / Nat.pow 2 52) 1

def significand (x : Binary64) : Nat :=
  if x.magnitude < Nat.pow 2 52 then x.magnitude else x.magnitude % Nat.pow 2 52 + Nat.pow 2 52

/-- The quotient rounded to the nearest whole number, a half to the even neighbour. -/
def roundRatio (num den : Nat) : Nat :=
  let q := num / den
  let r := num % den
  if 2 * r < den then q
  else if den < 2 * r then q + 1
  else q + q % 2

/-- The number nearest to `num / den`, a tie to the even significand. Beyond the largest
finite number stands infinity. -/
def ofRatio (num den : Nat) : Binary64 :=
  if num = 0 then zero
  else
    let n := num * Nat.pow 2 1075
    let s := max ((n / den).log2 - 52) 1
    let code := (s - 1) * Nat.pow 2 52 + roundRatio n (den * Nat.pow 2 s)
    ⟨min code 0x7FF0000000000000, Nat.lt_of_le_of_lt (Nat.min_le_right _ _) (by decide)⟩

/-- The value, when it is a whole number and not below zero. A zero may have a sign. -/
def toNat? (x : Binary64) : Option Nat :=
  let n := x.significand * Nat.pow 2 x.scale
  if x.isNaN || x.isInfinite || (x.isNegative && x.magnitude != 0) ||
    n % Nat.pow 2 1075 != 0 then none
  else some (n / Nat.pow 2 1075)

end Binary64

end Signalbox
