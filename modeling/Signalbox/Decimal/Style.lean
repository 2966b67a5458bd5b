import Signalbox.Decimal.Shortest

/-! How numbers are written out: by their shortest digits, in one of two styles. -/
namespace Signalbox

/-- The choices of a number format. `exponentFrom` and `exponentBelow` bound the place of the
point, counted from before the first digit, outside which an exponent is written. -/
structure NumberStyle where
  wholeTail : String
  exponentFrom : Option Int
  exponentBelow : Option Int

namespace NumberStyle

/-- Always positional, whole numbers without a point. -/
def plain : NumberStyle := ⟨"", none, none⟩

/-- Whole numbers end in `.0`, and an exponent is written from `1e16` on and below `1e-4`. -/
def listing : NumberStyle := ⟨".0", some 17, some (-3)⟩

def usesExponent (style : NumberStyle) (point : Int) : Bool :=
  style.exponentFrom.any (· ≤ point) || style.exponentBelow.any (point < ·)

def positional (style : NumberStyle) (x : DecimalDigits) : String :=
  if x.point ≤ 0 then
    "0." ++ String.ofList (List.replicate (-x.point).toNat '0' ++ x.digits)
  else
    let places := x.point.toNat
    if x.digits.length ≤ places then
      String.ofList (x.digits ++ List.replicate (places - x.digits.length) '0') ++
        style.wholeTail
    else
      String.ofList (x.digits.take places) ++ "." ++ String.ofList (x.digits.drop places)

def scientific (x : DecimalDigits) : String :=
  let rest := x.digits.drop 1
  String.ofList (x.digits.take 1) ++
    (if rest.isEmpty then "" else "." ++ String.ofList rest) ++
    "e" ++ toString (x.point - 1)

def renderMagnitude (style : NumberStyle) (x : Binary64) : String :=
  if x.isInfinite then "inf"
  else if x.magnitude = 0 then "0" ++ style.wholeTail
  else
    let digits := x.shortest
    if style.usesExponent digits.point then scientific digits
    else style.positional digits

def render (style : NumberStyle) (x : Binary64) : String :=
  if x.isNaN then "NaN"
  else (if x.isNegative then "-" else "") ++ style.renderMagnitude x

end NumberStyle

end Signalbox
