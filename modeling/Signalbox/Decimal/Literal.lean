import Signalbox.Decimal.Binary64

/-!
Decimal literals: digits with at most one point among them, at least one digit, and an
optional exponent after `e` or `E`. There are no signs.
-/
namespace Signalbox

/-- The parts of a literal `whole.fraction e exponent`. -/
structure DecimalLiteral where
  whole : List Char
  fraction : List Char
  exponent : Nat

namespace DecimalLiteral

def natOfDigits (digits : List Char) : Nat :=
  digits.foldl (fun n c => 10 * n + (c.toNat - '0'.toNat)) 0

def exponent? : List Char → Option Nat
  | [] => some 0
  | c :: digits =>
    if (c = 'e' || c = 'E') && !digits.isEmpty && digits.all Char.isDigit then
      some (natOfDigits digits)
    else none

def splitFraction : List Char → List Char × List Char
  | '.' :: rest => (rest.takeWhile Char.isDigit, rest.dropWhile Char.isDigit)
  | rest => ([], rest)

def ofChars? (cs : List Char) : Option DecimalLiteral :=
  let whole := cs.takeWhile Char.isDigit
  let (fraction, rest) := splitFraction (cs.dropWhile Char.isDigit)
  if whole.isEmpty && fraction.isEmpty then none
  else (exponent? rest).map fun e => ⟨whole, fraction, e⟩

/-- The number nearest to the value of the literal. An exponent so large that every nonzero
literal overflows is answered before any power is formed. -/
def value (x : DecimalLiteral) : Binary64 :=
  let digits := natOfDigits (x.whole ++ x.fraction)
  if digits = 0 then .zero
  else if x.fraction.length + 310 ≤ x.exponent then .infinity
  else .ofRatio (digits * Nat.pow 10 x.exponent) (Nat.pow 10 x.fraction.length)

end DecimalLiteral

def Binary64.ofChars? (cs : List Char) : Option Binary64 :=
  (DecimalLiteral.ofChars? cs).map DecimalLiteral.value

end Signalbox
