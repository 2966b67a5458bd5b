import Signalbox.Text.Alphabetic
import Signalbox.Text.DecimalDigit
import Signalbox.Text.Extending
import Signalbox.Text.Numeral
import Signalbox.Text.Unprintable
import Signalbox.Text.WordCharacter

/-!
The classes of characters that names, numbers and blanks are made of. Letters and numerals, of
which tables are written, and what shows in a quoted text follow version 17 of the Unicode
standard. Word characters and decimal digits, of which scenarios are written, follow version 16.
-/
namespace Signalbox.Text

/-- The code points with the property White_Space. -/
def blankRanges : List CodeRange := [
  (0x9, 0xD), (0x20, 0x20), (0x85, 0x85), (0xA0, 0xA0), (0x1680, 0x1680), (0x2000, 0x200A),
  (0x2028, 0x2029), (0x202F, 0x202F), (0x205F, 0x205F), (0x3000, 0x3000)]

def isAlphabetic (c : Char) : Bool := inRanges alphabeticRanges c.toNat

def isNumeral (c : Char) : Bool := inRanges numeralRanges c.toNat

def isDecimalDigit (c : Char) : Bool := inRanges decimalDigitRanges c.toNat

def isBlank (c : Char) : Bool := inRanges blankRanges c.toNat

def isWordChar (c : Char) : Bool := inRanges wordRanges c.toNat

/-- Characters that stand for themselves in a quoted text. -/
def isPrintable (c : Char) : Bool :=
  !inRanges unprintableRanges c.toNat && !inRanges extendingRanges c.toNat

end Signalbox.Text
