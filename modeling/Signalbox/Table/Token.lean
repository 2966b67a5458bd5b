import Signalbox.Decimal.Style
import Signalbox.Text.Quoted

/-! The tokens of a table text. -/
namespace Signalbox.Table

inductive Token where
  | braceOpen
  | braceClose
  | listOpen
  | listClose
  | separator
  | number (value : Binary64)
  | word (text : String)
  | endOfText
deriving DecidableEq

def Token.describe : Token → String
  | .braceOpen => "BraceOpen"
  | .braceClose => "BraceClose"
  | .listOpen => "ListOpen"
  | .listClose => "ListClose"
  | .separator => "ListSep"
  | .number x => "Number(" ++ NumberStyle.listing.render x ++ ")"
  | .word s => "Identifier(" ++ Text.quoted s ++ ")"
  | .endOfText => "EOF"

end Signalbox.Table
