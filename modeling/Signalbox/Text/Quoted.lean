import Signalbox.Text.Character

/-!
Texts between quotes. A quote, a backslash and every character that would not show are
written as escapes, all others as they are.
-/
namespace Signalbox.Text

def hexDigits (n : Nat) : List Char := Nat.toDigits 16 n

def escapeChar (c : Char) : List Char :=
  if c = '"' then ['\\', '"']
  else if c = '\\' then ['\\', '\\']
  else if c = '\n' then ['\\', 'n']
  else if c = '\r' then ['\\', 'r']
  else if c = '\t' then ['\\', 't']
  else if c = '\x00' then ['\\', '0']
  else if isPrintable c then [c]
  else ['\\', 'u', '\x7b'] ++ hexDigits c.toNat ++ ['\x7d']

def quoted (s : String) : String :=
  String.ofList ('"' :: s.toList.flatMap escapeChar ++ ['"'])

def bracketed (items : List String) : String :=
  "[" ++ String.intercalate ", " items ++ "]"

def quotedList (texts : List String) : String := bracketed (texts.map quoted)

end Signalbox.Text
