import Signalbox.Text.Character

/-! Lines of a text and words of a line. -/
namespace Signalbox.Text

def chomp (line : List Char) : List Char :=
  if line.getLast? = some '\r' then line.dropLast else line

/-- The lines of a text. A line ends at a line feed, with or without a carriage return before
it, and what follows the last line feed is a line of its own. -/
def lines (text : List Char) : List (List Char) :=
  let parts := text.splitOn '\n'
  parts.dropLast.map chomp ++ parts.getLast?.toList

def consWord (w : List Char) (ws : List (List Char)) : List (List Char) :=
  if w.isEmpty then ws else w :: ws

def leadingWord : List Char → List Char × List (List Char)
  | [] => ([], [])
  | c :: cs =>
    let (w, ws) := leadingWord cs
    if isBlank c then ([], consWord w ws) else (c :: w, ws)

def words (line : List Char) : List (List Char) :=
  let (w, ws) := leadingWord line
  consWord w ws

end Signalbox.Text
