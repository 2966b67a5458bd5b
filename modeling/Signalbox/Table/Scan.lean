import Signalbox.Decimal.Literal
import Signalbox.Table.Token

/-!
Cutting a table text into tokens, one character at a time. A number or a word is the longest
run of its characters, a comment reaches to the end of its line, and spaces, tabs and line
ends only separate. What a text leaves behind at a line end is the line count alone, so a text
can be cut at any line end.
-/
namespace Signalbox.Table

open Text

inductive ScanError where
  | unexpectedChar (line : Nat) (c : Char)
  | malformedNumber (line : Nat) (text : String)
deriving DecidableEq, Repr

def ScanError.message : ScanError → String
  | .unexpectedChar line c =>
    "unexpected character \"" ++ c.toString ++ "\" on line " ++ toString line
  | .malformedNumber line text =>
    "malformed number \"" ++ text ++ "\" on line " ++ toString line

def isNumberChar (c : Char) : Bool := isNumeral c || c = 'e' || c = 'E' || c = '.'

def isWordStart (c : Char) : Bool := isAlphabetic c || c = '_'

def isWordPart (c : Char) : Bool := c = '_' || isAlphabetic c || isNumeral c

/-- What the characters just read belong to. Runs are kept last character first. -/
inductive Pending where
  | between
  | comment
  | number (run : List Char)
  | word (run : List Char)
deriving DecidableEq, Repr

/-- The state between two characters: the current line, counted from one, the unfinished run
and the finished tokens, the last one first. -/
structure Scan where
  line : Nat
  pending : Pending
  tokens : List Token

namespace Scan

def initial : Scan := ⟨1, .between, []⟩

def push (s : Scan) (t : Token) : Scan := { s with pending := .between, tokens := t :: s.tokens }

def flush (s : Scan) : Except ScanError Scan :=
  match s.pending with
  | .between => .ok s
  | .comment => .ok { s with pending := .between }
  | .word run => .ok (s.push (.word (String.ofList run.reverse)))
  | .number run =>
    match Binary64.ofChars? run.reverse with
    | some x => .ok (s.push (.number x))
    | none => .error (.malformedNumber s.line (String.ofList run.reverse))

def start (s : Scan) (c : Char) : Except ScanError Scan :=
  if isNumeral c then .ok { s with pending := .number [c] }
  else if isWordStart c then .ok { s with pending := .word [c] }
  else if c = '#' then .ok { s with pending := .comment }
  else if c = '[' then .ok (s.push .listOpen)
  else if c = ']' then .ok (s.push .listClose)
  else if c = ',' then .ok (s.push .separator)
  else if c = '\x7b' then .ok (s.push .braceOpen)
  else if c = '\x7d' then .ok (s.push .braceClose)
  else if c = ' ' || c = '\r' || c = '\t' then .ok s
  else if c = '\n' then .ok { s with line := s.line + 1 }
  else .error (.unexpectedChar s.line c)

def step (s : Scan) (c : Char) : Except ScanError Scan :=
  match s.pending with
  | .between => s.start c
  | .comment =>
    if c = '\n' then .ok { s with line := s.line + 1, pending := .between } else .ok s
  | .number run =>
    if isNumberChar c then .ok { s with pending := .number (c :: run) }
    else s.flush.bind (·.start c)
  | .word run =>
    if isWordPart c then .ok { s with pending := .word (c :: run) }
    else s.flush.bind (·.start c)

def run (s : Scan) (cs : List Char) : Except ScanError Scan := cs.foldlM step s

@[simp] theorem run_nil (s : Scan) : s.run [] = .ok s := rfl

theorem run_append (s : Scan) (cs ds : List Char) :
    s.run (cs ++ ds) = (s.run cs).bind (·.run ds) := by
  unfold run
  rw [List.foldlM_append]
  rfl

end Scan

/-- The tokens of a text, with the end of the text as the last one. -/
def Token.scan (cs : List Char) : Except ScanError (List Token) := do
  let s ← Scan.initial.run cs
  let s ← s.flush
  return (Token.endOfText :: s.tokens).reverse

end Signalbox.Table
