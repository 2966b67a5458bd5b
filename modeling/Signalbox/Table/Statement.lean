import Signalbox.Table.TokenReader
import Signalbox.Topology

/-!
The statements of a table text:

    segments [a, b]      signals [s, t]      shunting [u]      points [p]
    section x { segments [b] entry [t] }
    route r { source s destination t orientation clockwise length 120.0
              path [a, u, b] sections [x] points [p normal]
              signals [s, u, t] conflicts [q] }

The clauses `sections`, `points` and `conflicts` of a
route may be left out.
-/
namespace Signalbox.Table

/-- A route as written, with the path elements not yet told apart. -/
structure RouteDeclaration extends RouteTerms where
  path : List String
deriving DecidableEq

inductive Statement where
  | segments (names : List SegmentId)
  | signals (names : List SignalId) (kind : SignalKind)
  | points (names : List PointId)
  | networkSection (value : NetworkSection)
  | route (value : RouteDeclaration)
deriving DecidableEq

namespace Statement

open TokenReader

def segmentsReader : TokenReader Statement := do
  keyword "segments"
  return .segments (← listOf word)

def signalsReader : TokenReader Statement := do
  keyword "signals"
  return .signals (← listOf word) .main

def shuntingReader : TokenReader Statement := do
  keyword "shunting"
  return .signals (← listOf word) .shunting

def pointsReader : TokenReader Statement := do
  keyword "points"
  return .points (← listOf word)

def sectionReader : TokenReader Statement := do
  keyword "section"
  let name ← word
  token .braceOpen
  keyword "segments"
  let segments ← listOf word
  keyword "entry"
  let entry ← listOf word
  token .braceClose
  return .networkSection ⟨name, segments, entry⟩

def choice {α : Type} (w : String) (value : α) : TokenReader α := do
  keyword w
  return value

def orientationReader : TokenReader Orientation :=
  firstOf [choice "clockwise" .clockwise, choice "anticlockwise" .anticlockwise]

def positionReader : TokenReader PointPosition :=
  firstOf [choice "normal" .normal, choice "reverse" .reverse]

def pointReader : TokenReader (PointId × PointPosition) := do
  let point ← word
  let position ← positionReader
  return (point, position)

def optionalList {α : Type} (w : String) (r : TokenReader α) : TokenReader (List α) := do
  if ← tryToken (.word w) then listOf r else return []

def routeReader : TokenReader Statement := do
  keyword "route"
  let id ← routeId
  token .braceOpen
  keyword "source"
  let source ← word
  keyword "destination"
  let destination ← word
  keyword "orientation"
  let orientation ← orientationReader
  keyword "length"
  let length ← number
  keyword "path"
  let path ← listOf word
  let sections ← optionalList "sections" word
  let points ← optionalList "points" pointReader
  keyword "signals"
  let signals ← listOf word
  let conflicts ← optionalList "conflicts" routeId
  token .braceClose
  return .route {
    id, source, destination, orientation, length, sections, points, signals, conflicts, path }

def reader : TokenReader Statement :=
  firstOf [segmentsReader, signalsReader, shuntingReader, pointsReader, sectionReader,
    routeReader]

/-- Statements up to the end of the text, at most as many as the first argument says. -/
def readAll : Nat → TokenReader (List Statement)
  | 0 => fun c => (.error .outOfTokens, c)
  | n + 1 => fun c =>
    match c.rest with
    | [] => (.error .outOfTokens, c)
    | .endOfText :: _ => (.ok [], c)
    | _ => (do return (← reader) :: (← readAll n) : TokenReader (List Statement)) c

end Statement

/-- The statements of a text. Each of them takes at least one token. -/
def Statement.ofTokens (tokens : List Token) : Except ParseError (List Statement) :=
  (Statement.readAll tokens.length (Cursor.start tokens)).1

end Signalbox.Table
