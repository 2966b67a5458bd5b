import Signalbox.Table.Scan
import Signalbox.Table.Statement

/-!
From statements to a table. Declarations may come in any order: the names in a route are
looked up when the whole text has been read.
-/
namespace Signalbox

namespace Topology

open Table

def declare (t : Topology) : Statement → Topology
  | .segments names => { t with segments := t.segments ++ names }
  | .signals names kind => { t with signals := t.signals ++ names.map (·, kind) }
  | .points names => { t with points := t.points ++ names }
  | .networkSection s => { t with sections := t.sections ++ [s] }
  | .route _ => t

def ofStatements (statements : List Statement) : Topology :=
  statements.foldl declare empty

/-- A path element: a declared segment, or else a declared signal. -/
def element? (t : Topology) (name : String) : Option PathElement :=
  if t.isSegment name then some (.segment name)
  else if t.isSignal name then some (.signal name)
  else none

end Topology

namespace Table

inductive LoadError where
  | scan (error : ScanError)
  | parse (error : ParseError)

def LoadError.message : LoadError → String
  | .scan e => e.message
  | .parse e => e.message

/-- The path with its elements told apart, or the first name that is neither. -/
def resolvePath (t : Topology) : List String → Except String (List PathElement)
  | [] => .ok []
  | name :: names =>
    match t.element? name with
    | none => .error name
    | some e => (resolvePath t names).map (e :: ·)

/-- The first name of a route that is not declared: along its path, then among its signals
with its source and destination, then among its points. -/
def resolveRoute (t : Topology) (r : RouteDeclaration) : Except ParseError Route :=
  match resolvePath t r.path with
  | .error name => .error (.unknownName name r.id)
  | .ok path =>
    match (r.signals ++ [r.source, r.destination]).find? (!t.isSignal ·) with
    | some name => .error (.unknownName name r.id)
    | none =>
      match (r.points.map (·.1)).find? (!t.isPoint ·) with
      | some name => .error (.unknownName name r.id)
      | none => .ok { r.toRouteTerms with path }

def routeDeclarations (statements : List Statement) : List RouteDeclaration :=
  statements.filterMap fun
    | .route r => some r
    | _ => none

def ofStatements (statements : List Statement) : Except ParseError Table := do
  let topology := Topology.ofStatements statements
  return ⟨topology, ← (routeDeclarations statements).mapM (resolveRoute topology)⟩

def ofTokens (tokens : List Token) : Except ParseError Table :=
  (Statement.ofTokens tokens).bind ofStatements

def ofChars (text : List Char) : Except LoadError Table :=
  match Token.scan text with
  | .error e => .error (.scan e)
  | .ok tokens => (ofTokens tokens).mapError .parse

end Table

end Signalbox
