import Signalbox.Table.Load

/-!
The grammar of table texts, by its parse trees. A tree derives the tokens that it is flattened
to, and denotes a table once all names that its routes use are declared. Lists stand in brackets
with separators between their elements, and the clauses `sections`, `points` and `conflicts` of a
route may be left out.
-/
namespace Signalbox.Table

/-- A route id as written: a name, or a number that is whole and not below zero. -/
inductive RouteName where
  | name (text : String)
  | number (value : Binary64) (n : Nat) (whole : value.toNat? = some n)
deriving DecidableEq

namespace RouteName

def token : RouteName → Token
  | .name text => .word text
  | .number value _ _ => .number value

/-- Numbers beyond the range of 64 bits all stand for the greatest id of that range. -/
def id : RouteName → RouteId
  | .name text => text
  | .number _ n _ => toString (min n (Nat.pow 2 64 - 1))

end RouteName

section Lists

variable {α : Type} (flatten : α → List Token)

def flattenList (xs : List α) : List Token :=
  .listOpen :: ([Token.separator].intercalate (xs.map flatten) ++ [.listClose])

def flattenClause (w : String) : Option (List α) → List Token
  | none => []
  | some xs => .word w :: flattenList flatten xs

end Lists

def flattenName (name : String) : List Token := [.word name]

def flattenPoint (p : PointId × PointPosition) : List Token := [.word p.1, .word p.2.name]

def flattenRouteName (r : RouteName) : List Token := [r.token]

structure RouteTree where
  id : RouteName
  source : SignalId
  destination : SignalId
  orientation : Orientation
  length : Binary64
  path : List String
  sections : Option (List String)
  points : Option (List (PointId × PointPosition))
  signals : List SignalId
  conflicts : Option (List RouteName)
deriving DecidableEq

namespace RouteTree

def flatten (r : RouteTree) : List Token :=
  .word "route" :: r.id.token :: .braceOpen ::
  .word "source" :: .word r.source :: .word "destination" :: .word r.destination ::
  .word "orientation" :: .word r.orientation.name :: .word "length" :: .number r.length ::
  .word "path" :: (flattenList flattenName r.path ++
    (flattenClause flattenName "sections" r.sections ++
    (flattenClause flattenPoint "points" r.points ++
  .word "signals" :: (flattenList flattenName r.signals ++
    (flattenClause flattenRouteName "conflicts" r.conflicts ++ [.braceClose])))))

/-- The route before its path elements are told apart. -/
def declaration (r : RouteTree) : RouteDeclaration where
  id := r.id.id
  source := r.source
  destination := r.destination
  orientation := r.orientation
  length := r.length
  sections := r.sections.getD []
  points := r.points.getD []
  signals := r.signals
  conflicts := (r.conflicts.getD []).map RouteName.id
  path := r.path

structure Declared (t : Topology) (r : RouteTree) : Prop where
  path : ∀ name ∈ r.path, t.isSegment name = true ∨ t.isSignal name = true
  signals : ∀ s ∈ r.signals, t.isSignal s = true
  source : t.isSignal r.source = true
  destination : t.isSignal r.destination = true
  points : ∀ p ∈ r.points.getD [], t.isPoint p.1 = true

instance (t : Topology) (r : RouteTree) : Decidable (r.Declared t) :=
  decidable_of_iff
    ((∀ name ∈ r.path, t.isSegment name = true ∨ t.isSignal name = true) ∧
      (∀ s ∈ r.signals, t.isSignal s = true) ∧ t.isSignal r.source = true ∧
      t.isSignal r.destination = true ∧ ∀ p ∈ r.points.getD [], t.isPoint p.1 = true)
    ⟨fun ⟨path, signals, source, destination, points⟩ =>
      ⟨path, signals, source, destination, points⟩,
      fun h => ⟨h.path, h.signals, h.source, h.destination, h.points⟩⟩

/-- The route with its path in order. What is declared as a segment is one, and the rest are
signals. -/
def route (t : Topology) (r : RouteTree) : Route :=
  { r.declaration.toRouteTerms with
    path := r.path.map fun name => if t.isSegment name then .segment name else .signal name }

end RouteTree

inductive StatementTree where
  | segments (names : List SegmentId)
  | signals (names : List SignalId)
  | shunting (names : List SignalId)
  | points (names : List PointId)
  | networkSection (name : String) (covered : List SegmentId) (entry : List SignalId)
  | route (value : RouteTree)
deriving DecidableEq

namespace StatementTree

def flatten : StatementTree → List Token
  | .segments names => .word "segments" :: flattenList flattenName names
  | .signals names => .word "signals" :: flattenList flattenName names
  | .shunting names => .word "shunting" :: flattenList flattenName names
  | .points names => .word "points" :: flattenList flattenName names
  | .networkSection name covered entry =>
    .word "section" :: .word name :: .braceOpen :: .word "segments" ::
      (flattenList flattenName covered ++
        .word "entry" :: (flattenList flattenName entry ++ [.braceClose]))
  | .route value => value.flatten

def statement : StatementTree → Statement
  | .segments names => .segments names
  | .signals names => .signals names .main
  | .shunting names => .signals names .shunting
  | .points names => .points names
  | .networkSection name covered entry => .networkSection ⟨name, covered, entry⟩
  | .route value => .route value.declaration

def segmentNames : StatementTree → List SegmentId
  | .segments names => names
  | _ => []

def signalKinds : StatementTree → List (SignalId × SignalKind)
  | .signals names => names.map (·, .main)
  | .shunting names => names.map (·, .shunting)
  | _ => []

def pointNames : StatementTree → List PointId
  | .points names => names
  | _ => []

def section? : StatementTree → Option NetworkSection
  | .networkSection name covered entry => some ⟨name, covered, entry⟩
  | _ => none

def route? : StatementTree → Option RouteTree
  | .route value => some value
  | _ => none

end StatementTree

/-- The statements of a text, in the order of the text. -/
abbrev TableTree := List StatementTree

namespace TableTree

def flatten (tree : TableTree) : List Token := tree.flatMap StatementTree.flatten

def topology (tree : TableTree) : Topology where
  segments := tree.flatMap StatementTree.segmentNames
  signals := tree.flatMap StatementTree.signalKinds
  points := tree.flatMap StatementTree.pointNames
  sections := tree.filterMap StatementTree.section?

def routes (tree : TableTree) : List RouteTree := tree.filterMap StatementTree.route?

/-- Every name that a route uses is declared somewhere in the text. -/
def Declared (tree : TableTree) : Prop := ∀ r ∈ tree.routes, r.Declared tree.topology

instance (tree : TableTree) : Decidable tree.Declared :=
  inferInstanceAs (Decidable (∀ r ∈ tree.routes, r.Declared tree.topology))

def table (tree : TableTree) : Table :=
  ⟨tree.topology, tree.routes.map (RouteTree.route tree.topology)⟩

end TableTree

end Signalbox.Table
