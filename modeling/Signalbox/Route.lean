import Signalbox.Decimal.Binary64

/-! Names, signal aspects, point positions, and the routes laid over the track. -/
namespace Signalbox

abbrev RouteId := String
abbrev TrainId := String
abbrev SignalId := String
abbrev SegmentId := String
abbrev PointId := String

inductive Aspect where
  | stop
  | go
  | caution
  | shunt
deriving DecidableEq, Repr

namespace Aspect

def isPermissive : Aspect → Bool
  | .go | .shunt => true
  | .stop | .caution => false

def name : Aspect → String
  | .stop => "stop"
  | .go => "go"
  | .caution => "caution"
  | .shunt => "shunt"

def ofName? (s : String) : Option Aspect :=
  if s = "stop" then some .stop
  else if s = "go" then some .go
  else if s = "caution" then some .caution
  else if s = "shunt" then some .shunt
  else none

@[simp] theorem ofName?_name (a : Aspect) : ofName? a.name = some a := by
  cases a <;> decide

end Aspect

inductive SignalKind where
  | main
  | shunting
deriving DecidableEq, Repr

def SignalKind.proceedAspect : SignalKind → Aspect
  | .main => .go
  | .shunting => .shunt

def SignalKind.name : SignalKind → String
  | .main => "main"
  | .shunting => "shunting"

inductive PointPosition where
  | normal
  | reverse
deriving DecidableEq, Repr

def PointPosition.name : PointPosition → String
  | .normal => "normal"
  | .reverse => "reverse"

inductive Orientation where
  | clockwise
  | anticlockwise
deriving DecidableEq, Repr

def Orientation.name : Orientation → String
  | .clockwise => "clockwise"
  | .anticlockwise => "anticlockwise"

inductive PathElement where
  | segment (id : SegmentId)
  | signal (id : SignalId)
deriving DecidableEq, Repr

namespace PathElement

def segment? : PathElement → Option SegmentId
  | .segment s => some s
  | .signal _ => none

def signal? : PathElement → Option SignalId
  | .segment _ => none
  | .signal s => some s

end PathElement

/-- What a route fixes besides its path. -/
structure RouteTerms where
  id : RouteId
  source : SignalId
  destination : SignalId
  orientation : Orientation
  length : Binary64
  sections : List String
  points : List (PointId × PointPosition)
  signals : List SignalId
  conflicts : List RouteId
deriving DecidableEq

structure Route extends RouteTerms where
  path : List PathElement
deriving DecidableEq

namespace Route

def segments (r : Route) : List SegmentId := r.path.filterMap PathElement.segment?

def containsSegment (r : Route) (segment : SegmentId) : Bool :=
  r.path.contains (.segment segment)

/-- The segment on which a train stands when it has arrived at the destination. -/
def lastSegment? (r : Route) : Option SegmentId :=
  r.path.reverse.findSome? PathElement.segment?

/-- The place of a signal on the path. The first and the last signal of a route may stand
outside its path. -/
def pathIndex? (r : Route) (signal : SignalId) : Option Nat :=
  r.path.findIdx? (· == .signal signal)

/-- The signals that a train passes: all but the last of the list. -/
def passedSignals (r : Route) : List SignalId := r.signals.dropLast

/-- For each path element, whether it is a segment that the path holds more than once. -/
def repeatedMask (r : Route) : List Bool :=
  r.path.map fun e =>
    match e with
    | .segment _ => decide (1 < r.path.count e)
    | .signal _ => false

end Route

end Signalbox
