import Signalbox.Registry

/-!
How far a train has come along its route. Its position is the furthest place on the path at
which it has been reported, and the signals up to there have been passed.
-/
namespace Signalbox

inductive AbortReason where
  | unknownRoute (id : RouteId)
  | tooFewSignals (id : RouteId)
  | notGranted (id : RouteId)
  | cancelled
deriving DecidableEq, Repr

def AbortReason.message : AbortReason → String
  | .unknownRoute id => "unknown route \"" ++ id ++ "\""
  | .tooFewSignals id => "route " ++ id ++ " has fewer than two signals"
  | .notGranted id => "route " ++ id ++ " is not granted to the train"
  | .cancelled => "cancelled"

/-- A route signal, its place on the path, and whether it has been set to stop. -/
structure SignalRecord where
  signal : SignalId
  pathIndex : Nat
  stopped : Bool
deriving DecidableEq, Repr

structure Progression where
  records : List SignalRecord
  /-- the places of the segments that tell the position, in path order -/
  places : List (SegmentId × Nat)
  position : Option Nat
deriving DecidableEq, Repr

namespace Progression

def unmaskedPlaces (path : List PathElement) (mask : List Bool) : List (SegmentId × Nat) :=
  path.zipIdx.filterMap fun (e, i) =>
    if mask[i]?.getD false then none else e.segment?.map (·, i)

/-- The start of a route. The mask tells the path elements that never move the train, and a
signal beside the path counts as standing before its first element. -/
def start (r : Route) (mask : List Bool) : Except AbortReason Progression :=
  if r.signals.length < 2 then .error (.tooFewSignals r.id)
  else .ok {
    records := r.signals.map fun s => ⟨s, (r.pathIndex? s).getD 0, false⟩
    places := unmaskedPlaces r.path mask
    position := none }

def place? (p : Progression) (segment : SegmentId) : Option Nat :=
  (p.places.reverse.find? (·.1 == segment)).map (·.2)

def positionOf (p : Progression) (reported : List SegmentId) : Option Nat :=
  (reported.filterMap p.place?).max?

/-- Moves the train to the furthest reported place, never backwards. -/
def moved (p : Progression) (reported : List SegmentId) : Progression :=
  match p.positionOf reported with
  | none => p
  | some i => { p with position := some (p.position.elim i (max · i)) }

def eligible (p : Progression) : List SignalRecord := p.records.dropLast

def due (p : Progression) : List SignalId :=
  match p.position with
  | none => []
  | some i => (p.eligible.filter fun r => !r.stopped && r.pathIndex ≤ i).map (·.signal)

def advance (p : Progression) (reported : List SegmentId) : Progression × List SignalId :=
  let p := p.moved reported
  (p, p.due)

def markStopped (p : Progression) (signal : SignalId) : Progression :=
  { p with records := p.records.map fun r =>
      if r.signal = signal then { r with stopped := true } else r }

def stopped (p : Progression) : List SignalId :=
  (p.records.filter (·.stopped)).map (·.signal)

def isComplete (p : Progression) : Bool := p.eligible.all (·.stopped)

end Progression

end Signalbox
