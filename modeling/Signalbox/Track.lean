import Signalbox.Topology

/-!
The track as reported by its signals, points and detectors. A segment is occupied when it has
been marked so or when a train stands on it. Jammed signals and points refuse commands, and a
signal may stop reporting its aspect.
-/
namespace Signalbox

inductive TrackFault where
  | unknownSignal (id : SignalId)
  | unknownPoint (id : PointId)
  | jammedSignal (id : SignalId)
  | jammedPoint (id : PointId)
deriving DecidableEq, Repr

def TrackFault.message : TrackFault → String
  | .unknownSignal id => "unknown signal \"" ++ id ++ "\""
  | .unknownPoint id => "unknown point \"" ++ id ++ "\""
  | .jammedSignal id => id ++ " refused the command: signal jammed"
  | .jammedPoint id => id ++ " refused the command: point jammed"

structure Track where
  /-- the reported aspect, if the signal is there and reports one -/
  aspect : SignalId → Option Aspect
  point : PointId → Option PointPosition
  /-- segments marked as occupied -/
  marked : SegmentId → Bool
  /-- where the trains stand, each train once -/
  trains : List (TrainId × List SegmentId)
  jammed : String → Bool

namespace Track

/-- Every signal at stop, every point in the normal position, no train anywhere. -/
def initial (t : Topology) : Track where
  aspect s := if t.isSignal s then some .stop else none
  point p := if t.isPoint p then some .normal else none
  marked _ := false
  trains := []
  jammed _ := false

def isOccupied (t : Track) (segment : SegmentId) : Bool :=
  t.marked segment || t.trains.any (·.2.contains segment)

def position (t : Track) (train : TrainId) : List SegmentId :=
  (t.trains.lookup train).getD []

def remove (t : Track) (train : TrainId) : Track :=
  { t with trains := t.trains.filter (·.1 != train) }

def place (t : Track) (train : TrainId) (segments : List SegmentId) : Track :=
  { t with trains := (train, segments) :: (t.remove train).trains }

def mark (t : Track) (segment : SegmentId) (occupied : Bool) : Track :=
  { t with marked := fun s => if s = segment then occupied else t.marked s }

def jam (t : Track) (id : String) : Track :=
  { t with jammed := fun s => s = id || t.jammed s }

/-- Forgets a signal, which then neither reports an aspect nor takes commands. -/
def lose (t : Track) (signal : SignalId) : Track :=
  { t with aspect := fun s => if s = signal then none else t.aspect s }

def setAspect (t : Track) (signal : SignalId) (a : Aspect) : Except TrackFault Track :=
  if t.jammed signal then .error (.jammedSignal signal)
  else if (t.aspect signal).isNone then .error (.unknownSignal signal)
  else .ok { t with aspect := fun s => if s = signal then some a else t.aspect s }

def setPoint (t : Track) (point : PointId) (p : PointPosition) : Except TrackFault Track :=
  if t.jammed point then .error (.jammedPoint point)
  else if (t.point point).isNone then .error (.unknownPoint point)
  else .ok { t with point := fun q => if q = point then some p else t.point q }

/-! What a command leaves of the track, and when it is carried out. -/

theorem setAspect_eq_ok_iff {t t' : Track} {signal : SignalId} {a : Aspect} :
    t.setAspect signal a = .ok t' ↔
      t.jammed signal = false ∧ (t.aspect signal).isSome ∧
        t' = { t with aspect := fun s => if s = signal then some a else t.aspect s } := by
  unfold setAspect
  cases hj : t.jammed signal <;> cases ha : t.aspect signal <;> simp [eq_comm]

theorem setPoint_eq_ok_iff {t t' : Track} {point : PointId} {p : PointPosition} :
    t.setPoint point p = .ok t' ↔
      t.jammed point = false ∧ (t.point point).isSome ∧
        t' = { t with point := fun q => if q = point then some p else t.point q } := by
  unfold setPoint
  cases hj : t.jammed point <;> cases hp : t.point point <;> simp [eq_comm]

@[simp] theorem position_place (t : Track) (train : TrainId) (segments : List SegmentId) :
    (t.place train segments).position train = segments := by
  simp [position, place]

end Track

end Signalbox
