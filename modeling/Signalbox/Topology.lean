import Signalbox.Route

/-! The declared track: segments, signals, points and the sections with their entry signals. -/
namespace Signalbox

/-- A part of the network and the signals that can admit traffic into it. -/
structure NetworkSection where
  name : String
  segments : List SegmentId
  entry : List SignalId
deriving DecidableEq, Repr

structure Topology where
  segments : List SegmentId
  signals : List (SignalId × SignalKind)
  points : List PointId
  sections : List NetworkSection
deriving DecidableEq, Repr

namespace Topology

def empty : Topology := ⟨[], [], [], []⟩

def isSegment (t : Topology) (id : SegmentId) : Bool := t.segments.contains id

/-- The kind of a signal. The last declaration of a name counts. -/
def kind? (t : Topology) (id : SignalId) : Option SignalKind :=
  (t.signals.reverse.find? (·.1 == id)).map (·.2)

def isSignal (t : Topology) (id : SignalId) : Bool := t.signals.any (·.1 == id)

theorem isSome_kind? (t : Topology) (s : SignalId) : (t.kind? s).isSome = t.isSignal s := by
  unfold kind? isSignal
  rw [Option.isSome_map, Bool.eq_iff_iff, List.find?_isSome, List.any_eq_true]
  simp

def isPoint (t : Topology) (id : PointId) : Bool := t.points.contains id

/-- The section that encloses a segment: the last one that lists it. -/
def section? (t : Topology) (segment : SegmentId) : Option NetworkSection :=
  t.sections.reverse.find? (·.segments.contains segment)

/-- The signals that gate entry into the section around a segment, or nothing when no section
lists the segment. -/
def entrySignals? (t : Topology) (segment : SegmentId) : Option (List SignalId) :=
  (t.section? segment).map (·.entry)

end Topology

structure Table where
  topology : Topology
  routes : List Route
deriving DecidableEq

end Signalbox
