import Signalbox.Event
import Signalbox.Registry
import Signalbox.Track

/-!
The route set of a site: the track, which train holds which route, and the history of what
happened. Commands to signals and points are recorded when they are carried out, and only then.
-/
namespace Signalbox

structure Interlocking where
  track : Track
  holder : RouteIndex → Option TrainId
  /-- what has happened, oldest first -/
  log : List Event

namespace Interlocking

def initial (topology : Topology) : Interlocking := ⟨.initial topology, fun _ => none, []⟩

def record (il : Interlocking) (e : Event) : Interlocking := { il with log := il.log ++ [e] }

def setHolder (il : Interlocking) (i : RouteIndex) (train : Option TrainId) : Interlocking :=
  { il with holder := fun j => if j = i then train else il.holder j }

@[simp] theorem log_record (il : Interlocking) (e : Event) :
    (il.record e).log = il.log ++ [e] := rfl

@[simp] theorem track_record (il : Interlocking) (e : Event) : (il.record e).track = il.track :=
  rfl

@[simp] theorem holder_record (il : Interlocking) (e : Event) :
    (il.record e).holder = il.holder := rfl

@[simp] theorem holder_setHolder_self (il : Interlocking) (i : RouteIndex)
    (train : Option TrainId) : (il.setHolder i train).holder i = train := by
  simp [setHolder]

/-- Commands a signal. Only a command that is carried out is recorded. -/
def commandSignal (il : Interlocking) (s : SignalId) (a : Aspect) :
    Interlocking × Option TrackFault :=
  match il.track.setAspect s a with
  | .ok track => ({ il with track }.record (.signal s a), none)
  | .error f => (il, some f)

def commandPoint (il : Interlocking) (p : PointId) (position : PointPosition) :
    Interlocking × Option TrackFault :=
  match il.track.setPoint p position with
  | .ok track => ({ il with track }.record (.point p position), none)
  | .error f => (il, some f)

@[simp] theorem holder_commandSignal (il : Interlocking) (s : SignalId) (a : Aspect) :
    (il.commandSignal s a).1.holder = il.holder := by
  unfold commandSignal
  split <;> rfl

@[simp] theorem holder_commandPoint (il : Interlocking) (p : PointId)
    (position : PointPosition) : (il.commandPoint p position).1.holder = il.holder := by
  unfold commandPoint
  split <;> rfl

/-- Gives commands in order, each whether or not the ones before it failed, and collects the
faults. -/
def commandAll {α : Type} (command : Interlocking → α → Interlocking × Option TrackFault)
    (il : Interlocking) : List α → Interlocking × List TrackFault
  | [] => (il, [])
  | a :: rest =>
    let (il, fault) := command il a
    let (il, faults) := commandAll command il rest
    (il, fault.toList ++ faults)

theorem commandAll_invariant {α β : Type}
    {command : Interlocking → α → Interlocking × Option TrackFault} (view : Interlocking → β)
    (h : ∀ il a, view (command il a).1 = view il) (il : Interlocking) (commands : List α) :
    view (commandAll command il commands).1 = view il := by
  induction commands generalizing il with
  | nil => rfl
  | cons a rest ih => rw [commandAll, ih, h]

def commandSignals (il : Interlocking) (commands : List (SignalId × Aspect)) :
    Interlocking × List TrackFault :=
  commandAll (fun il (s, a) => il.commandSignal s a) il commands

def commandPoints (il : Interlocking) (commands : List (PointId × PointPosition)) :
    Interlocking × List TrackFault :=
  commandAll (fun il (p, position) => il.commandPoint p position) il commands

@[simp] theorem holder_commandSignals (il : Interlocking)
    (commands : List (SignalId × Aspect)) : (il.commandSignals commands).1.holder = il.holder := by
  apply commandAll_invariant (·.holder)
  intro il c
  exact holder_commandSignal il c.1 c.2

@[simp] theorem holder_commandPoints (il : Interlocking)
    (commands : List (PointId × PointPosition)) :
    (il.commandPoints commands).1.holder = il.holder := by
  apply commandAll_invariant (·.holder)
  intro il c
  exact holder_commandPoint il c.1 c.2

end Interlocking

end Signalbox
