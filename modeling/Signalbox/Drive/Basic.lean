import Signalbox.Drive.Progression
import Signalbox.Interlocking.ById

/-!
A train driving along a granted route. A drive that has been launched does nothing until it
begins, and then moves only in passes. Each pass reads the train's position and sets the signals
it has passed to stop. In automatic mode the route is released at last, once its last segment is
occupied.
-/
namespace Signalbox

inductive DriveMode where
  /-- the route stays granted until it is released -/
  | manual
  /-- the route is released on arrival -/
  | automatic
deriving DecidableEq, Repr

def DriveMode.name : DriveMode → String
  | .manual => "manual"
  | .automatic => "automatic"

/-- How a drive ended. An aborted drive has released nothing. -/
inductive Outcome where
  | completed (stopped : List SignalId) (released : Bool) (faults : List TrackFault)
  | aborted (reason : AbortReason) (stopped : List SignalId) (faults : List TrackFault)
deriving DecidableEq, Repr

namespace Outcome

def state : Outcome → DriveState
  | .completed .. => .completed
  | .aborted .. => .aborted

def reason? : Outcome → Option AbortReason
  | .completed .. => none
  | .aborted reason .. => some reason

def stopped : Outcome → List SignalId
  | .completed stopped .. => stopped
  | .aborted _ stopped _ => stopped

def released : Outcome → Bool
  | .completed _ released _ => released
  | .aborted .. => false

def faults : Outcome → List TrackFault
  | .completed _ _ faults => faults
  | .aborted _ _ faults => faults

end Outcome

/-- What an unfinished drive remembers: the progress of its train, the signals that have
refused a command, and the faults, one for each such signal. -/
structure Progress where
  progression : Progression
  failing : List SignalId
  faults : List TrackFault
deriving DecidableEq, Repr

inductive DrivePhase where
  /-- launched, and not yet begun -/
  | initializing
  | progressing (progress : Progress)
  /-- all signals are at stop, and the train has not arrived -/
  | arriving (progress : Progress)
  | ended (outcome : Outcome)
deriving DecidableEq, Repr

structure Drive where
  train : TrainId
  route : RouteId
  mode : DriveMode
  cancelled : Bool
  phase : DrivePhase
deriving DecidableEq, Repr

namespace Drive

def outcome? (d : Drive) : Option Outcome :=
  match d.phase with
  | .ended o => some o
  | _ => none

def isFinished (d : Drive) : Bool := d.outcome?.isSome

def state (d : Drive) : DriveState :=
  match d.phase with
  | .initializing => .initializing
  | .progressing _ | .arriving _ => .progressing
  | .ended o => o.state

def cancel (d : Drive) : Drive := { d with cancelled := true }

def recordState (d : Drive) (il : Interlocking) (state : DriveState) : Interlocking :=
  il.record (.drive d.train d.route state)

def finish (d : Drive) (il : Interlocking) (o : Outcome) : Drive × Interlocking :=
  ({ d with phase := .ended o }, d.recordState il o.state)

def abort (d : Drive) (il : Interlocking) (reason : AbortReason) (p : Progress) :
    Drive × Interlocking :=
  d.finish il (.aborted reason p.progression.stopped p.faults)

def launch (train : TrainId) (route : RouteId) (mode : DriveMode) : Drive :=
  ⟨train, route, mode, false, .initializing⟩

/-- How a drive starts out on a route, unless it is unknown or has too few signals. -/
def outset (reg : Registry) (route : RouteId) : Except AbortReason Progress :=
  match reg.find? route with
  | none => .error (.unknownRoute route)
  | some r => (Progression.start r r.repeatedMask).map (⟨·, [], []⟩)

def begin (reg : Registry) (d : Drive) (il : Interlocking) : Drive × Interlocking :=
  match d.phase with
  | .initializing =>
    let il := d.recordState il .initializing
    match outset reg d.route with
    | .error reason => d.finish il (.aborted reason [] [])
    | .ok p => ({ d with phase := .progressing p }, d.recordState il .progressing)
  | _ => (d, il)

/-- Sets signals to stop. A signal that refuses is left for the next pass and is reported the
first time only. -/
def stopSignals (il : Interlocking) (p : Progress) : List SignalId → Interlocking × Progress
  | [] => (il, p)
  | s :: rest =>
    match il.commandSignal s .stop with
    | (il, none) =>
      stopSignals il { p with progression := p.progression.markStopped s } rest
    | (il, some f) =>
      if p.failing.contains s then stopSignals il p rest
      else stopSignals il { p with failing := s :: p.failing, faults := p.faults ++ [f] } rest

/-- Releases the route of an automatic drive, unless it has changed hands. -/
def releaseRoute (reg : Registry) (d : Drive) (il : Interlocking) (p : Progress) :
    Drive × Interlocking :=
  match il.releaseIfHeldBy reg d.route d.train with
  | (il, .ok true) => d.finish il (.completed p.progression.stopped true p.faults)
  | (il, .ok false) => d.abort il (.notGranted d.route) p
  | (il, .error (.track f)) =>
    d.finish il (.completed p.progression.stopped true (p.faults ++ [f]))
  | (il, .error _) => d.finish il (.completed p.progression.stopped false p.faults)

/-- Waits for the train at the end of its route. A path without segments has no place to wait
for. -/
def arrive (reg : Registry) (d : Drive) (il : Interlocking) (p : Progress) :
    Drive × Interlocking :=
  match (reg.find? d.route).bind Route.lastSegment? with
  | none => releaseRoute reg d il p
  | some last =>
    if !il.isHeldBy reg d.route d.train then d.abort il (.notGranted d.route) p
    else if il.track.isOccupied last then releaseRoute reg d il p
    else ({ d with phase := .arriving p }, il)

def proceed (reg : Registry) (d : Drive) (il : Interlocking) (p : Progress) :
    Drive × Interlocking :=
  if !p.progression.isComplete then ({ d with phase := .progressing p }, il)
  else
    match d.mode with
    | .manual => d.finish il (.completed p.progression.stopped false p.faults)
    | .automatic => arrive reg d il p

def watch (reg : Registry) (d : Drive) (il : Interlocking) : Drive × Interlocking :=
  match d.phase with
  | .initializing | .ended _ => (d, il)
  | .progressing p =>
    if d.cancelled then d.abort il .cancelled p
    else if !il.isHeldBy reg d.route d.train then d.abort il (.notGranted d.route) p
    else
      let (progression, due) := p.progression.advance (il.track.position d.train)
      let (il, p) := stopSignals il { p with progression } due
      proceed reg d il p
  | .arriving p =>
    if d.cancelled then d.abort il .cancelled p else arrive reg d il p

/-- A drive that has not begun does so in its first pass. -/
def pass (reg : Registry) (d : Drive) (il : Interlocking) : Drive × Interlocking :=
  let (d, il) := d.begin reg il
  d.watch reg il

end Drive

end Signalbox
