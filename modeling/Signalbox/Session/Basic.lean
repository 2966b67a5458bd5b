import Signalbox.Drive.Basic
import Signalbox.GrabTable
import Signalbox.Interlocking.Search

/-!
A site under control: the route set, the grabbed trains, and the drives in the order in which
they were started. Drives are the controller's own, in which case they follow the grabs, or
they stand outside its list.
-/
namespace Signalbox

/-- How long a drive waits between two passes is left open. -/
structure SessionConfig where
  algorithm : String
  maxTrains : Nat
deriving DecidableEq, Repr

def SessionConfig.standard : SessionConfig := ⟨"default", 32⟩

/-- That a drive cannot start for want of memory or threads is left out. -/
inductive SessionError where
  | notGrabbed (train : TrainId)
  | shuttingDown
  | grab (error : GrabError)
  | interlocking (error : InterlockingError)
deriving DecidableEq, Repr

def SessionError.message : SessionError → String
  | .notGrabbed train => "train " ++ train ++ " is not grabbed"
  | .shuttingDown => "controller is shutting down"
  | .grab e => e.message
  | .interlocking e => e.message

/-- Who started a drive. Outside drives are numbered in starting order. -/
inductive DriveOrigin where
  | controller
  | outside (number : Nat)
deriving DecidableEq, Repr

structure DriveEntry where
  origin : DriveOrigin
  drive : Drive
deriving DecidableEq, Repr

namespace DriveEntry

def isListed (e : DriveEntry) : Bool := e.origin = .controller

def isListedFor (train : TrainId) (e : DriveEntry) : Bool :=
  e.isListed && e.drive.train == train

end DriveEntry

structure Session where
  interlocking : Interlocking
  policy : ConflictPolicy
  config : SessionConfig
  grabs : GrabTable
  drives : List DriveEntry
  running : Bool
  /-- how many outside drives have been started -/
  outsideCount : Nat

namespace Session

def start (reg : Registry) (config : SessionConfig) : Except SessionError Session :=
  match ConflictPolicy.ofName? config.algorithm with
  | none => .error (.interlocking (.invalid (.unknownAlgorithm config.algorithm)))
  | some policy => .ok {
      interlocking := .initial reg.topology
      policy
      config
      grabs := .empty config.maxTrains
      drives := []
      running := true
      outsideCount := 0 }

def log (s : Session) : List Event := s.interlocking.log

def record (s : Session) (e : Event) : Session :=
  { s with interlocking := s.interlocking.record e }

def interlock {α : Type} (s : Session) (f : Interlocking → Interlocking × α) : Session × α :=
  let (il, a) := f s.interlocking
  ({ s with interlocking := il }, a)

def onTrack (s : Session) (f : Track → Track) : Session :=
  { s with interlocking := { s.interlocking with track := f s.interlocking.track } }

/-! ### The track -/

def place (s : Session) (train : TrainId) (segments : List SegmentId) : Session :=
  (s.onTrack (·.place train segments)).record (.position train segments)

def removeTrain (s : Session) (train : TrainId) : Session :=
  (s.onTrack (·.remove train)).record (.position train [])

def mark (s : Session) (segment : SegmentId) (occupied : Bool) : Session :=
  (s.onTrack (·.mark segment occupied)).record (.occupied segment occupied)

def carriedOut : Option TrackFault → Except TrackFault Unit
  | none => .ok ()
  | some f => .error f

def setAspect (s : Session) (signal : SignalId) (a : Aspect) :
    Session × Except TrackFault Unit :=
  let (s, fault) := s.interlock (·.commandSignal signal a)
  (s, carriedOut fault)

def setPoint (s : Session) (point : PointId) (p : PointPosition) :
    Session × Except TrackFault Unit :=
  let (s, fault) := s.interlock (·.commandPoint point p)
  (s, carriedOut fault)

/-! ### Trains and routes -/

def requireRunning (s : Session) : Except SessionError Unit :=
  if s.running then .ok () else .error .shuttingDown

def requireGrabbed (s : Session) (train : TrainId) : Except SessionError Unit :=
  if s.grabs.isGrabbed train then .ok () else .error (.notGrabbed train)

def grabTrain (s : Session) (train : TrainId) : Session × Except SessionError Slot :=
  match s.requireRunning with
  | .error e => (s, .error e)
  | .ok () =>
    match s.grabs.grab train with
    | (_, .error e) => (s, .error (.grab e))
    | (grabs, .ok slot) => ({ s with grabs }.record (.grab train true), .ok slot)

/-- Cancels the controller's drives of a train. They end at their next pass. -/
def cancelDrives (s : Session) (train : TrainId) : Session :=
  { s with drives := s.drives.map fun e =>
      if e.isListedFor train then { e with drive := e.drive.cancel } else e }

/-- Frees a slot and cancels the drives of the train that held it. -/
def ungrab (s : Session) (slot : Slot) : Session × Option TrainId :=
  match s.grabs.release slot with
  | (_, none) => (s, none)
  | (grabs, some train) =>
    (({ s with grabs }.cancelDrives train).record (.grab train false), some train)

def grantRoute (s : Session) (reg : Registry) (train : TrainId) (route : RouteId) :
    Session × Except SessionError Grant :=
  match s.requireRunning with
  | .error e => (s, .error e)
  | .ok () =>
    let (s, result) := s.interlock (·.grantRoute reg s.policy train route)
    (s, result.mapError .interlocking)

def requestRoute (s : Session) (reg : Registry) (r : RouteRequest) :
    Session × Except SessionError RequestStatus :=
  match s.requireRunning.bind fun _ => s.requireGrabbed r.train with
  | .error e => (s, .error e)
  | .ok () =>
    let (s, result) := s.interlock (·.requestRoute reg s.policy r)
    (s, result.mapError .interlocking)

def releaseRoute (s : Session) (reg : Registry) (route : RouteId) :
    Session × Except SessionError Unit :=
  let (s, result) := s.interlock (·.releaseRoute reg route)
  (s, result.mapError .interlocking)

def setAlgorithm (s : Session) (name : String) : Session × Except InterlockingError Unit :=
  match ConflictPolicy.ofName? name with
  | none => (s, .error (.invalid (.unknownAlgorithm name)))
  | some policy => ({ s with policy }, .ok ())

end Session

end Signalbox
