import Signalbox.Session.Drives

/-! Everything that can be done to a site, as commands. Each command is answered. -/
namespace Signalbox

inductive SessionCommand where
  | place (train : TrainId) (segments : List SegmentId)
  | removeTrain (train : TrainId)
  | mark (segment : SegmentId) (occupied : Bool)
  | setAspect (signal : SignalId) (aspect : Aspect)
  | setPoint (point : PointId) (position : PointPosition)
  | jam (id : String)
  | lose (signal : SignalId)
  | grab (train : TrainId)
  | ungrab (slot : Slot)
  | grant (train : TrainId) (route : RouteId)
  | request (request : RouteRequest)
  | release (route : RouteId)
  | drive (train : TrainId) (route : RouteId) (mode : DriveMode)
  | poll
  | listDrives
  /-- ends the drives of the train, once all drives have come to rest -/
  | await (train : TrainId)
  /-- closes, once all drives have come to rest -/
  | shutdown
  /-- a grant past the controller -/
  | directGrant (train : TrainId) (route : RouteId)
  /-- a request past the controller -/
  | directRequest (request : RouteRequest)
  | releaseIfHeldBy (route : RouteId) (train : TrainId)
  | releaseAll
  | setAlgorithm (name : String)
  | outsideDrive (train : TrainId) (route : RouteId) (mode : DriveMode)
  | cancelOutside (number : Nat)
  | endOutside (number : Nat)
deriving DecidableEq, Repr

inductive CommandError where
  | track (fault : TrackFault)
  | interlocking (error : InterlockingError)
  | session (error : SessionError)
deriving DecidableEq, Repr

def CommandError.message : CommandError → String
  | .track f => f.message
  | .interlocking e => e.message
  | .session e => e.message

inductive CommandReply where
  | done
  | slot (slot : Slot)
  | train (train : Option TrainId)
  | grant (grant : Grant)
  | status (status : RequestStatus)
  | released (released : Bool)
  | number (number : Nat)
  | drives (drives : List (TrainId × RouteId × DriveState))
  | outcomes (outcomes : List Outcome)
  | outcome (outcome : Option Outcome)
deriving DecidableEq, Repr

namespace Session

def answer {ε α : Type} (wrapError : ε → CommandError) (wrap : α → CommandReply) :
    Session × Except ε α → Session × Except CommandError CommandReply
  | (s, .ok a) => (s, .ok (wrap a))
  | (s, .error e) => (s, .error (wrapError e))

def perform (reg : Registry) (s : Session) :
    SessionCommand → Session × Except CommandError CommandReply
  | .place t segments => (s.place t segments, .ok .done)
  | .removeTrain t => (s.removeTrain t, .ok .done)
  | .mark segment occupied => (s.mark segment occupied, .ok .done)
  | .setAspect signal a => answer .track (fun _ => .done) (s.setAspect signal a)
  | .setPoint point p => answer .track (fun _ => .done) (s.setPoint point p)
  | .jam id => (s.onTrack (·.jam id), .ok .done)
  | .lose signal => (s.onTrack (·.lose signal), .ok .done)
  | .grab t => answer .session .slot (s.grabTrain t)
  | .ungrab slot =>
    let (s, train) := s.ungrab slot
    (s, .ok (.train train))
  | .grant t r => answer .session .grant (s.grantRoute reg t r)
  | .request r => answer .session .status (s.requestRoute reg r)
  | .release r => answer .session (fun _ => .done) (s.releaseRoute reg r)
  | .drive t r mode => answer .session (fun _ => .done) (s.startDrive reg t r mode)
  | .poll => (s.poll reg, .ok .done)
  | .listDrives =>
    let (s, drives) := s.activeDrives
    (s, .ok (.drives drives))
  | .await t =>
    let (s, outcomes) := s.awaitDrives reg t
    (s, .ok (.outcomes outcomes))
  | .shutdown => answer .session (fun _ => .done) (s.shutdown reg)
  | .directGrant t r =>
    answer .interlocking .grant (s.interlock (·.grantRoute reg s.policy t r))
  | .directRequest r =>
    answer .interlocking .status (s.interlock (·.requestRoute reg s.policy r))
  | .releaseIfHeldBy r t =>
    answer .interlocking .released (s.interlock (·.releaseIfHeldBy reg r t))
  | .releaseAll =>
    answer .interlocking (fun _ => .done) (s.interlock (·.releaseAll reg))
  | .setAlgorithm name => answer .interlocking (fun _ => .done) (s.setAlgorithm name)
  | .outsideDrive t r mode =>
    let (s, n) := s.startOutsideDrive reg t r mode
    (s, .ok (.number n))
  | .cancelOutside n => (s.cancelOutside n, .ok .done)
  | .endOutside n =>
    let (s, outcome) := s.endOutside reg n
    (s, .ok (.outcome outcome))

end Session

end Signalbox
