import Signalbox.Route

/-! What the history of a site records. -/
namespace Signalbox

inductive DriveState where
  | initializing
  | progressing
  | completed
  | aborted
deriving DecidableEq, Repr

def DriveState.name : DriveState → String
  | .initializing => "initializing"
  | .progressing => "progressing"
  | .completed => "completed"
  | .aborted => "aborted"

inductive RouteStatus where
  | granted (train : TrainId)
  | notGrantable
  | notClear
  | released
deriving DecidableEq, Repr

def RouteStatus.name : RouteStatus → String
  | .granted _ => "granted"
  | .notGrantable => "not_grantable"
  | .notClear => "not_clear"
  | .released => "released"

inductive Event where
  | route (id : RouteId) (status : RouteStatus)
  | signal (id : SignalId) (aspect : Aspect)
  | point (id : PointId) (position : PointPosition)
  | occupied (segment : SegmentId) (value : Bool)
  | position (train : TrainId) (segments : List SegmentId)
  | grab (train : TrainId) (held : Bool)
  | drive (train : TrainId) (route : RouteId) (state : DriveState)
deriving DecidableEq, Repr

end Signalbox
