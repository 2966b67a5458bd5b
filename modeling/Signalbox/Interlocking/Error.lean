import Signalbox.Registry
import Signalbox.Track

/-! What a request to the route set can come to. -/
namespace Signalbox

inductive InvalidParameter where
  | routeIndex (i : RouteIndex)
  | emptyTrain
  | unknownRoute (id : RouteId)
  | unknownSignal (id : SignalId)
  | unknownAlgorithm (name : String)
deriving DecidableEq, Repr

def InvalidParameter.message : InvalidParameter → String
  | .routeIndex i => "route index " ++ toString i
  | .emptyTrain => "empty train id"
  | .unknownRoute id => "unknown route \"" ++ id ++ "\""
  | .unknownSignal id => "unknown signal \"" ++ id ++ "\""
  | .unknownAlgorithm name => "unknown algorithm \"" ++ name ++ "\""

inductive InterlockingError where
  | notGrantable (id : RouteId)
  | notClear (id : RouteId)
  | invalid (parameter : InvalidParameter)
  | track (fault : TrackFault)
deriving DecidableEq, Repr

def InterlockingError.message : InterlockingError → String
  | .notGrantable id => "route " ++ id ++ " is not grantable"
  | .notClear id => "route " ++ id ++ " is not clear"
  | .invalid p => "invalid parameter: " ++ p.message
  | .track f => "track adapter failure: " ++ f.message

/-- A grant that has been made. Commands that failed do not undo it. -/
structure Grant where
  route : RouteId
  faults : List TrackFault
deriving DecidableEq, Repr

def Grant.isClean (g : Grant) : Bool := g.faults.isEmpty

end Signalbox
