import Signalbox.Interlocking.Basic
import Signalbox.Interlocking.Error
import Signalbox.Interlocking.Policy
import Signalbox.Sectional

/-!
Granting and releasing. A route is granted to a train only when it is free, every held conflict
is admissible, its signals all show stop and its path is unoccupied. A release stops all its
signals and frees it, whatever the track answers.
-/
namespace Signalbox.Interlocking

def isHeld (il : Interlocking) (i : RouteIndex) : Bool := (il.holder i).isSome

def heldConflicts (il : Interlocking) (reg : Registry) (i : RouteIndex) : List RouteIndex :=
  (reg.conflicts i).filter fun c => c != i && il.isHeld c

/-- Free, and every held conflict is admissible. -/
def isGrantable (il : Interlocking) (reg : Registry) (policy : ConflictPolicy)
    (i : RouteIndex) : Bool :=
  !il.isHeld i &&
    match policy with
    | .blocking => (il.heldConflicts reg i).isEmpty
    | .sectional => (il.heldConflicts reg i).all fun c =>
        (Sectional.check reg il.track c i).safe

/-- Every signal of the route known to show stop and every segment of its path unoccupied. -/
def routeIsClear (track : Track) (r : Route) : Bool :=
  r.signals.all (fun s => track.aspect s == some .stop) &&
    r.segments.all (!track.isOccupied ·)

def isClear (il : Interlocking) (reg : Registry) (i : RouteIndex) : Bool :=
  (reg.route? i).any (routeIsClear il.track)

def proceedAspect (topology : Topology) (s : SignalId) : Aspect :=
  ((topology.kind? s).getD .main).proceedAspect

/-- Makes the grant: the train takes the route, then the points are moved, and then all
signals but the last are opened. -/
def commit (il : Interlocking) (reg : Registry) (train : TrainId) (i : RouteIndex)
    (r : Route) : Interlocking × Grant :=
  let il := (il.setHolder i (some train)).record (.route r.id (.granted train))
  let (il, pointFaults) := il.commandPoints r.points
  let (il, signalFaults) :=
    il.commandSignals (r.passedSignals.map fun s => (s, proceedAspect reg.topology s))
  (il, ⟨r.id, pointFaults ++ signalFaults⟩)

def grant (il : Interlocking) (reg : Registry) (policy : ConflictPolicy) (train : TrainId)
    (i : RouteIndex) : Interlocking × Except InterlockingError Grant :=
  match reg.route? i with
  | none => (il, .error (.invalid (.routeIndex i)))
  | some r =>
    if train.isEmpty then (il, .error (.invalid .emptyTrain))
    else if !il.isGrantable reg policy i then
      (il.record (.route r.id .notGrantable), .error (.notGrantable r.id))
    else if !il.isClear reg i then
      (il.record (.route r.id .notClear), .error (.notClear r.id))
    else
      let (il, g) := il.commit reg train i r
      (il, .ok g)

/-- Takes a route from its train, every signal of it being commanded to stop first. Says
whether the route was held. The first fault is reported when all is done. -/
def release (il : Interlocking) (reg : Registry) (i : RouteIndex) :
    Interlocking × Except InterlockingError Bool :=
  match reg.route? i with
  | none => (il, .error (.invalid (.routeIndex i)))
  | some r =>
    if !il.isHeld i then (il, .ok false)
    else
      let (il, faults) := il.commandSignals (r.signals.map (·, .stop))
      let il := (il.setHolder i none).record (.route r.id .released)
      (il, match faults with
        | [] => .ok true
        | f :: _ => .error (.track f))

/-- Releases routes in order, each whether or not the ones before it failed. The first
failure is reported. -/
def releaseEach (il : Interlocking) (reg : Registry) :
    List RouteIndex → Interlocking × Except InterlockingError Unit
  | [] => (il, .ok ())
  | i :: rest =>
    let (il, first) := il.release reg i
    let (il, later) := il.releaseEach reg rest
    (il, match first with
      | .ok _ => later
      | .error e => .error e)

def releaseAll (il : Interlocking) (reg : Registry) :
    Interlocking × Except InterlockingError Unit :=
  il.releaseEach reg (List.range reg.size)

def heldRoutes (il : Interlocking) (reg : Registry) : List (RouteId × TrainId) :=
  reg.routes.zipIdx.filterMap fun (r, i) => (il.holder i).map (r.id, ·)

end Signalbox.Interlocking
