import Signalbox.Interlocking.ById

/-!
Requests for any route between two signals. A search looks the routes up and examines one of
them per tick, in table order, until one can be granted or none is left.
-/
namespace Signalbox

structure RouteRequest where
  train : TrainId
  source : SignalId
  destination : SignalId
deriving DecidableEq, Repr

inductive RequestStatus where
  | pending
  | granted (route : RouteId)
  | noRoutes
  | notGrantable
  | notClear
deriving DecidableEq, Repr

/-- Between two ticks: nothing asked, a request to look up, routes left to examine together
with whether one of those before was grantable but not clear, or the final answer. -/
inductive Search where
  | idle
  | lookup (request : RouteRequest)
  | examine (request : RouteRequest) (candidates : List RouteIndex) (unclear : Bool)
  | finished (status : RequestStatus)
deriving DecidableEq, Repr

namespace Search

def reset : Option RouteRequest → Search
  | some r => .lookup r
  | none => .idle

def exhausted (unclear : Bool) : RequestStatus := if unclear then .notClear else .notGrantable

def tick (reg : Registry) (policy : ConflictPolicy) (il : Interlocking) :
    Search → Search × Interlocking × RequestStatus
  | .idle => (.idle, il, .noRoutes)
  | .finished status => (.finished status, il, status)
  | .lookup r =>
    match reg.between r.source r.destination with
    | [] => (.finished .noRoutes, il, .noRoutes)
    | candidates => (.examine r candidates false, il, .pending)
  | .examine _ [] unclear => (.finished (exhausted unclear), il, exhausted unclear)
  | .examine r (i :: rest) unclear =>
    if !il.isGrantable reg policy i then (.examine r rest unclear, il, .pending)
    else if !il.isClear reg i then (.examine r rest true, il, .pending)
    else
      match il.grant reg policy r.train i with
      | (il, .ok g) => (.finished (.granted g.route), il, .granted g.route)
      | (il, .error _) => (.examine r rest unclear, il, .pending)

/-- Ticks until the search ends, at most as often as the first argument says. -/
def run (reg : Registry) (policy : ConflictPolicy) :
    Nat → Interlocking → Search → Interlocking × RequestStatus
  | 0, il, _ => (il, .pending)
  | n + 1, il, s =>
    match s.tick reg policy il with
    | (s, il, .pending) => run reg policy n il s
    | (_, il, status) => (il, status)

end Search

namespace Interlocking

/-- Asks for any route between two signals. The search takes one tick for the look-up, one for
each candidate and one to end. -/
def requestRoute (il : Interlocking) (reg : Registry) (policy : ConflictPolicy)
    (r : RouteRequest) : Interlocking × Except InterlockingError RequestStatus :=
  if r.train.isEmpty then (il, .error (.invalid .emptyTrain))
  else
    match [r.source, r.destination].find? (!reg.topology.isSignal ·) with
    | some s => (il, .error (.invalid (.unknownSignal s)))
    | none =>
      let bound := (reg.between r.source r.destination).length + 2
      let (il, status) := Search.run reg policy bound il (.lookup r)
      (il, .ok status)

end Interlocking

end Signalbox
