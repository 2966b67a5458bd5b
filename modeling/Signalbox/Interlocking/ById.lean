import Signalbox.Interlocking.Grant

/-! The operations on routes named by their ids. An unknown id is refused before anything
happens. -/
namespace Signalbox.Interlocking

def indexOf (reg : Registry) (id : RouteId) : Except InterlockingError RouteIndex :=
  match reg.index? id with
  | some i => .ok i
  | none => .error (.invalid (.unknownRoute id))

def grantRoute (il : Interlocking) (reg : Registry) (policy : ConflictPolicy)
    (train : TrainId) (id : RouteId) : Interlocking × Except InterlockingError Grant :=
  match indexOf reg id with
  | .error e => (il, .error e)
  | .ok i => il.grant reg policy train i

/-- Releasing a route that is not held does nothing. -/
def releaseRoute (il : Interlocking) (reg : Registry) (id : RouteId) :
    Interlocking × Except InterlockingError Unit :=
  match indexOf reg id with
  | .error e => (il, .error e)
  | .ok i =>
    let (il, result) := il.release reg i
    (il, result.map fun _ => ())

/-- Releases a route only while the train holds it. Says whether it was released. -/
def releaseIfHeldBy (il : Interlocking) (reg : Registry) (id : RouteId) (train : TrainId) :
    Interlocking × Except InterlockingError Bool :=
  match indexOf reg id with
  | .error e => (il, .error e)
  | .ok i => if il.holder i = some train then il.release reg i else (il, .ok false)

def routeIsClear? (il : Interlocking) (reg : Registry) (id : RouteId) :
    Except InterlockingError Bool :=
  (indexOf reg id).map (il.isClear reg)

def holderOf (il : Interlocking) (reg : Registry) (id : RouteId) :
    Except InterlockingError (Option TrainId) :=
  (indexOf reg id).map il.holder

/-- Whether the train holds the route. Nobody holds an unknown route. -/
def isHeldBy (il : Interlocking) (reg : Registry) (id : RouteId) (train : TrainId) : Bool :=
  (reg.index? id).any fun i => il.holder i == some train

def conflictReport (il : Interlocking) (reg : Registry) (id : RouteId) :
    Except InterlockingError (List (RouteId × TrainId)) :=
  (indexOf reg id).map fun i =>
    (il.heldConflicts reg i).filterMap fun c => do
      let r ← reg.route? c
      let train ← il.holder c
      return (r.id, train)

end Signalbox.Interlocking
