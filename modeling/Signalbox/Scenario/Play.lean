import Signalbox.Scenario.Basic
import Signalbox.Session.Drives

/-!
Playing a scenario. A refused grant is part of the history, all other failures end the play.
When the actions are done, the controller is shut down.
-/
namespace Signalbox

inductive PlayError where
  | registry (error : RegistryError)
  | session (error : SessionError)
  | track (fault : TrackFault)
  /-- there is no room for so many grab slots -/
  | noRoom (slots : Nat)
deriving DecidableEq, Repr

def PlayError.message : PlayError → String
  | .registry e => e.message
  | .session e => e.message
  | .track f => f.message
  | .noRoom n => "no room for " ++ toString n ++ " grab slots"

namespace Session

/-- The shortest time in which drives get to move, in seconds. -/
def leastPause : Binary64 := .ofRatio 1 1000

/-- Lets a time pass. The drives come to rest, unless it is too short for them to move. -/
def pause (s : Session) (reg : Registry) (seconds : Binary64) : Session :=
  if leastPause.code ≤ seconds.code then s.settle reg else s

def require {ε α : Type} (wrap : ε → PlayError) : Session × Except ε α → Except PlayError Session
  | (s, .ok _) => .ok s
  | (_, .error e) => .error (wrap e)

/-- A grant may be refused because the route is taken or not clear. -/
def attemptGrant (s : Session) (reg : Registry) (train : TrainId) (route : RouteId) :
    Except PlayError Session :=
  match s.grantRoute reg train route with
  | (s, .ok _) => .ok s
  | (s, .error (.interlocking (.notGrantable _))) => .ok s
  | (s, .error (.interlocking (.notClear _))) => .ok s
  | (_, .error e) => .error (.session e)

def act (reg : Registry) (s : Session) : Action → Except PlayError Session
  | .wait seconds => .ok (s.pause reg seconds)
  | .grab t => require .session (s.grabTrain t)
  | .ungrab t =>
    match s.grabs.slotOf? t with
    | some slot => .ok (s.ungrab slot).1
    | none => .ok s
  | .place t [] => .ok (s.removeTrain t)
  | .place t segments => .ok (s.place t segments)
  | .occupy segment occupied => .ok (s.mark segment occupied)
  | .setAspect signal a => require .track (s.setAspect signal a)
  | .grant t r => s.attemptGrant reg t r
  | .request t source destination => require .session (s.requestRoute reg ⟨t, source, destination⟩)
  | .release r => require .session (s.releaseRoute reg r)
  | .drive t r mode => require .session (s.enlistDrive reg t r mode)
  | .await t timeout =>
    let s := match timeout with
      | none => s.settle reg
      | some seconds => s.pause reg seconds
    .ok (s.collectTrain reg t).1

def playAll (reg : Registry) (s : Session) (actions : List Action) :
    Except PlayError Session := do
  let s ← actions.foldlM (act reg) s
  require .session (s.close reg)

end Session

/-- Plays a scenario on a table, and answers the registry with the history of the play. It is one
way for the drives to move: they come to rest at each wait and await that is long enough, and
stand still otherwise. An await without limit is taken to end then, with the drives cancelled that
have not ended. Any other way is a run in which single moves of the drives stand between the
actions, and which the close ends. -/
def Scenario.play (table : Table) (actions : List Action) (config : SessionConfig) :
    Except PlayError (Registry × List Event) := do
  let reg ← (Registry.ofTable table).mapError .registry
  let s ← (Session.start reg config).mapError .session
  if GrabTable.maxCapacity < config.maxTrains then throw (.noRoom config.maxTrains)
  let s ← s.playAll reg actions
  return (reg, s.log)

end Signalbox
