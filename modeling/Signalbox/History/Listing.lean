import Signalbox.Decimal.Style
import Signalbox.Scenario.Basic
import Signalbox.Text.Quoted

/-!
Routes, actions and events as they are listed to the user: a word, and its parts between
round brackets, texts between quotes.
-/
namespace Signalbox.Listing

open Text

def call (word : String) (parts : List String) : String :=
  word ++ "(" ++ String.intercalate ", " parts ++ ")"

def truth (b : Bool) : String := if b then "true" else "false"

def number (x : Binary64) : String := NumberStyle.listing.render x

def optional : Option String → String
  | none => "None"
  | some s => call "Some" [s]

def aspect : Aspect → String
  | .stop => "Stop"
  | .go => "Go"
  | .caution => "Caution"
  | .shunt => "Shunt"

def position : PointPosition → String
  | .normal => "Normal"
  | .reverse => "Reverse"

def orientation : Orientation → String
  | .clockwise => "Clockwise"
  | .anticlockwise => "Anticlockwise"

def mode : DriveMode → String
  | .manual => "Manual"
  | .automatic => "Automatic"

def driveState : DriveState → String
  | .initializing => "Initializing"
  | .progressing => "Progressing"
  | .completed => "Completed"
  | .aborted => "Aborted"

def routeStatus : RouteStatus → String
  | .granted train => call "Granted" [quoted train]
  | .notGrantable => "NotGrantable"
  | .notClear => "NotClear"
  | .released => "Released"

def event : Event → String
  | .route id status => call "Route" [quoted id, routeStatus status]
  | .signal id a => call "Aspect" [quoted id, aspect a]
  | .point id p => call "Point" [quoted id, position p]
  | .occupied segment b => call "Occupied" [quoted segment, truth b]
  | .position train segments => call "Position" [quoted train, quotedList segments]
  | .grab train b => call "Grab" [quoted train, truth b]
  | .drive train route state => call "Drive" [quoted train, quoted route, driveState state]

def action : Action → String
  | .wait t => call "Wait" [number t]
  | .grab t => call "Grab" [quoted t]
  | .ungrab t => call "Ungrab" [quoted t]
  | .place t segments => call "Place" [quoted t, quotedList segments]
  | .occupy s b => call "Occupy" [quoted s, truth b]
  | .setAspect s a => call "SetAspect" [quoted s, aspect a]
  | .grant t r => call "Grant" [quoted t, quoted r]
  | .request t s d => call "Request" [quoted t, quoted s, quoted d]
  | .release r => call "Release" [quoted r]
  | .drive t r m => call "Drive" [quoted t, quoted r, mode m]
  | .await t timeout => call "Await" [quoted t, optional (timeout.map number)]

def pathElement : PathElement → String
  | .segment s => call "Segment" [quoted s]
  | .signal s => call "Signal" [quoted s]

def part (name value : String) : String := name ++ ": " ++ value

def route (r : Route) : String :=
  "Route \x7b " ++ String.intercalate ", " [
    part "id" (quoted r.id),
    part "source" (quoted r.source),
    part "destination" (quoted r.destination),
    part "orientation" (orientation r.orientation),
    part "length" (number r.length),
    part "path" (bracketed (r.path.map pathElement)),
    part "sections" (quotedList r.sections),
    part "points" (bracketed (r.points.map fun (p, way) => call "" [quoted p, position way])),
    part "signals" (quotedList r.signals),
    part "conflicts" (quotedList r.conflicts)] ++ " \x7d"

end Signalbox.Listing
