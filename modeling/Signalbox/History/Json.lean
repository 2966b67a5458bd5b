import Signalbox.Decimal.Style
import Signalbox.Event
import Signalbox.Registry

/-!
A history as one JSON object: the routes with their ends, lengths and signals, and the events
in order. In texts only quotes and backslashes are escaped.
-/
namespace Signalbox.History

def escape : List Char → List Char
  | [] => []
  | c :: cs => if c = '"' ∨ c = '\\' then '\\' :: c :: escape cs else c :: escape cs

def jsonText (s : String) : String := "\"" ++ String.ofList (escape s.toList) ++ "\""

def jsonBool (b : Bool) : String := if b then "true" else "false"

def jsonTexts (texts : List String) : String :=
  "[" ++ String.intercalate ", " (texts.map jsonText) ++ "]"

def jsonObject (members : List (String × String)) : String :=
  "\x7b " ++ String.intercalate ", " (members.map fun (key, value) =>
    jsonText key ++ ": " ++ value) ++ " \x7d"

def jsonEvent (kind ref : String) (members : List (String × String)) : String :=
  jsonObject (("event", jsonText kind) :: ("ref", jsonText ref) :: members)

def eventJson : Event → String
  | .route id (.granted train) =>
    jsonEvent "route" id [("value", jsonText "granted"), ("train", jsonText train)]
  | .route id status => jsonEvent "route" id [("value", jsonText status.name)]
  | .signal id aspect => jsonEvent "signal" id [("value", jsonText aspect.name)]
  | .point id position => jsonEvent "point" id [("value", jsonText position.name)]
  | .occupied segment value => jsonEvent "occupied" segment [("value", jsonBool value)]
  | .position train segments => jsonEvent "position" train [("value", jsonTexts segments)]
  | .grab train held => jsonEvent "grab" train [("value", jsonBool held)]
  | .drive train route state =>
    jsonEvent "drive" train [("route", jsonText route), ("value", jsonText state.name)]

def routeJson (r : Route) : String :=
  jsonText r.id ++ ": " ++ jsonObject [
    ("source", jsonText r.source), ("destination", jsonText r.destination),
    ("length", NumberStyle.plain.render r.length), ("signals", jsonTexts r.signals)]

def json (routes : List Route) (events : List Event) : String :=
  "\x7b \"routes\": \x7b" ++ String.intercalate ", " (routes.map routeJson) ++ "\x7d,\n" ++
    "\"events\": [" ++ String.intercalate ",\n  " (events.map eventJson) ++ "] \x7d\n"

def routeEvents (events : List Event) : List (RouteId × RouteStatus) :=
  events.filterMap fun
    | .route id status => some (id, status)
    | _ => none

end Signalbox.History
