import Signalbox.Decimal.Literal
import Signalbox.Drive.Basic
import Signalbox.Scenario.Lines

/-!
Scenarios: one action per line, as words between blanks.

    wait 0.5                    grab t              ungrab t
    place t a b                 occupy a            vacate a
    aspect s go                 grant t r           request t s d
    release r                   drive t r automatic await t 5.0

The segments of `place`, the mode of `drive` and the time of `await` may be left out. Empty
lines and lines that start with `#` say nothing.
-/
namespace Signalbox

inductive Action where
  | wait (seconds : Binary64)
  | grab (train : TrainId)
  | ungrab (train : TrainId)
  /-- the train now covers exactly these segments -/
  | place (train : TrainId) (segments : List SegmentId)
  | occupy (segment : SegmentId) (occupied : Bool)
  | setAspect (signal : SignalId) (aspect : Aspect)
  | grant (train : TrainId) (route : RouteId)
  | request (train : TrainId) (source destination : SignalId)
  | release (route : RouteId)
  | drive (train : TrainId) (route : RouteId) (mode : DriveMode)
  | await (train : TrainId) (timeout : Option Binary64)
deriving DecidableEq

def Action.names : Action → List String
  | .wait _ => []
  | .grab t | .ungrab t | .await t _ => [t]
  | .place t segments => t :: segments
  | .occupy s _ | .setAspect s _ => [s]
  | .grant t r | .drive t r _ => [t, r]
  | .request t source destination => [t, source, destination]
  | .release r => [r]

inductive ScenarioError where
  | malformedNumber
  | unknownAspect (name : String)
  | unrecognized (line : String)
deriving DecidableEq, Repr

def ScenarioError.message : ScenarioError → String
  | .malformedNumber => "error converting number"
  | .unknownAspect name => "unknown aspect: " ++ name
  | .unrecognized line => "unrecognized scenario line: " ++ line

namespace Scenario

open Text

def isName (word : String) : Bool := word.toList.all isWordChar

def isTime (word : String) : Bool := word.toList.all fun c => isDecimalDigit c || c = '.'

def readTime (word : String) : Except ScenarioError Binary64 :=
  match Binary64.ofChars? word.toList with
  | some x => .ok x
  | none => .error .malformedNumber

/-- One of the forms a line can have. It answers nothing when the words do not fit, and an
error when they fit but one of them means nothing. -/
abbrev LineForm := List String → Option (Except ScenarioError Action)

def onNames (names : List String) (a : Except ScenarioError Action) :
    Option (Except ScenarioError Action) :=
  if names.all isName then some a else none

theorem onNames_eq_some_iff {names : List String} {a result : Except ScenarioError Action} :
    onNames names a = some result ↔ (∀ n ∈ names, isName n = true) ∧ a = result := by
  simp [onNames]

def waitForm : LineForm
  | ["wait", t] => if isTime t then some ((readTime t).map .wait) else none
  | _ => none

def grabForm : LineForm
  | ["grab", t] => onNames [t] (.ok (.grab t))
  | ["ungrab", t] => onNames [t] (.ok (.ungrab t))
  | _ => none

def placeForm : LineForm
  | "place" :: t :: segments => onNames (t :: segments) (.ok (.place t segments))
  | _ => none

def occupyForm : LineForm
  | ["occupy", s] => onNames [s] (.ok (.occupy s true))
  | ["vacate", s] => onNames [s] (.ok (.occupy s false))
  | _ => none

def aspectForm : LineForm
  | ["aspect", s, name] => onNames [s, name] <|
    match Aspect.ofName? name with
    | some a => .ok (.setAspect s a)
    | none => .error (.unknownAspect name)
  | _ => none

def grantForm : LineForm
  | ["grant", t, r] => onNames [t, r] (.ok (.grant t r))
  | _ => none

def requestForm : LineForm
  | ["request", t, s, d] => onNames [t, s, d] (.ok (.request t s d))
  | _ => none

def releaseForm : LineForm
  | ["release", r] => onNames [r] (.ok (.release r))
  | _ => none

def driveForm : LineForm
  | ["drive", t, r] => onNames [t, r] (.ok (.drive t r .manual))
  | ["drive", t, r, "manual"] => onNames [t, r] (.ok (.drive t r .manual))
  | ["drive", t, r, "automatic"] => onNames [t, r] (.ok (.drive t r .automatic))
  | _ => none

def awaitForm : LineForm
  | ["await", t] => onNames [t] (.ok (.await t none))
  | ["await", t, time] =>
    if isTime time then onNames [t] ((readTime time).map fun x => .await t (some x)) else none
  | _ => none

def forms : List LineForm :=
  [waitForm, grabForm, placeForm, occupyForm, aspectForm, grantForm, requestForm, releaseForm,
    driveForm, awaitForm]

def isSilent (line : List Char) : Bool :=
  match words line with
  | [] => true
  | word :: _ => word.head? = some '#'

def readLine (line : List Char) : Except ScenarioError Action :=
  match forms.findSome? fun form => form ((words line).map String.ofList) with
  | some result => result
  | none => .error (.unrecognized (String.ofList line))

def ofChars (text : List Char) : Except ScenarioError (List Action) :=
  ((lines text).filter (!isSilent ·)).mapM readLine

end Scenario

end Signalbox
