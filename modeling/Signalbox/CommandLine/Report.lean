import Signalbox.CommandLine.Arguments
import Signalbox.History.Json
import Signalbox.History.Listing
import Signalbox.Scenario.Play
import Signalbox.Table.Load

/-!
What the command prints, from its arguments and the contents of its two files. Listings come
first, as far as the files could be read, then the history or the reason why there is none.
-/
namespace Signalbox.CommandLine

inductive FileError where
  | notFound
  | isDirectory
  | notDirectory
  | nameTooLong
  | badText
  | other (reason : String)
deriving DecidableEq, Repr

def FileError.message : FileError → String
  | .notFound => "No such file or directory (os error 2)"
  | .notDirectory => "Not a directory (os error 20)"
  | .isDirectory => "Is a directory (os error 21)"
  | .nameTooLong => "File name too long (os error 36)"
  | .badText => "stream did not contain valid UTF-8"
  | .other reason => reason

inductive Ending where
  | completed
  /-- for a reason that is printed -/
  | failed
  /-- in the middle, with nothing more printed -/
  | brokenOff
deriving DecidableEq, Repr

def Ending.exitCode : Ending → UInt8
  | .completed => 0
  | .failed => 1
  | .brokenOff => 101

/-- The printed text, how the run ends, and a file still to be written. -/
structure Report where
  text : String
  ending : Ending
  file : Option (String × String)
deriving DecidableEq, Repr

def line (s : String) : String := s ++ "\n"

def failure (text message : String) : Report :=
  ⟨text ++ "Error:\n" ++ line message, .failed, none⟩

def readText (contents : Except FileError ByteArray) : Except FileError (List Char) :=
  contents.bind fun bytes =>
    match String.fromUTF8? bytes with
    | some s => .ok s.toList
    | none => .error .badText

def readTable (contents : Except FileError ByteArray) : Except String Table :=
  match readText contents with
  | .error e => .error e.message
  | .ok text => (Table.ofChars text).mapError Table.LoadError.message

def readScenario (contents : Except FileError ByteArray) : Except String (List Action) :=
  match readText contents with
  | .error e => .error e.message
  | .ok text => (Scenario.ofChars text).mapError ScenarioError.message

def routeListing (routes : List Route) : String :=
  line "Routes:" ++ String.join (routes.map fun r => line ("  - " ++ Listing.route r))

def scenarioListing (actions : List Action) : String :=
  line "Scenario:" ++ String.join (actions.map fun a => line ("  - " ++ Listing.action a)) ++
    line ""

def historyListing (events : List Event) : String :=
  line "# Interlocking history:" ++
    String.join (events.map fun e => line ("> " ++ Listing.event e))

def unknownAlgorithm (name : String) : String :=
  "unknown algorithm \"" ++ name ++ "\", expected one of " ++ Text.quotedList ConflictPolicy.names

def report (a : Arguments) (table scenario : Except FileError ByteArray) : Report :=
  match readTable table with
  | .error message => failure "" message
  | .ok table =>
    let text := if 2 ≤ a.verbosity then routeListing table.routes else ""
    match readScenario scenario with
    | .error message => failure text message
    | .ok actions =>
      let text := if 1 ≤ a.verbosity then text ++ scenarioListing actions else text
      if (ConflictPolicy.ofName? a.algorithm).isNone then
        failure text (unknownAlgorithm a.algorithm)
      else
        match Scenario.play table actions ⟨a.algorithm, a.maxTrains⟩ with
        | .error (.noRoom _) => ⟨text, .brokenOff, none⟩
        | .error e => failure text e.message
        | .ok (reg, events) =>
          ⟨text ++ historyListing events, .completed,
            a.json.map fun path => (path, History.json reg.routes events)⟩

/-- The report once its file has been written or could not be. -/
def Report.afterWriting (r : Report) : Except FileError Unit → Report
  | .ok () => { r with file := none }
  | .error e => failure r.text e.message

end Signalbox.CommandLine
