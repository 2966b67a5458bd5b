import Signalbox.Session.Basic

/-!
The drives of a session. They move only when polled, one pass each in starting order. A drive
leaves the controller's list when its outcome is awaited, when it is found finished, or when
the controller shuts down.
-/
namespace Signalbox.Session

def passEach (reg : Registry) : List DriveEntry → Interlocking → List DriveEntry × Interlocking
  | [], il => ([], il)
  | e :: rest, il =>
    let (drive, il) := e.drive.pass reg il
    let (rest, il) := passEach reg rest il
    ({ e with drive } :: rest, il)

def poll (s : Session) (reg : Registry) : Session :=
  let (drives, il) := passEach reg s.drives s.interlocking
  { s with drives, interlocking := il }

/-- Two polls: the first lets every drive act on the track as it stands, the second shows to
each drive what the others did. -/
def settle (s : Session) (reg : Registry) : Session := (s.poll reg).poll reg

def reap (s : Session) : Session :=
  { s with drives := s.drives.filter fun e => !(e.isListed && e.drive.isFinished) }

def launch (s : Session) (origin : DriveOrigin) (train : TrainId) (route : RouteId)
    (mode : DriveMode) : Session :=
  { s with drives := s.drives ++ [⟨origin, .launch train route mode⟩] }

def passLast (s : Session) (reg : Registry) : Session :=
  match s.drives.getLast? with
  | none => s
  | some e =>
    let (drive, il) := e.drive.pass reg s.interlocking
    { s with drives := s.drives.dropLast ++ [{ e with drive }], interlocking := il }

def enlistDrive (s : Session) (reg : Registry) (train : TrainId) (route : RouteId)
    (mode : DriveMode) : Session × Except SessionError Unit :=
  match s.requireRunning.bind fun _ => s.requireGrabbed train with
  | .error e => (s, .error e)
  | .ok () =>
    match Interlocking.indexOf reg route with
    | .error e => (s, .error (.interlocking e))
    | .ok _ => (s.reap.launch .controller train route mode, .ok ())

/-- Starts a drive, which at once begins and makes its first pass. The start alone is
`enlistDrive`. -/
def startDrive (s : Session) (reg : Registry) (train : TrainId) (route : RouteId)
    (mode : DriveMode) : Session × Except SessionError Unit :=
  match s.enlistDrive reg train route mode with
  | (s, .error e) => (s, .error e)
  | (s, .ok ()) => (s.passLast reg, .ok ())

def startOutsideDrive (s : Session) (reg : Registry) (train : TrainId) (route : RouteId)
    (mode : DriveMode) : Session × Nat :=
  let n := s.outsideCount
  ({ (s.launch (.outside n) train route mode).passLast reg with outsideCount := n + 1 }, n)

def outsideDrive? (s : Session) (number : Nat) : Option Drive :=
  (s.drives.find? (·.origin == .outside number)).map (·.drive)

def cancelOutside (s : Session) (number : Nat) : Session :=
  { s with drives := s.drives.map fun e =>
      if e.origin = .outside number then { e with drive := e.drive.cancel } else e }

/-- Takes drives out of the list. The unfinished ones are cancelled and make the pass that
ends them. Answers the drives left and the outcomes of those taken, in order. -/
def collectFrom (reg : Registry) (picked : DriveEntry → Bool) :
    List DriveEntry → Interlocking → List DriveEntry × List Outcome × Interlocking
  | [], il => ([], [], il)
  | e :: rest, il =>
    if picked e then
      let (drive, il) := e.drive.cancel.pass reg il
      let (left, outcomes, il) := collectFrom reg picked rest il
      (left, drive.outcome?.toList ++ outcomes, il)
    else
      let (left, outcomes, il) := collectFrom reg picked rest il
      (e :: left, outcomes, il)

def collect (s : Session) (reg : Registry) (picked : DriveEntry → Bool) :
    Session × List Outcome :=
  let (drives, outcomes, il) := collectFrom reg picked s.drives s.interlocking
  ({ s with drives, interlocking := il }, outcomes)

/-- Ends the controller's drives of a train that are still unfinished, and answers the
outcomes of all of them. -/
def collectTrain (s : Session) (reg : Registry) (train : TrainId) : Session × List Outcome :=
  s.collect reg (DriveEntry.isListedFor train)

/-- Waits for the drives of a train, with a limit that is over once all drives have come to rest.
What is unfinished then is cancelled. A wait with another limit is as many passes as the drives
make in it and then `collectTrain`, and so is one without limit, if the drives of the train all
end in these passes. One that never ends has no counterpart. -/
def awaitDrives (s : Session) (reg : Registry) (train : TrainId) : Session × List Outcome :=
  (s.settle reg).collectTrain reg train

def endOutside (s : Session) (reg : Registry) (number : Nat) : Session × Option Outcome :=
  let (s, outcomes) := s.collect reg (·.origin == .outside number)
  (s, outcomes.head?)

/-- The drives in the controller's list that have not been found finished. -/
def activeDrives (s : Session) : Session × List (TrainId × RouteId × DriveState) :=
  let s := s.reap
  (s, (s.drives.filter (·.isListed)).map fun e => (e.drive.train, e.drive.route, e.drive.state))

def ungrabEach (s : Session) : List Slot → Session
  | [] => s
  | slot :: rest => (s.ungrab slot).1.ungrabEach rest

/-- Refuses further trains and requests, ends all drives of the controller, then releases all
routes and frees all slots. The first failure of a release is reported. -/
def close (s : Session) (reg : Registry) : Session × Except SessionError Unit :=
  let (s, _) := { s with running := false }.collect reg (·.isListed)
  let (s, result) := s.interlock (·.releaseAll reg)
  (s.ungrabEach (s.grabs.taken.map (·.1)), result.mapError .interlocking)

/-- A close that comes once all drives have come to rest. One that comes earlier is `close`. -/
def shutdown (s : Session) (reg : Registry) : Session × Except SessionError Unit :=
  (s.settle reg).close reg

end Signalbox.Session
