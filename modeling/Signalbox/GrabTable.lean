import Signalbox.Route

/-!
The trains that are under somebody's control. Each takes a slot, and slots are handed out in
turn: the search for a free one starts after the slot taken last.
-/
namespace Signalbox

abbrev Slot := Nat

inductive GrabError where
  | alreadyGrabbed (train : TrainId)
  | full (capacity : Nat)
  | emptyTrain
deriving DecidableEq, Repr

def GrabError.message : GrabError → String
  | .alreadyGrabbed train => "train " ++ train ++ " is already grabbed"
  | .full n => "all " ++ toString n ++ " grab slots are in use"
  | .emptyTrain => "empty train id"

structure GrabTable where
  capacity : Nat
  /-- the slots in use with their trains, in ascending order -/
  taken : List (Slot × TrainId)
  /-- where the next search starts -/
  next : Slot
deriving DecidableEq, Repr

namespace GrabTable

/-- The most slots for which there can be room: a slot takes 24 bytes, and all of them less
than `2 ^ 63`. -/
def maxCapacity : Nat := (Nat.pow 2 63 - 1) / 24

def empty (capacity : Nat) : GrabTable := ⟨capacity, [], 0⟩

def trainOf? (g : GrabTable) (slot : Slot) : Option TrainId := g.taken.lookup slot

def slotOf? (g : GrabTable) (train : TrainId) : Option Slot :=
  (g.taken.find? (·.2 == train)).map (·.1)

def isGrabbed (g : GrabTable) (train : TrainId) : Bool := g.taken.any (·.2 == train)

def isFree (g : GrabTable) (slot : Slot) : Bool := (g.trainOf? slot).isNone

/-- The first free slot of `tries` many, going round from the given one. -/
def firstFree? (g : GrabTable) : (tries : Nat) → Slot → Option Slot
  | 0, _ => none
  | n + 1, slot =>
    if g.isFree slot then some slot else g.firstFree? n ((slot + 1) % g.capacity)

def insertSlot (slot : Slot) (train : TrainId) : List (Slot × TrainId) → List (Slot × TrainId)
  | [] => [(slot, train)]
  | (s, t) :: rest =>
    if slot < s then (slot, train) :: (s, t) :: rest
    else (s, t) :: insertSlot slot train rest

def grab (g : GrabTable) (train : TrainId) : GrabTable × Except GrabError Slot :=
  if train.isEmpty then (g, .error .emptyTrain)
  else if g.isGrabbed train then (g, .error (.alreadyGrabbed train))
  else
    match g.firstFree? g.capacity g.next with
    | none => (g, .error (.full g.capacity))
    | some slot =>
      ({ g with taken := insertSlot slot train g.taken, next := (slot + 1) % g.capacity },
        .ok slot)

/-- Frees a slot. Answers the train that held it, if any. -/
def release (g : GrabTable) (slot : Slot) : GrabTable × Option TrainId :=
  ({ g with taken := g.taken.filter (·.1 != slot) }, g.trainOf? slot)

end GrabTable

end Signalbox
