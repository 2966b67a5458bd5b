import Signalbox.Registry
import Signalbox.Track

/-!
Whether a route may be granted while a conflicting route is still held. The held path is
walked from its end. Each segment that the requested path shares must lie in a section whose
entry signals admit nobody, and behind the first shared segment after each signal the held
path must be vacated back to that signal. What cannot be established is refused.
-/
namespace Signalbox.Sectional

/-- The answer of a check, and the places of the path whose occupancy it asked for. -/
structure Check where
  safe : Bool
  queried : List Nat
deriving DecidableEq, Repr

def Check.refused : Check := ⟨false, []⟩

def backwards (r : Route) : List (PathElement × Nat) := r.path.zipIdx.reverse

/-- Whether traffic may enter the section around a segment. A segment of no section and an
entry signal of unknown aspect count as admitting it. -/
def entryPermitted (topology : Topology) (track : Track) (segment : SegmentId) : Bool :=
  match topology.entrySignals? segment with
  | none => true
  | some signals => signals.any fun s => (track.aspect s).all Aspect.isPermissive

/-- Whether the path is vacated from its first element here back to the next signal. -/
def vacatedToSignal (track : Track) : List (PathElement × Nat) → Check
  | [] => ⟨true, []⟩
  | (.signal _, _) :: _ => ⟨true, []⟩
  | (.segment s, i) :: rest =>
    if track.isOccupied s then ⟨false, [i]⟩
    else
      let c := vacatedToSignal track rest
      ⟨c.safe, i :: c.queried⟩

/-- The walk along the held path. It is armed after a signal, until the first shared segment
has been checked for occupancy. -/
def walk (topology : Topology) (track : Track) (requested : Route) :
    Bool → List (PathElement × Nat) → Check
  | _, [] => ⟨true, []⟩
  | _, (.signal _, _) :: rest => walk topology track requested true rest
  | armed, (.segment s, i) :: rest =>
    if !requested.containsSegment s then walk topology track requested armed rest
    else if entryPermitted topology track s then .refused
    else if armed then
      let here := vacatedToSignal track ((.segment s, i) :: rest)
      if here.safe then
        let c := walk topology track requested false rest
        ⟨c.safe, here.queried ++ c.queried⟩
      else here
    else walk topology track requested false rest

def check (reg : Registry) (track : Track) (held requested : RouteIndex) : Check :=
  match reg.route? held, reg.route? requested with
  | some h, some r =>
    if h.path.length < 2 || r.path.isEmpty then .refused
    else walk reg.topology track r true (backwards h)
  | _, _ => .refused

def checkIds (reg : Registry) (track : Track) (held requested : RouteId) : Check :=
  match reg.index? held, reg.index? requested with
  | some h, some r => check reg track h r
  | _, _ => .refused

/-- Whether the path is occupied anywhere from a place back to the signal before it. A place
beyond the path counts as occupied. -/
def occupiedBack (r : Route) (track : Track) (i : Nat) : Bool :=
  if r.path.length ≤ i then true
  else !(vacatedToSignal track (r.path.zipIdx.take (i + 1)).reverse).safe

end Signalbox.Sectional
