import Signalbox.Topology

/-!
The routes of a checked table. Routes are addressed by their place in the table, and the
conflicts of a route are given as places too.
-/
namespace Signalbox

abbrev RouteIndex := Nat

inductive RegistryError where
  | duplicateRoute (id : RouteId)
  | shortPath (id : RouteId)
  | signalEndpoints (id : RouteId)
  | unknownConflict (id conflict : RouteId)
deriving DecidableEq, Repr

def RegistryError.message : RegistryError → String
  | .duplicateRoute id => "route id \"" ++ id ++ "\" is defined twice"
  | .shortPath id => "route " ++ id ++ " has a path shorter than two elements"
  | .signalEndpoints id =>
    "route " ++ id ++ " lists signals not starting at its source or not ending at its destination"
  | .unknownConflict id conflict =>
    "route " ++ id ++ " conflicts with unknown route " ++ conflict

/-- The first id that an earlier one repeats. -/
def firstRepeated? (seen : List RouteId) : List RouteId → Option RouteId
  | [] => none
  | id :: rest => if seen.contains id then some id else firstRepeated? (id :: seen) rest

theorem firstRepeated?_eq_none_iff (seen ids : List RouteId) :
    firstRepeated? seen ids = none ↔ ids.Nodup ∧ ∀ id ∈ ids, id ∉ seen := by
  induction ids generalizing seen with
  | nil => simp [firstRepeated?]
  | cons id rest ih =>
    rw [firstRepeated?, List.nodup_cons]
    by_cases hseen : id ∈ seen
    · simp [hseen]
    · rw [if_neg (by simpa using hseen), ih]
      constructor
      · rintro ⟨hnodup, hfresh⟩
        refine ⟨⟨fun hmem => hfresh id hmem List.mem_cons_self, hnodup⟩, ?_⟩
        intro other hmem
        rcases List.mem_cons.mp hmem with rfl | hmem
        · exact hseen
        · exact fun hother => hfresh other hmem (List.mem_cons_of_mem id hother)
      · rintro ⟨⟨hid, hnodup⟩, hfresh⟩
        refine ⟨hnodup, ?_⟩
        intro other hmem hother
        rcases List.mem_cons.mp hother with rfl | hother
        · exact hid hmem
        · exact hfresh other (List.mem_cons_of_mem id hmem) hother

namespace Route

/-- A list of signals, unless empty, starts at the source and ends at the destination. -/
def endpointsAgree (r : Route) : Bool :=
  r.signals.head?.all (· == r.source) && r.signals.getLast?.all (· == r.destination)

/-- The checks of one route, given the ids of all routes. -/
def check (ids : List RouteId) (r : Route) : Except RegistryError Unit :=
  if r.path.length < 2 then .error (.shortPath r.id)
  else if !r.endpointsAgree then .error (.signalEndpoints r.id)
  else
    match r.conflicts.find? (!ids.contains ·) with
    | some c => .error (.unknownConflict r.id c)
    | none => .ok ()

/-- A route that stands every check. -/
structure Fits (ids : List RouteId) (r : Route) : Prop where
  long : 2 ≤ r.path.length
  ends : r.endpointsAgree = true
  known : ∀ c ∈ r.conflicts, c ∈ ids

instance (ids : List RouteId) (r : Route) : Decidable (r.Fits ids) :=
  decidable_of_iff (2 ≤ r.path.length ∧ r.endpointsAgree = true ∧ ∀ c ∈ r.conflicts, c ∈ ids)
    ⟨fun ⟨long, ends, known⟩ => ⟨long, ends, known⟩, fun h => ⟨h.long, h.ends, h.known⟩⟩

theorem check_eq_ok_iff {ids : List RouteId} {r : Route} : r.check ids = .ok () ↔ r.Fits ids := by
  unfold check
  by_cases hshort : r.path.length < 2
  · rw [if_pos hshort]
    refine iff_of_false (by simp) fun h => ?_
    have := h.long
    omega
  · rw [if_neg hshort]
    have hlong : 2 ≤ r.path.length := by omega
    cases hends : r.endpointsAgree with
    | false => exact iff_of_false (by simp) fun h => by simpa [hends] using h.ends
    | true =>
      cases hfind : r.conflicts.find? (!ids.contains ·) with
      | some c =>
        have hmem := List.mem_of_find?_eq_some hfind
        have hunknown : c ∉ ids := by simpa using List.find?_some hfind
        exact iff_of_false (by simp) fun h => hunknown (h.known c hmem)
      | none =>
        have hknown : ∀ c ∈ r.conflicts, c ∈ ids := by simpa using hfind
        exact iff_of_true rfl ⟨hlong, hends, hknown⟩

theorem forM_check_eq_ok_iff (ids : List RouteId) (routes : List Route) :
    routes.forM (check ids) = .ok () ↔ ∀ r ∈ routes, r.Fits ids := by
  induction routes with
  | nil => simp [List.forM, pure, Except.pure]
  | cons r rest ih =>
    rw [List.forM, List.forall_mem_cons, ← ih, ← check_eq_ok_iff]
    cases hr : r.check ids with
    | error e => simp [bind, Except.bind]
    | ok u => simp [bind, Except.bind]

end Route

/-- A table whose routes have passed all checks. -/
@[ext] structure Registry where
  topology : Topology
  routes : List Route
  distinct : (routes.map (·.id)).Nodup
  fit : ∀ r ∈ routes, r.Fits (routes.map (·.id))

namespace Registry

/-- Repeated ids are reported first, then the faults of the routes in table order. -/
def ofTable (t : Table) : Except RegistryError Registry :=
  let ids := t.routes.map (·.id)
  match hrepeated : firstRepeated? [] ids with
  | some id => .error (.duplicateRoute id)
  | none =>
    match hchecks : t.routes.forM (Route.check ids) with
    | .error e => .error e
    | .ok () => .ok {
        topology := t.topology
        routes := t.routes
        distinct := ((firstRepeated?_eq_none_iff [] ids).mp hrepeated).1
        fit := (Route.forM_check_eq_ok_iff ids t.routes).mp hchecks }

def size (reg : Registry) : Nat := reg.routes.length

def ids (reg : Registry) : List RouteId := reg.routes.map (·.id)

def route? (reg : Registry) (i : RouteIndex) : Option Route := reg.routes[i]?

def index? (reg : Registry) (id : RouteId) : Option RouteIndex :=
  reg.routes.findIdx? (·.id == id)

def find? (reg : Registry) (id : RouteId) : Option Route := (reg.index? id).bind reg.route?

/-- The routes from one signal to another, in table order. -/
def between (reg : Registry) (source destination : SignalId) : List RouteIndex :=
  reg.routes.zipIdx.filterMap fun (r, i) =>
    if r.source = source ∧ r.destination = destination then some i else none

def conflicts (reg : Registry) (i : RouteIndex) : List RouteIndex :=
  match reg.route? i with
  | some r => r.conflicts.filterMap reg.index?
  | none => []

def repeatedMask (reg : Registry) (i : RouteIndex) : List Bool :=
  match reg.route? i with
  | some r => r.repeatedMask
  | none => []

end Registry

end Signalbox
