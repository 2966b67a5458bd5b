import Mathlib.Data.List.Forall2
import Mathlib.Data.List.Perm.Basic
import Signalbox.Proofs.RegistryLookup

/-!
Which tables are accepted, and what an accepted one answers, in terms of the table alone. Ids and
places name the same routes, the routes between two signals are found in table order, each conflict
leads to the route that it names, and the mask marks the segments that a path comes back to.
-/
namespace Signalbox

namespace Route

theorem endpointsAgree_iff {r : Route} :
    r.endpointsAgree = true ↔
      (r.signals ≠ [] →
        r.signals.head? = some r.source ∧ r.signals.getLast? = some r.destination) := by
  unfold endpointsAgree
  by_cases hempty : r.signals = []
  · simp [hempty]
  · rw [List.head?_eq_some_head hempty, List.getLast?_eq_some_getLast hempty]
    simp [hempty]

theorem one_lt_count_iff {path : List PathElement} {e : PathElement} {j : Nat}
    (hj : path[j]? = some e) : 1 < path.count e ↔ ∃ k, k ≠ j ∧ path[k]? = some e := by
  obtain ⟨hlt, he⟩ := List.getElem?_eq_some_iff.mp hj
  have hcount : path.count e = (path.eraseIdx j).count e + 1 := by
    rw [← (List.getElem_cons_eraseIdx_perm hlt).count_eq, he, List.count_cons_self]
  rw [hcount, ← List.mem_eraseIdx_iff_getElem?, ← List.count_pos_iff]
  omega

theorem repeatedMask_eq_true_iff (r : Route) (j : Nat) :
    r.repeatedMask[j]? = some true ↔
      ∃ segment, r.path[j]? = some (.segment segment) ∧
        ∃ k, k ≠ j ∧ r.path[k]? = some (.segment segment) := by
  unfold repeatedMask
  rw [List.getElem?_map]
  cases hj : r.path[j]? with
  | none => simp
  | some e =>
    cases e with
    | signal s => simp
    | segment segment => simpa using one_lt_count_iff hj

end Route

/-- What a table has to fulfil to be accepted. -/
structure Table.Acceptable (t : Table) : Prop where
  distinct : (t.routes.map (·.id)).Nodup
  long : ∀ r ∈ t.routes, 2 ≤ r.path.length
  ends : ∀ r ∈ t.routes, r.signals ≠ [] →
    r.signals.head? = some r.source ∧ r.signals.getLast? = some r.destination
  known : ∀ r ∈ t.routes, ∀ c ∈ r.conflicts, ∃ other ∈ t.routes, other.id = c

namespace Registry

/-- The answers of a registry to all look-ups, told by the routes of its table. -/
structure Answers (reg : Registry) (routes : List Route) : Prop where
  index : ∀ id i, reg.index? id = some i ↔ ∃ r, routes[i]? = some r ∧ r.id = id
  ascending : ∀ source destination, (reg.between source destination).Pairwise (· < ·)
  between : ∀ source destination i, i ∈ reg.between source destination ↔
    ∃ r, routes[i]? = some r ∧ r.source = source ∧ r.destination = destination
  /-- one place for each conflict, in order -/
  conflicts : ∀ (i : RouteIndex) (r : Route), routes[i]? = some r →
    List.Forall₂ (fun c j => ∃ other, routes[j]? = some other ∧ other.id = c)
      r.conflicts (reg.conflicts i)
  mask : ∀ (i : RouteIndex) (r : Route), routes[i]? = some r →
    (reg.repeatedMask i).length = r.path.length ∧
      ∀ j : Nat, (reg.repeatedMask i)[j]? = some true ↔
        ∃ segment, r.path[j]? = some (.segment segment) ∧
          ∃ k, k ≠ j ∧ r.path[k]? = some (.segment segment)
  beyond : ∀ i : RouteIndex, routes[i]? = none → reg.conflicts i = [] ∧ reg.repeatedMask i = []

theorem ofTable_isOk_iff (t : Table) : (∃ reg, ofTable t = .ok reg) ↔ t.Acceptable := by
  constructor
  · rintro ⟨reg, haccepted⟩
    have hroutes := routes_of_ofTable haccepted
    have hfit := reg.fit
    rw [hroutes] at hfit
    exact {
      distinct := hroutes ▸ reg.distinct
      long := fun r hr => (hfit r hr).long
      ends := fun r hr => Route.endpointsAgree_iff.mp (hfit r hr).ends
      known := fun r hr c hc => List.mem_map.mp ((hfit r hr).known c hc) }
  · intro h
    have hfit : ∀ r ∈ t.routes, r.Fits (t.routes.map (·.id)) := fun r hr => {
      long := h.long r hr
      ends := Route.endpointsAgree_iff.mpr (h.ends r hr)
      known := fun c hc => List.mem_map.mpr (h.known r hr c hc) }
    exact ⟨⟨t.topology, t.routes, h.distinct, hfit⟩, ofTable_eq_ok_iff.mpr ⟨rfl, rfl⟩⟩

section LookUps

variable {reg : Registry}

theorem index?_eq_some_iff {id : RouteId} {i : RouteIndex} :
    reg.index? id = some i ↔ ∃ r, reg.route? i = some r ∧ r.id = id := by
  constructor
  · exact route?_of_index?
  · rintro ⟨r, hr, rfl⟩
    exact index?_of_route? hr

theorem exists_index? {id : RouteId} (h : id ∈ reg.ids) : ∃ i, reg.index? id = some i := by
  obtain ⟨r, hr, rfl⟩ := List.mem_map.mp h
  rw [← Option.isSome_iff_exists, index?, List.findIdx?_isSome, List.any_eq_true]
  exact ⟨r, hr, beq_self_eq_true r.id⟩

theorem forall₂_index? {listed : List RouteId} (known : ∀ c ∈ listed, c ∈ reg.ids) :
    List.Forall₂ (fun c j => reg.index? c = some j) listed (listed.filterMap reg.index?) := by
  induction listed with
  | nil => exact .nil
  | cons c rest ih =>
    rw [List.forall_mem_cons] at known
    obtain ⟨j, hj⟩ := exists_index? known.1
    rw [List.filterMap_cons_some hj]
    exact .cons hj (ih known.2)

theorem answers (reg : Registry) : reg.Answers reg.routes where
  index id i := index?_eq_some_iff
  ascending := pairwise_between reg
  between source destination i := mem_between_iff
  conflicts i r hr := by
    have hroute : reg.route? i = some r := hr
    have known : ∀ c ∈ r.conflicts, c ∈ reg.ids := (reg.fit r (List.mem_of_getElem? hr)).known
    rw [Registry.conflicts, hroute]
    exact (forall₂_index? known).imp fun c j => route?_of_index?
  mask i r hr := by
    have hroute : reg.route? i = some r := hr
    rw [repeatedMask, hroute]
    exact ⟨by simp [Route.repeatedMask], r.repeatedMask_eq_true_iff⟩
  beyond i hi := by
    have hroute : reg.route? i = none := hi
    rw [Registry.conflicts, repeatedMask, hroute]
    exact ⟨rfl, rfl⟩

end LookUps

/-- A table is accepted exactly if its ids are distinct, no path is too short, all signals listed
run from the source to the destination, and all conflicts are known. All answers of the registry
are then those of the table. -/
theorem accepted_table_answers (t : Table) :
    ((∃ reg, ofTable t = .ok reg) ↔ t.Acceptable) ∧
      ∀ reg, ofTable t = .ok reg → reg.Answers t.routes := by
  refine ⟨ofTable_isOk_iff t, fun reg haccepted => ?_⟩
  rw [← routes_of_ofTable haccepted]
  exact reg.answers

/-- Two ways between the same signals. The long one comes back over `b`, and names a later route
twice as its conflict. -/
def detour : Table where
  topology := {
    segments := ["a", "b", "c"]
    signals := [("s", .main), ("t", .main), ("u", .main)]
    points := []
    sections := [] }
  routes := [
    { id := "long", source := "s", destination := "t", orientation := .clockwise
      length := .zero, sections := [], points := []
      signals := ["s", "t"], conflicts := ["back", "back"]
      path := [.segment "a", .segment "b", .segment "c", .segment "b"] },
    { id := "short", source := "s", destination := "t", orientation := .clockwise
      length := .zero, sections := [], points := []
      signals := [], conflicts := []
      path := [.segment "a", .segment "c"] },
    { id := "back", source := "t", destination := "u", orientation := .anticlockwise
      length := .zero, sections := [], points := []
      signals := ["t", "u"], conflicts := ["long"]
      path := [.segment "b", .segment "c"] }]

theorem detour_answers :
    ∃ reg, ofTable detour = .ok reg ∧ detour.Acceptable ∧ reg.Answers detour.routes ∧
      reg.index? "back" = some 2 ∧ reg.between "s" "t" = [0, 1] ∧ reg.conflicts 0 = [2, 2] ∧
      reg.repeatedMask 0 = [false, true, false, true] := by
  have haccepted : ofTable detour = .ok ⟨detour.topology, detour.routes, by decide, by decide⟩ :=
    rfl
  obtain ⟨hiff, hanswers⟩ := accepted_table_answers detour
  exact ⟨_, haccepted, hiff.mp ⟨_, haccepted⟩, hanswers _ haccepted, by decide, by decide,
    by decide, by decide⟩

end Registry

end Signalbox
