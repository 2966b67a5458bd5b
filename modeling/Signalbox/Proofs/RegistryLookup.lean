import Mathlib.Data.List.Nodup
import Signalbox.Registry

/-!
Which tables are accepted, and what the look-ups of a registry answer. An id and a place of the
table name the same route.
-/
namespace Signalbox

namespace Registry

theorem ofTable_eq_ok_iff {t : Table} {reg : Registry} :
    ofTable t = .ok reg ↔ reg.topology = t.topology ∧ reg.routes = t.routes := by
  unfold ofTable
  dsimp only
  split
  · rename_i id hrepeated
    refine iff_of_false (by simp) fun h => ?_
    have hdistinct := reg.distinct
    rw [h.2] at hdistinct
    simp [(firstRepeated?_eq_none_iff [] _).mpr ⟨hdistinct, by simp⟩] at hrepeated
  · split
    · rename_i e hchecks
      refine iff_of_false (by simp) fun h => ?_
      have hfit := reg.fit
      rw [h.2, ← Route.forM_check_eq_ok_iff, hchecks] at hfit
      cases hfit
    · rw [Except.ok.injEq, Registry.ext_iff]
      exact ⟨fun h => ⟨h.1.symm, h.2.symm⟩, fun h => ⟨h.1.symm, h.2.symm⟩⟩

theorem routes_of_ofTable {t : Table} {reg : Registry} (h : ofTable t = .ok reg) :
    reg.routes = t.routes :=
  (ofTable_eq_ok_iff.mp h).2

theorem ids_nodup (reg : Registry) : reg.ids.Nodup := reg.distinct

theorem two_le_path {reg : Registry} {i : RouteIndex} {r : Route} (hr : reg.route? i = some r) :
    2 ≤ r.path.length :=
  (reg.fit r (List.mem_of_getElem? hr)).long

end Registry

def junction : Table where
  topology := {
    segments := ["a", "b", "c", "d"]
    signals := [("s", .main), ("t", .main), ("m", .main), ("u", .shunting)]
    points := ["p"]
    sections := [⟨"throat", ["c"], ["m", "u"]⟩] }
  routes := [
    { id := "left", source := "s", destination := "t", orientation := .clockwise
      length := .zero, sections := ["throat"], points := [("p", .normal)]
      signals := ["s", "m", "t"], conflicts := ["right"]
      path := [.segment "a", .signal "m", .segment "c"] },
    { id := "right", source := "u", destination := "t", orientation := .clockwise
      length := .zero, sections := ["throat"], points := [("p", .reverse)]
      signals := ["u", "t"], conflicts := ["left"]
      path := [.segment "d", .signal "u", .segment "c"] },
    { id := "bypass", source := "s", destination := "t", orientation := .clockwise
      length := .zero, sections := [], points := []
      signals := ["s", "t"], conflicts := []
      path := [.segment "a", .segment "b"] }]

def junctionRoutes : Registry := ⟨junction.topology, junction.routes, by decide, by decide⟩

theorem junction_accepted : Registry.ofTable junction = .ok junctionRoutes := rfl

namespace Registry

theorem isSome_route?_iff {reg : Registry} {i : RouteIndex} :
    (reg.route? i).isSome = true ↔ i < reg.size := by
  simp [route?, size]

theorem route?_of_index? {reg : Registry} {id : RouteId} {i : RouteIndex}
    (h : reg.index? id = some i) : ∃ r, reg.route? i = some r ∧ r.id = id := by
  obtain ⟨hlt, hid, -⟩ := List.findIdx?_eq_some_iff_getElem.mp h
  exact ⟨reg.routes[i], List.getElem?_eq_getElem hlt, by simpa using hid⟩

theorem index?_of_route? {reg : Registry} {i : RouteIndex} {r : Route}
    (h : reg.route? i = some r) : reg.index? r.id = some i := by
  obtain ⟨hlt, hr⟩ := List.getElem?_eq_some_iff.mp h
  refine List.findIdx?_eq_some_iff_getElem.mpr ⟨hlt, by simp [hr], ?_⟩
  intro j hj hsame
  have hid : reg.ids[j]? = reg.ids[i]? := by
    have hj' : j < reg.routes.length := by omega
    simpa [ids, hlt, hj', hr] using hsame
  have hplaces : j = i := (List.getElem?_inj (by simp [ids]; omega) reg.ids_nodup).mp hid
  omega

theorem place_eq_of_id_eq {reg : Registry} {i j : RouteIndex}
    {r r' : Route} (hi : reg.route? i = some r) (hj : reg.route? j = some r')
    (hid : r.id = r'.id) : i = j := by
  have hplace := index?_of_route? hi
  rw [hid, index?_of_route? hj, Option.some.injEq] at hplace
  exact hplace.symm

/-- The routes from one signal to another, in table order. -/
def routesBetween (reg : Registry) (source destination : SignalId) : List Route :=
  reg.routes.filter fun r => r.source = source ∧ r.destination = destination

theorem between_eq_map (reg : Registry) (source destination : SignalId) :
    reg.between source destination =
      (reg.routes.zipIdx.filter fun p =>
        p.1.source = source ∧ p.1.destination = destination).map (·.2) := by
  unfold between
  rw [← List.filterMap_eq_map, ← List.filterMap_eq_filter, List.filterMap_filterMap]
  apply List.filterMap_congr
  rintro ⟨r, i⟩ -
  by_cases hr : r.source = source ∧ r.destination = destination <;> simp [hr, Option.guard]

theorem between_eq (reg : Registry) (source destination : SignalId) :
    ∃ found : List (Route × RouteIndex),
      (∀ p ∈ found, reg.route? p.2 = some p.1) ∧
      reg.between source destination = found.map (·.2) ∧
      reg.routesBetween source destination = found.map (·.1) := by
  refine ⟨reg.routes.zipIdx.filter fun p => p.1.source = source ∧ p.1.destination = destination,
    ?_, reg.between_eq_map source destination, ?_⟩
  · intro p hp
    exact List.mem_zipIdx_iff_getElem?.mp (List.mem_filter.mp hp).1
  · unfold routesBetween
    conv_lhs => rw [← List.zipIdx_map_fst 0 reg.routes, List.filter_map]
    rfl

theorem mem_between_iff {reg : Registry} {source destination : SignalId} {i : RouteIndex} :
    i ∈ reg.between source destination ↔
      ∃ r, reg.route? i = some r ∧ r.source = source ∧ r.destination = destination := by
  rw [between_eq_map, List.mem_map]
  constructor
  · rintro ⟨p, hp, rfl⟩
    obtain ⟨hlisted, hends⟩ := List.mem_filter.mp hp
    exact ⟨p.1, List.mem_zipIdx_iff_getElem?.mp hlisted, by simpa using hends⟩
  · rintro ⟨r, hr, hends⟩
    refine ⟨(r, i), List.mem_filter.mpr ⟨List.mem_zipIdx_iff_getElem?.mpr hr, ?_⟩, rfl⟩
    simpa using hends

theorem pairwise_between (reg : Registry) (source destination : SignalId) :
    (reg.between source destination).Pairwise (· < ·) := by
  have places : (reg.routes.zipIdx.map (·.2)).Pairwise (· < ·) := by
    rw [List.zipIdx_map_snd]
    exact List.pairwise_lt_range'
  rw [between_eq_map]
  exact places.sublist (List.filter_sublist.map _)

end Registry

end Signalbox
