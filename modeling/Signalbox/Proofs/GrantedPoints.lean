import Signalbox.Proofs.GrantAccount
import Signalbox.Proofs.JsonHistory

/-!
Points behind a clean grant. Each point of the route has followed the last mention of it, so all
that the route requires of its points is met exactly when no point is listed in both positions.
Nothing in a table keeps a route from doing so.
-/
namespace Signalbox

namespace Route

/-- No point is required in two positions. -/
def PointsAgree (r : Route) : Prop :=
  ∀ c ∈ r.points, ∀ c' ∈ r.points, c.1 = c'.1 → c.2 = c'.2

instance (r : Route) : Decidable r.PointsAgree :=
  inferInstanceAs (Decidable (∀ c ∈ r.points, ∀ c' ∈ r.points, c.1 = c'.1 → c.2 = c'.2))

variable {r : Route}

theorem mem_points_of_lastPosition? {p : PointId} {position : PointPosition}
    (h : r.lastPosition? p = some position) : (p, position) ∈ r.points := by
  obtain ⟨before, after, hsplit, -⟩ := List.lookup_eq_some_iff.mp h
  rw [← List.mem_reverse, hsplit]
  simp

theorem exists_lastPosition? {c : PointId × PointPosition} (hc : c ∈ r.points) :
    ∃ position, r.lastPosition? c.1 = some position := by
  apply Option.ne_none_iff_exists'.mp
  intro hnone
  have hunlisted := List.lookup_eq_none_iff.mp hnone c (List.mem_reverse.mpr hc)
  simp at hunlisted

theorem pointsAgree_iff :
    r.PointsAgree ↔ ∀ c ∈ r.points, r.lastPosition? c.1 = some c.2 := by
  constructor
  · intro hagree c hc
    obtain ⟨position, hlast⟩ := exists_lastPosition? hc
    have hsame := hagree c hc (c.1, position) (mem_points_of_lastPosition? hlast) rfl
    rw [hlast, hsame]
  · intro hlast c hc c' hc' hpoint
    have hboth : some c.2 = some c'.2 := by rw [← hlast c hc, ← hlast c' hc', hpoint]
    exact Option.some.inj hboth

end Route

namespace Interlocking

section Grant

variable {il il' : Interlocking} {reg : Registry} {policy : ConflictPolicy} {train : TrainId}
  {i : RouteIndex} {r : Route} {g : Grant}

theorem Grants.point_eq_of_clean (h : Grants reg train i r il il' g) (clean : g.faults = [])
    {c : PointId × PointPosition} (hc : c ∈ r.points) :
    il'.track.point c.1 = r.lastPosition? c.1 := by
  have hrefused : il.pointRefusal? c.1 = none := by
    rw [h.report, List.append_eq_nil_iff, List.filterMap_eq_nil_iff] at clean
    exact clean.1 c.1 (List.mem_map_of_mem hc)
  obtain ⟨position, hlast⟩ := Route.exists_lastPosition? hc
  rw [h.track]
  dsimp only
  rw [if_pos hrefused, hlast, Option.some_or]

/-- Behind a clean grant each point of the route stands as its last mention requires, in whatever
state the route has been granted. All positions that the route lists are met exactly when it
lists no point in two of them. -/
theorem clean_grant_meets_points_iff
    (granted : il.grant reg policy train i = (il', .ok g)) (clean : g.faults = []) :
    ∃ r, reg.route? i = some r ∧
      (∀ c ∈ r.points, il'.track.point c.1 = r.lastPosition? c.1) ∧
      ((∀ c ∈ r.points, il'.track.point c.1 = some c.2) ↔ r.PointsAgree) := by
  have hok : (il.grant reg policy train i).2 = .ok g := by rw [granted]
  obtain ⟨r, hr, hgrant⟩ := grants_of_grant_eq_ok hok
  rw [granted] at hgrant
  have hlast : ∀ c ∈ r.points, il'.track.point c.1 = r.lastPosition? c.1 :=
    fun c hc => hgrant.point_eq_of_clean clean hc
  refine ⟨r, hr, hlast, ?_⟩
  rw [Route.pointsAgree_iff]
  exact forall₂_congr fun c hc => by rw [hlast c hc]

end Grant

end Interlocking

namespace Session

open Interlocking

/-- The point of the junction comes out of reverse for the first route. -/
theorem junction_left_meets_points :
    let reversed := (junctionSession.interlocking.commandPoint "p" .reverse).1
    let after := (reversed.grant junctionRoutes .sectional "T1" 0).1
    reversed.track.point "p" = some .reverse ∧
      (reversed.grant junctionRoutes .sectional "T1" 0).2 = .ok ⟨"left", []⟩ ∧
      ∃ r, junctionRoutes.route? 0 = some r ∧ r.points ≠ [] ∧
        ∀ c ∈ r.points, after.track.point c.1 = some c.2 := by
  intro reversed after
  have hgranted : reversed.grant junctionRoutes .sectional "T1" 0 = (after, .ok ⟨"left", []⟩) :=
    rfl
  obtain ⟨r, hr, -, hmeets⟩ := clean_grant_meets_points_iff hgranted rfl
  cases hr
  exact ⟨rfl, rfl, _, rfl, by decide, hmeets.mpr (by decide)⟩

def tornText : List Char := "segments [a, b] signals [s, t] points [p]
  route r { source s destination t orientation clockwise length 0 path [a, b]
    points [p normal, p reverse] signals [s, t] }".toList

def torn : Table where
  topology := { block.topology with points := ["p"] }
  routes := block.routes.map ({ · with points := [("p", .normal), ("p", .reverse)] })

def tornRoutes : Registry := ⟨torn.topology, torn.routes, by decide, by decide⟩

def tornSession : Session := { junctionSession with interlocking := .initial torn.topology }

/-- The table is read and accepted, and the route is granted without a fault. Its point does not
stand at the first of the two positions. -/
theorem torn_route_granted_clean :
    let after := (tornSession.interlocking.grant tornRoutes .sectional "T1" 0).1
    Table.ofChars tornText = .ok torn ∧ Registry.ofTable torn = .ok tornRoutes ∧
      start tornRoutes .standard = .ok tornSession ∧
      (tornSession.interlocking.grant tornRoutes .sectional "T1" 0).2 = .ok ⟨"r", []⟩ ∧
      ∃ r, tornRoutes.route? 0 = some r ∧ ("p", .normal) ∈ r.points ∧
        after.track.point "p" = some .reverse := by
  intro after
  exact ⟨eq_ok_of_toOption (by decide +kernel), rfl, rfl, rfl, _, rfl, by decide, rfl⟩

end Session

end Signalbox
