import Signalbox.Proofs.GrantEffects

/-!
Two grants in either order. Under the blocking policy a grant asks for the holders of its route
and of those that it lists, for the aspects of its own signals and for occupancy. A grant of a
route that has no signal and no point in common with it, and that it does not list, writes to none
of these.
-/
namespace Signalbox

/-- Neither route lists the other, and they have no signal and no point in common. They may share
segments. -/
structure Route.Unrelated (ra rb : Route) : Prop where
  unlisted : rb.id ∉ ra.conflicts
  unlisting : ra.id ∉ rb.conflicts
  signals : ∀ q ∈ ra.signals, q ∉ rb.signals
  points : ∀ p ∈ ra.pointIds, p ∉ rb.pointIds

namespace Route.Unrelated

variable {ra rb : Route}

theorem symm (h : ra.Unrelated rb) : rb.Unrelated ra where
  unlisted := h.unlisting
  unlisting := h.unlisted
  signals q hb ha := h.signals q ha hb
  points p hb ha := h.points p ha hb

theorem disjoint (h : ra.Unrelated rb) (topology : Topology)
    (answerA answerB : Except InterlockingError Grant) :
    (ra.attemptOrders topology answerA).Disjoint (rb.attemptOrders topology answerB) where
  aspect q := by
    by_cases hq : q ∈ ra.signals
    · exact .inr (aspect_attemptOrders_of_not_mem topology answerB (h.signals q hq))
    · exact .inl (aspect_attemptOrders_of_not_mem topology answerA hq)
  point p := by
    by_cases hp : p ∈ ra.pointIds
    · exact .inr (point_attemptOrders_of_not_mem topology answerB (h.points p hp))
    · exact .inl (point_attemptOrders_of_not_mem topology answerA hp)

end Route.Unrelated

namespace Interlocking

/-- What a grant of the route asks for under the blocking policy, the same in both states. -/
structure SameForGrant (reg : Registry) (i : RouteIndex) (r : Route) (il il' : Interlocking) :
    Prop where
  free : il'.isHeld i = il.isHeld i
  conflicts : ∀ j ∈ reg.conflicts i, il'.isHeld j = il.isHeld j
  aspects : ∀ q ∈ r.signals, il'.track.aspect q = il.track.aspect q
  occupied : il'.track.isOccupied = il.track.isOccupied
  refusals : il'.refusal? = il.refusal?
  pointRefusals : il'.pointRefusal? = il.pointRefusal?

section SameForGrant

variable {reg : Registry} {i : RouteIndex} {r : Route} {il il' : Interlocking}

theorem SameForGrant.isGrantable_eq (h : SameForGrant reg i r il il') :
    il'.isGrantable reg .blocking i = il.isGrantable reg .blocking i := by
  have hheld : il'.heldConflicts reg i = il.heldConflicts reg i :=
    List.filter_congr fun j hj => by rw [h.conflicts j hj]
  unfold isGrantable
  rw [h.free, hheld]

theorem SameForGrant.isClear_eq (hr : reg.route? i = some r) (h : SameForGrant reg i r il il') :
    il'.isClear reg i = il.isClear reg i := by
  rw [Bool.eq_iff_iff, isClear_iff hr, isClear_iff hr, h.occupied]
  exact and_congr_left fun _ => forall₂_congr fun q hq => by rw [h.aspects q hq]

theorem SameForGrant.grant_snd (hr : reg.route? i = some r) (h : SameForGrant reg i r il il')
    (train : TrainId) :
    (il'.grant reg .blocking train i).2 = (il.grant reg .blocking train i).2 := by
  have hcommit : (il'.commit reg train i r).2 = (il.commit reg train i r).2 := by
    rw [commit_snd, commit_snd, h.refusals, h.pointRefusals]
  unfold grant
  rw [hr]
  dsimp only
  rw [h.isGrantable_eq, h.isClear_eq hr, hcommit]
  split
  · rfl
  · split
    · rfl
    · split <;> rfl

end SameForGrant

section Unrelated

variable {reg : Registry} {policy : ConflictPolicy} {a b : RouteIndex} {ra rb : Route}

theorem not_mem_conflicts (ha : reg.route? a = some ra) (hb : reg.route? b = some rb)
    (h : ra.id ∉ rb.conflicts) : a ∉ reg.conflicts b := by
  unfold Registry.conflicts
  rw [hb]
  intro hmem
  obtain ⟨id, hlisted, hindex⟩ := List.mem_filterMap.mp hmem
  obtain ⟨r, hr, hid⟩ := Registry.route?_of_index? hindex
  obtain rfl : ra = r := Option.some.inj (ha.symm.trans hr)
  exact h (hid ▸ hlisted)

theorem sameForGrant_of_grant (ha : reg.route? a = some ra) (hb : reg.route? b = some rb)
    (hne : a ≠ b) (unrelated : ra.Unrelated rb) (il : Interlocking) (train : TrainId) :
    SameForGrant reg b rb il (il.grant reg policy train a).1 := by
  have htrack : (il.grant reg policy train a).1.track = il.track.follow
      (ra.attemptOrders reg.topology (il.grant reg policy train a).2) := track_grant ha
  have hheld {j : RouteIndex} (hj : j ≠ a) :
      (il.grant reg policy train a).1.isHeld j = il.isHeld j := by
    simp [isHeld, holder_grant, hj]
  have hlisted := not_mem_conflicts ha hb unrelated.unlisting
  refine ⟨hheld hne.symm, fun j hj => hheld fun heq => hlisted (heq ▸ hj), ?_, ?_,
    refusal?_of_follow htrack, pointRefusal?_of_follow htrack⟩
  · intro q hq
    have hother : q ∉ ra.signals := fun h => unrelated.signals q h hq
    rw [htrack]
    exact Track.aspect_follow_of_none (Route.aspect_attemptOrders_of_not_mem _ _ hother)
  · rw [htrack, Track.isOccupied_follow]

/-- Under the blocking policy, two grants of unrelated routes have the same results in either
order, and lead to the same holders and the same track. -/
theorem unrelated_grants_commute (ha : reg.route? a = some ra) (hb : reg.route? b = some rb)
    (hne : a ≠ b) (unrelated : ra.Unrelated rb) (il : Interlocking) (trainA trainB : TrainId) :
    let firstA := il.grant reg .blocking trainA a
    let thenB := firstA.1.grant reg .blocking trainB b
    let firstB := il.grant reg .blocking trainB b
    let thenA := firstB.1.grant reg .blocking trainA a
    thenA.2 = firstA.2 ∧ thenB.2 = firstB.2 ∧
      thenB.1.holder = thenA.1.holder ∧ thenB.1.track = thenA.1.track := by
  intro firstA thenB firstB thenA
  have hA : thenA.2 = firstA.2 :=
    (sameForGrant_of_grant hb ha hne.symm unrelated.symm il trainB).grant_snd ha trainA
  have hB : thenB.2 = firstB.2 :=
    (sameForGrant_of_grant ha hb hne unrelated il trainA).grant_snd hb trainB
  refine ⟨hA, hB, ?_, ?_⟩
  · funext j
    have hfirstA : firstA.1.holder j =
        if j = a ∧ firstA.2.isOk then some trainA else il.holder j := holder_grant j
    have hfirstB : firstB.1.holder j =
        if j = b ∧ firstB.2.isOk then some trainB else il.holder j := holder_grant j
    have hthenA : thenA.1.holder j =
        if j = a ∧ thenA.2.isOk then some trainA else firstB.1.holder j := holder_grant j
    have hthenB : thenB.1.holder j =
        if j = b ∧ thenB.2.isOk then some trainB else firstA.1.holder j := holder_grant j
    rw [hthenB, hthenA, hfirstA, hfirstB, hA, hB]
    by_cases hj : j = a
    · subst hj
      simp [hne]
    · simp [hj]
  · have hfirstA : firstA.1.track =
        il.track.follow (ra.attemptOrders reg.topology firstA.2) := track_grant ha
    have hfirstB : firstB.1.track =
        il.track.follow (rb.attemptOrders reg.topology firstB.2) := track_grant hb
    have hthenA : thenA.1.track =
        firstB.1.track.follow (ra.attemptOrders reg.topology thenA.2) := track_grant ha
    have hthenB : thenB.1.track =
        firstA.1.track.follow (rb.attemptOrders reg.topology thenB.2) := track_grant hb
    rw [hthenB, hthenA, hfirstA, hfirstB, hA, hB]
    exact Track.follow_comm _ (unrelated.disjoint reg.topology _ _)

end Unrelated

end Interlocking

/-- Two approaches to one platform from either side. Neither lists the other, though both end on
its segment. -/
def platform : Table where
  topology := {
    segments := ["a", "b", "c"]
    signals := [("s", .main), ("t", .main), ("u", .shunting), ("v", .main)]
    points := ["p", "q"]
    sections := [] }
  routes := [
    { id := "east", source := "s", destination := "t", orientation := .clockwise
      length := .zero, sections := [], points := [("p", .reverse)]
      signals := ["s", "t"], conflicts := []
      path := [.segment "a", .segment "c"] },
    { id := "west", source := "u", destination := "v", orientation := .anticlockwise
      length := .zero, sections := [], points := [("q", .reverse)]
      signals := ["u", "v"], conflicts := []
      path := [.segment "b", .segment "c"] }]

def platformRoutes : Registry := ⟨platform.topology, platform.routes, by decide, by decide⟩

theorem platform_accepted : Registry.ofTable platform = .ok platformRoutes := rfl

namespace Interlocking

/-- The point of one approach is jammed, which the grant of it reports whether it comes first or
second. Both approaches are held in the end. -/
theorem platform_grants_commute :
    let il : Interlocking :=
      { initial platform.topology with track := (Track.initial platform.topology).jam "p" }
    let firstEast := il.grant platformRoutes .blocking "T1" 0
    let thenWest := firstEast.1.grant platformRoutes .blocking "T2" 1
    let firstWest := il.grant platformRoutes .blocking "T2" 1
    let thenEast := firstWest.1.grant platformRoutes .blocking "T1" 0
    Registry.ofTable platform = .ok platformRoutes ∧
      thenEast.2 = .ok ⟨"east", [.jammedPoint "p"]⟩ ∧ thenWest.2 = .ok ⟨"west", []⟩ ∧
      thenWest.1.heldRoutes platformRoutes = [("east", "T1"), ("west", "T2")] ∧
      thenWest.1.holder = thenEast.1.holder ∧ thenWest.1.track = thenEast.1.track := by
  intro il firstEast thenWest firstWest thenEast
  have hunrelated : platform.routes[0].Unrelated platform.routes[1] := by
    constructor <;> decide
  have hfirst : platformRoutes.route? 0 = some platform.routes[0] := rfl
  have hsecond : platformRoutes.route? 1 = some platform.routes[1] := rfl
  obtain ⟨heast, hwest, hholder, htrack⟩ :=
    unrelated_grants_commute hfirst hsecond (by decide) hunrelated il "T1" "T2"
  refine ⟨platform_accepted, heast.trans ?_, hwest.trans ?_, by decide, hholder, htrack⟩
  · decide
  · decide

end Interlocking

end Signalbox
