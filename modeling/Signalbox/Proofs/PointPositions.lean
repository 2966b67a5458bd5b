import Signalbox.Proofs.HeldConflicts

/-!
Points under held routes. A grant moves the points of its route, and nothing else moves a point
unless it is commanded by itself. When routes that share a point conflict with each other, the
blocking policy keeps the points of a held route where its grant has put them.
-/
namespace Signalbox

def TrackFault.isOfPoint : TrackFault → Bool
  | .unknownPoint _ | .jammedPoint _ => true
  | .unknownSignal _ | .jammedSignal _ => false

/-- What a grant reports of points that have not been moved. -/
def Grant.pointFaults (g : Grant) : List TrackFault := g.faults.filter (·.isOfPoint)

namespace Route

def pointIds (r : Route) : List PointId := r.points.map (·.1)

end Route

namespace Interlocking

/-! ### What moves a point -/

section Points

variable (il : Interlocking)

@[simp] theorem point_commandSignal (s : SignalId) (a : Aspect) :
    (il.commandSignal s a).1.track.point = il.track.point := by
  unfold commandSignal
  split
  · rename_i track h
    obtain ⟨-, -, rfl⟩ := Track.setAspect_eq_ok_iff.mp h
    rfl
  · rfl

@[simp] theorem point_commandSignals (commands : List (SignalId × Aspect)) :
    (il.commandSignals commands).1.track.point = il.track.point := by
  apply commandAll_invariant (·.track.point)
  intro il c
  exact point_commandSignal il c.1 c.2

theorem point_commandPoint_of_ne {p q : PointId} (position : PointPosition) (h : q ≠ p) :
    (il.commandPoint p position).1.track.point q = il.track.point q := by
  unfold commandPoint
  split
  · rename_i track hset
    obtain ⟨-, -, rfl⟩ := Track.setPoint_eq_ok_iff.mp hset
    exact if_neg h
  · rfl

theorem point_commandPoint_of_moved {p : PointId} {position : PointPosition}
    (h : (il.commandPoint p position).2 = none) :
    (il.commandPoint p position).1.track.point p = some position := by
  unfold commandPoint at h ⊢
  cases hset : il.track.setPoint p position with
  | error f => simp [hset] at h
  | ok track =>
    obtain ⟨-, -, rfl⟩ := Track.setPoint_eq_ok_iff.mp hset
    simp [record]

theorem isOfPoint_of_commandPoint {p : PointId} {position : PointPosition} {f : TrackFault}
    (h : (il.commandPoint p position).2 = some f) : f.isOfPoint = true := by
  unfold commandPoint Track.setPoint at h
  split at h
  · cases h
  · rename_i fault hset
    cases h
    split at hset
    · cases hset
      rfl
    · split at hset
      · cases hset
        rfl
      · cases hset

theorem point_commandPoints_of_not_mem (commands : List (PointId × PointPosition)) {q : PointId}
    (h : q ∉ commands.map (·.1)) :
    (il.commandPoints commands).1.track.point q = il.track.point q := by
  unfold commandPoints
  induction commands generalizing il with
  | nil => rfl
  | cons c rest ih =>
    rw [List.map_cons, List.mem_cons, not_or] at h
    simp only [commandAll]
    rw [ih _ h.2, point_commandPoint_of_ne il c.2 h.1]

theorem isOfPoint_of_commandPoints (commands : List (PointId × PointPosition)) :
    ∀ f ∈ (il.commandPoints commands).2, f.isOfPoint = true := by
  unfold commandPoints
  induction commands generalizing il with
  | nil => simp [commandAll]
  | cons c rest ih =>
    simp only [commandAll]
    intro f hf
    rcases List.mem_append.mp hf with hfirst | hrest
    · exact isOfPoint_of_commandPoint il (Option.mem_toList.mp hfirst)
    · exact ih _ f hrest

theorem point_commandPoints_of_moved {commands : List (PointId × PointPosition)}
    (once : (commands.map (·.1)).Nodup) (h : (il.commandPoints commands).2 = [])
    {c : PointId × PointPosition} (hc : c ∈ commands) :
    (il.commandPoints commands).1.track.point c.1 = some c.2 := by
  unfold commandPoints at h ⊢
  induction commands generalizing il with
  | nil => cases hc
  | cons first rest ih =>
    rw [List.map_cons, List.nodup_cons] at once
    simp only [commandAll, List.append_eq_nil_iff, Option.toList_eq_nil_iff] at h ⊢
    rcases List.mem_cons.mp hc with rfl | hrest
    · have hkept := point_commandPoints_of_not_mem (il.commandPoint c.1 c.2).1 rest once.1
      unfold commandPoints at hkept
      rw [hkept, point_commandPoint_of_moved il h.1]
    · exact ih _ once.2 h.2 hrest

theorem point_commit (reg : Registry) (train : TrainId) (i : RouteIndex) (r : Route) :
    (il.commit reg train i r).1.track.point =
      (((il.setHolder i (some train)).record (.route r.id (.granted train))).commandPoints
        r.points).1.track.point := by
  simp [commit]

theorem point_commit_of_not_mem (reg : Registry) (train : TrainId) (i : RouteIndex) {r : Route}
    {p : PointId} (h : p ∉ r.pointIds) :
    (il.commit reg train i r).1.track.point p = il.track.point p := by
  rw [point_commit, point_commandPoints_of_not_mem _ _ h]
  rfl

theorem point_commit_of_no_fault (reg : Registry) (train : TrainId) (i : RouteIndex) {r : Route}
    (once : r.pointIds.Nodup) (h : (il.commit reg train i r).2.pointFaults = [])
    {c : PointId × PointPosition} (hc : c ∈ r.points) :
    (il.commit reg train i r).1.track.point c.1 = some c.2 := by
  rw [point_commit]
  refine point_commandPoints_of_moved _ once ?_ hc
  simp only [Grant.pointFaults, commit, List.filter_append, List.append_eq_nil_iff] at h
  rw [List.filter_eq_self.mpr (isOfPoint_of_commandPoints _ r.points)] at h
  exact h.1

theorem point_release (reg : Registry) (i : RouteIndex) :
    (il.release reg i).1.track.point = il.track.point := by
  cases hr : reg.route? i with
  | none => rw [release_of_unknown il reg i hr]
  | some r =>
    cases hheld : il.isHeld i with
    | false => rw [release_of_free il reg i hheld]
    | true =>
      rw [release_of_held il reg i hr hheld]
      simp

end Points

theorem Withdraws.point_eq {reg : Registry} {noted : Event → Bool} {il il' : Interlocking}
    (h : Withdraws reg noted il il') : il'.track.point = il.track.point := by
  apply h.keeps (P := fun next => next.track.point = il.track.point) ?_ rfl
  intro a b hstep ha
  rw [← ha]
  cases hstep with
  | stop s => exact point_commandSignal a s .stop
  | release i => exact point_release a reg i
  | note e _ => rfl

end Interlocking

/-- No route lists a point twice, and routes that share a point list each other. -/
structure Registry.PointsGuarded (reg : Registry) : Prop where
  once : ∀ r ∈ reg.routes, r.pointIds.Nodup
  exclusive : ∀ r ∈ reg.routes, ∀ r' ∈ reg.routes, r.id ≠ r'.id →
    ∀ p ∈ r.pointIds, p ∈ r'.pointIds → r.id ∈ r'.conflicts ∧ r'.id ∈ r.conflicts

/-- Whether an operation leaves the points to the grants. -/
def Operation.sparesPoints : Operation → Bool
  | .command (.setPoint ..) | .disturb _ => false
  | _ => true

namespace Session

open Interlocking

section Step

variable {reg : Registry} {s : Session} {op : Operation} {i : RouteIndex} {r : Route}

theorem point_operate_of_outside (h : op.isOutside = true) (spares : op.sparesPoints = true) :
    (s.operate reg op).interlocking.track.point = s.interlocking.track.point := by
  cases op with
  | disturb track => cases spares
  | command c =>
    cases c with
    | setAspect signal a =>
      simp only [operate, perform, answer_fst]
      exact point_commandSignal s.interlocking signal a
    | place | removeTrain | mark | jam | lose => rfl
    | setPoint => cases spares
    | _ => cases h
  | _ => cases h

/-- What one operation leaves of the points of a held route: no other route is granted that lists
one of them. -/
theorem point_operate_of_held (guarded : reg.PointsGuarded)
    (blocking : s.policy = .blocking) (spares : op.sparesPoints = true)
    (hr : reg.route? i = some r) (held : s.interlocking.isHeld i = true) {p : PointId}
    (hp : p ∈ r.pointIds) :
    (s.operate reg op).interlocking.track.point p = s.interlocking.track.point p := by
  cases houtside : op.isOutside with
  | true => rw [point_operate_of_outside houtside spares]
  | false =>
    have heffect := operate_effect reg s houtside
    generalize (s.operate reg op).interlocking = il' at heffect ⊢
    cases heffect with
    | refused hrefused => rw [hrefused.track_eq]
    | withdrawn hwithdrawn => rw [hwithdrawn.point_eq]
    | @granted train j other hother hadmits =>
      apply point_commit_of_not_mem
      intro hshared
      have hne : i ≠ j := by
        rintro rfl
        rw [isHeld_of_isGrantable hadmits.grantable] at held
        cases held
      have hids : r.id ≠ other.id := fun hid =>
        hne (Registry.place_eq_of_id_eq hr hother hid)
      have hlists := (guarded.exclusive r (List.mem_of_getElem? hr) other
        (List.mem_of_getElem? hother) hids p hp hshared).1
      have hsectional := (sectional_of_grantable hadmits.grantable hne
        (mem_conflicts hr hother hlists) held).1
      rw [blocking] at hsectional
      cases hsectional

end Step

section Run

variable {reg : Registry} {s : Session} {operations : List Operation} {i : RouteIndex} {r : Route}

theorem LastGrantedAt.point_since (guarded : reg.PointsGuarded)
    (blocking : ∀ k, (before reg s operations k).policy = .blocking)
    (spared : ∀ op ∈ operations, op.sparesPoints = true) (hr : reg.route? i = some r) {k : Nat}
    (hlast : LastGrantedAt reg s operations r.id k)
    (held : (s.operateAll reg operations).interlocking.isHeld i = true) {p : PointId}
    (hp : p ∈ r.pointIds) (m : Nat) :
    (before reg s operations (k + 1 + m)).interlocking.track.point p =
      (before reg s operations (k + 1)).interlocking.track.point p := by
  induction m with
  | zero => rfl
  | succ m ih =>
    rw [← ih, ← Nat.add_assoc]
    rcases before_succ reg s operations (k + 1 + m) with hsame | ⟨op, hop, hstep⟩
    · rw [hsame]
    · rw [hstep]
      exact point_operate_of_held guarded (blocking _) (spared op hop) hr
        (hlast.held_since hr held (by omega)) hp

/-- The grant under which a route is held: no later operation than the one at this place has
granted it. -/
structure PresentGrant (reg : Registry) (s : Session) (operations : List Operation)
    (i : RouteIndex) (r : Route) (k : Nat) (train : TrainId) (g : Grant) : Prop where
  last : LastGrantedAt reg s operations r.id k
  granted : (before reg s operations k).interlocking.grant reg
    (before reg s operations k).policy train i =
      ((before reg s operations (k + 1)).interlocking, .ok g)

theorem PresentGrant.commit_eq {k : Nat} {train : TrainId} {g : Grant}
    (h : PresentGrant reg s operations i r k train g) (hr : reg.route? i = some r) :
    (before reg s operations k).interlocking.commit reg train i r =
      ((before reg s operations (k + 1)).interlocking, g) := by
  have hok : ((before reg s operations k).interlocking.grant reg
      (before reg s operations k).policy train i).2.isOk = true := by
    rw [h.granted]
    rfl
  have hgrant := h.granted
  rw [grant_of_admits hr (grant_isOk_iff.mp hok), Prod.mk.injEq, Except.ok.injEq] at hgrant
  exact Prod.ext hgrant.1 hgrant.2

/-- While the blocking policy is selected and points are moved by grants alone, each held route
has a present grant. If that has reported no fault of a point, all points of the route stand as
the route requires. -/
theorem held_points_stand
    (guarded : reg.PointsGuarded) {config : SessionConfig} (started : start reg config = .ok s)
    (operations : List Operation)
    (blocking : ∀ k, (before reg s operations k).policy = .blocking)
    (spared : ∀ op ∈ operations, op.sparesPoints = true) (hr : reg.route? i = some r)
    (held : (s.operateAll reg operations).interlocking.isHeld i = true) :
    (∃ k train g, PresentGrant reg s operations i r k train g) ∧
      ∀ k train g, PresentGrant reg s operations i r k train g → g.pointFaults = [] →
        ∀ c ∈ r.points,
          (s.operateAll reg operations).interlocking.track.point c.1 = some c.2 := by
  constructor
  · obtain ⟨k, hlast⟩ := exists_lastGrantedAt hr (free_of_start started i) held
    obtain ⟨train, hadmits, hstep⟩ := hlast.granted.admits hr
    refine ⟨k, train, ((before reg s operations k).interlocking.commit reg train i r).2,
      hlast, ?_⟩
    rw [hstep]
    exact grant_of_admits hr hadmits
  · intro k train g hpresent hmoved c hc
    have hcommit := hpresent.commit_eq hr
    have hstands := point_commit_of_no_fault (before reg s operations k).interlocking reg train i
      (guarded.once r (List.mem_of_getElem? hr)) (by rwa [hcommit]) hc
    have hend := hpresent.last.point_since guarded blocking spared hr held
      (List.mem_map_of_mem hc) operations.length
    rw [before_of_length_le reg s operations (by omega)] at hend
    rw [hend, ← hstands, hcommit]

end Run

theorem junction_points_guarded : junctionRoutes.PointsGuarded where
  once := by decide
  exclusive := by decide

def junctionBlocking : Session :=
  { junctionSession with policy := .blocking, config := ⟨"blocking", 32⟩ }

/-- The point of the junction is moved for the second route, and jams. The first route is refused,
and the bypass is granted. -/
def junctionPointRun : List Operation :=
  [.command (.directGrant "T1" "left"), .command (.release "left"),
    .command (.directGrant "T2" "right"), .command (.jam "p"),
    .command (.directGrant "T1" "left"), .command (.directGrant "T3" "bypass")]

theorem junction_point_stands :
    start junctionRoutes ⟨"blocking", 32⟩ = .ok junctionBlocking ∧
      (junctionBlocking.operateAll junctionRoutes junctionPointRun).interlocking.heldRoutes
        junctionRoutes = [("right", "T2"), ("bypass", "T3")] ∧
      (junctionBlocking.operateAll junctionRoutes junctionPointRun).interlocking.track.point "p" =
        some .reverse := by
  have hblocking : ∀ k, (before junctionRoutes junctionBlocking junctionPointRun k).policy =
      .blocking := forall_before (P := (·.policy = .blocking)) (by decide)
  have hstarted : start junctionRoutes ⟨"blocking", 32⟩ = .ok junctionBlocking := rfl
  obtain ⟨-, hstand⟩ := held_points_stand junction_points_guarded hstarted
    junctionPointRun hblocking (by decide) (i := 1) rfl (by decide)
  have hlast : LastGrantedAt junctionRoutes junctionBlocking junctionPointRun "right" 2 := by
    decide
  exact ⟨hstarted, by decide, hstand 2 "T2" ⟨"right", []⟩ ⟨hlast, rfl⟩ rfl ("p", .reverse)
    (by decide)⟩

end Session

end Signalbox
