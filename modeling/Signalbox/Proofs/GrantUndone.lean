import Signalbox.Proofs.FailSafe
import Signalbox.Proofs.GrantEffects

/-!
A grant and the release that follows it. A route is granted only when all its signals show stop,
and the release stops them again, so nothing is left of the grant but the points that it has moved.
-/
namespace Signalbox

namespace Track

theorem follow_after_points (t : Track) (o : Orders) :
    ({ t with point := (t.follow o).point } : Track).follow o = t.follow o := by
  simp only [follow, obeyed_obeyed, Option.or_self]

theorem follow_releaseOrders_of_stopped {t : Track} {r : Route}
    (stopped : ∀ q ∈ r.signals, t.aspect q = some .stop) : t.follow r.releaseOrders = t := by
  have haspect (q : SignalId) :
      obeyed (t.jammed q) (t.aspect q) (r.releaseOrders.aspect q) = t.aspect q := by
    unfold Route.releaseOrders
    by_cases hq : q ∈ r.signals
    · simp [hq, stopped q hq, obeyed]
    · simp [hq]
  unfold follow
  simp only [haspect]
  simp [Route.releaseOrders]

theorem follow_grant_release {t : Track} (topology : Topology) {r : Route}
    (stopped : ∀ q ∈ r.signals, t.aspect q = some .stop) :
    (t.follow (r.grantOrders topology)).follow r.releaseOrders =
      { t with point := (t.follow (r.grantOrders topology)).point } := by
  have hreleased := follow_releaseOrders_of_stopped stopped
  have haspect : (t.follow ((r.grantOrders topology).andThen r.releaseOrders)).aspect =
      (t.follow r.releaseOrders).aspect := by
    funext q
    simp only [follow, Orders.andThen, Route.grantOrders, Route.releaseOrders]
    by_cases hq : q ∈ r.signals
    · simp [hq]
    · have hpassed : q ∉ r.passedSignals := fun h => hq (List.dropLast_subset _ h)
      simp [hq, hpassed]
  rw [hreleased] at haspect
  rw [follow_follow, ← haspect]
  unfold follow Orders.andThen Route.releaseOrders
  simp

end Track

namespace Interlocking

variable {il : Interlocking} {reg : Registry} {policy : ConflictPolicy} {train : TrainId}
  {i : RouteIndex} {r : Route}

theorem isHeld_commit (il : Interlocking) (reg : Registry) (train : TrainId) (i : RouteIndex)
    (r : Route) : (il.commit reg train i r).1.isHeld i = true := by
  simp [isHeld, holder_commit]

section Undone

variable (hr : reg.route? i = some r) (train)
include hr

theorem holder_commit_release (free : il.isHeld i = false) :
    ((il.commit reg train i r).1.release reg i).1.holder = il.holder := by
  have hfree : il.holder i = none := by simpa [isHeld] using free
  funext j
  rw [holder_release, holder_commit, hr]
  by_cases hj : j = i
  · subst hj
    simp [hfree]
  · simp [hj]

theorem track_commit_release (stopped : ∀ q ∈ r.signals, il.track.aspect q = some .stop) :
    ((il.commit reg train i r).1.release reg i).1.track =
      { il.track with point := (il.commit reg train i r).1.track.point } := by
  rw [track_release hr (isHeld_commit il reg train i r), track_commit,
    Track.follow_grant_release reg.topology stopped]

theorem admits_after_release (h : il.Admits reg policy train i) :
    ((il.commit reg train i r).1.release reg i).1.Admits reg policy train i := by
  have hstopped := ((isClear_iff hr).mp h.clear).1
  have hholder := holder_commit_release train hr (isHeld_of_isGrantable h.grantable)
  have htrack := track_commit_release train hr hstopped
  refine h.of_worsens hholder.symm ⟨?_, ?_⟩
  · intro segment hoccupied
    rwa [htrack] at hoccupied
  · intro q
    rw [htrack]
    exact .inl rfl

theorem track_commit_again (stopped : ∀ q ∈ r.signals, il.track.aspect q = some .stop) :
    (((il.commit reg train i r).1.release reg i).1.commit reg train i r).1.track =
      (il.commit reg train i r).1.track := by
  rw [track_commit, track_commit_release train hr stopped, track_commit,
    Track.follow_after_points]

end Undone

/-- When a route has been granted and is released with nothing in between, the same routes are held
as before and every signal shows what it has shown. Only points of the route may stand otherwise,
whether or not the release meets a fault. The route can then be granted again, which meets the same
faults and leads to where the first grant has led. -/
theorem release_undoes_grant {g : Grant} (hr : reg.route? i = some r)
    (granted : (il.grant reg policy train i).2 = .ok g) :
    let held := (il.grant reg policy train i).1
    let freed := (held.release reg i).1
    let again := freed.grant reg policy train i
    freed.holder = il.holder ∧
      freed.track = { il.track with point := freed.track.point } ∧
      (∀ p ∉ r.pointIds, freed.track.point p = il.track.point p) ∧
      (held.release reg i).2 =
        (match r.signals.findSome? il.refusal? with
          | none => .ok true
          | some f => .error (.track f)) ∧
      again.2 = .ok g ∧ again.1.holder = held.holder ∧ again.1.track = held.track := by
  have hadmits : il.Admits reg policy train i := grant_isOk_iff.mp (by rw [granted]; rfl)
  have hstopped := ((isClear_iff hr).mp hadmits.clear).1
  have hagain := admits_after_release train hr hadmits
  rw [grant_of_admits hr hadmits, Except.ok.injEq, commit_snd] at granted
  rw [grant_of_admits hr hadmits]
  intro held freed again
  have hheld : held.isHeld i = true := isHeld_commit il reg train i r
  have hrefusal : held.refusal? = il.refusal? := refusal?_of_follow (track_commit ..)
  have hpoint : held.pointRefusal? = il.pointRefusal? := pointRefusal?_of_follow (track_commit ..)
  have hreleased : freed.track = held.track.follow r.releaseOrders := track_release hr hheld
  have hholder : freed.holder = il.holder :=
    holder_commit_release train hr (isHeld_of_isGrantable hadmits.grantable)
  refine ⟨hholder, ?_, ?_, ?_, ?_, ?_, ?_⟩
  · rw [show freed.track = _ from track_commit_release train hr hstopped]
  · intro p hp
    rw [point_release, point_commit_of_not_mem il reg train i hp]
  · have hrelease := release_snd_of_held hr hheld
    rw [hrefusal] at hrelease
    exact hrelease
  · rw [show again = _ from grant_of_admits hr hagain, commit_snd, refusal?_of_follow hreleased,
      pointRefusal?_of_follow hreleased, hrefusal, hpoint, granted]
  · rw [show again = _ from grant_of_admits hr hagain]
    funext j
    rw [holder_commit, holder_commit, hholder]
  · rw [show again = _ from grant_of_admits hr hagain]
    exact track_commit_again train hr hstopped

/-- The grant of a route whose point and whose second signal are jammed opens its first signal
alone, which the release stops. -/
theorem junction_faulty_grant_undone :
    let il := (Session.junctionSession.operateAll junctionRoutes
      [.command (.jam "m"), .command (.jam "p"), .command (.lose "u")]).interlocking
    let held := (il.grant junctionRoutes .sectional "T1" 0).1
    let freed := (held.release junctionRoutes 0).1
    let again := freed.grant junctionRoutes .sectional "T1" 0
    held.track.aspect "s" = some .go ∧ freed.track.aspect "s" = some .stop ∧
      (held.release junctionRoutes 0).2 = .error (.track (.jammedSignal "m")) ∧
      freed.holder = il.holder ∧
      again.2 = .ok ⟨"left", [.jammedPoint "p", .jammedSignal "m"]⟩ ∧
      again.1.track = held.track := by
  intro il held freed again
  have hgranted : (il.grant junctionRoutes .sectional "T1" 0).2 =
      .ok ⟨"left", [.jammedPoint "p", .jammedSignal "m"]⟩ := by decide
  obtain ⟨hholder, htrack, -, hrelease, hagain, -, hsame⟩ :=
    release_undoes_grant (r := junction.routes[0]) rfl hgranted
  refine ⟨by decide, ?_, hrelease, hholder, hagain, hsame⟩
  rw [show freed.track = _ from htrack]
  decide

end Interlocking

end Signalbox
