import Signalbox.Proofs.PointPositions
import Signalbox.Proofs.Shutdown

/-!
Faults of grants, releases and drives. All of them are what commands to the signals and points of
routes meet. As long as the track knows the signals and points of all routes, none of these
commands fails but for a jam.
-/
namespace Signalbox

namespace Interlocking

def pointRefusal? (il : Interlocking) (p : PointId) : Option TrackFault :=
  if il.track.jammed p then some (.jammedPoint p)
  else if (il.track.point p).isNone then some (.unknownPoint p)
  else none

/-- The fault is the refusal of a signal or point that is jammed. -/
def Refuses (il : Interlocking) (f : TrackFault) : Prop :=
  ∃ id, il.track.jammed id = true ∧ (f = .jammedSignal id ∨ f = .jammedPoint id)

/-- The track knows the signals and the points of all routes. -/
structure Equipped (reg : Registry) (il : Interlocking) : Prop where
  signals : ∀ r ∈ reg.routes, ∀ q ∈ r.signals, (il.track.aspect q).isSome = true
  points : ∀ r ∈ reg.routes, ∀ p ∈ r.pointIds, (il.track.point p).isSome = true

/-- What is jammed stays so, and no signal or point is lost. -/
structure Retains (il il' : Interlocking) : Prop where
  jammed : ∀ id, il.track.jammed id = true → il'.track.jammed id = true
  signals : ∀ q, (il.track.aspect q).isSome = true → (il'.track.aspect q).isSome = true
  points : ∀ p, (il.track.point p).isSome = true → (il'.track.point p).isSome = true

/-! ### Commands to points -/

section Points

variable (il : Interlocking)

theorem isSome_point_commandPoint (p q : PointId) (position : PointPosition) :
    ((il.commandPoint p position).1.track.point q).isSome = (il.track.point q).isSome := by
  unfold commandPoint
  split
  · rename_i track h
    obtain ⟨-, hsome, rfl⟩ := Track.setPoint_eq_ok_iff.mp h
    by_cases hq : q = p
    · subst hq
      simp [hsome]
    · simp [hq]
  · rfl

theorem commandPoint_snd (p : PointId) (position : PointPosition) :
    (il.commandPoint p position).2 = il.pointRefusal? p := by
  unfold commandPoint Track.setPoint pointRefusal?
  by_cases hjammed : il.track.jammed p = true
  · simp [hjammed]
  · cases hpoint : il.track.point p <;> simp [hjammed]

theorem pointRefusal?_commandPoint (p : PointId) (position : PointPosition) :
    (il.commandPoint p position).1.pointRefusal? = il.pointRefusal? := by
  funext q
  unfold pointRefusal?
  rw [(track_commandPoint il p position).2, ← Option.not_isSome, ← Option.not_isSome,
    isSome_point_commandPoint]

theorem commandPoints_snd (commands : List (PointId × PointPosition)) :
    (il.commandPoints commands).2 = (commands.map (·.1)).filterMap il.pointRefusal? := by
  unfold commandPoints
  induction commands generalizing il with
  | nil => rfl
  | cons c rest ih =>
    have hrest := ih (il.commandPoint c.1 c.2).1
    rw [pointRefusal?_commandPoint] at hrest
    rw [List.map_cons, commandAll]
    dsimp only
    rw [hrest, commandPoint_snd, List.filterMap_cons]
    cases il.pointRefusal? c.1 <;> rfl

theorem isSome_point_commandPoints (commands : List (PointId × PointPosition)) (q : PointId) :
    ((il.commandPoints commands).1.track.point q).isSome = (il.track.point q).isSome := by
  apply commandAll_invariant fun il => (il.track.point q).isSome
  intro il c
  exact isSome_point_commandPoint il c.1 q c.2

end Points

/-! ### What is retained -/

section Retains

variable {il il' : Interlocking} {reg : Registry} {f : TrackFault}

theorem Retains.of_sameSignals (h : SameSignals il il')
    (hpoints : ∀ p, (il'.track.point p).isSome = (il.track.point p).isSome) : Retains il il' where
  jammed id hid := by rw [h.jammed, hid]
  signals q hq := by rw [h.reports, hq]
  points p hp := by rw [hpoints, hp]

theorem retains_of_track_eq (h : il'.track = il.track) : Retains il il' :=
  .of_sameSignals (sameSignals_of_track_eq h) fun p => by rw [h]

theorem Withdraws.retains {noted : Event → Bool} (h : Withdraws reg noted il il') :
    Retains il il' :=
  .of_sameSignals h.sameSignals fun p => by rw [h.point_eq]

theorem retains_commit (il : Interlocking) (reg : Registry) (train : TrainId) (i : RouteIndex)
    (r : Route) : Retains il (il.commit reg train i r).1 := by
  refine .of_sameSignals (sameSignals_commit il reg train i r) fun p => ?_
  rw [point_commit, isSome_point_commandPoints]
  rfl

theorem Attempt.retains {policy : ConflictPolicy} (h : Attempt reg policy il il') :
    Retains il il' := by
  cases h with
  | refused h => exact retains_of_track_eq h.track_eq
  | granted hr h => exact retains_commit ..

theorem Equipped.retained (h : Equipped reg il) (hretains : Retains il il') :
    Equipped reg il' where
  signals r hr q hq := hretains.signals q (h.signals r hr q hq)
  points r hr p hp := hretains.points p (h.points r hr p hp)

theorem Refuses.retained (h : il.Refuses f) (hretains : Retains il il') : il'.Refuses f := by
  obtain ⟨id, hjammed, hf⟩ := h
  exact ⟨id, hretains.jammed id hjammed, hf⟩

end Retains

/-! ### Faults of grants and releases -/

section Faults

variable {il : Interlocking} {reg : Registry} {policy : ConflictPolicy} {train : TrainId}
  {i : RouteIndex} {id : RouteId} {r : Route} {f : TrackFault}

theorem Equipped.refuses (h : Equipped reg il) (hr : r ∈ reg.routes) {q : SignalId}
    (hq : q ∈ r.signals) (hf : il.refusal? q = some f) : il.Refuses f := by
  unfold refusal? at hf
  split at hf
  · rename_i hjammed
    cases hf
    exact ⟨q, hjammed, .inl rfl⟩
  · split at hf
    · rename_i hnone
      have hsome := h.signals r hr q hq
      rw [← Option.not_isSome, hsome] at hnone
      cases hnone
    · cases hf

theorem Equipped.refuses_point (h : Equipped reg il) (hr : r ∈ reg.routes) {p : PointId}
    (hp : p ∈ r.pointIds) (hf : il.pointRefusal? p = some f) : il.Refuses f := by
  unfold pointRefusal? at hf
  split at hf
  · rename_i hjammed
    cases hf
    exact ⟨p, hjammed, .inr rfl⟩
  · split at hf
    · rename_i hnone
      have hsome := h.points r hr p hp
      rw [← Option.not_isSome, hsome] at hnone
      cases hnone
    · cases hf

theorem commit_faults (il : Interlocking) (reg : Registry) (train : TrainId) (i : RouteIndex)
    (r : Route) : (il.commit reg train i r).2.faults =
      r.pointIds.filterMap il.pointRefusal? ++ r.passedSignals.filterMap il.refusal? := by
  let taken := (il.setHolder i (some train)).record (.route r.id (.granted train))
  have hpoints : (taken.commandPoints r.points).2 = r.pointIds.filterMap il.pointRefusal? :=
    commandPoints_snd taken r.points
  have hrefusal : (taken.commandPoints r.points).1.refusal? = il.refusal? := by
    funext q
    simp [refusal?, taken]
  have hsignals := commandSignals_snd (taken.commandPoints r.points).1
    (proceedAspect reg.topology) r.passedSignals
  rw [hrefusal] at hsignals
  rw [← hpoints, ← hsignals]
  rfl

theorem refuses_of_commit (h : Equipped reg il) (hr : reg.route? i = some r)
    (hf : f ∈ (il.commit reg train i r).2.faults) : il.Refuses f := by
  have hlisted := List.mem_of_getElem? hr
  rw [commit_faults] at hf
  rcases List.mem_append.mp hf with hpoint | hsignal
  · obtain ⟨p, hp, hfault⟩ := List.mem_filterMap.mp hpoint
    exact h.refuses_point hlisted hp hfault
  · obtain ⟨q, hq, hfault⟩ := List.mem_filterMap.mp hsignal
    exact h.refuses hlisted (List.dropLast_subset _ hq) hfault

theorem refuses_of_grant {g : Grant} (h : Equipped reg il)
    (hg : (il.grant reg policy train i).2 = .ok g) (hf : f ∈ g.faults) : il.Refuses f := by
  have hadmits := grant_isOk_iff.mp (by rw [hg]; rfl)
  obtain ⟨r, hr⟩ := exists_route_of_isClear hadmits.clear
  rw [grant_of_admits hr hadmits, Except.ok.injEq] at hg
  rw [← hg] at hf
  exact refuses_of_commit h hr hf

theorem refuses_of_grantRoute {g : Grant} (h : Equipped reg il)
    (hg : (il.grantRoute reg policy train id).2 = .ok g) (hf : f ∈ g.faults) : il.Refuses f := by
  unfold grantRoute at hg
  cases hi : indexOf reg id with
  | error e => simp [hi] at hg
  | ok i =>
    rw [hi] at hg
    exact refuses_of_grant h hg hf

theorem grantRoute_ne_fault (f : TrackFault) :
    (il.grantRoute reg policy train id).2 ≠ .error (.track f) := by
  unfold grantRoute indexOf
  cases reg.index? id with
  | none => simp
  | some i =>
    dsimp only
    unfold grant
    cases reg.route? i with
    | none => simp
    | some r =>
      dsimp only
      split
      · simp
      · split
        · simp
        · split <;> simp

theorem requestRoute_ne_fault (request : RouteRequest) (f : TrackFault) :
    (il.requestRoute reg policy request).2 ≠ .error (.track f) := by
  unfold requestRoute
  split
  · simp
  · split <;> simp

theorem exists_refusal_of_release (hf : (il.release reg i).2 = .error (.track f)) :
    ∃ r q, reg.route? i = some r ∧ q ∈ r.signals ∧ il.refusal? q = some f := by
  cases hr : reg.route? i with
  | none => simp [release, hr] at hf
  | some r =>
    cases held : il.isHeld i with
    | false => simp [release, hr, held] at hf
    | true =>
      rw [release_snd_of_held hr held] at hf
      cases hfirst : r.signals.findSome? il.refusal? with
      | none => simp [hfirst] at hf
      | some f' =>
        obtain rfl : f' = f := by simpa [hfirst] using hf
        obtain ⟨q, hq, hrefusal⟩ := List.exists_of_findSome?_eq_some hfirst
        exact ⟨r, q, rfl, hq, hrefusal⟩

theorem refuses_of_release (h : Equipped reg il)
    (hf : (il.release reg i).2 = .error (.track f)) : il.Refuses f := by
  obtain ⟨r, q, hr, hq, hrefusal⟩ := exists_refusal_of_release hf
  exact h.refuses (List.mem_of_getElem? hr) hq hrefusal

theorem refuses_of_releaseRoute (h : Equipped reg il)
    (hf : (il.releaseRoute reg id).2 = .error (.track f)) : il.Refuses f := by
  unfold releaseRoute indexOf at hf
  cases hi : reg.index? id with
  | none => simp [hi] at hf
  | some i =>
    rw [hi] at hf
    apply refuses_of_release h
    cases hresult : (il.release reg i).2 with
    | ok released => simp [hresult, Except.map] at hf
    | error e =>
      simp only [hresult, Except.map, Except.error.injEq] at hf
      rw [hf]

theorem refuses_of_releaseIfHeldBy (h : Equipped reg il)
    (hf : (il.releaseIfHeldBy reg id train).2 = .error (.track f)) : il.Refuses f := by
  unfold releaseIfHeldBy indexOf at hf
  cases hi : reg.index? id with
  | none => simp [hi] at hf
  | some i =>
    rw [hi] at hf
    dsimp only at hf
    split at hf
    · exact refuses_of_release h hf
    · cases hf

theorem refuses_of_firstFault? {held : RouteIndex → Bool} {places : List RouteIndex}
    (h : Equipped reg il) (hf : firstFault? reg held il.refusal? places = some f) :
    il.Refuses f := by
  obtain ⟨i, -, hplace⟩ := List.exists_of_findSome?_eq_some hf
  split at hplace
  · obtain ⟨r, hr, hfirst⟩ := Option.bind_eq_some_iff.mp hplace
    obtain ⟨q, hq, hrefusal⟩ := List.exists_of_findSome?_eq_some hfirst
    exact h.refuses (List.mem_of_getElem? hr) hq hrefusal
  · cases hplace

theorem refuses_of_releaseAll (h : Equipped reg il)
    (hf : (il.releaseAll reg).2 = .error (.track f)) : il.Refuses f := by
  rw [releaseAll_snd] at hf
  cases hfirst : firstFault? reg il.isHeld il.refusal? (List.range reg.size) with
  | none => simp [hfirst] at hf
  | some f' =>
    obtain rfl : f' = f := by simpa [hfirst] using hf
    exact refuses_of_firstFault? h hfirst

end Faults

end Interlocking

/-! ### Faults of drives -/

namespace Drive

open Interlocking

variable {reg : Registry} {d : Drive} {P : TrackFault → Prop}

theorem stopSignals_faults {signals : List SignalId} {il : Interlocking} {p : Progress}
    (hp : ∀ f ∈ p.faults, P f) (hil : ∀ q ∈ signals, ∀ f, il.refusal? q = some f → P f) :
    ∀ f ∈ (stopSignals il p signals).2.faults, P f := by
  induction signals generalizing il p with
  | nil => exact hp
  | cons s rest ih =>
    have hsame := (sameSignals_commandSignal il s .stop).refusal?_eq
    have hfault := commandSignal_snd il s .stop
    rw [List.forall_mem_cons] at hil
    unfold stopSignals
    cases hs : il.commandSignal s .stop with
    | mk next fault =>
      rw [hs] at hsame hfault
      dsimp only at hsame hfault
      have hrest : ∀ q ∈ rest, ∀ f, next.refusal? q = some f → P f := fun q hq f hf =>
        hil.2 q hq f (by rw [← hsame, hf])
      cases fault with
      | none =>
        refine ih ?_ hrest
        exact hp
      | some f =>
        dsimp only
        split
        · exact ih hp hrest
        · refine ih ?_ hrest
          intro f' hf'
          rcases List.mem_append.mp hf' with hbefore | hnew
          · exact hp f' hbefore
          · rw [List.mem_singleton.mp hnew]
            exact hil.1 f hfault.symm

section OnRoute

variable {r : Route} (hr : reg.find? d.route = some r) {il : Interlocking} {p : Progress}
  (hp : ∀ f ∈ p.faults, P f) (hil : ∀ q ∈ r.signals, ∀ f, il.refusal? q = some f → P f)
include hr hp hil

theorem releaseRoute_faults : ∀ f ∈ (releaseRoute reg d il p).1.faults, P f := by
  obtain ⟨i, hi, hri⟩ := Option.bind_eq_some_iff.mp hr
  have hfault {f : TrackFault}
      (hf : (il.releaseIfHeldBy reg d.route d.train).2 = .error (.track f)) : P f := by
    simp only [releaseIfHeldBy, indexOf, hi] at hf
    split at hf
    · obtain ⟨r', q, hr', hq, hrefusal⟩ := exists_refusal_of_release hf
      obtain rfl : r = r' := Option.some.inj (hri.symm.trans hr')
      exact hil q hq f hrefusal
    · cases hf
  unfold releaseRoute
  cases hanswer : il.releaseIfHeldBy reg d.route d.train with
  | mk next result =>
    rw [hanswer] at hfault
    cases result with
    | ok released => cases released <;> exact hp
    | error e =>
      cases e with
      | track f =>
        intro f' hf'
        rcases List.mem_append.mp hf' with hbefore | hnew
        · exact hp f' hbefore
        · rw [List.mem_singleton.mp hnew]
          exact hfault rfl
      | notGrantable | notClear | invalid => exact hp

theorem arrive_faults : ∀ f ∈ (arrive reg d il p).1.faults, P f := by
  unfold arrive
  cases (reg.find? d.route).bind Route.lastSegment? with
  | none => exact releaseRoute_faults hr hp hil
  | some last =>
    dsimp only
    split
    · exact hp
    · split
      · exact releaseRoute_faults hr hp hil
      · exact hp

theorem proceed_faults : ∀ f ∈ (proceed reg d il p).1.faults, P f := by
  unfold proceed
  split
  · exact hp
  · cases d.mode with
    | manual => exact hp
    | automatic => exact arrive_faults hr hp hil

end OnRoute

theorem begin_faults (reg : Registry) (d : Drive) (il : Interlocking) :
    (d.begin reg il).1.faults = d.faults := by
  have hbegun := begin_begun reg d il
  generalize d.begin reg il = result at hbegun ⊢
  cases hbegun with
  | already => rfl
  | refused hfresh => simp [faults, finish, Outcome.faults, hfresh]
  | started hfresh houtset =>
    obtain ⟨r, q, -, -, rfl⟩ := start_of_outset houtset
    simp [faults, hfresh]

theorem watch_faults (h : d.OnRoute reg) {il : Interlocking} (hd : ∀ f ∈ d.faults, P f)
    (hil : ∀ r, reg.find? d.route = some r → ∀ q ∈ r.signals, ∀ f, il.refusal? q = some f → P f) :
    ∀ f ∈ (d.watch reg il).1.faults, P f := by
  unfold watch
  cases hphase : d.phase with
  | initializing | ended => exact hd
  | arriving p =>
    obtain ⟨r, hr, -⟩ := h.route p (by simp [progress?, hphase])
    have hp : ∀ f ∈ p.faults, P f := by simpa [faults, hphase] using hd
    dsimp only
    split
    · exact hp
    · exact arrive_faults hr hp (hil r hr)
  | progressing p =>
    obtain ⟨r, hr, hsignals⟩ := h.route p (by simp [progress?, hphase])
    have hp : ∀ f ∈ p.faults, P f := by simpa [faults, hphase] using hd
    dsimp only
    split
    · exact hp
    · split
      · exact hp
      · refine proceed_faults hr (stopSignals_faults hp ?_) ?_
        · intro s hs
          apply hil r hr
          rw [← hsignals, ← Progression.records_advance p.progression (il.track.position d.train)]
          exact Progression.mem_signals_of_mem_due hs
        · intro q hq f hf
          rw [(stopSignals_resembles il _ _).refusal?_eq] at hf
          exact hil r hr q hq f hf

/-- The faults of a drive after a pass are those that it had, and what commands to signals of its
route meet. -/
theorem pass_faults (h : d.OnRoute reg) {il : Interlocking} (hd : ∀ f ∈ d.faults, P f)
    (hil : ∀ r, reg.find? d.route = some r → ∀ q ∈ r.signals, ∀ f, il.refusal? q = some f → P f) :
    ∀ f ∈ (d.pass reg il).1.faults, P f := by
  have hfaults : ∀ f ∈ (d.begin reg il).1.faults, P f := by rwa [begin_faults]
  have hrefused (q : SignalId) : (d.begin reg il).2.refusal? q = il.refusal? q :=
    (sameSignals_of_track_eq (onlyNotes_begin reg d il).track).refusal?_eq q
  rw [pass]
  refine watch_faults (h.begin il) hfaults fun r hr q hq f hf => ?_
  rw [(train_route_begin reg d il).2] at hr
  exact hil r hr q hq f ((hrefused q).symm.trans hf)

theorem outcomeOnCancel_faults (reg : Registry) (d : Drive) :
    (d.outcomeOnCancel reg).faults = d.faults := by
  unfold outcomeOnCancel outcome? faults
  cases d.phase <;> rfl

end Drive

end Signalbox
