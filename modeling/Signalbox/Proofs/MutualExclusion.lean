import Signalbox.Proofs.HeldConflicts
import Signalbox.Proofs.SectionalCheck

/-!
Conflicts under the sectional policy. A grant opens signals, and they stay open while nothing is
done but to ask for further routes. A conflicting route is kept out by them if it lists one of
them, or if they admit traffic to a segment that it shares. Otherwise it is granted as well.
-/
namespace Signalbox

/-- Whether traffic may enter the section around a segment once the route has been granted. A
segment of no section and an undeclared entry signal count as admitting it. -/
def Route.AdmitsInto (topology : Topology) (r : Route) (segment : SegmentId) : Prop :=
  ∀ enclosing, topology.section? segment = some enclosing →
    ∃ q ∈ enclosing.entry, q ∈ r.passedSignals ∨ topology.isSignal q = false

/-- What bars a route from being granted while another one is held that it conflicts with. -/
inductive Barred (topology : Topology) (held requested : Route) : Prop
  | opened {q : SignalId} (h : q ∈ held.passedSignals) (listed : q ∈ requested.signals)
  | undeclared {q : SignalId} (h : topology.isSignal q = false) (listed : q ∈ requested.signals)
  | admitted {c : SegmentId} (h : held.AdmitsInto topology c) (ofHeld : .segment c ∈ held.path)
    (ofRequested : .segment c ∈ requested.path)

namespace Sectional

theorem check_safe_iff_of_vacant {reg : Registry} {track : Track} {held requested : RouteIndex}
    {h r : Route} (hheld : reg.route? held = some h) (hrequested : reg.route? requested = some r)
    (long : 2 ≤ h.path.length) (full : r.path ≠ [])
    (vacant : ∀ c, track.isOccupied c = false) :
    (check reg track held requested).safe = true ↔
      ∀ c, .segment c ∈ h.path → .segment c ∈ r.path →
        entryPermitted reg.topology track c = false := by
  rw [check_eq_walk hheld hrequested long full, walk_safe_iff _ _ _ _ _ (.inl rfl)]
  constructor
  · intro hsafe c hc hshared
    obtain ⟨i, hi⟩ := List.mem_iff_getElem?.mp hc
    exact (hsafe i c hi (List.contains_iff_mem.mpr hshared)).1
  · intro hclosed i c hi hshared
    refine ⟨hclosed c (List.mem_of_getElem? hi) (List.contains_iff_mem.mp hshared), ?_⟩
    exact (vacatedToSignal_safe_iff track _).mpr fun _ _ c _ => vacant c

end Sectional

namespace Interlocking

theorem isPermissive_proceedAspect (topology : Topology) (s : SignalId) :
    (proceedAspect topology s).isPermissive = true := by
  unfold proceedAspect
  cases (topology.kind? s).getD .main <;> rfl

theorem isClear_iff {il : Interlocking} {reg : Registry} {i : RouteIndex} {r : Route}
    (hr : reg.route? i = some r) :
    il.isClear reg i = true ↔
      (∀ q ∈ r.signals, il.track.aspect q = some .stop) ∧
        ∀ c ∈ r.segments, il.track.isOccupied c = false := by
  simp [isClear, hr, routeIsClear]

/-! ### Occupancy -/

section Occupancy

variable (il : Interlocking)

theorem isOccupied_commandSignal (s : SignalId) (a : Aspect) :
    (il.commandSignal s a).1.track.isOccupied = il.track.isOccupied := by
  unfold commandSignal
  split
  · rename_i track h
    obtain ⟨-, -, rfl⟩ := Track.setAspect_eq_ok_iff.mp h
    rfl
  · rfl

theorem isOccupied_commandPoint (p : PointId) (position : PointPosition) :
    (il.commandPoint p position).1.track.isOccupied = il.track.isOccupied := by
  unfold commandPoint
  split
  · rename_i track h
    obtain ⟨-, -, rfl⟩ := Track.setPoint_eq_ok_iff.mp h
    rfl
  · rfl

theorem view_commit {α : Type} (view : Track → α)
    (signal : ∀ il s a, view (commandSignal il s a).1.track = view il.track)
    (point : ∀ il p position, view (commandPoint il p position).1.track = view il.track)
    (reg : Registry) (train : TrainId) (i : RouteIndex) (r : Route) :
    view (il.commit reg train i r).1.track = view il.track := by
  have signals (il : Interlocking) (commands : List (SignalId × Aspect)) :
      view (il.commandSignals commands).1.track = view il.track := by
    apply commandAll_invariant (view ·.track)
    intro il c
    exact signal il c.1 c.2
  have points (il : Interlocking) (commands : List (PointId × PointPosition)) :
      view (il.commandPoints commands).1.track = view il.track := by
    apply commandAll_invariant (view ·.track)
    intro il c
    exact point il c.1 c.2
  unfold commit
  rw [signals, points]
  rfl

theorem isOccupied_commit (reg : Registry) (train : TrainId) (i : RouteIndex) (r : Route) :
    (il.commit reg train i r).1.track.isOccupied = il.track.isOccupied :=
  view_commit il (·.isOccupied) isOccupied_commandSignal isOccupied_commandPoint reg train i r

end Occupancy

/-! ### After a grant -/

/-- The route is held on a vacant track, and all its signals but the last admit traffic. -/
structure HeldOpen (reg : Registry) (i : RouteIndex) (r : Route) (il : Interlocking) : Prop where
  held : il.isHeld i = true
  opened : ∀ q ∈ r.passedSignals, ∃ a, il.track.aspect q = some a ∧ a.isPermissive = true
  undeclared : ∀ q, reg.topology.isSignal q = false → il.track.aspect q = none
  vacant : ∀ c, il.track.isOccupied c = false

namespace HeldOpen

variable {reg : Registry} {policy : ConflictPolicy} {a b : RouteIndex} {ra rb : Route}
  {il il' : Interlocking}

theorem attempt (h : HeldOpen reg a ra il) (hattempt : Attempt reg policy il il') :
    HeldOpen reg a ra il' := by
  cases hattempt with
  | refused hrefused =>
    refine ⟨?_, ?_, ?_, ?_⟩
    · rw [isHeld, hrefused.holder_eq]
      exact h.held
    · rw [hrefused.track_eq]
      exact h.opened
    · rw [hrefused.track_eq]
      exact h.undeclared
    · rw [hrefused.track_eq]
      exact h.vacant
  | @granted train j other hother hadmits =>
    constructor
    case held =>
      rw [isHeld, holder_commit]
      split
      · rfl
      · exact h.held
    case opened =>
      intro q hq
      rw [aspect_commit]
      split
      · exact ⟨_, rfl, isPermissive_proceedAspect reg.topology q⟩
      · exact h.opened q hq
    case undeclared =>
      -- A signal that reports nothing takes no command, so it stays without an aspect.
      intro q hq
      have hnone := h.undeclared q hq
      rw [aspect_commit, if_neg, hnone]
      rintro ⟨-, hobeys⟩
      simp [obeys, hnone] at hobeys
    case vacant =>
      rw [isOccupied_commit]
      exact h.vacant

theorem entryPermitted_of_admitsInto (h : HeldOpen reg a ra il) {c : SegmentId}
    (hadmits : ra.AdmitsInto reg.topology c) :
    Sectional.entryPermitted reg.topology il.track c = true := by
  unfold Sectional.entryPermitted Topology.entrySignals?
  cases hsection : reg.topology.section? c with
  | none => rfl
  | some enclosing =>
    obtain ⟨q, hq, hopen⟩ := hadmits enclosing hsection
    refine List.any_eq_true.mpr ⟨q, hq, ?_⟩
    rcases hopen with hpassed | hundeclared
    · obtain ⟨aspect, haspect, hpermissive⟩ := h.opened q hpassed
      rw [haspect]
      exact hpermissive
    · rw [h.undeclared q hundeclared]
      rfl

theorem not_admits (h : HeldOpen reg a ra il) (ha : reg.route? a = some ra)
    (hb : reg.route? b = some rb) (hne : a ≠ b) (hconflict : a ∈ reg.conflicts b)
    (long : 2 ≤ ra.path.length) (full : rb.path ≠ []) (hbarred : Barred reg.topology ra rb)
    (train : TrainId) : ¬ il.Admits reg policy train b := by
  intro hadmits
  have hstop := ((isClear_iff hb).mp hadmits.clear).1
  cases hbarred with
  | @opened q hpassed hlisted =>
    obtain ⟨aspect, haspect, hpermissive⟩ := h.opened q hpassed
    rw [hstop q hlisted, Option.some.injEq] at haspect
    subst haspect
    cases hpermissive
  | @undeclared q hundeclared hlisted =>
    have hnone := h.undeclared q hundeclared
    rw [hstop q hlisted] at hnone
    cases hnone
  | @admitted c hinto hheld hrequested =>
    -- The clearance does not see this case, but the check of the held route does.
    have hsafe := (sectional_of_grantable hadmits.grantable hne hconflict h.held).2
    rw [Sectional.check_safe_iff_of_vacant ha hb long full h.vacant] at hsafe
    have hclosed := hsafe c hheld hrequested
    rw [h.entryPermitted_of_admitsInto hinto] at hclosed
    cases hclosed

end HeldOpen

section FirstGrant

variable (reg : Registry) (train : TrainId) (a : RouteIndex) (ra : Route)

def afterFirst : Interlocking := ((initial reg.topology).commit reg train a ra).1

theorem aspect_initial (topology : Topology) (q : SignalId) :
    (initial topology).track.aspect q = if topology.isSignal q then some .stop else none := rfl

theorem obeys_initial (topology : Topology) (q : SignalId) :
    (initial topology).obeys q = topology.isSignal q := by
  cases hq : topology.isSignal q <;> simp [obeys, initial, Track.initial, hq]

theorem aspect_afterFirst (q : SignalId) :
    (afterFirst reg train a ra).track.aspect q =
      if reg.topology.isSignal q then
        some (if q ∈ ra.passedSignals then proceedAspect reg.topology q else .stop)
      else none := by
  rw [afterFirst, aspect_commit, aspect_initial, obeys_initial]
  by_cases hpassed : q ∈ ra.passedSignals <;> by_cases hq : reg.topology.isSignal q = true <;>
    simp [hpassed, hq]

theorem vacant_afterFirst (c : SegmentId) :
    (afterFirst reg train a ra).track.isOccupied c = false := by
  rw [afterFirst, isOccupied_commit]
  rfl

theorem isHeld_afterFirst_iff (j : RouteIndex) :
    (afterFirst reg train a ra).isHeld j = true ↔ j = a := by
  rw [afterFirst, isHeld, holder_commit]
  by_cases hj : j = a <;> simp [hj, initial]

variable {reg train a ra}

theorem admitsInto_of_entryPermitted {c : SegmentId}
    (h : Sectional.entryPermitted reg.topology (afterFirst reg train a ra).track c = true) :
    ra.AdmitsInto reg.topology c := by
  intro enclosing hsection
  simp only [Sectional.entryPermitted, Topology.entrySignals?, hsection, Option.map_some] at h
  obtain ⟨q, hq, hopen⟩ := List.any_eq_true.mp h
  refine ⟨q, hq, ?_⟩
  rw [aspect_afterFirst] at hopen
  by_cases hpassed : q ∈ ra.passedSignals
  · exact .inl hpassed
  · cases hdeclared : reg.topology.isSignal q with
    | false => exact .inr rfl
    | true => simp [hdeclared, hpassed, Aspect.isPermissive] at hopen

variable {policy : ConflictPolicy} {b : RouteIndex} {rb : Route}

theorem heldOpen_afterFirst (ha : reg.route? a = some ra)
    (hadmits : (initial reg.topology).Admits reg policy train a) :
    HeldOpen reg a ra (afterFirst reg train a ra) where
  held := (isHeld_afterFirst_iff reg train a ra a).mpr rfl
  opened := by
    intro q hq
    have hstop := ((isClear_iff ha).mp hadmits.clear).1 q (List.dropLast_subset _ hq)
    have hdeclared : reg.topology.isSignal q = true := by
      by_contra hundeclared
      simp [aspect_initial, hundeclared] at hstop
    rw [aspect_afterFirst, if_pos hdeclared, if_pos hq]
    exact ⟨_, rfl, isPermissive_proceedAspect reg.topology q⟩
  undeclared := by
    intro q hq
    rw [aspect_afterFirst, hq]
    rfl
  vacant := vacant_afterFirst reg train a ra

theorem admits_afterFirst (ha : reg.route? a = some ra) (hb : reg.route? b = some rb)
    (hne : a ≠ b) (long : 2 ≤ ra.path.length) (full : rb.path ≠ [])
    (hfree : ¬ Barred reg.topology ra rb) {train' : TrainId} (named : train'.isEmpty = false) :
    (afterFirst reg train a ra).Admits reg .sectional train' b where
  named := named
  grantable := by
    have hsafe : (Sectional.check reg (afterFirst reg train a ra).track a b).safe = true := by
      rw [Sectional.check_safe_iff_of_vacant ha hb long full (vacant_afterFirst reg train a ra)]
      intro c hheld hrequested
      by_contra hpermitted
      have hinto := admitsInto_of_entryPermitted (Bool.eq_true_of_not_eq_false hpermitted)
      exact hfree (.admitted hinto hheld hrequested)
    have hunheld : (afterFirst reg train a ra).isHeld b = false :=
      Bool.eq_false_iff.mpr fun hheld =>
        hne ((isHeld_afterFirst_iff reg train a ra b).mp hheld).symm
    -- No other route is held, so the check of the first one is the only one made.
    simp only [isGrantable, hunheld, Bool.not_false, Bool.true_and, heldConflicts,
      List.all_eq_true, List.mem_filter, Bool.and_eq_true, isHeld_afterFirst_iff]
    rintro c ⟨-, -, rfl⟩
    exact hsafe
  clear := by
    refine (isClear_iff hb).mpr ⟨?_, fun c _ => vacant_afterFirst reg train a ra c⟩
    intro q hq
    have hpassed : q ∉ ra.passedSignals := fun hpassed => hfree (.opened hpassed hq)
    have hdeclared : reg.topology.isSignal q = true := by
      by_contra hundeclared
      exact hfree (.undeclared (Bool.eq_false_iff.mpr hundeclared) hq)
    rw [aspect_afterFirst, if_pos hdeclared, if_neg hpassed]

end FirstGrant

end Interlocking

namespace Session

open Interlocking

variable {reg : Registry} {s : Session} {op : Operation} {a b : RouteIndex} {ra rb : Route}

theorem eq_afterFirst_of_held {config : SessionConfig} (started : start reg config = .ok s)
    (ha : reg.route? a = some ra) (attempt : op.isGrantAttempt = true)
    (held : (s.operate reg op).interlocking.isHeld a = true) :
    ∃ train, (initial reg.topology).Admits reg s.policy train a ∧
      (s.operate reg op).interlocking = afterFirst reg train a ra := by
  have hattempt := (operate_attempt reg s attempt).1
  rw [interlocking_of_start started] at hattempt
  generalize (s.operate reg op).interlocking = il' at hattempt held ⊢
  unfold isHeld at held
  cases hattempt with
  | refused hrefused =>
    rw [hrefused.holder_eq] at held
    cases held
  | @granted train j other hother hadmits =>
    rw [holder_commit] at held
    split at held
    · rename_i hplace
      subst hplace
      rw [ha, Option.some.injEq] at hother
      subst hother
      exact ⟨train, hadmits, rfl⟩
    · cases held

theorem heldOpen_operateAll (h : HeldOpen reg a ra s.interlocking) (attempts : List Operation)
    (only : ∀ op ∈ attempts, op.isGrantAttempt = true) :
    HeldOpen reg a ra (s.operateAll reg attempts).interlocking := by
  induction attempts generalizing s with
  | nil => exact h
  | cons op rest ih =>
    have hstep := h.attempt (operate_attempt reg s (only op List.mem_cons_self)).1
    exact ih hstep fun o ho => only o (List.mem_cons_of_mem op ho)

/-- Under the sectional policy, let a route be granted first, and then nothing be done but to ask
for routes. While a route that lists it is barred, it is refused to every train. Unless it is
barred, it would be granted at once to any train with a name. -/
theorem granted_beside_iff_not_barred {config : SessionConfig}
    (started : start reg config = .ok s) (sectional : s.policy = .sectional)
    (ha : reg.route? a = some ra) (hb : reg.route? b = some rb) (hne : a ≠ b) (hlists : ra.id ∈ rb.conflicts)
    (attempt : op.isGrantAttempt = true)
    (held : (s.operate reg op).interlocking.isHeld a = true) :
    (Barred reg.topology ra rb →
      ∀ attempts : List Operation, (∀ o ∈ attempts, o.isGrantAttempt = true) → ∀ train,
        let s' := (s.operate reg op).operateAll reg attempts
        ∃ e, (s'.interlocking.grant reg s'.policy train b).2 = .error e) ∧
    ∀ train, ((s.operate reg op).interlocking.grant reg (s.operate reg op).policy train b).2.isOk =
      true ↔ train ≠ "" ∧ ¬ Barred reg.topology ra rb := by
  obtain ⟨holder, hadmits, hfirst⟩ := eq_afterFirst_of_held started ha attempt held
  have hopen : HeldOpen reg a ra (s.operate reg op).interlocking := by
    rw [hfirst]
    exact heldOpen_afterFirst ha hadmits
  have hconflict := mem_conflicts ha hb hlists
  have long := Registry.two_le_path ha
  have full : rb.path ≠ [] := by
    intro hempty
    have hlong := Registry.two_le_path hb
    simp [hempty] at hlong
  have hpolicy : (s.operate reg op).policy = .sectional := by
    rw [(operate_attempt reg s attempt).2, sectional]
  constructor
  · intro hbarred attempts only train s'
    have hlater := heldOpen_operateAll hopen attempts only
    have hrefused : ¬ s'.interlocking.Admits reg s'.policy train b :=
      hlater.not_admits ha hb hne hconflict long full hbarred train
    obtain ⟨e, he, -⟩ := grant_of_not_admits hrefused
    exact ⟨e, he⟩
  · intro train
    rw [grant_isOk_iff, hpolicy]
    constructor
    · intro hgranted
      refine ⟨by simpa using hgranted.named, fun hbarred => ?_⟩
      exact hopen.not_admits ha hb hne hconflict long full hbarred train hgranted
    · rintro ⟨hnamed, hfree⟩
      rw [hfirst]
      exact admits_afterFirst ha hb hne long full hfree (by simpa using hnamed)

def junctionAttempts : List Operation :=
  [.command (.directGrant "T3" "bypass"), .command (.directRequest ⟨"T2", "u", "t"⟩)]

def junctionWithLeft : Session :=
  junctionSession.operate junctionRoutes (.command (.directGrant "T1" "left"))

theorem junction_right_barred :
    (junctionWithLeft.operateAll junctionRoutes junctionAttempts).interlocking.heldRoutes
        junctionRoutes = [("left", "T1")] ∧
      ∃ e, ((junctionWithLeft.operateAll junctionRoutes junctionAttempts).interlocking.grant
        junctionRoutes (junctionWithLeft.operateAll junctionRoutes junctionAttempts).policy
        "T2" 1).2 = .error e := by
  have hbarred (left right : Route) (hleft : junctionRoutes.route? 0 = some left)
      (hright : junctionRoutes.route? 1 = some right) :
      Barred junctionRoutes.topology left right := by
    cases hleft
    cases hright
    refine .admitted (c := "c") ?_ (by decide) (by decide)
    intro enclosing hsection
    cases hsection
    exact ⟨"m", by decide, .inl (by decide)⟩
  have hattempt : Operation.isGrantAttempt (.command (.directGrant "T1" "left")) = true := rfl
  obtain ⟨hrefused, -⟩ := granted_beside_iff_not_barred junction_started rfl
    (a := 0) (b := 1) rfl rfl (by decide) (by decide) hattempt (by decide)
  exact ⟨by decide, hrefused (hbarred _ _ rfl rfl) junctionAttempts (by decide) "T2"⟩

end Session

/-- Two tracks that cross on the level. Each of the two routes lists the other, and their paths
share no segment. -/
def diamond : Table where
  topology := {
    segments := ["a", "b", "c", "d"]
    signals := [("s", .main), ("t", .main), ("u", .main), ("v", .main)]
    points := []
    sections := [] }
  routes := [
    { id := "across", source := "s", destination := "t", orientation := .clockwise
      length := .zero, sections := [], points := []
      signals := ["s", "t"], conflicts := ["along"]
      path := [.segment "a", .segment "b"] },
    { id := "along", source := "u", destination := "v", orientation := .clockwise
      length := .zero, sections := [], points := []
      signals := ["u", "v"], conflicts := ["across"]
      path := [.segment "c", .segment "d"] }]

def diamondRoutes : Registry := ⟨diamond.topology, diamond.routes, by decide, by decide⟩

namespace Session

def diamondSession : Session where
  interlocking := .initial diamond.topology
  policy := .sectional
  config := .standard
  grabs := .empty 32
  drives := []
  running := true
  outsideCount := 0

/-- Both routes of the crossing are granted, one after the other. -/
theorem diamond_both_granted :
    Registry.ofTable diamond = .ok diamondRoutes ∧
      start diamondRoutes .standard = .ok diamondSession ∧
      (diamondRoutes.routes.map fun r => (r.id, r.conflicts)) =
        [("across", ["along"]), ("along", ["across"])] ∧
      (diamondSession.perform diamondRoutes (.directGrant "T1" "across")).2 =
        .ok (.grant ⟨"across", []⟩) ∧
      ((diamondSession.perform diamondRoutes (.directGrant "T1" "across")).1.perform diamondRoutes
        (.directGrant "T2" "along")).2 = .ok (.grant ⟨"along", []⟩) := by
  refine ⟨rfl, rfl, rfl, ?_, ?_⟩ <;> rfl

end Session

end Signalbox
