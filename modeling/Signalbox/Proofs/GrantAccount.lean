import Signalbox.Proofs.GrantEffects
import Signalbox.Proofs.MutualExclusion

/-!
The account of a grant: what a route has to fulfil, which commands go out then, and what they
leave. What is refused in the middle of a grant was refused before it, so that all of this is said
of the track as it stood when the grant was asked for.
-/
namespace Signalbox.Interlocking

/-! ### What a series of commands records -/

/-- A command is recorded unless it is refused, and what is refused does not change by it. -/
structure RecordsObeyed {α : Type} (command : Interlocking → α → Interlocking × Option TrackFault)
    (fault? : Interlocking → α → Option TrackFault) (event : α → Event) : Prop where
  log : ∀ il a, (command il a).1.log = il.log ++ if (fault? il a).isNone then [event a] else []
  keeps : ∀ il a, fault? (command il a).1 = fault? il

theorem RecordsObeyed.log_commandAll {α : Type}
    {command : Interlocking → α → Interlocking × Option TrackFault}
    {fault? : Interlocking → α → Option TrackFault} {event : α → Event}
    (h : RecordsObeyed command fault? event) (il : Interlocking) (commands : List α) :
    (commandAll command il commands).1.log =
      il.log ++ (commands.filter fun a => (fault? il a).isNone).map event := by
  induction commands generalizing il with
  | nil => simp [commandAll]
  | cons a rest ih =>
    rw [commandAll]
    dsimp only
    rw [ih, h.log, h.keeps, List.append_assoc, List.filter_cons]
    cases (fault? il a).isNone <;> rfl

section Log

variable (il : Interlocking)

theorem recordsObeyed_commandSignal : RecordsObeyed (fun il (s, a) => il.commandSignal s a)
    (fun il c => il.refusal? c.1) (fun c => .signal c.1 c.2) where
  log il := by
    rintro ⟨s, a⟩
    dsimp only
    rw [← commandSignal_snd il s a]
    unfold commandSignal
    split <;> simp
  keeps il c := by
    funext q
    exact (sameSignals_commandSignal il c.1 c.2).refusal?_eq q.1

theorem recordsObeyed_commandPoint :
    RecordsObeyed (fun il (p, position) => il.commandPoint p position)
      (fun il c => il.pointRefusal? c.1) (fun c => .point c.1 c.2) where
  log il := by
    rintro ⟨p, position⟩
    dsimp only
    rw [← commandPoint_snd il p position]
    unfold commandPoint
    split <;> simp
  keeps il c := by
    rw [pointRefusal?_commandPoint]

theorem log_commandSignals (aspectOf : SignalId → Aspect) (signals : List SignalId) :
    (il.commandSignals (signals.map fun s => (s, aspectOf s))).1.log =
      il.log ++ (signals.filter fun s => (il.refusal? s).isNone).map
        fun s => .signal s (aspectOf s) := by
  unfold commandSignals
  rw [recordsObeyed_commandSignal.log_commandAll, List.filter_map, List.map_map]
  rfl

theorem log_commandPoints (commands : List (PointId × PointPosition)) :
    (il.commandPoints commands).1.log =
      il.log ++ (commands.filter fun c => (il.pointRefusal? c.1).isNone).map
        fun c => .point c.1 c.2 :=
  recordsObeyed_commandPoint.log_commandAll il commands

end Log

/-! ### Grants -/

theorem pointRefusal?_eq_none_iff {il : Interlocking} {p : PointId} :
    il.pointRefusal? p = none ↔
      il.track.jammed p = false ∧ (il.track.point p).isSome = true := by
  unfold pointRefusal?
  cases il.track.jammed p <;> cases il.track.point p <;> simp

/-- What a route has to fulfil to be granted. -/
structure Fulfils (il : Interlocking) (reg : Registry) (policy : ConflictPolicy)
    (train : TrainId) (i : RouteIndex) (r : Route) : Prop where
  known : reg.route? i = some r
  named : train ≠ ""
  free : il.holder i = none
  /-- every other held route that it lists is admissible -/
  admissible : ∀ c ∈ reg.conflicts i, c ≠ i → il.holder c ≠ none →
    policy = .sectional ∧ (Sectional.check reg il.track c i).safe = true
  stopped : ∀ q ∈ r.signals, il.track.aspect q = some .stop
  vacant : ∀ c ∈ r.segments, il.track.isOccupied c = false

structure Grants (reg : Registry) (train : TrainId) (i : RouteIndex) (r : Route)
    (il il' : Interlocking) (g : Grant) : Prop where
  holder : ∀ j, il'.holder j = if j = i then some train else il.holder j
  /-- the grant, the points and then the signals, so far as they are not refused -/
  log : il'.log = il.log ++ .route r.id (.granted train) ::
    ((r.points.filter fun c => (il.pointRefusal? c.1).isNone).map (fun c => .point c.1 c.2) ++
      (r.passedSignals.filter fun s => (il.refusal? s).isNone).map
        fun s => .signal s (proceedAspect reg.topology s))
  report : g = ⟨r.id, (r.points.map (·.1)).filterMap il.pointRefusal? ++
    r.passedSignals.filterMap il.refusal?⟩
  track : il'.track = { il.track with
    aspect := fun q =>
      if q ∈ r.passedSignals ∧ il.refusal? q = none then some (proceedAspect reg.topology q)
      else il.track.aspect q
    point := fun p =>
      if il.pointRefusal? p = none then (r.lastPosition? p).or (il.track.point p)
      else il.track.point p }

section Grant

variable {il : Interlocking} {reg : Registry} {policy : ConflictPolicy} {train : TrainId}
  {i : RouteIndex} {r : Route}

theorem isGrantable_iff :
    il.isGrantable reg policy i = true ↔ il.holder i = none ∧
      ∀ c ∈ reg.conflicts i, c ≠ i → il.holder c ≠ none →
        policy = .sectional ∧ (Sectional.check reg il.track c i).safe = true := by
  constructor
  · intro hgrantable
    refine ⟨by simpa [isHeld] using isHeld_of_isGrantable hgrantable, ?_⟩
    intro c hc hne hheld
    exact sectional_of_grantable hgrantable hne hc (Option.isSome_iff_ne_none.mpr hheld)
  · rintro ⟨hfree, hadmissible⟩
    have hlisted : ∀ c ∈ il.heldConflicts reg i,
        policy = .sectional ∧ (Sectional.check reg il.track c i).safe = true := by
      intro c hc
      obtain ⟨hc, hheld⟩ := List.mem_filter.mp hc
      rw [Bool.and_eq_true, bne_iff_ne] at hheld
      exact hadmissible c hc hheld.1 (Option.isSome_iff_ne_none.mp hheld.2)
    unfold isGrantable isHeld
    rw [hfree, Option.isSome_none, Bool.not_false, Bool.true_and]
    cases policy with
    | blocking =>
      refine List.isEmpty_iff.mpr (List.eq_nil_iff_forall_not_mem.mpr fun c hc => ?_)
      cases (hlisted c hc).1
    | sectional => exact List.all_eq_true.mpr fun c hc => (hlisted c hc).2

theorem admits_iff_fulfils :
    il.Admits reg policy train i ↔ ∃ r, il.Fulfils reg policy train i r := by
  constructor
  · intro h
    obtain ⟨r, hr⟩ := exists_route_of_isClear h.clear
    obtain ⟨hfree, hadmissible⟩ := isGrantable_iff.mp h.grantable
    obtain ⟨hstopped, hvacant⟩ := (isClear_iff hr).mp h.clear
    exact ⟨r, hr, by simpa using h.named, hfree, hadmissible, hstopped, hvacant⟩
  · rintro ⟨r, h⟩
    exact ⟨by simpa using h.named, isGrantable_iff.mpr ⟨h.free, h.admissible⟩,
      (isClear_iff h.known).mpr ⟨h.stopped, h.vacant⟩⟩

theorem log_commit (il : Interlocking) (reg : Registry) (train : TrainId) (i : RouteIndex)
    (r : Route) :
    (il.commit reg train i r).1.log = il.log ++ .route r.id (.granted train) ::
      ((r.points.filter fun c => (il.pointRefusal? c.1).isNone).map (fun c => .point c.1 c.2) ++
        (r.passedSignals.filter fun s => (il.refusal? s).isNone).map
          fun s => .signal s (proceedAspect reg.topology s)) := by
  unfold commit
  -- Taking the route and moving the points change nothing about the signals.
  have hrefusal : (((il.setHolder i (some train)).record
      (.route r.id (.granted train))).commandPoints r.points).1.refusal? = il.refusal? := by
    funext q
    simp [refusal?]
  rw [log_commandSignals, hrefusal, log_commandPoints, log_record]
  simp only [List.append_assoc, List.singleton_append]
  rfl

theorem point_commit_eq (p : PointId) :
    (il.commit reg train i r).1.track.point p =
      if il.pointRefusal? p = none then (r.lastPosition? p).or (il.track.point p)
      else il.track.point p := by
  have hpoint : (il.commit reg train i r).1.track.point p =
      obeyed (il.track.jammed p) (il.track.point p) (r.lastPosition? p) := by
    rw [track_commit]
    rfl
  simp only [hpoint, pointRefusal?_eq_none_iff]
  cases il.track.jammed p <;> cases il.track.point p <;> cases r.lastPosition? p <;> rfl

theorem grants_commit (il : Interlocking) (reg : Registry) (train : TrainId) (i : RouteIndex)
    (r : Route) :
    Grants reg train i r il (il.commit reg train i r).1 (il.commit reg train i r).2 where
  holder := holder_commit il reg train i r
  log := log_commit il reg train i r
  report := commit_snd il reg train i r
  track := by
    have haspect : (il.commit reg train i r).1.track.aspect = fun q =>
        if q ∈ r.passedSignals ∧ il.refusal? q = none then some (proceedAspect reg.topology q)
        else il.track.aspect q := by
      funext q
      rw [aspect_commit]
      simp only [refusal?_eq_none_iff]
    rw [← haspect, ← funext point_commit_eq, track_commit]
    rfl

theorem grants_of_grant_eq_ok {g : Grant} (h : (il.grant reg policy train i).2 = .ok g) :
    ∃ r, reg.route? i = some r ∧
      Grants reg train i r il (il.grant reg policy train i).1 g := by
  have hadmits : il.Admits reg policy train i := grant_isOk_iff.mp (by rw [h]; rfl)
  obtain ⟨r, hr⟩ := exists_route_of_isClear hadmits.clear
  rw [grant_of_admits hr hadmits] at h ⊢
  cases h
  exact ⟨r, hr, grants_commit il reg train i r⟩

end Grant

/-- A grant succeeds exactly for a train with a name and a free route all of whose signals show
stop and whose path is unoccupied, when the held routes that it lists are admissible. Then all its
points and all its signals but the last are commanded in order. Those that are not refused follow
and are recorded, each refusal is reported, and nothing else changes. -/
theorem grant_account (il : Interlocking) (reg : Registry) (policy : ConflictPolicy)
    (train : TrainId) (i : RouteIndex) :
    ((∃ g, (il.grant reg policy train i).2 = .ok g) ↔
      ∃ r, il.Fulfils reg policy train i r) ∧
    ∀ g, (il.grant reg policy train i).2 = .ok g →
      ∃ r, reg.route? i = some r ∧
        Grants reg train i r il (il.grant reg policy train i).1 g := by
  refine ⟨?_, fun g => grants_of_grant_eq_ok⟩
  rw [← admits_iff_fulfils]
  constructor
  · rintro ⟨g, hg⟩
    exact grant_isOk_iff.mp (by rw [hg]; rfl)
  · intro hadmits
    obtain ⟨r, hr⟩ := exists_route_of_isClear hadmits.clear
    exact ⟨_, congrArg Prod.snd (grant_of_admits hr hadmits)⟩

def junctionHeldJammed : Interlocking where
  track := (Track.initial junction.topology).jam "p"
  holder i := if i = 0 then some "T1" else none
  log := []

theorem junction_right_granted_beside :
    let after := (junctionHeldJammed.grant junctionRoutes .sectional "T2" 1).1
    (∃ r, junctionHeldJammed.Fulfils junctionRoutes .sectional "T2" 1 r) ∧
      (∃ r, junctionRoutes.route? 1 = some r ∧
        Grants junctionRoutes "T2" 1 r junctionHeldJammed after ⟨"right", [.jammedPoint "p"]⟩) ∧
      after.heldRoutes junctionRoutes = [("left", "T1"), ("right", "T2")] ∧
      after.log = [.route "right" (.granted "T2"), .signal "u" .shunt] := by
  intro after
  obtain ⟨hiff, hgrants⟩ := grant_account junctionHeldJammed junctionRoutes .sectional "T2" 1
  have hgranted : (junctionHeldJammed.grant junctionRoutes .sectional "T2" 1).2 =
      .ok ⟨"right", [.jammedPoint "p"]⟩ := by decide
  exact ⟨hiff.mp ⟨_, hgranted⟩, hgrants _ hgranted, by decide, by decide⟩

end Signalbox.Interlocking
