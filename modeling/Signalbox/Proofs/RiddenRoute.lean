import Signalbox.Proofs.Arrival
import Signalbox.Proofs.PolledProgress
import Signalbox.Proofs.Shutdown

/-!
A train that runs its route from the first segment to the last. Whether it has then been seen past
all its signals depends on the path alone: behind each of them there has to be a segment that the
path holds once. Only then does the drive of the train come to an end.
-/
namespace Signalbox

namespace Route

variable {r : Route}

/-- Each signal that a train passes is off the path, or is followed on it by a segment that the
path holds once. If it is off the path, any such segment will do. -/
def ShowsPassing (r : Route) : Prop :=
  ∀ s ∈ r.passedSignals, ∃ segment i, r.HoldsOnce segment i ∧ ∀ j, r.pathIndex? s = some j → j < i

theorem standingPlace_le_iff {s : SignalId} {segment : SegmentId} {i : Nat}
    (h : r.path[i]? = some (.segment segment)) :
    r.standingPlace s ≤ i ↔ ∀ j, r.pathIndex? s = some j → j < i := by
  unfold standingPlace
  cases hindex : r.pathIndex? s with
  | none => simp
  | some j =>
    have hne : j ≠ i := by
      rintro rfl
      obtain ⟨hlt, hsignal, -⟩ := List.findIdx?_eq_some_iff_getElem.mp hindex
      rw [List.getElem?_eq_getElem hlt, Option.some.injEq] at h
      simp [h] at hsignal
    simp only [Option.getD_some, Option.some.injEq, forall_eq']
    omega

theorem mem_segments_iff {segment : SegmentId} :
    segment ∈ r.segments ↔ .segment segment ∈ r.path := by
  unfold segments
  rw [List.mem_filterMap]
  constructor
  · rintro ⟨e, hmem, he⟩
    cases e with
    | signal s => cases he
    | segment c =>
      cases he
      exact hmem
  · exact fun hmem => ⟨_, hmem, rfl⟩

theorem mem_placesTold_segments_iff {i : Nat} :
    i ∈ r.placesTold r.segments ↔ ∃ segment, r.HoldsOnce segment i := by
  constructor
  · exact fun ⟨segment, _, hholds⟩ => ⟨segment, hholds⟩
  · rintro ⟨segment, hholds⟩
    exact ⟨segment, mem_segments_iff.mpr (List.mem_of_getElem? hholds.1), hholds⟩

theorem lastSegment?_eq (r : Route) : r.lastSegment? = r.segments.getLast? := by
  rw [lastSegment?, segments, ← List.head?_filterMap, List.filterMap_reverse, List.head?_reverse]

end Route

namespace Progression

/-- The polls of a train that runs the whole path, one for each segment. -/
def pollsOfPath (r : Route) : List (List SegmentId) := r.segments.map fun segment => [segment]

theorem flatten_pollsOfPath (r : Route) : (pollsOfPath r).flatten = r.segments := by
  unfold pollsOfPath
  rw [← List.flatMap_def, List.flatMap_singleton']

theorem exists_last_of_pollsOfPath {r : Route} {polls : List (List SegmentId)}
    {report : List SegmentId} (h : polls ++ [report] = pollsOfPath r) :
    ∃ last, r.lastSegment? = some last ∧ report = [last] := by
  rw [pollsOfPath, eq_comm, List.map_eq_append_iff] at h
  obtain ⟨before, after, hsegments, -, hafter⟩ := h
  obtain ⟨last, rfl, hlast⟩ := List.map_eq_singleton_iff.mp hafter
  exact ⟨last, by rw [Route.lastSegment?_eq, hsegments, List.getLast?_concat], hlast.symm⟩

theorem Follows.isComplete_of_path {r : Route} {p : Progression} (h : Follows r r.segments p) :
    p.isComplete = true ↔ r.ShowsPassing := by
  rw [h.isComplete_iff]
  refine forall₂_congr fun s _ => ?_
  rw [h.isReached_iff]
  constructor
  · rintro ⟨i, htold, hle⟩
    obtain ⟨segment, hholds⟩ := Route.mem_placesTold_segments_iff.mp htold
    exact ⟨segment, i, hholds, (Route.standingPlace_le_iff hholds.1).mp hle⟩
  · rintro ⟨segment, i, hholds, hafter⟩
    exact ⟨i, Route.mem_placesTold_segments_iff.mpr ⟨segment, hholds⟩,
      (Route.standingPlace_le_iff hholds.1).mpr hafter⟩

theorem Follows.isComplete_poll {r : Route} {reported : List SegmentId} {p : Progression}
    (h : Follows r reported p) (report : List SegmentId) (complete : p.isComplete = true) :
    (p.poll report).isComplete = true := by
  rw [h.isComplete_iff] at complete
  rw [(h.poll report).isComplete_iff]
  intro s hs
  rw [position_poll]
  exact isReached_moved report (complete s hs)

end Progression

theorem Track.isOccupied_of_mem_position {t : Track} {train : TrainId} {segment : SegmentId}
    (h : segment ∈ t.position train) : t.isOccupied segment = true := by
  unfold position at h
  cases htrain : t.trains.lookup train with
  | none => simp [htrain] at h
  | some segments =>
    rw [htrain, Option.getD_some] at h
    obtain ⟨before, after, hlist, -⟩ := List.lookup_eq_some_iff.mp htrain
    have hplaced : (train, segments) ∈ t.trains := by
      rw [hlist]
      exact List.mem_append_right before List.mem_cons_self
    rw [isOccupied, Bool.or_eq_true, List.any_eq_true]
    exact .inr ⟨(train, segments), hplaced, List.contains_iff_mem.mpr h⟩

namespace Drive

open Interlocking

/-! ### Passes whose commands are obeyed -/

theorem stopSignals_of_obeys (il : Interlocking) (p : Progress) {signals : List SignalId}
    (h : ∀ s ∈ signals, il.obeys s = true) :
    (stopSignals il p signals).2 =
      { p with progression := signals.foldl Progression.markStopped p.progression } := by
  induction signals generalizing il p with
  | nil => rfl
  | cons s rest ih =>
    rw [List.forall_mem_cons] at h
    have hanswer : (il.commandSignal s .stop).2 = none := by
      rw [commandSignal_snd]
      exact refusal?_eq_none_iff.mpr h.1
    rw [stopSignals, show il.commandSignal s .stop = ((il.commandSignal s .stop).1, none) from
      Prod.ext rfl hanswer]
    dsimp only
    rw [ih _ _ fun q hq => by rw [obeys_commandSignal, h.2 q hq]]
    rfl

/-- What a pass needs to do all that it sets out to: the train holds its route, and the signals
that it passes take commands. -/
structure Served (reg : Registry) (d : Drive) (r : Route) (now : Interlocking) : Prop where
  held : now.isHeldBy reg d.route d.train = true
  obeys : ∀ s ∈ r.passedSignals, now.obeys s = true

section Pass

variable {reg : Registry} {d : Drive} {r : Route} {now : Interlocking}

theorem releaseRoute_ends (p : Progress) : (releaseRoute reg d now p).1.isFinished = true := by
  unfold releaseRoute
  split <;> rfl

theorem arrive_ends_or_waits (p : Progress) :
    (arrive reg d now p).1.isFinished = true ∨ (arrive reg d now p).1.phase = .arriving p := by
  unfold arrive
  split
  · exact .inl (releaseRoute_ends p)
  · split
    · exact .inl rfl
    · split
      · exact .inl (releaseRoute_ends p)
      · exact .inr rfl

theorem arrive_of_occupied (p : Progress) {last : SegmentId}
    (hlast : (reg.find? d.route).bind Route.lastSegment? = some last)
    (occupied : now.track.isOccupied last = true) : (arrive reg d now p).1.isFinished = true := by
  unfold arrive
  rw [hlast]
  dsimp only
  split
  · rfl
  · exact releaseRoute_ends p

end Pass

/-! ### A ride -/

/-- The drive after a pass in each of the situations. -/
def ride (reg : Registry) (d : Drive) (situations : List Interlocking) : Drive :=
  situations.foldl (fun d now => (d.pass reg now).1) d

/-- Where a drive is that has met with no refusal. As long as the progression is not complete it
has only moved forward. -/
structure Riding (d : Drive) (p : Progression) (d' : Drive) : Prop where
  same : ∃ phase, d' = { d with phase }
  incomplete : p.isComplete = false → d'.phase = .progressing ⟨p, [], []⟩
  complete : p.isComplete = true → d'.isFinished = true ∨ ∃ q, d'.phase = .arriving q

section Ride

variable {reg : Registry} {d d' : Drive} {r : Route} {now : Interlocking} {p : Progression}
  {reported : List SegmentId}

theorem pass_of_served (active : d.cancelled = false) (served : d.Served reg r now)
    (follows : p.Follows r reported) (hphase : d.phase = .progressing ⟨p, [], []⟩) :
    ∃ il', il'.track.isOccupied = now.track.isOccupied ∧
      d.pass reg now = proceed reg d il' ⟨p.poll (now.track.position d.train), [], []⟩ := by
  have hobeys : ∀ s ∈ (p.advance (now.track.position d.train)).2, now.obeys s = true := by
    intro s hs
    rw [follows.named_eq] at hs
    exact served.obeys s (List.mem_filter.mp hs).1
  refine ⟨(stopSignals now ⟨(p.advance (now.track.position d.train)).1, [], []⟩
    (p.advance (now.track.position d.train)).2).1, ?_, ?_⟩
  · exact funext (stopSignals_resembles ..).isOccupied_eq
  · rw [pass_of_ne reg now (by simp [hphase])]
    unfold watch
    rw [hphase, active, served.held]
    simp only [Bool.false_eq_true, if_false, Bool.not_true]
    rw [stopSignals_of_obeys _ _ hobeys]
    rfl

theorem Riding.ends_or_arrives (active : d.cancelled = false) (served : d.Served reg r now)
    (follows : p.Follows r reported) (h : Riding d p d')
    (complete : (p.poll (now.track.position d.train)).isComplete = true) :
    (d'.pass reg now).1.isFinished = true ∨ ∃ il' q,
      il'.track.isOccupied = now.track.isOccupied ∧ d'.pass reg now = arrive reg d' il' q := by
  obtain ⟨phase, rfl⟩ := h.same
  cases hbefore : p.isComplete with
  | false =>
    obtain ⟨il', hoccupied, hpass⟩ := pass_of_served (d := { d with phase }) active
      ⟨served.held, served.obeys⟩ follows (h.incomplete hbefore)
    rw [hpass, proceed, complete]
    cases hmode : d.mode with
    | manual => exact .inl rfl
    | automatic => exact .inr ⟨il', _, hoccupied, rfl⟩
  | true =>
    rcases h.complete hbefore with finished | ⟨q, hphase⟩
    · rw [pass_of_finished reg now finished]
      exact .inl finished
    · have hbegun : phase ≠ .initializing := fun h => by simp [h] at hphase
      refine .inr ⟨now, q, rfl, ?_⟩
      rw [pass_of_ne reg now hbegun, watch, hphase]
      simp [active]

theorem Riding.ends_on_last (active : d.cancelled = false) (served : d.Served reg r now)
    (follows : p.Follows r reported) (h : Riding d p d') (hr : reg.find? d.route = some r)
    (complete : (p.poll (now.track.position d.train)).isComplete = true) {last : SegmentId}
    (hlast : r.lastSegment? = some last) (hreport : now.track.position d.train = [last]) :
    (d'.pass reg now).1.isFinished = true := by
  rcases h.ends_or_arrives active served follows complete with finished | ⟨il', q, hoccupied, hpass⟩
  · exact finished
  · obtain ⟨phase, rfl⟩ := h.same
    have hstands : last ∈ now.track.position d.train := by
      rw [hreport]
      exact List.mem_singleton_self last
    rw [hpass]
    refine arrive_of_occupied (d := { d with phase }) q (by rw [hr, Option.bind_some, hlast]) ?_
    rw [hoccupied]
    exact Track.isOccupied_of_mem_position hstands

theorem Riding.pass (active : d.cancelled = false) (served : d.Served reg r now)
    (follows : p.Follows r reported) (h : Riding d p d') :
    Riding d (p.poll (now.track.position d.train)) (d'.pass reg now).1 := by
  refine ⟨?_, ?_, ?_⟩
  · obtain ⟨phase, rfl⟩ := h.same
    exact exists_phase_pass reg { d with phase } now
  · intro hnext
    have hbefore : p.isComplete = false := Bool.eq_false_iff.mpr fun hcomplete =>
      Bool.eq_false_iff.mp hnext (follows.isComplete_poll _ hcomplete)
    obtain ⟨phase, rfl⟩ := h.same
    obtain ⟨il', -, hpass⟩ := pass_of_served (d := { d with phase }) active
      ⟨served.held, served.obeys⟩ follows (h.incomplete hbefore)
    rw [hpass, proceed, hnext]
    rfl
  · intro hnext
    rcases h.ends_or_arrives active served follows hnext with finished | ⟨il', q, -, hpass⟩
    · exact .inl finished
    · rw [hpass]
      exact (arrive_ends_or_waits q).imp_right fun hwaits => ⟨q, hwaits⟩

theorem Riding.ride (active : d.cancelled = false) {situations : List Interlocking}
    (served : ∀ now ∈ situations, d.Served reg r now) (follows : p.Follows r reported)
    (h : Riding d p d') :
    Riding d (p.pollAll (situations.map (·.track.position d.train))) (d'.ride reg situations) := by
  induction situations generalizing reported p d' with
  | nil => exact h
  | cons now rest ih =>
    rw [List.forall_mem_cons] at served
    exact ih served.2 (follows.poll _) (h.pass active served.1 follows)

end Ride

theorem begin_of_start {reg : Registry} {id : RouteId} {r : Route} {p : Progression}
    (hr : reg.find? id = some r) (hp : Progression.start r r.repeatedMask = .ok p)
    (il : Interlocking) (train : TrainId) (mode : DriveMode) :
    ((launch train id mode).begin reg il).1 =
      ⟨train, id, mode, false, .progressing ⟨p, [], []⟩⟩ := by
  have houtset : outset reg id = .ok ⟨p, [], []⟩ := by simp [outset, hr, hp, Except.map]
  simp only [begin, launch, houtset]

theorem ride_begin (reg : Registry) (d : Drive) (now : Interlocking) (rest : List Interlocking) :
    (d.begin reg now).1.ride reg ((d.begin reg now).2 :: rest) = d.ride reg (now :: rest) := by
  unfold ride
  rw [List.foldl_cons, List.foldl_cons, pass_begin]

theorem Served.begin {reg : Registry} {d : Drive} {r : Route} {now : Interlocking}
    (h : d.Served reg r now) : d.Served reg r (d.begin reg now).2 where
  held := by rw [isHeldBy_begin, h.held]
  obeys s hs := by
    have hsame := sameSignals_of_track_eq (onlyNotes_begin reg d now).track
    rw [hsame.obeys_eq, h.obeys s hs]

/-- After a ride along the whole path the drive has ended exactly if each signal that the train
passes is followed by a segment that the path holds once. -/
theorem isFinished_ride_iff {reg : Registry} {d : Drive} {r : Route} {p : Progression}
    (hr : reg.find? d.route = some r) (active : d.cancelled = false) (follows : p.Follows r [])
    (hphase : d.phase = .progressing ⟨p, [], []⟩) (hstart : p.isComplete = false)
    {situations : List Interlocking} (served : ∀ now ∈ situations, d.Served reg r now)
    (whole : situations.map (·.track.position d.train) = Progression.pollsOfPath r) :
    (d.ride reg situations).isFinished = true ↔ r.ShowsPassing := by
  have hriding : Riding d p d := by
    refine ⟨⟨d.phase, rfl⟩, fun _ => hphase, fun hcomplete => ?_⟩
    rw [hstart] at hcomplete
    cases hcomplete
  have hfollows := follows.pollAll (Progression.pollsOfPath r)
  rw [List.nil_append, Progression.flatten_pollsOfPath] at hfollows
  rw [← hfollows.isComplete_of_path]
  constructor
  · intro finished
    by_contra hincomplete
    have hend := hriding.ride active served follows
    rw [whole] at hend
    have hphase := hend.incomplete (by simpa using hincomplete)
    simp [isFinished, outcome?, hphase] at finished
  · intro hcomplete
    cases situations using List.reverseRecOn with
    | nil =>
      rw [List.map_nil] at whole
      rw [← whole, Progression.pollAll, List.foldl_nil, hstart] at hcomplete
      cases hcomplete
    | append_singleton earlier now _ =>
      rw [List.forall_mem_append, List.forall_mem_singleton] at served
      have hearlier := hriding.ride active served.1 follows
      have hfollowsEarlier := follows.pollAll (earlier.map (·.track.position d.train))
      rw [← whole, List.map_append, List.map_singleton, ← Progression.pollAll_append] at hcomplete
      rw [List.map_append, List.map_singleton] at whole
      obtain ⟨last, hlast, hreport⟩ := Progression.exists_last_of_pollsOfPath whole
      rw [ride, List.foldl_append]
      exact hearlier.ends_on_last active served.2 hfollowsEarlier hr hcomplete hlast hreport

theorem isFinished_ride_launch_iff {reg : Registry} {id : RouteId} {r : Route} {p : Progression}
    (hr : reg.find? id = some r) (hp : Progression.start r r.repeatedMask = .ok p)
    (follows : p.Follows r []) {train : TrainId} {mode : DriveMode}
    {situations : List Interlocking}
    (served : ∀ now ∈ situations, (launch train id mode).Served reg r now)
    (whole : situations.map (·.track.position train) = Progression.pollsOfPath r) :
    ((launch train id mode).ride reg situations).isFinished = true ↔ r.ShowsPassing := by
  have hstart := isComplete_of_start hp
  cases situations with
  | nil =>
    let begun : Drive := ⟨train, id, mode, false, .progressing ⟨p, [], []⟩⟩
    have hbegun : (begun.ride reg []).isFinished = true ↔ r.ShowsPassing :=
      isFinished_ride_iff hr rfl follows rfl hstart nofun whole
    exact hbegun
  | cons now rest =>
    rw [List.forall_mem_cons] at served
    have hbegun := begin_of_start hr hp now train mode
    have hfirst := served.1.begin
    rw [← ride_begin, hbegun]
    refine isFinished_ride_iff hr rfl follows rfl hstart ?_ ?_
    · exact List.forall_mem_cons.mpr ⟨⟨hfirst.held, hfirst.obeys⟩,
        fun later hlater => ⟨(served.2 later hlater).held, (served.2 later hlater).obeys⟩⟩
    · rw [List.map_cons, (onlyNotes_begin reg _ now).track]
      exact whole

/-- Whether a progression is complete when the train has run its whole route, polled once on each
segment, depends on the path: a segment that the path holds once has to follow each signal that the
train passes, or to be there at all if the signal is off the path. Only then does the drive end
whose train keeps the route and whose commands are obeyed, whether it begins with the ride or has
begun before. -/
theorem ridden_route_ends_iff {reg : Registry} {i : RouteIndex} {r : Route}
    (hr : reg.route? i = some r) (long : 2 ≤ r.signals.length) :
    (∃ p₀, Progression.start r (reg.repeatedMask i) = .ok p₀ ∧
      ((p₀.pollAll (Progression.pollsOfPath r)).isComplete = true ↔ r.ShowsPassing)) ∧
    ∀ (il : Interlocking) (train : TrainId) (mode : DriveMode) (situations : List Interlocking),
      let launched := launch train r.id mode
      ∀ d ∈ [launched, (launched.begin reg il).1],
        (∀ now ∈ situations, d.Served reg r now) →
        situations.map (·.track.position train) = Progression.pollsOfPath r →
        ((d.ride reg situations).isFinished = true ↔ r.ShowsPassing) := by
  obtain ⟨p₀, hstart, hfollows⟩ := Progression.exists_start long
  have hmask : reg.repeatedMask i = r.repeatedMask := by rw [Registry.repeatedMask, hr]
  constructor
  · refine ⟨p₀, by rw [hmask, hstart], ?_⟩
    have hpolled := hfollows.pollAll (Progression.pollsOfPath r)
    rw [List.nil_append, Progression.flatten_pollsOfPath] at hpolled
    exact hpolled.isComplete_of_path
  · intro il train mode situations launched
    have hfind : reg.find? r.id = some r := by
      rw [Registry.find?, Registry.index?_of_route? hr, Option.bind_some, hr]
    rw [List.forall_mem_cons, List.forall_mem_singleton]
    constructor
    · exact isFinished_ride_launch_iff hfind hstart hfollows
    · rw [begin_of_start hfind hstart il train mode]
      exact isFinished_ride_iff hfind rfl hfollows rfl (isComplete_of_start hstart)

/-- The train turns in the loop and comes back to the stem. It is last seen on `b`, past the signal
in the loop, and its drive ends. -/
theorem balloon_turn_ridden :
    let turn := balloon.routes[0]
    let granted := ((Interlocking.initial balloon.topology).grantRoute balloonRoutes .sectional
      "T1" "turn").1
    let d := launch "T1" "turn" .automatic
    let ride := ["x", "a", "b", "x"].map fun segment =>
      { granted with track := granted.track.place "T1" [segment] }
    Registry.ofTable balloon = .ok balloonRoutes ∧ balloonRoutes.route? 0 = some turn ∧
      (∀ now ∈ ride, d.Served balloonRoutes turn now) ∧
      ride.map (·.track.position "T1") = Progression.pollsOfPath turn ∧
      turn.ShowsPassing ∧ (d.ride balloonRoutes ride).isFinished = true ∧
      ∃ p₀, Progression.start turn (balloonRoutes.repeatedMask 0) = .ok p₀ ∧
        (p₀.pollAll (Progression.pollsOfPath turn)).isComplete = true := by
  intro turn granted d ride
  have hturn : balloonRoutes.route? 0 = some turn := rfl
  have hheld : ∀ now ∈ ride, now.isHeldBy balloonRoutes "turn" "T1" = true := by decide
  have hobeys : ∀ now ∈ ride, ∀ s ∈ turn.passedSignals, now.obeys s = true := by decide
  have hserved : ∀ now ∈ ride, d.Served balloonRoutes turn now :=
    fun now hnow => ⟨hheld now hnow, hobeys now hnow⟩
  have hwhole : ride.map (·.track.position "T1") = Progression.pollsOfPath turn := by decide
  have hshows : turn.ShowsPassing := by
    intro s hs
    refine ⟨"b", 3, ⟨rfl, by decide⟩, ?_⟩
    revert s
    decide
  obtain ⟨⟨p₀, hstart, hcomplete⟩, hends⟩ :=
    ridden_route_ends_iff hturn (by decide)
  exact ⟨balloon_accepted, hturn, hserved, hwhole, hshows,
    (hends granted "T1" .automatic ride d List.mem_cons_self hserved hwhole).mpr hshows,
    p₀, hstart, hcomplete.mpr hshows⟩

/-- On the other route the signal in the loop is followed by the stem alone, which the path holds
twice. A train that has run this route to its end has not been seen past the signal. -/
theorem balloon_back_incomplete :
    let back := balloon.routes[1]
    Registry.ofTable balloon = .ok balloonRoutes ∧ balloonRoutes.route? 1 = some back ∧
      back.passedSignals = ["s", "m"] ∧ back.pathIndex? "s" = none ∧
      back.pathIndex? "m" = some 3 ∧ back.path[4]? = some (.segment "x") ∧
      ∃ p₀, Progression.start back (balloonRoutes.repeatedMask 1) = .ok p₀ ∧
        (p₀.pollAll (Progression.pollsOfPath back)).isComplete = false :=
  ⟨rfl, rfl, rfl, by decide, by decide, rfl, _, rfl, by decide⟩

end Drive

end Signalbox
