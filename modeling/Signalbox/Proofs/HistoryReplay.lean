import Signalbox.Proofs.SessionGrabs

/-!
The history tells the state. An account of a site is made from its recorded events alone, and it
agrees with the site after every operation, as long as all that happens to the track is reported.
-/
namespace Signalbox

namespace Track

theorem position_remove (t : Track) (train : TrainId) :
    (t.remove train).position = fun q => if q = train then [] else t.position q := by
  funext q
  unfold position
  rw [remove, lookup_filter_ne]
  split <;> rfl

theorem position_place_eq (t : Track) (train : TrainId) (segments : List SegmentId) :
    (t.place train segments).position =
      fun q => if q = train then segments else t.position q := by
  funext q
  by_cases hq : q = train
  · subst hq
    simp
  · have hrest := congrFun (position_remove t train) q
    rw [if_neg hq] at hrest ⊢
    rw [← hrest]
    unfold position place
    rw [List.lookup_cons, beq_eq_false_iff_ne.mpr hq]

theorem nodup_remove {t : Track} (h : (t.trains.map (·.1)).Nodup) (train : TrainId) :
    ((t.remove train).trains.map (·.1)).Nodup :=
  h.sublist (List.filter_sublist.map _)

theorem nodup_place {t : Track} (h : (t.trains.map (·.1)).Nodup) (train : TrainId)
    (segments : List SegmentId) : ((t.place train segments).trains.map (·.1)).Nodup := by
  rw [place, List.map_cons, List.nodup_cons]
  refine ⟨?_, nodup_remove h train⟩
  simp [remove]

theorem isOccupied_iff {t : Track} (h : (t.trains.map (·.1)).Nodup) (segment : SegmentId) :
    t.isOccupied segment = true ↔
      t.marked segment = true ∨ ∃ train, segment ∈ t.position train := by
  rw [isOccupied, Bool.or_eq_true]
  refine or_congr_right ?_
  rw [List.any_eq_true]
  constructor
  · rintro ⟨⟨train, segments⟩, hmem, hsegment⟩
    refine ⟨train, ?_⟩
    rw [position, (lookup_eq_some_iff_mem h).mpr hmem]
    simpa using hsegment
  · rintro ⟨train, hsegment⟩
    unfold position at hsegment
    cases hlookup : t.trains.lookup train with
    | none => simp [hlookup] at hsegment
    | some segments =>
      rw [hlookup] at hsegment
      exact ⟨(train, segments), (lookup_eq_some_iff_mem h).mp hlookup, by simpa using hsegment⟩

end Track

/-- A site as its history tells it. -/
structure Account where
  holder : RouteId → Option TrainId
  aspect : SignalId → Option Aspect
  point : PointId → Option PointPosition
  marked : SegmentId → Bool
  position : TrainId → List SegmentId
  grabbed : TrainId → Bool

namespace Account

def initial (t : Topology) : Account where
  holder _ := none
  aspect s := if t.isSignal s then some .stop else none
  point p := if t.isPoint p then some .normal else none
  marked _ := false
  position _ := []
  grabbed _ := false

def apply (a : Account) : Event → Account
  | .route id (.granted train) =>
    { a with holder := fun r => if r = id then some train else a.holder r }
  | .route id .released => { a with holder := fun r => if r = id then none else a.holder r }
  | .route _ .notGrantable | .route _ .notClear => a
  | .signal s shown => { a with aspect := fun q => if q = s then some shown else a.aspect q }
  | .point p position => { a with point := fun q => if q = p then some position else a.point q }
  | .occupied segment value =>
    { a with marked := fun q => if q = segment then value else a.marked q }
  | .position train segments =>
    { a with position := fun t => if t = train then segments else a.position t }
  | .grab train held => { a with grabbed := fun t => if t = train then held else a.grabbed t }
  | .drive .. => a

/-- A segment is occupied when it is marked so or under a train. -/
def Occupied (a : Account) (segment : SegmentId) : Prop :=
  a.marked segment = true ∨ ∃ train, segment ∈ a.position train

end Account

/-- What the events of a log make of the initial state. -/
def replay (t : Topology) (log : List Event) : Account := log.foldl Account.apply (.initial t)

theorem replay_append_singleton (t : Topology) (log : List Event) (e : Event) :
    replay t (log ++ [e]) = (replay t log).apply e := by
  rw [replay, List.foldl_append]
  rfl

/-- The account agrees with the route set, and with what is grabbed. -/
structure Account.Fits (a : Account) (reg : Registry) (grabbed : TrainId → Bool)
    (il : Interlocking) : Prop where
  holder : ∀ i r, reg.route? i = some r → a.holder r.id = il.holder i
  unknown : ∀ id, reg.index? id = none → a.holder id = none
  aspect : a.aspect = il.track.aspect
  point : a.point = il.track.point
  marked : a.marked = il.track.marked
  position : a.position = il.track.position
  /-- no train is listed twice -/
  placed : (il.track.trains.map (·.1)).Nodup
  grabbed : a.grabbed = grabbed

namespace Interlocking

def Told (reg : Registry) (grabbed : TrainId → Bool) (il : Interlocking) : Prop :=
  (replay reg.topology il.log).Fits reg grabbed il

theorem told_initial (reg : Registry) : Told reg (fun _ => false) (.initial reg.topology) where
  holder _ _ _ := rfl
  unknown _ _ := rfl
  aspect := rfl
  point := rfl
  marked := rfl
  position := rfl
  placed := .nil
  grabbed := rfl

namespace Told

variable {reg : Registry} {grabbed : TrainId → Bool} {il il' : Interlocking}

theorem append (il : Interlocking) {e : Event} (hlog : il'.log = il.log ++ [e])
    (h : ((replay reg.topology il.log).apply e).Fits reg grabbed il') : Told reg grabbed il' := by
  unfold Told
  rw [hlog, replay_append_singleton]
  exact h

theorem record (h : Told reg grabbed il) {e : Event} (he : ∀ a : Account, a.apply e = a) :
    Told reg grabbed (il.record e) := by
  apply append il rfl
  rw [he]
  exact { h with }

theorem grab (h : Told reg grabbed il) (train : TrainId) (held : Bool) :
    Told reg (fun t => if t = train then held else grabbed t)
      (il.record (.grab train held)) := by
  apply append il rfl
  exact { h with grabbed := by rw [← h.grabbed]; rfl }

theorem commandSignal (h : Told reg grabbed il) (s : SignalId) (a : Aspect) :
    Told reg grabbed (il.commandSignal s a).1 := by
  unfold Interlocking.commandSignal
  split
  · rename_i track hset
    obtain ⟨-, -, rfl⟩ := Track.setAspect_eq_ok_iff.mp hset
    apply append il rfl
    exact { h with aspect := by rw [Account.apply, h.aspect]; rfl }
  · exact h

theorem commandPoint (h : Told reg grabbed il) (p : PointId) (position : PointPosition) :
    Told reg grabbed (il.commandPoint p position).1 := by
  unfold Interlocking.commandPoint
  split
  · rename_i track hset
    obtain ⟨-, -, rfl⟩ := Track.setPoint_eq_ok_iff.mp hset
    apply append il rfl
    exact { h with point := by rw [Account.apply, h.point]; rfl }
  · exact h

theorem commandAll {α : Type} {command : Interlocking → α → Interlocking × Option TrackFault}
    (hcommand : ∀ il a, Told reg grabbed il → Told reg grabbed (command il a).1)
    (h : Told reg grabbed il) (commands : List α) :
    Told reg grabbed (commandAll command il commands).1 := by
  induction commands generalizing il with
  | nil => exact h
  | cons a rest ih => exact ih (hcommand il a h)

theorem assign (h : Told reg grabbed il) {i : RouteIndex} {r : Route}
    (hr : reg.route? i = some r) (train : Option TrainId) {e : Event}
    (he : ∀ a : Account, a.apply e =
      { a with holder := fun id => if id = r.id then train else a.holder id }) :
    Told reg grabbed ((il.setHolder i train).record e) := by
  apply append il rfl
  rw [he]
  refine { h with holder := ?_, unknown := ?_ }
  · intro j other hother
    have hsame : other.id = r.id ↔ j = i := by
      constructor
      · exact Registry.place_eq_of_id_eq hother hr
      · rintro rfl
        rw [Option.some.inj (hother.symm.trans hr)]
    simp only [hsame, holder_record, setHolder]
    split
    · rfl
    · exact h.holder j other hother
  · intro id hid
    have hne : id ≠ r.id := by
      rintro rfl
      rw [Registry.index?_of_route? hr] at hid
      cases hid
    simp only [if_neg hne]
    exact h.unknown id hid

theorem commit (h : Told reg grabbed il) (train : TrainId)
    {i : RouteIndex} {r : Route} (hr : reg.route? i = some r) :
    Told reg grabbed (il.commit reg train i r).1 := by
  have htaken : Told reg grabbed
      ((il.setHolder i (some train)).record (.route r.id (.granted train))) :=
    h.assign hr (some train) fun _ => rfl
  have hpoints := htaken.commandAll (fun _ c h => h.commandPoint c.1 c.2) r.points
  exact hpoints.commandAll (fun _ c h => h.commandSignal c.1 c.2) _

theorem release (h : Told reg grabbed il) (i : RouteIndex) :
    Told reg grabbed (il.release reg i).1 := by
  cases hr : reg.route? i with
  | none => rwa [release_of_unknown il reg i hr]
  | some r =>
    cases hheld : il.isHeld i with
    | false => rwa [release_of_free il reg i hheld]
    | true =>
      rw [release_of_held il reg i hr hheld]
      have hstopped : Told reg grabbed (il.commandSignals (r.signals.map (·, .stop))).1 :=
        h.commandAll (fun _ c h => h.commandSignal c.1 c.2) _
      exact hstopped.assign hr none fun _ => rfl

theorem withdraws (h : Told reg grabbed il)
    (hw : Withdraws reg Event.isDrive il il') : Told reg grabbed il' := by
  apply hw.keeps (P := Told reg grabbed) ?_ h
  intro a b hstep ha
  cases hstep with
  | stop s => exact ha.commandSignal s .stop
  | release i => exact ha.release i
  | note e he =>
    cases e with
    | drive => exact ha.record fun _ => rfl
    | _ => cases he

theorem effect {policy : ConflictPolicy} (h : Told reg grabbed il)
    (heffect : Effect reg policy Event.isDrive il il') : Told reg grabbed il' := by
  cases heffect with
  | refused hrefused =>
    rcases hrefused with rfl | ⟨id, status, hstatus, rfl⟩
    · exact h
    · rcases hstatus with rfl | rfl
      · exact h.record fun _ => rfl
      · exact h.record fun _ => rfl
  | withdrawn hw => exact h.withdraws hw
  | granted hr _ => exact h.commit _ hr

end Told

end Interlocking

/-- Whether whatever the operation does to the track is reported. -/
def Operation.isReported : Operation → Bool
  | .command (.lose _) | .disturb _ => false
  | _ => true

namespace Session

open Interlocking

variable {reg : Registry} {s : Session}

theorem told_operate_of_outside {grabbed : TrainId → Bool} (h : Told reg grabbed s.interlocking)
    {op : Operation} (houtside : op.isOutside = true) (hreported : op.isReported = true) :
    Told reg grabbed (s.operate reg op).interlocking := by
  cases op with
  | disturb => cases hreported
  | command c =>
    cases c with
    | setAspect signal a =>
      simp only [operate, perform, answer_fst]
      exact h.commandSignal signal a
    | setPoint point p =>
      simp only [operate, perform, answer_fst]
      exact h.commandPoint point p
    | mark segment value =>
      apply Told.append s.interlocking rfl
      exact { h with marked := by rw [Account.apply, h.marked]; rfl }
    | place train segments =>
      apply Told.append s.interlocking rfl
      refine { h with position := ?_, placed := Track.nodup_place h.placed train segments }
      rw [Account.apply, h.position]
      exact (Track.position_place_eq _ train segments).symm
    | removeTrain train =>
      apply Told.append s.interlocking rfl
      refine { h with position := ?_, placed := Track.nodup_remove h.placed train }
      rw [Account.apply, h.position]
      exact (Track.position_remove _ train).symm
    | jam id => exact { h with }
    | lose => cases hreported
    | _ => cases houtside
  | _ => cases houtside

/-! ### Grabs -/

structure Told (reg : Registry) (s : Session) : Prop where
  told : s.interlocking.Told reg s.grabs.isGrabbed
  distinct : s.grabs.Distinct

theorem kept_told :
    GrabTable.Kept reg fun g il => il.Told reg g.isGrabbed ∧ g.Distinct where
  withdraws hw h := ⟨h.1.withdraws hw, h.2⟩
  grab {g g' il train slot} hgrab h := by
    refine ⟨?_, h.2.grab hgrab⟩
    rw [funext (GrabTable.isGrabbed_grab hgrab)]
    exact h.1.grab train true
  release {g il train slot} htrain h := by
    refine ⟨?_, h.2.release slot⟩
    rw [funext (h.2.isGrabbed_release htrain)]
    exact h.1.grab train false

theorem told_operate (h : Told reg s) {op : Operation}
    (hreported : op.isReported = true) : Told reg (s.operate reg op) := by
  cases hgrabbing : op.isGrabbing with
  | true =>
    obtain ⟨htold, hdistinct⟩ :=
      kept_operate_of_grabbing (kept_told) ⟨h.told, h.distinct⟩ hgrabbing
    exact ⟨htold, hdistinct⟩
  | false =>
    have hgrabs := grabs_operate_of_not_grabbing reg s hgrabbing
    refine ⟨?_, ?_⟩
    · rw [hgrabs]
      cases houtside : op.isOutside with
      | true => exact told_operate_of_outside h.told houtside hreported
      | false =>
        exact h.told.effect (operate_effect_of_not_grabbing reg s houtside hgrabbing)
    · rw [hgrabs]
      exact h.distinct

theorem told_start {config : SessionConfig} (h : start reg config = .ok s) : Told reg s := by
  obtain ⟨policy, rfl⟩ := eq_of_start h
  exact ⟨told_initial reg, GrabTable.distinct_empty config.maxTrains⟩

theorem Reachable.told
    (h : Reachable reg (·.isReported = true) s) : Told reg s := by
  induction h with
  | start hstart => exact told_start hstart
  | step _ hreported ih => exact told_operate ih hreported

theorem mem_heldRoutes_iff (il : Interlocking) {id : RouteId} {train : TrainId} :
    (id, train) ∈ il.heldRoutes reg ↔
      ∃ i r, reg.route? i = some r ∧ r.id = id ∧ il.holder i = some train := by
  unfold heldRoutes
  rw [List.mem_filterMap]
  constructor
  · rintro ⟨⟨r, i⟩, hmem, hheld⟩
    obtain ⟨other, hholder, heq⟩ := Option.map_eq_some_iff.mp hheld
    rw [Prod.mk.injEq] at heq
    obtain ⟨rfl, rfl⟩ := heq
    exact ⟨i, r, List.mem_zipIdx_iff_getElem?.mp hmem, rfl, hholder⟩
  · rintro ⟨i, r, hr, rfl, hholder⟩
    exact ⟨(r, i), List.mem_zipIdx_iff_getElem?.mpr hr, by simp [hholder]⟩

/-- The history tells the state. What the recorded events make of the initial state is, after
every operation that does nothing unreported to the track, the held routes with their trains, all
aspects, all points, the occupied segments and the grabbed trains. -/
theorem replay_tells_state {t : Table} (hreg : Registry.ofTable t = .ok reg)
    (h : Reachable reg (·.isReported = true) s) :
    (∀ id train, (id, train) ∈ s.interlocking.heldRoutes reg ↔
      (replay t.topology s.log).holder id = some train) ∧
    s.interlocking.track.aspect = (replay t.topology s.log).aspect ∧
    s.interlocking.track.point = (replay t.topology s.log).point ∧
    (∀ segment, s.interlocking.track.isOccupied segment = true ↔
      (replay t.topology s.log).Occupied segment) ∧
    s.grabs.isGrabbed = (replay t.topology s.log).grabbed := by
  obtain ⟨htopology, -⟩ := Registry.ofTable_eq_ok_iff.mp hreg
  rw [← htopology]
  have htold := h.told.told
  refine ⟨?_, htold.aspect.symm, htold.point.symm, ?_, htold.grabbed.symm⟩
  · intro id train
    rw [mem_heldRoutes_iff]
    constructor
    · rintro ⟨i, r, hr, rfl, hholder⟩
      exact (htold.holder i r hr).trans hholder
    · intro hholder
      cases hid : reg.index? id with
      | none => cases (htold.unknown id hid).symm.trans hholder
      | some i =>
        obtain ⟨r, hr, rfl⟩ := Registry.route?_of_index? hid
        exact ⟨i, r, hr, rfl, (htold.holder i r hr).symm.trans hholder⟩
  · intro segment
    rw [Track.isOccupied_iff htold.placed, ← htold.marked, ← htold.position]
    rfl

/-- A route of the junction is granted past a jammed signal, and its train enters the throat. -/
theorem junction_replay :
    let s := junctionSession.operateAll junctionRoutes [.command (.grab "T1"),
      .command (.jam "m"), .command (.grant "T1" "left"), .command (.place "T1" ["c"])]
    Reachable junctionRoutes (·.isReported = true) s ∧
      (replay junction.topology s.log).holder "left" = some "T1" ∧
      (replay junction.topology s.log).aspect "s" = some .go ∧
      (replay junction.topology s.log).aspect "m" = some .stop ∧
      (replay junction.topology s.log).Occupied "c" ∧
      (replay junction.topology s.log).grabbed "T1" = true := by
  intro s
  have hreachable : Reachable junctionRoutes (·.isReported = true) s :=
    (Reachable.start junction_started).operateAll (by decide)
  obtain ⟨hheld, haspect, -, hoccupied, hgrabbed⟩ :=
    replay_tells_state junction_accepted hreachable
  rw [← haspect, ← hgrabbed]
  exact ⟨hreachable, (hheld "left" "T1").mp (by decide), by decide, by decide,
    (hoccupied "c").mp (by decide), by decide⟩

end Session

end Signalbox
