import Mathlib.Data.List.Count
import Signalbox.Proofs.DriveList
import Signalbox.Proofs.HistoryOrder
import Signalbox.Proofs.ScenarioRun
import Signalbox.Proofs.Shutdown

/-!
The accounts of a history. Whatever has been granted, grabbed or begun in a run is still held,
grabbed or under way, or the history tells its end. A close leaves nothing held, grabbed or under
way, so in the history of a play everything comes to its end, and to one only.
-/
namespace Signalbox

/-- As many releases as grants of each route, as many trains let go of as grabbed, and for every
drive that has begun one that has ended. -/
structure Balanced (log : List Event) : Prop where
  routes : ∀ id, log.countP (Event.isGrantOf id) = log.count (.route id .released)
  trains : ∀ train, log.count (.grab train true) = log.count (.grab train false)
  drives : ∀ train route, log.count (.drive train route .initializing) =
    log.count (.drive train route .completed) + log.count (.drive train route .aborted)

/-! ### Routes and trains -/

theorem Switches.count_eq {marks : List Bool} {value : Bool} (h : Switches marks value) :
    marks.count true = marks.count false + value.toNat :=
  count_of_alternating h.alternates h.last

theorem count_filterMap_grabbing (log : List Event) (train : TrainId) (held : Bool) :
    (log.filterMap (Event.grabbing? train)).count held = log.count (.grab train held) := by
  rw [List.count_filterMap]
  refine List.countP_congr fun e _ => ?_
  cases e with
  | grab t h => by_cases ht : t = train <;> simp [Event.grabbing?, ht]
  | _ => simp [Event.grabbing?]

theorem count_true_holding (log : List Event) (id : RouteId) :
    (log.filterMap (Event.holding? id)).count true = log.countP (Event.isGrantOf id) := by
  rw [List.count_filterMap]
  refine List.countP_congr fun e _ => ?_
  cases e with
  | route r status => cases status <;> simp [Event.holding?, Event.isGrantOf]
  | _ => simp [Event.holding?, Event.isGrantOf]

theorem count_false_holding (log : List Event) (id : RouteId) :
    (log.filterMap (Event.holding? id)).count false = log.count (.route id .released) := by
  rw [List.count_filterMap]
  refine List.countP_congr fun e _ => ?_
  cases e with
  | route r status => cases status <;> simp [Event.holding?]
  | _ => simp [Event.holding?]

/-! ### Drives -/

namespace Drive

open Interlocking

def isUnderWay (train : TrainId) (route : RouteId) (d : Drive) : Bool :=
  d.state == .progressing && (d.train == train && d.route == route)

theorem state_of_finished {d : Drive} (h : d.isFinished = true) :
    d.state = .completed ∨ d.state = .aborted := by
  unfold isFinished outcome? at h
  unfold state
  cases hphase : d.phase with
  | initializing | progressing | arriving => simp [hphase] at h
  | ended o =>
    cases o with
    | completed => exact .inl rfl
    | aborted => exact .inr rfl

theorem exists_recorded (d : Drive) : ∃ events, d.Recorded events := by
  cases hfinished : d.isFinished with
  | true => exact ⟨_, _, .ended (state_of_finished hfinished), rfl, rfl⟩
  | false =>
    by_cases hphase : d.phase = .initializing
    · exact ⟨_, _, .waiting, by simp [state, hphase], rfl⟩
    · exact ⟨_, _, .going, (state_of_unfinished hfinished hphase).symm, rfl⟩

theorem Course.count_eq {states : List DriveState} (h : Course states) {last : DriveState}
    (hlast : states.getLastD .initializing = last) :
    states.count .initializing = states.count .completed + states.count .aborted +
      if last = .progressing then 1 else 0 := by
  cases h with
  | waiting | refused | going =>
    cases hlast
    rfl
  | ended hended =>
    cases hlast
    rcases hended with rfl | rfl <;> rfl

theorem Recorded.account {d : Drive} {events : List Event} (h : d.Recorded events)
    (train : TrainId) (route : RouteId) :
    events.count (.drive train route .initializing) =
      events.count (.drive train route .completed) + events.count (.drive train route .aborted) +
        if d.isUnderWay train route then 1 else 0 := by
  obtain ⟨states, hcourse, hlast, rfl⟩ := h
  by_cases hnames : d.train = train ∧ d.route = route
  · obtain ⟨rfl, rfl⟩ := hnames
    have hcount (state : DriveState) :
        (states.map (Event.drive d.train d.route)).count (.drive d.train d.route state) =
          states.count state := by
      apply List.count_map_of_injective
      intro a b hab
      cases hab
      rfl
    have hunderWay : d.isUnderWay d.train d.route = true ↔ d.state = .progressing := by
      simp [isUnderWay]
    rw [hcount, hcount, hcount, hcourse.count_eq hlast]
    simp only [hunderWay]
  · have hnone (state : DriveState) :
        (states.map (Event.drive d.train d.route)).count (.drive train route state) = 0 := by
      refine List.count_eq_zero.mpr fun hmem => ?_
      obtain ⟨s, -, hs⟩ := List.mem_map.mp hmem
      cases hs
      exact hnames ⟨rfl, rfl⟩
    have hother : d.isUnderWay train route = false := by
      simp only [isUnderWay, Bool.and_eq_false_iff, beq_eq_false_iff_ne]
      exact .inr (not_and_or.mp hnames)
    rw [hnone, hnone, hnone, hother]
    rfl

end Drive

namespace Interlocking

theorem count_drive {il il' : Interlocking} {kind : Event → Prop} (h : il.Adds kind il')
    (train : TrainId) (route : RouteId) (state : DriveState) :
    il'.log.count (.drive train route state) =
      il.log.count (.drive train route state) +
        (driveEvents il il').count (.drive train route state) := by
  have hcount := congrArg (List.count (.drive train route state)) (filter_isDrive_log h)
  rwa [List.count_append, List.count_filter rfl, List.count_filter rfl] at hcount

theorem isHeld_of_heldRoutes_eq_nil {il : Interlocking} {reg : Registry} {i : RouteIndex}
    {r : Route} (h : il.heldRoutes reg = []) (hr : reg.route? i = some r) :
    il.isHeld i = false := by
  have hnone := List.filterMap_eq_nil_iff.mp h (r, i) (List.mem_zipIdx_iff_getElem?.mpr hr)
  simpa [isHeld] using hnone

end Interlocking

namespace Traffic

open Interlocking

def Accounted (t : Traffic) : Prop :=
  ∀ train route, t.interlocking.log.count (.drive train route .initializing) =
    t.interlocking.log.count (.drive train route .completed) +
      t.interlocking.log.count (.drive train route .aborted) +
        t.drives.countP (·.isUnderWay train route)

/-- What a drive has recorded before does not matter, only what it adds now. -/
theorem Accounted.act {il il' : Interlocking} {before after : List Drive} {d d' : Drive}
    {kind : Event → Prop} {events : List Event} (h : Accounted ⟨il, before ++ d :: after⟩)
    (hgrows : il.Adds kind il') (hearlier : d.Recorded events)
    (hlater : d'.Recorded (events ++ driveEvents il il')) :
    Accounted ⟨il', before ++ d' :: after⟩ := by
  intro train route
  have hbefore := h train route
  have hfirst := hearlier.account train route
  have hsecond := hlater.account train route
  simp only [List.count_append] at hsecond
  simp only [count_drive hgrows, List.countP_append, List.countP_cons] at hbefore ⊢
  omega

theorem Accounted.turn {reg : Registry} {may : Interlocking → Interlocking → Prop}
    {t t' : Traffic} (h : t.Accounted) (hturn : Turn reg may t t')
    (besides : ∀ il il', may il il' → il.Adds (·.isDrive = false) il') : t'.Accounted := by
  intro train route
  have hbefore := h train route
  cases hturn with
  | launch il drives t r mode =>
    have hwaiting : (Drive.launch t r mode).isUnderWay train route = false := rfl
    simp only [List.countP_append, List.countP_singleton, hwaiting] at hbefore ⊢
    exact hbefore
  | cancel il before after d =>
    simp only [List.countP_append, List.countP_cons] at hbefore ⊢
    exact hbefore
  | begin il before after d =>
    obtain ⟨events, hevents⟩ := d.exists_recorded
    exact h.act (Drive.begin_withdraws reg d il).grows hevents (hevents.begin reg il) train route
  | pass il before after d =>
    obtain ⟨events, hevents⟩ := d.exists_recorded
    exact h.act (Drive.pass_withdraws reg d il).grows hevents (hevents.pass reg il) train route
  | drop il before after d finished =>
    have hended : d.isUnderWay train route = false := by
      rcases Drive.state_of_finished finished with hs | hs <;> simp [Drive.isUnderWay, hs]
    simp only [List.countP_append, List.countP_cons, hended] at hbefore ⊢
    exact hbefore
  | other drives hmay =>
    have hgrows := besides _ _ hmay
    simp only [count_drive hgrows, driveEvents_of_adds hgrows, List.count_nil, Nat.add_zero]
    exact hbefore

end Traffic

namespace Session

open Interlocking

/-- No route is held, no train is grabbed, and no drive is on the list. -/
structure AtRest (reg : Registry) (s : Session) : Prop where
  routes : s.interlocking.heldRoutes reg = []
  trains : s.grabs.taken = []
  drives : s.drives = []

variable {reg : Registry} {s : Session}

theorem accounted_of_reachable {allowed : Operation → Prop} (h : Reachable reg allowed s) :
    s.traffic.Accounted := by
  refine h.of_turns (P := Traffic.Accounted) (fun _ _ => rfl) ?_
  exact fun op t t' _ hturn ht => ht.turn hturn fun _ _ hbesides => hbesides.adds

theorem AtRest.balanced {allowed : Operation → Prop}
    (hs : Reachable reg allowed s) (h : s.AtRest reg) : Balanced s.log where
  routes id := by
    have hturns := takesTurns_of_reachable hs
    have hswitches : Switches (s.log.filterMap (Event.holding? id)) false := by
      cases hid : reg.index? id with
      | none =>
        rw [log, hturns.unknown id hid]
        exact switches_nil
      | some i =>
        obtain ⟨r, hr, rfl⟩ := Registry.route?_of_index? hid
        have hroute := hturns.routes i r hr
        rwa [isHeld_of_heldRoutes_eq_nil h.routes hr] at hroute
    rw [← count_true_holding, ← count_false_holding, hswitches.count_eq]
    rfl
  trains train := by
    have hswitches := (grabsTakeTurns_of_reachable hs).trains train
    have hfree : s.grabs.isGrabbed train = false := by simp [GrabTable.isGrabbed, h.trains]
    rw [hfree] at hswitches
    rw [← count_filterMap_grabbing, ← count_filterMap_grabbing, log, hswitches.count_eq]
    rfl
  drives train route := by
    have haccount := accounted_of_reachable hs train route
    rw [traffic, h.drives] at haccount
    exact haccount

theorem listed_of_reachable (h : Reachable reg (·.startsOutside = false) s) :
    ∀ e ∈ s.drives, e.isListed = true := by
  induction h with
  | start hstart => simp [drives_of_start hstart]
  | @step s op _ hop ih => exact (operate_keeps reg s op).listed ih (listed_launchedBy reg s hop)

theorem atRest_close (h : Reachable reg (·.startsOutside = false) s) :
    (s.close reg).1.AtRest reg where
  routes := close_heldRoutes reg s
  trains := close_taken reg s
  drives := by
    rw [close_drives]
    exact List.filter_eq_nil_iff.mpr fun e he => by simp [listed_of_reachable h e he]

theorem startsOutside_of_isPlayed {op : Operation} (h : op.isPlayed = true) :
    op.startsOutside = false := by
  cases op with
  | launchOutside => cases h
  | command c =>
    cases c with
    | outsideDrive => cases h
    | _ => rfl
  | _ => rfl

/-- When all drives of a run have been the controller's, a close leaves no route held, no train
grabbed and no drive on the list, and the history is balanced, however the drives have moved in
between. So it is at the end of every play that goes through. -/
theorem play_balanced (t : Table) (config : SessionConfig) :
    (∀ reg s₀, Registry.ofTable t = .ok reg → start reg config = .ok s₀ →
      ∀ operations : List Operation, (∀ op ∈ operations, op.startsOutside = false) →
        let s := ((s₀.operateAll reg operations).close reg).1
        s.AtRest reg ∧ Balanced s.log) ∧
    ∀ actions reg log, Scenario.play t actions config = .ok (reg, log) →
      Balanced log ∧ ∃ s₀ s, start reg config = .ok s₀ ∧ s₀.playAll reg actions = .ok s ∧
        s.log = log ∧ s.AtRest reg := by
  have hclosed {reg : Registry} {s₀ : Session} (accepted : Registry.ofTable t = .ok reg)
      (started : start reg config = .ok s₀) {operations : List Operation}
      (inside : ∀ op ∈ operations, op.startsOutside = false) :
      ((s₀.operateAll reg operations).close reg).1.AtRest reg ∧
        Balanced ((s₀.operateAll reg operations).close reg).1.log := by
    have hreached := (Reachable.start started).operateAll inside
    have hrest := atRest_close hreached
    have hclose : Reachable reg (·.startsOutside = false)
        ((s₀.operateAll reg operations).operate reg .close) := hreached.step rfl
    exact ⟨hrest, hrest.balanced hclose⟩
  refine ⟨fun reg s₀ accepted started operations => hclosed accepted started, ?_⟩
  intro actions reg log played
  obtain ⟨accepted, s₀, s, started, hplayed, rfl⟩ := exists_playAll_of_play played
  have hany : ∀ a ∈ actions, ∀ n ∈ a.names, True := fun _ _ _ _ => trivial
  obtain ⟨last, ⟨operations, hoperations, rfl⟩, rfl⟩ := playsTo_of_playAll hany hplayed
  have hinside : ∀ op ∈ operations, op.startsOutside = false :=
    fun op hop => startsOutside_of_isPlayed (hoperations op hop).1
  obtain ⟨hrest, hbalanced⟩ := hclosed accepted started hinside
  exact ⟨hbalanced, s₀, _, started, hplayed, rfl, hrest⟩

/-- One train is let go of on its way and another one is on its way when the play ends. The second
route is asked for once too early. -/
def junctionPlay : List Action :=
  [.grab "T1", .grant "T1" "left", .drive "T1" "left" .automatic, .ungrab "T1", .grab "T2",
    .grant "T2" "bypass", .release "left", .grant "T2" "bypass", .drive "T2" "bypass" .automatic]

theorem junction_play_balanced :
    (∃ log, Scenario.play junction junctionPlay .standard = .ok (junctionRoutes, log) ∧
      log.count (.drive "T1" "left" .aborted) = 1 ∧ log.count (.drive "T2" "bypass" .aborted) = 1 ∧
      Balanced log) ∧
    (((junctionSession.operateAll junctionRoutes [.command (.grab "T1"),
      .command (.grant "T1" "left"), .enlist "T1" "left" .automatic, .pass 0]).close
        junctionRoutes).1.AtRest junctionRoutes) := by
  obtain ⟨hruns, hplays⟩ := play_balanced junction .standard
  refine ⟨⟨_, rfl, ?_, ?_, (hplays junctionPlay junctionRoutes _ rfl).1⟩, ?_⟩
  · decide
  · decide
  · exact (hruns junctionRoutes junctionSession junction_accepted junction_started _ (by decide)).1

end Session

end Signalbox
