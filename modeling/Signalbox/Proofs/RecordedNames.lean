import Signalbox.Proofs.DriveCourses
import Signalbox.Proofs.DriveList
import Signalbox.Proofs.ReadNames
import Signalbox.Proofs.ScenarioRun
import Signalbox.Proofs.SessionGrabs
import Signalbox.Proofs.Shutdown

/-!
The names in a history. Whatever is recorded in a play is said of signals, points and routes of the
table and of trains, segments and routes that the scenario names. So what holds of all these names
holds of all that are recorded.
-/
namespace Signalbox

/-- The names that an event speaks of. -/
def Event.names : Event → List String
  | .route id (.granted train) => [id, train]
  | .route id _ => [id]
  | .signal id _ => [id]
  | .point id _ => [id]
  | .occupied segment _ => [segment]
  | .position train segments => train :: segments
  | .grab train _ => [train]
  | .drive train id _ => [train, id]

theorem Operation.isDisturbance_of_isPlayed {op : Operation} (h : op.isPlayed = true) :
    op.isDisturbance = false := by
  cases op with
  | disturb => cases h
  | _ => rfl

variable {known : String → Prop}

structure Registry.Known (known : String → Prop) (reg : Registry) : Prop where
  signals : ∀ s, reg.topology.isSignal s = true → known s
  points : ∀ p, reg.topology.isPoint p = true → known p
  ids : ∀ r ∈ reg.routes, known r.id

namespace Interlocking

/-- No signal or point answers to an unknown name, and none has been recorded. -/
structure Known (known : String → Prop) (il : Interlocking) : Prop where
  signals : ∀ s, (il.track.aspect s).isSome = true → known s
  points : ∀ p, (il.track.point p).isSome = true → known p
  log : ∀ e ∈ il.log, ∀ n ∈ e.names, known n

section Known

variable {reg : Registry} {il il' : Interlocking}

theorem known_initial (hreg : reg.Known known) : (initial reg.topology).Known known where
  signals s hs := hreg.signals s (by by_contra h; simp [initial, Track.initial, h] at hs)
  points p hp := hreg.points p (by by_contra h; simp [initial, Track.initial, h] at hp)
  log := nofun

theorem Known.record (h : il.Known known) (e : Event) (he : ∀ n ∈ e.names, known n) :
    (il.record e).Known known where
  signals := h.signals
  points := h.points
  log := List.forall_mem_append.mpr ⟨h.log, by simpa using he⟩

theorem Known.onTrack (h : il.Known known) {track : Track}
    (hsignals : ∀ s, (track.aspect s).isSome = true → known s)
    (hpoints : ∀ p, (track.point p).isSome = true → known p) : Known known { il with track } :=
  ⟨hsignals, hpoints, h.log⟩

theorem Known.setHolder (h : il.Known known) (i : RouteIndex) (holder : Option TrainId) :
    (il.setHolder i holder).Known known := ⟨h.signals, h.points, h.log⟩

theorem Known.commandSignal (h : il.Known known) (s : SignalId) (a : Aspect) :
    (il.commandSignal s a).1.Known known := by
  unfold Interlocking.commandSignal
  split
  · rename_i track htrack
    obtain ⟨-, hshown, htrack⟩ := Track.setAspect_eq_ok_iff.mp htrack
    have hs : known s := h.signals s hshown
    have hsignals (q : SignalId) (hq : (track.aspect q).isSome = true) : known q := by
      by_cases hqs : q = s
      · exact hqs ▸ hs
      · exact h.signals q (by simpa [htrack, hqs] using hq)
    have hpoints : ∀ p, (track.point p).isSome = true → known p := by rw [htrack]; exact h.points
    exact (h.onTrack hsignals hpoints).record (.signal s a) (by simpa [Event.names] using hs)
  · exact h

theorem Known.commandPoint (h : il.Known known) (p : PointId) (position : PointPosition) :
    (il.commandPoint p position).1.Known known := by
  unfold Interlocking.commandPoint
  split
  · rename_i track htrack
    obtain ⟨-, hshown, htrack⟩ := Track.setPoint_eq_ok_iff.mp htrack
    have hp : known p := h.points p hshown
    have hpoints (q : PointId) (hq : (track.point q).isSome = true) : known q := by
      by_cases hqp : q = p
      · exact hqp ▸ hp
      · exact h.points q (by simpa [htrack, hqp] using hq)
    have hsignals : ∀ s, (track.aspect s).isSome = true → known s := by
      rw [htrack]; exact h.signals
    exact (h.onTrack hsignals hpoints).record (.point p position)
      (by simpa [Event.names] using hp)
  · exact h

theorem Known.commandAll {α : Type} {command : Interlocking → α → Interlocking × Option TrackFault}
    (hcommand : ∀ (il : Interlocking) a, il.Known known → (command il a).1.Known known)
    (h : il.Known known) (commands : List α) :
    (Interlocking.commandAll command il commands).1.Known known := by
  induction commands generalizing il with
  | nil => exact h
  | cons a rest ih => exact ih (hcommand il a h)

theorem Known.commandSignals (h : il.Known known) (commands : List (SignalId × Aspect)) :
    (il.commandSignals commands).1.Known known :=
  h.commandAll (fun _ c hil => hil.commandSignal c.1 c.2) commands

theorem Known.release (hreg : reg.Known known) (h : il.Known known) (i : RouteIndex) :
    (il.release reg i).1.Known known := by
  cases hr : reg.route? i with
  | none => rwa [release_of_unknown il reg i hr]
  | some r =>
    cases hheld : il.isHeld i with
    | false => rwa [release_of_free il reg i hheld]
    | true =>
      rw [release_of_held il reg i hr hheld]
      have hid : known r.id := hreg.ids r (List.mem_of_getElem? hr)
      have hstopped := h.commandSignals (r.signals.map (·, .stop))
      exact (hstopped.setHolder i none).record _ (by simpa [Event.names] using hid)

theorem Known.withdraws (hreg : reg.Known known) (h : il.Known known)
    (hwithdraws : Withdraws reg (fun _ => false) il il') : il'.Known known := by
  refine hwithdraws.keeps (P := Known known) (fun a b hstep ha => ?_) h
  cases hstep with
  | stop s => exact ha.commandSignal s .stop
  | release i => exact ha.release hreg i
  | note e he => cases he

theorem Known.commit (hreg : reg.Known known) (h : il.Known known) {train : TrainId}
    (htrain : known train) {i : RouteIndex} {r : Route} (hr : reg.route? i = some r) :
    (il.commit reg train i r).1.Known known := by
  have hid : known r.id := hreg.ids r (List.mem_of_getElem? hr)
  have hgranted := (h.setHolder i (some train)).record (.route r.id (.granted train))
    (by simpa [Event.names] using ⟨hid, htrain⟩)
  exact (hgranted.commandAll (fun _ c hil => hil.commandPoint c.1 c.2) r.points).commandSignals _

theorem Known.grantRoute (hreg : reg.Known known) (h : il.Known known) {train : TrainId}
    (htrain : known train) (policy : ConflictPolicy) (id : RouteId) :
    (il.grantRoute reg policy train id).1.Known known := by
  unfold Interlocking.grantRoute
  cases hi : indexOf reg id with
  | error e => exact h
  | ok i =>
    dsimp only
    unfold grant
    cases hr : reg.route? i with
    | none => exact h
    | some r =>
      have hid : known r.id := hreg.ids r (List.mem_of_getElem? hr)
      dsimp only
      split
      · exact h
      · split
        · exact h.record _ (by simpa [Event.names] using hid)
        · split
          · exact h.record _ (by simpa [Event.names] using hid)
          · exact h.commit hreg htrain hr

theorem Known.requestRoute (hreg : reg.Known known) (h : il.Known known) (policy : ConflictPolicy)
    {request : RouteRequest} (htrain : known request.train) :
    (il.requestRoute reg policy request).1.Known known := by
  rcases requestRoute_cases request with hsame | ⟨i, r, hr, -, hgranted⟩
  · rwa [hsame]
  · rw [hgranted]
    exact h.commit hreg htrain hr

theorem Known.releaseRoute (hreg : reg.Known known) (h : il.Known known) (id : RouteId) :
    (il.releaseRoute reg id).1.Known known :=
  h.withdraws hreg (releaseRoute_withdraws il reg id)

end Known

end Interlocking

namespace Drive

open Interlocking

def Known (known : String → Prop) (d : Drive) : Prop := known d.train ∧ known d.route

theorem Known.moves {reg : Registry} {d d' : Drive} (h : d.Known known) (hmoves : d.Moves reg d') :
    d'.Known known := by
  obtain ⟨htrain, hroute, -⟩ := hmoves.same
  rw [Known, htrain, hroute]
  exact h

theorem Known.recordState {d : Drive} {il : Interlocking} (h : d.Known known) (hil : il.Known known)
    (state : DriveState) : (d.recordState il state).Known known :=
  hil.record _ (by simpa [Event.names] using ⟨h.1, h.2⟩)

theorem Known.begin {d : Drive} {il : Interlocking} (h : d.Known known) (hil : il.Known known)
    (reg : Registry) : (d.begin reg il).1.Known known ∧ (d.begin reg il).2.Known known := by
  constructor
  · rw [Known, (train_route_begin reg d il).1, (train_route_begin reg d il).2]
    exact h
  · have hbegun := begin_begun reg d il
    generalize d.begin reg il = result at hbegun ⊢
    cases hbegun with
    | already => exact hil
    | refused | started => exact h.recordState (h.recordState hil _) _

theorem Known.pass_of_begun {reg : Registry} {d : Drive} {il : Interlocking}
    (hreg : reg.Known known) (h : d.Known known) (hil : il.Known known)
    (hbegun : d.phase ≠ .initializing) : (d.pass reg il).2.Known known := by
  cases hfinished : d.isFinished with
  | true => rwa [pass_of_finished reg il hfinished]
  | false =>
    have hpassed := pass_record reg il hfinished hbegun
    generalize d.pass reg il = result at hpassed ⊢
    cases hpassed with
    | going unfinished silent => exact hil.withdraws hreg silent
    | ended silent => exact h.recordState (hil.withdraws hreg silent) _

theorem Known.pass {reg : Registry} {d : Drive} {il : Interlocking} (hreg : reg.Known known)
    (h : d.Known known) (hil : il.Known known) : (d.pass reg il).2.Known known := by
  obtain ⟨hdrive, hnext⟩ := h.begin hil reg
  rw [← pass_begin]
  exact hdrive.pass_of_begun hreg hnext (phase_begin_ne reg d il)

end Drive

namespace Session

open Interlocking DriveEntry

structure Known (known : String → Prop) (s : Session) : Prop where
  site : s.interlocking.Known known
  slots : ∀ taken ∈ s.grabs.taken, known taken.2
  drives : ∀ e ∈ s.drives, e.drive.Known known

section Known

variable {reg : Registry} {s s' : Session}

theorem known_of_start (hreg : reg.Known known) {config : SessionConfig}
    (h : start reg config = .ok s) : s.Known known := by
  obtain ⟨policy, rfl⟩ := eq_of_start h
  exact ⟨known_initial hreg, nofun, nofun⟩

theorem Known.record (h : s.Known known) (e : Event) (he : ∀ n ∈ e.names, known n) :
    (s.record e).Known known :=
  ⟨h.site.record e he, h.slots, h.drives⟩

/-! ### Drives -/

theorem known_of_moved {entries entries' : List DriveEntry}
    (h : List.Forall₂ (Moved reg) entries entries') (hknown : ∀ e ∈ entries, e.drive.Known known) :
    ∀ e ∈ entries', e.drive.Known known := by
  induction h with
  | nil => exact hknown
  | cons hhead _ ih =>
    rw [List.forall_mem_cons] at hknown ⊢
    exact ⟨hknown.1.moves hhead.drive, ih hknown.2⟩

theorem known_passEach (hreg : reg.Known known) {entries : List DriveEntry} {il : Interlocking}
    (hentries : ∀ e ∈ entries, e.drive.Known known) (hil : il.Known known) :
    (passEach reg entries il).2.Known known := by
  induction entries generalizing il with
  | nil => exact hil
  | cons e rest ih =>
    rw [List.forall_mem_cons] at hentries
    exact ih hentries.2 (hentries.1.pass hreg hil)

theorem Known.poll (hreg : reg.Known known) (h : s.Known known) : (s.poll reg).Known known where
  site := known_passEach hreg h.drives h.site
  slots := h.slots
  drives := known_of_moved (passEach_moved reg s.drives s.interlocking) h.drives

theorem Known.settle (hreg : reg.Known known) (h : s.Known known) : (s.settle reg).Known known :=
  (h.poll hreg).poll hreg

theorem known_collectFrom (hreg : reg.Known known) (picked : DriveEntry → Bool)
    {entries : List DriveEntry} {il : Interlocking}
    (hentries : ∀ e ∈ entries, e.drive.Known known) (hil : il.Known known) :
    (collectFrom reg picked entries il).2.2.Known known := by
  induction entries generalizing il with
  | nil => exact hil
  | cons e rest ih =>
    rw [List.forall_mem_cons] at hentries
    unfold collectFrom
    split
    · have hcancelled : e.drive.cancel.Known known := hentries.1
      exact ih hentries.2 (hcancelled.pass hreg hil)
    · exact ih hentries.2 hil

theorem Known.collect (hreg : reg.Known known) (h : s.Known known) (picked : DriveEntry → Bool) :
    (s.collect reg picked).1.Known known where
  site := known_collectFrom hreg picked h.drives h.site
  slots := h.slots
  drives e he := by
    have hleft : (s.collect reg picked).1.drives = s.drives.filter (!picked ·) :=
      (collectFrom_eq reg picked s.drives s.interlocking).1
    rw [hleft] at he
    exact h.drives e (List.mem_of_mem_filter he)

theorem Known.launch (h : s.Known known) (origin : DriveOrigin) {train : TrainId} {route : RouteId}
    (htrain : known train) (hroute : known route) (mode : DriveMode) :
    (s.launch origin train route mode).Known known := by
  have hlaunched : (Drive.launch train route mode).Known known := ⟨htrain, hroute⟩
  exact ⟨h.site, h.slots,
    List.forall_mem_append.mpr ⟨h.drives, List.forall_mem_singleton.mpr hlaunched⟩⟩

theorem Known.reap (h : s.Known known) : s.reap.Known known :=
  ⟨h.site, h.slots, fun e he => h.drives e (List.mem_of_mem_filter he)⟩

theorem Known.actAt (h : s.Known known) {act : Drive → Interlocking → Drive × Interlocking}
    (hact : ∀ d il, d.Known known → il.Known known →
      (act d il).1.Known known ∧ (act d il).2.Known known) (place : Nat) :
    (s.actAt place act).Known known := by
  unfold Session.actAt
  cases he : s.drives[place]? with
  | none => exact h
  | some e =>
    obtain ⟨hdrive, hsite⟩ := hact _ _ (h.drives e (List.mem_of_getElem? he)) h.site
    refine ⟨hsite, h.slots, fun e' he' => ?_⟩
    rcases List.mem_or_eq_of_mem_set he' with hmem | rfl
    · exact h.drives e' hmem
    · exact hdrive

theorem Known.passLast (hreg : reg.Known known) (h : s.Known known) :
    (s.passLast reg).Known known := by
  refine ⟨?_, grabs_passLast reg s ▸ h.slots, known_of_moved (passLast_moved reg s) h.drives⟩
  unfold Session.passLast
  cases he : s.drives.getLast? with
  | none => exact h.site
  | some e => exact (h.drives e (List.mem_of_getLast? he)).pass hreg h.site

theorem Known.enlistDrive (h : s.Known known) {train : TrainId} {route : RouteId}
    (htrain : known train) (hroute : known route) (mode : DriveMode) :
    (s.enlistDrive reg train route mode).1.Known known := by
  unfold Session.enlistDrive
  cases s.requireRunning.bind fun _ => s.requireGrabbed train with
  | error e => exact h
  | ok u =>
    dsimp only
    cases indexOf reg route with
    | error e => exact h
    | ok i => exact h.reap.launch .controller htrain hroute mode

theorem Known.startDrive (hreg : reg.Known known) (h : s.Known known) {train : TrainId}
    {route : RouteId} (htrain : known train) (hroute : known route) (mode : DriveMode) :
    (s.startDrive reg train route mode).1.Known known := by
  have henlisted : (s.enlistDrive reg train route mode).1.Known known :=
    h.enlistDrive htrain hroute mode
  unfold Session.startDrive
  cases hstarted : s.enlistDrive reg train route mode with
  | mk s' result =>
    rw [hstarted] at henlisted
    cases result with
    | error e => exact henlisted
    | ok u => exact henlisted.passLast hreg

/-! ### Slots -/

theorem Known.grabTrain (h : s.Known known) {train : TrainId} (htrain : known train) :
    (s.grabTrain train).1.Known known := by
  unfold Session.grabTrain
  cases s.requireRunning with
  | error e => exact h
  | ok u =>
    dsimp only
    cases hgrab : s.grabs.grab train with
    | mk grabs result =>
      cases result with
      | error e => exact h
      | ok slot =>
        have hslots (taken : Slot × TrainId) (hmem : taken ∈ grabs.taken) : known taken.2 := by
          rw [(GrabTable.grab_eq_ok hgrab).2.2] at hmem
          rcases List.mem_cons.mp ((GrabTable.insertSlot_perm ..).mem_iff.mp hmem) with rfl | hmem
          · exact htrain
          · exact h.slots taken hmem
        have hgrabbed : Known known { s with grabs } := ⟨h.site, hslots, h.drives⟩
        exact hgrabbed.record (.grab train true) (by simpa [Event.names] using htrain)

theorem Known.ungrab (reg : Registry) (h : s.Known known) (slot : Slot) :
    (s.ungrab slot).1.Known known := by
  refine ⟨?_, fun taken hmem => ?_, known_of_moved (ungrab_moved reg s slot) h.drives⟩
  · unfold Session.ungrab
    cases htrain : s.grabs.trainOf? slot with
    | none => simpa [GrabTable.release, htrain] using h.site
    | some train =>
      simp only [GrabTable.release, htrain]
      obtain ⟨before, after, htaken, -⟩ := List.lookup_eq_some_iff.mp htrain
      have hknown : known train := h.slots (slot, train) (by simp [htaken])
      exact h.site.record _ (by simpa [Event.names] using hknown)
  · rw [ungrab_taken] at hmem
    exact h.slots taken (List.mem_of_mem_filter hmem)

theorem Known.ungrabEach (reg : Registry) (h : s.Known known) (slots : List Slot) :
    (s.ungrabEach slots).Known known := by
  induction slots generalizing s with
  | nil => exact h
  | cons slot rest ih => exact ih (h.ungrab reg slot)

/-! ### Operations -/

theorem Known.close (hreg : reg.Known known) (h : s.Known known) :
    (s.close reg).1.Known known := by
  have hended : (s.endListed reg).1.Known known :=
    Known.collect (s := { s with running := false }) hreg ⟨h.site, h.slots, h.drives⟩ _
  have hreleased : ((s.endListed reg).1.interlock (·.releaseAll reg)).1.Known known :=
    ⟨hended.site.withdraws hreg (releaseEach_withdraws _ reg _), hended.slots, hended.drives⟩
  rw [close_fst]
  exact hreleased.ungrabEach reg _

theorem Known.operate_of_attempt (hreg : reg.Known known) (h : s.Known known) {op : Operation}
    (hop : ∀ n ∈ op.names, known n) (hattempt : op.isGrantAttempt = true) :
    (s.operate reg op).Known known := by
  cases op with
  | command c =>
    unfold Session.operate
    cases c with
    | grant train route =>
      have htrain : known train := hop train (List.mem_singleton_self train)
      simp only [perform, answer_fst, grantRoute]
      cases s.requireRunning with
      | error e => exact h
      | ok u => exact ⟨h.site.grantRoute hreg htrain s.policy route, h.slots, h.drives⟩
    | request r =>
      have htrain : known r.train := hop r.train (List.mem_singleton_self r.train)
      simp only [perform, answer_fst, requestRoute]
      cases s.requireRunning.bind fun _ => s.requireGrabbed r.train with
      | error e => exact h
      | ok u => exact ⟨h.site.requestRoute hreg s.policy htrain, h.slots, h.drives⟩
    | directGrant train route =>
      have htrain : known train := hop train (List.mem_singleton_self train)
      simp only [perform, answer_fst]
      exact ⟨h.site.grantRoute hreg htrain s.policy route, h.slots, h.drives⟩
    | directRequest r =>
      have htrain : known r.train := hop r.train (List.mem_singleton_self r.train)
      simp only [perform, answer_fst]
      exact ⟨h.site.requestRoute hreg s.policy htrain, h.slots, h.drives⟩
    | _ => cases hattempt
  | _ => cases hattempt

theorem Known.operate_of_outside (h : s.Known known) {op : Operation}
    (undisturbed : op.isDisturbance = false) (hop : ∀ n ∈ op.names, known n)
    (houtside : op.isOutside = true) : (s.operate reg op).Known known := by
  have htracked (f : Track → Track) (haspect : (f s.interlocking.track).aspect =
      s.interlocking.track.aspect) (hpoint : (f s.interlocking.track).point =
      s.interlocking.track.point) : (s.onTrack f).Known known :=
    ⟨h.site.onTrack (haspect ▸ h.site.signals) (hpoint ▸ h.site.points), h.slots, h.drives⟩
  cases op with
  | disturb => cases undisturbed
  | command c =>
    unfold Session.operate
    cases c with
    | place train segments =>
      exact (htracked (·.place train segments) rfl rfl).record (.position train segments) hop
    | removeTrain train =>
      exact (htracked (·.remove train) rfl rfl).record (.position train []) hop
    | mark segment value =>
      exact (htracked (·.mark segment value) rfl rfl).record (.occupied segment value) hop
    | setAspect signal aspect =>
      simp only [perform, answer_fst]
      exact ⟨h.site.commandSignal signal aspect, h.slots, h.drives⟩
    | setPoint point position =>
      simp only [perform, answer_fst]
      exact ⟨h.site.commandPoint point position, h.slots, h.drives⟩
    | jam id => exact htracked (·.jam id) rfl rfl
    | lose signal =>
      refine ⟨h.site.onTrack (fun q hq => h.site.signals q ?_) h.site.points, h.slots, h.drives⟩
      rw [Track.isSome_aspect_lose, Bool.and_eq_true] at hq
      exact hq.1
    | _ => cases houtside
  | _ => cases houtside

/-- What is known of the names of the site and of those that an operation brings in is known of all
names after it. -/
theorem Known.operate (hreg : reg.Known known) (h : s.Known known) {op : Operation}
    (undisturbed : op.isDisturbance = false) (hop : ∀ n ∈ op.names, known n) :
    (s.operate reg op).Known known := by
  by_cases hattempt : op.isGrantAttempt = true
  · exact h.operate_of_attempt hreg hop hattempt
  by_cases houtside : op.isOutside = true
  · exact h.operate_of_outside undisturbed hop houtside
  cases op with
  | disturb => cases undisturbed
  | begin place => exact h.actAt (fun d il hd hil => hd.begin hil reg) place
  | pass place =>
    refine h.actAt (fun d il hd hil => ⟨?_, hd.pass hreg hil⟩) place
    exact hd.moves (.single (.pass d il))
  | enlist train route mode =>
    simp only [Operation.names, List.forall_mem_cons] at hop
    exact h.enlistDrive hop.1 hop.2.1 mode
  | launchOutside train route mode =>
    simp only [Operation.names, List.forall_mem_cons] at hop
    have hlaunched := h.launch (.outside s.outsideCount) hop.1 hop.2.1 mode
    exact ⟨hlaunched.site, hlaunched.slots, hlaunched.drives⟩
  | collectTrain train => exact h.collect hreg _
  | close => exact h.close hreg
  | command c =>
    unfold Session.operate
    cases c with
    | place | removeTrain | mark | setAspect | setPoint | jam | lose => exact absurd rfl houtside
    | grant | request | directGrant | directRequest => exact absurd rfl hattempt
    | grab train =>
      simp only [perform, answer_fst]
      exact h.grabTrain (hop train (List.mem_singleton_self train))
    | ungrab slot => exact h.ungrab reg slot
    | release route =>
      simp only [perform, answer_fst]
      exact ⟨h.site.releaseRoute hreg route, h.slots, h.drives⟩
    | drive train route mode =>
      simp only [Operation.names, List.forall_mem_cons] at hop
      simp only [perform, answer_fst]
      exact h.startDrive hreg hop.1 hop.2.1 mode
    | poll => exact h.poll hreg
    | listDrives => exact h.reap
    | await train => exact (h.settle hreg).collect hreg _
    | shutdown =>
      simp only [perform, answer_fst]
      exact (h.settle hreg).close hreg
    | releaseIfHeldBy route train =>
      simp only [perform, answer_fst]
      exact ⟨h.site.withdraws hreg (releaseIfHeldBy_withdraws _ reg route train), h.slots, h.drives⟩
    | releaseAll =>
      simp only [perform, answer_fst]
      exact ⟨h.site.withdraws hreg (releaseEach_withdraws _ reg _), h.slots, h.drives⟩
    | setAlgorithm name =>
      simp only [perform, answer_fst, setAlgorithm]
      cases ConflictPolicy.ofName? name <;> exact ⟨h.site, h.slots, h.drives⟩
    | outsideDrive train route mode =>
      simp only [Operation.names, List.forall_mem_cons] at hop
      have hpassed := (h.launch (.outside s.outsideCount) hop.1 hop.2.1 mode).passLast hreg
      exact ⟨hpassed.site, hpassed.slots, hpassed.drives⟩
    | cancelOutside number =>
      exact ⟨h.site, h.slots, known_of_moved (cancelEach_moved reg _ s.drives) h.drives⟩
    | endOutside number => exact h.collect hreg _

theorem Known.operateAll (hreg : reg.Known known) (h : s.Known known) {operations : List Operation}
    (hoperations : ∀ op ∈ operations, op.isDisturbance = false ∧ ∀ n ∈ op.names, known n) :
    (s.operateAll reg operations).Known known := by
  induction operations generalizing s with
  | nil => exact h
  | cons op rest ih =>
    rw [List.forall_mem_cons] at hoperations
    obtain ⟨undisturbed, hop⟩ := hoperations.1
    exact ih (h.operate hreg undisturbed hop) hoperations.2

end Known

end Session

end Signalbox
