import Signalbox.Proofs.DrivePass
import Signalbox.Proofs.Operation

/-!
The order of passes. What a pass does is settled by what its drive sees: whether the train holds
the route, where it stands, what is occupied and which signals obey. Passes set signals to stop
and nothing else, and free only the route of their own train. So no pass changes what another
drive sees, unless both are for the same train on the same route, and two passes come to the same
in either order.
-/
namespace Signalbox

namespace Interlocking

theorem eq_of_views {il il' : Interlocking} (track : il.track = il'.track)
    (holder : il.holder = il'.holder) (log : il.log = il'.log) : il = il' := by
  cases il
  cases il'
  congr

def refusal? (il : Interlocking) (s : SignalId) : Option TrackFault :=
  if il.track.jammed s then some (.jammedSignal s)
  else if (il.track.aspect s).isNone then some (.unknownSignal s)
  else none

end Interlocking

/-- What a pass has done to the route set. -/
structure PassEffect where
  /-- the signals that it has set to stop -/
  stops : List SignalId
  /-- the routes that it has taken from their trains -/
  freed : List RouteIndex
  events : List Event

namespace PassEffect

def idle : PassEffect := ⟨[], [], []⟩

def append (c d : PassEffect) : PassEffect :=
  ⟨c.stops ++ d.stops, c.freed ++ d.freed, c.events ++ d.events⟩

/-- The route set after the effect. Signals that do not obey stay as they are. -/
def apply (c : PassEffect) (il : Interlocking) : Interlocking where
  track := { il.track with
    aspect := fun q => if q ∈ c.stops ∧ il.obeys q = true then some .stop else il.track.aspect q }
  holder i := if i ∈ c.freed then none else il.holder i
  log := il.log ++ c.events

section Apply

variable (c d : PassEffect) (il : Interlocking)

theorem aspect_apply (q : SignalId) :
    (c.apply il).track.aspect q =
      if q ∈ c.stops ∧ il.obeys q = true then some .stop else il.track.aspect q := rfl

theorem holder_apply (i : RouteIndex) :
    (c.apply il).holder i = if i ∈ c.freed then none else il.holder i := rfl

theorem isSome_aspect_apply (q : SignalId) :
    ((c.apply il).track.aspect q).isSome = (il.track.aspect q).isSome := by
  rw [aspect_apply]
  split
  · rename_i h
    have hobeys := h.2
    rw [Interlocking.obeys, Bool.and_eq_true] at hobeys
    rw [hobeys.2]
    rfl
  · rfl

@[simp] theorem obeys_apply (q : SignalId) : (c.apply il).obeys q = il.obeys q := by
  unfold Interlocking.obeys
  rw [isSome_aspect_apply]
  rfl

@[simp] theorem apply_idle : idle.apply il = il := by
  apply Interlocking.eq_of_views
  · simp [apply, idle]
  · funext i
    simp [apply, idle]
  · exact List.append_nil _

theorem aspect_apply_apply (q : SignalId) :
    (d.apply (c.apply il)).track.aspect q =
      if (q ∈ c.stops ∨ q ∈ d.stops) ∧ il.obeys q = true then some .stop
      else il.track.aspect q := by
  simp only [aspect_apply, obeys_apply]
  by_cases hd : q ∈ d.stops <;> by_cases hq : il.obeys q = true <;> simp [hd, hq]

theorem holder_apply_apply (i : RouteIndex) :
    (d.apply (c.apply il)).holder i =
      if i ∈ c.freed ∨ i ∈ d.freed then none else il.holder i := by
  simp only [holder_apply]
  by_cases hd : i ∈ d.freed <;> simp [hd]

theorem apply_append : (c.append d).apply il = d.apply (c.apply il) := by
  apply Interlocking.eq_of_views
  · have haspect : ((c.append d).apply il).track.aspect =
        (d.apply (c.apply il)).track.aspect := by
      funext q
      rw [aspect_apply_apply]
      simp [apply, append]
    simp only [apply] at haspect ⊢
    rw [haspect]
  · funext i
    rw [holder_apply_apply]
    simp [apply, append]
  · exact (List.append_assoc _ _ _).symm

theorem track_apply_comm : (d.apply (c.apply il)).track = (c.apply (d.apply il)).track := by
  have haspect : (d.apply (c.apply il)).track.aspect = (c.apply (d.apply il)).track.aspect := by
    funext q
    simp only [aspect_apply_apply, or_comm]
  simp only [apply] at haspect ⊢
  rw [haspect]

theorem holder_apply_comm : (d.apply (c.apply il)).holder = (c.apply (d.apply il)).holder := by
  funext i
  simp only [holder_apply_apply, or_comm]

end Apply

def ofStop (s : SignalId) : Option TrackFault → PassEffect
  | none => ⟨[s], [], [.signal s .stop]⟩
  | some _ => idle

@[simp] theorem freed_ofStop (s : SignalId) (fault : Option TrackFault) :
    (ofStop s fault).freed = [] := by
  cases fault <;> rfl

theorem commandSignal_stop (il : Interlocking) (s : SignalId) :
    il.commandSignal s .stop = ((ofStop s (il.refusal? s)).apply il, il.refusal? s) := by
  unfold Interlocking.commandSignal Track.setAspect Interlocking.refusal?
  by_cases hjammed : il.track.jammed s = true
  · simp [hjammed, ofStop]
  · cases haspect : il.track.aspect s with
    | none => simp [hjammed, ofStop]
    | some a =>
      simp only [hjammed, Option.isNone_some, Bool.false_eq_true, if_false]
      refine Prod.ext ?_ rfl
      apply Interlocking.eq_of_views
      · simp only [Interlocking.record, ofStop, apply, List.mem_singleton, Track.mk.injEq,
          and_true]
        funext q
        by_cases hq : q = s
        · subst hq
          simp [Interlocking.obeys, hjammed, haspect]
        · simp [hq]
      · funext i
        simp [Interlocking.record, ofStop, apply]
      · rfl

end PassEffect

namespace Interlocking

/-- Two route sets that look the same to every drive, but for who holds its route. -/
structure Resembles (il il' : Interlocking) : Prop where
  marked : il'.track.marked = il.track.marked
  trains : il'.track.trains = il.track.trains
  jammed : il'.track.jammed = il.track.jammed
  reports : ∀ s, (il'.track.aspect s).isSome = (il.track.aspect s).isSome

/-- Two route sets have come to the next ones by the same effect, which frees certain routes at
most. -/
def Alike (may : RouteIndex → Prop) (il il' next next' : Interlocking) : Prop :=
  ∃ c : PassEffect, (∀ i ∈ c.freed, may i) ∧ next = c.apply il ∧ next' = c.apply il'

section Alike

variable {may : RouteIndex → Prop} {il il' next next' : Interlocking}

theorem Resembles.refl (il : Interlocking) : il.Resembles il := ⟨rfl, rfl, rfl, fun _ => rfl⟩

theorem resembles_apply (c : PassEffect) (il : Interlocking) : il.Resembles (c.apply il) :=
  ⟨rfl, rfl, rfl, c.isSome_aspect_apply il⟩

theorem Resembles.refusal?_eq (h : il.Resembles il') (s : SignalId) :
    il'.refusal? s = il.refusal? s := by
  unfold refusal?
  rw [h.jammed, ← Option.not_isSome, ← Option.not_isSome, h.reports]

theorem Resembles.isOccupied_eq (h : il.Resembles il') (segment : SegmentId) :
    il'.track.isOccupied segment = il.track.isOccupied segment := by
  unfold Track.isOccupied
  rw [h.marked, h.trains]

theorem Resembles.position_eq (h : il.Resembles il') (train : TrainId) :
    il'.track.position train = il.track.position train := by
  unfold Track.position
  rw [h.trains]

theorem Alike.refl (may : RouteIndex → Prop) (il il' : Interlocking) : Alike may il il' il il' :=
  ⟨.idle, by simp [PassEffect.idle], by simp, by simp⟩

theorem Alike.trans {last last' : Interlocking} (h : Alike may il il' next next')
    (h' : Alike may next next' last last') : Alike may il il' last last' := by
  obtain ⟨c, hc, rfl, rfl⟩ := h
  obtain ⟨d, hd, rfl, rfl⟩ := h'
  refine ⟨c.append d, ?_, (c.apply_append d il).symm, (c.apply_append d il').symm⟩
  exact List.forall_mem_append.mpr ⟨hc, hd⟩

theorem Alike.mono {may' : RouteIndex → Prop} (hmay : ∀ i, may i → may' i)
    (h : Alike may il il' next next') : Alike may' il il' next next' := by
  obtain ⟨c, hc, hnext, hnext'⟩ := h
  exact ⟨c, fun i hi => hmay i (hc i hi), hnext, hnext'⟩

theorem Alike.resembles (h : Alike may il il' next next') (hres : il.Resembles il') :
    next.Resembles next' := by
  obtain ⟨c, -, rfl, rfl⟩ := h
  refine ⟨hres.marked, hres.trains, hres.jammed, ?_⟩
  intro s
  rw [c.isSome_aspect_apply, c.isSome_aspect_apply, hres.reports]

theorem Alike.holder_eq (h : Alike (fun _ => False) il il' next next') :
    next.holder = il.holder ∧ next'.holder = il'.holder := by
  obtain ⟨c, hc, rfl, rfl⟩ := h
  have hfreed : c.freed = [] := List.eq_nil_iff_forall_not_mem.mpr hc
  constructor <;> funext i <;> simp [PassEffect.apply, hfreed]

theorem alike_record (may : RouteIndex → Prop) (il il' : Interlocking) (e : Event) :
    Alike may il il' (il.record e) (il'.record e) := by
  refine ⟨⟨[], [], [e]⟩, by simp, ?_, ?_⟩ <;> simp [PassEffect.apply, record]

theorem alike_setHolder {i : RouteIndex} (hi : may i) (il il' : Interlocking) :
    Alike may il il' (il.setHolder i none) (il'.setHolder i none) := by
  refine ⟨⟨[], [i], []⟩, by simpa using hi, ?_, ?_⟩ <;> simp [PassEffect.apply, setHolder]

theorem alike_commandSignal (may : RouteIndex → Prop) (h : il.Resembles il') (s : SignalId) :
    Alike may il il' (il.commandSignal s .stop).1 (il'.commandSignal s .stop).1 ∧
      (il'.commandSignal s .stop).2 = (il.commandSignal s .stop).2 := by
  rw [PassEffect.commandSignal_stop, PassEffect.commandSignal_stop, h.refusal?_eq]
  exact ⟨⟨.ofStop s (il.refusal? s), by simp, rfl, rfl⟩, rfl⟩

theorem alike_commandSignals (may : RouteIndex → Prop) (h : il.Resembles il')
    (signals : List SignalId) :
    Alike may il il' (il.commandSignals (signals.map (·, .stop))).1
        (il'.commandSignals (signals.map (·, .stop))).1 ∧
      (il'.commandSignals (signals.map (·, .stop))).2 =
        (il.commandSignals (signals.map (·, .stop))).2 := by
  unfold commandSignals
  induction signals generalizing il il' with
  | nil => exact ⟨.refl may il il', rfl⟩
  | cons s rest ih =>
    obtain ⟨hstop, hfault⟩ := alike_commandSignal may h s
    obtain ⟨hrest, hfaults⟩ := ih (hstop.resembles h)
    simp only [List.map_cons, commandAll]
    exact ⟨hstop.trans hrest, by rw [hfault, hfaults]⟩

theorem alike_release (reg : Registry) (h : il.Resembles il') {i : RouteIndex} (hi : may i)
    (held : il.isHeld i = true) (held' : il'.isHeld i = true) :
    Alike may il il' (il.release reg i).1 (il'.release reg i).1 ∧
      (il'.release reg i).2 = (il.release reg i).2 := by
  cases hr : reg.route? i with
  | none =>
    rw [release_of_unknown il reg i hr, release_of_unknown il' reg i hr]
    exact ⟨.refl may il il', by simp [release, hr]⟩
  | some r =>
    obtain ⟨hstop, hfaults⟩ := alike_commandSignals may h r.signals
    rw [release_of_held il reg i hr held, release_of_held il' reg i hr held']
    refine ⟨(hstop.trans (alike_setHolder hi _ _)).trans (alike_record may _ _ _), ?_⟩
    simp [release, hr, held, held', hfaults]

end Alike

end Interlocking

namespace Drive

open Interlocking

/-- The routes that the drive may take from its own train. -/
def Frees (reg : Registry) (d : Drive) (il : Interlocking) (i : RouteIndex) : Prop :=
  reg.index? d.route = some i ∧ il.holder i = some d.train

/-- To this drive the two route sets look the same. -/
structure SeesSame (reg : Registry) (d : Drive) (il il' : Interlocking) : Prop where
  resembles : il.Resembles il'
  held : il'.isHeldBy reg d.route d.train = il.isHeldBy reg d.route d.train

section Pass

variable {reg : Registry} {d : Drive} {il il' next next' : Interlocking}

theorem SeesSame.holder_iff (h : SeesSame reg d il il') {i : RouteIndex}
    (hi : reg.index? d.route = some i) :
    il'.holder i = some d.train ↔ il.holder i = some d.train := by
  have held := h.held
  unfold isHeldBy at held
  rw [hi, Option.any_some, Option.any_some, Bool.eq_iff_iff] at held
  simpa using held

theorem SeesSame.onward (h : SeesSame reg d il il')
    (halike : Alike (fun _ => False) il il' next next') : SeesSame reg d next next' where
  resembles := halike.resembles h.resembles
  held := by
    have hheld := h.held
    unfold isHeldBy at hheld ⊢
    rw [halike.holder_eq.1, halike.holder_eq.2]
    exact hheld

/-- The passes from two route sets end alike. -/
structure PassAlike (reg : Registry) (d : Drive) (il il' : Interlocking)
    (result result' : Drive × Interlocking) : Prop where
  drive : result'.1 = result.1
  interlocking : Alike (Frees reg d il) il il' result.2 result'.2

theorem PassAlike.after (halike : Alike (fun _ => False) il il' next next')
    {result result' : Drive × Interlocking} (h : PassAlike reg d next next' result result') :
    PassAlike reg d il il' result result' where
  drive := h.drive
  interlocking := by
    refine (halike.mono fun i hi => hi.elim).trans (h.interlocking.mono ?_)
    intro i hi
    unfold Frees at hi ⊢
    rwa [halike.holder_eq.1] at hi

theorem passAlike_finish (d : Drive) (il il' : Interlocking) (o : Outcome) :
    PassAlike reg d il il' (d.finish il o) (d.finish il' o) :=
  ⟨rfl, alike_record _ il il' _⟩

theorem passAlike_stay (d d' : Drive) (il il' : Interlocking) :
    PassAlike reg d il il' (d', il) (d', il') :=
  ⟨rfl, .refl _ il il'⟩

theorem stopSignals_alike (h : il.Resembles il') (p : Progress) (signals : List SignalId) :
    Alike (fun _ => False) il il' (stopSignals il p signals).1 (stopSignals il' p signals).1 ∧
      (stopSignals il' p signals).2 = (stopSignals il p signals).2 := by
  induction signals generalizing il il' p with
  | nil => exact ⟨.refl _ il il', rfl⟩
  | cons s rest ih =>
    obtain ⟨hstop, hfault⟩ := alike_commandSignal (fun _ => False) h s
    have hnext := hstop.resembles h
    unfold stopSignals
    cases hs : il.commandSignal s .stop with
    | mk next fault =>
      cases hs' : il'.commandSignal s .stop with
      | mk next' fault' =>
        rw [hs, hs'] at hstop hnext hfault
        dsimp only at hstop hnext hfault
        subst hfault
        have htrans (p : Progress) := And.imp_left hstop.trans (ih hnext p)
        cases fault' with
        | none => exact htrans _
        | some f =>
          dsimp only
          split
          · exact htrans p
          · exact htrans _

theorem stopSignals_resembles (il : Interlocking) (p : Progress) (signals : List SignalId) :
    il.Resembles (stopSignals il p signals).1 := by
  obtain ⟨⟨c, -, hnext, -⟩, -⟩ := stopSignals_alike (.refl il) p signals
  rw [hnext]
  exact resembles_apply c il

theorem releaseRoute_alike (h : SeesSame reg d il il') (p : Progress) :
    PassAlike reg d il il' (releaseRoute reg d il p) (releaseRoute reg d il' p) := by
  unfold releaseRoute releaseIfHeldBy indexOf
  cases hi : reg.index? d.route with
  | none => exact passAlike_finish d il il' _
  | some i =>
    dsimp only
    by_cases held : il.holder i = some d.train
    · have held' := (h.holder_iff hi).mpr held
      have hfrees : Frees reg d il i := ⟨hi, held⟩
      rw [if_pos held, if_pos held']
      obtain ⟨hrelease, hanswer⟩ := alike_release reg h.resembles hfrees
        (by simp [isHeld, held]) (by simp [isHeld, held'])
      cases hr : il.release reg i with
      | mk next answer =>
        cases hr' : il'.release reg i with
        | mk next' answer' =>
          rw [hr, hr'] at hrelease hanswer
          dsimp only at hrelease hanswer
          subst hanswer
          have hend (o : Outcome) :
              PassAlike reg d il il' (d.finish next o) (d.finish next' o) :=
            ⟨rfl, hrelease.trans (alike_record _ next next' _)⟩
          cases answer' with
          | ok released => cases released <;> exact hend _
          | error e => cases e <;> exact hend _
    · have held' : ¬ il'.holder i = some d.train := fun hh => held ((h.holder_iff hi).mp hh)
      rw [if_neg held, if_neg held']
      exact passAlike_finish d il il' _

theorem arrive_alike (h : SeesSame reg d il il') (p : Progress) :
    PassAlike reg d il il' (arrive reg d il p) (arrive reg d il' p) := by
  unfold arrive
  cases (reg.find? d.route).bind Route.lastSegment? with
  | none => exact releaseRoute_alike h p
  | some last =>
    dsimp only
    rw [h.held, h.resembles.isOccupied_eq]
    split
    · exact passAlike_finish d il il' _
    · split
      · exact releaseRoute_alike h p
      · exact passAlike_stay d _ il il'

theorem proceed_alike (h : SeesSame reg d il il') (p : Progress) :
    PassAlike reg d il il' (proceed reg d il p) (proceed reg d il' p) := by
  unfold proceed
  split
  · exact passAlike_stay d _ il il'
  · cases d.mode with
    | manual => exact passAlike_finish d il il' _
    | automatic => exact arrive_alike h p

theorem begin_alike (reg : Registry) (d : Drive) (il il' : Interlocking) :
    (d.begin reg il').1 = (d.begin reg il).1 ∧
      Alike (fun _ => False) il il' (d.begin reg il).2 (d.begin reg il').2 := by
  unfold begin
  cases d.phase with
  | initializing =>
    dsimp only
    cases outset reg d.route <;>
      exact ⟨rfl, (alike_record _ il il' _).trans (alike_record _ _ _ _)⟩
  | progressing | arriving | ended => exact ⟨rfl, .refl _ il il'⟩

theorem watch_alike (reg : Registry) (h : SeesSame reg d il il') :
    PassAlike reg d il il' (d.watch reg il) (d.watch reg il') := by
  unfold watch
  cases d.phase with
  | initializing | ended => exact passAlike_stay d d il il'
  | arriving p =>
    dsimp only
    split
    · exact passAlike_finish d il il' _
    · exact arrive_alike h p
  | progressing p =>
    dsimp only
    split
    · exact passAlike_finish d il il' _
    · rw [h.held, h.resembles.position_eq]
      split
      · exact passAlike_finish d il il' _
      · obtain ⟨hstops, hprogress⟩ := stopSignals_alike h.resembles
          { p with progression := (p.progression.advance (il.track.position d.train)).1 }
          (p.progression.advance (il.track.position d.train)).2
        rw [hprogress]
        exact .after hstops (proceed_alike (h.onward hstops) _)

/-- What a pass does is settled by what its drive sees. -/
theorem pass_alike (reg : Registry) (h : SeesSame reg d il il') :
    PassAlike reg d il il' (d.pass reg il) (d.pass reg il') := by
  obtain ⟨hdrive, hbegin⟩ := begin_alike reg d il il'
  obtain ⟨htrain, hroute⟩ := train_route_begin reg d il
  have honward := h.onward hbegin
  have hsees : SeesSame reg (d.begin reg il).1 (d.begin reg il).2 (d.begin reg il').2 :=
    ⟨honward.resembles, by rw [htrain, hroute]; exact honward.held⟩
  have hwatch := watch_alike reg hsees
  unfold pass
  dsimp only
  rw [hdrive]
  refine .after hbegin ⟨hwatch.drive, hwatch.interlocking.mono fun i hi => ?_⟩
  unfold Frees at hi ⊢
  rwa [htrain, hroute] at hi

theorem seesSame_pass (il : Interlocking) {other : Drive}
    (hne : other.train ≠ d.train ∨ other.route ≠ d.route) :
    SeesSame reg d il (other.pass reg il).2 := by
  obtain ⟨c, hfrees, hpass, -⟩ :=
    (pass_alike reg (d := other) ⟨.refl il, rfl⟩).interlocking
  rw [hpass]
  refine ⟨resembles_apply c il, ?_⟩
  unfold isHeldBy
  cases hi : reg.index? d.route with
  | none => rfl
  | some i =>
    simp only [Option.any_some, PassEffect.apply]
    split
    · -- The freed route was this one, so it was held by the other train.
      rename_i hfreed
      obtain ⟨hother, hholder⟩ := hfrees i hfreed
      have hroute : other.route = d.route := by
        obtain ⟨r, hr, hid⟩ := Registry.route?_of_index? hother
        obtain ⟨r', hr', hid'⟩ := Registry.route?_of_index? hi
        rw [hr, Option.some.injEq] at hr'
        rw [← hid, ← hid', hr']
      have htrain : other.train ≠ d.train := hne.resolve_right (not_not.mpr hroute)
      rw [hholder]
      simp [htrain]
    · rfl

/-- Two passes leave the same drives, holders and track in either order, and each records what it
records alone. -/
theorem passes_commute (reg : Registry) (d other : Drive) (il : Interlocking)
    (hne : other.train ≠ d.train ∨ other.route ≠ d.route) :
    (d.pass reg (other.pass reg il).2).1 = (d.pass reg il).1 ∧
      (other.pass reg (d.pass reg il).2).1 = (other.pass reg il).1 ∧
      (d.pass reg (other.pass reg il).2).2.track = (other.pass reg (d.pass reg il).2).2.track ∧
      (d.pass reg (other.pass reg il).2).2.holder =
        (other.pass reg (d.pass reg il).2).2.holder ∧
      ∃ events events', (d.pass reg il).2.log = il.log ++ events ∧
        (other.pass reg il).2.log = il.log ++ events' ∧
        (other.pass reg (d.pass reg il).2).2.log = il.log ++ events ++ events' ∧
        (d.pass reg (other.pass reg il).2).2.log = il.log ++ events' ++ events := by
  have hne' : d.train ≠ other.train ∨ d.route ≠ other.route := hne.imp Ne.symm Ne.symm
  obtain ⟨hdrive, c, -, hfirst, hsecond⟩ := pass_alike reg (seesSame_pass il hne)
  obtain ⟨hdrive', c', -, hfirst', hsecond'⟩ := pass_alike reg (seesSame_pass il hne')
  refine ⟨hdrive, hdrive', ?_, ?_, c.events, c'.events, ?_, ?_, ?_, ?_⟩
  · rw [hsecond, hsecond', hfirst, hfirst']
    exact c'.track_apply_comm c il
  · rw [hsecond, hsecond', hfirst, hfirst']
    exact c'.holder_apply_comm c il
  · rw [hfirst]
    rfl
  · rw [hfirst']
    rfl
  · rw [hsecond', hfirst]
    rfl
  · rw [hsecond, hfirst']
    rfl

end Pass

end Drive

namespace Session

variable {s : Session} {m n : Nat} {e e' : DriveEntry}

theorem passAt_of_drive (reg : Registry) (he : s.drives[m]? = some e) :
    s.passAt reg m = { s with
      drives := s.drives.set m { e with drive := (e.drive.pass reg s.interlocking).1 }
      interlocking := (e.drive.pass reg s.interlocking).2 } := by
  simp [passAt, actAt, he]

theorem passAt_passAt (reg : Registry) (he : s.drives[m]? = some e) (he' : s.drives[n]? = some e')
    (hmn : m ≠ n) :
    (s.passAt reg m).passAt reg n = { s with
      drives := (s.drives.set m { e with drive := (e.drive.pass reg s.interlocking).1 }).set n
        { e' with drive := (e'.drive.pass reg (e.drive.pass reg s.interlocking).2).1 }
      interlocking := (e'.drive.pass reg (e.drive.pass reg s.interlocking).2).2 } := by
  have hother : (s.passAt reg m).drives[n]? = some e' := by
    rw [passAt_of_drive reg he, List.getElem?_set_ne hmn, he']
  rw [passAt_of_drive reg hother, passAt_of_drive reg he]

/-- Two drives that are not for the same train on the same route may make their passes in either
order: the same routes are held, the track shows the same, the same trains are grabbed and all
drives are the same, their outcomes included. Only the records of the two passes change places,
and each is what the pass records alone. -/
theorem pass_order_immaterial (reg : Registry) (he : s.drives[m]? = some e)
    (he' : s.drives[n]? = some e')
    (hne : e.drive.train ≠ e'.drive.train ∨ e.drive.route ≠ e'.drive.route) :
    let first := (s.passAt reg m).passAt reg n
    let second := (s.passAt reg n).passAt reg m
    first.interlocking.holder = second.interlocking.holder ∧
      first.interlocking.track = second.interlocking.track ∧
      first.grabs = second.grabs ∧
      first.drives = second.drives ∧
      ∃ events events', (s.passAt reg m).log = s.log ++ events ∧
        (s.passAt reg n).log = s.log ++ events' ∧
        first.log = s.log ++ events ++ events' ∧ second.log = s.log ++ events' ++ events := by
  intro first second
  have hmn : m ≠ n := by
    rintro rfl
    rw [he, Option.some.injEq] at he'
    subst he'
    exact hne.elim (fun h => h rfl) (fun h => h rfl)
  obtain ⟨hdrive', hdrive, htrack, hholder, events, events', hlog, hlog', hboth, hboth'⟩ :=
    Drive.passes_commute reg e'.drive e.drive s.interlocking hne
  have hfirst : first = _ := passAt_passAt reg he he' hmn
  have hsecond : second = _ := passAt_passAt reg he' he hmn.symm
  rw [hfirst, hsecond, passAt_of_drive reg he, passAt_of_drive reg he']
  refine ⟨hholder, htrack, rfl, ?_, events', events, hlog', hlog, hboth', hboth⟩
  rw [hdrive', hdrive]
  exact List.set_comm _ _ hmn

/-- The second train is granted the bypass as soon as the first one has passed the signal that
both routes start from, and both trains arrive. The last signal of both routes is jammed. -/
def junctionArrivals : Session :=
  junctionSession.operateAll junctionRoutes [.command (.directGrant "T1" "left"),
    .launchOutside "T1" "left" .automatic, .command (.place "T1" ["a"]), .pass 0,
    .command (.place "T1" ["c"]), .command (.directGrant "T2" "bypass"),
    .launchOutside "T2" "bypass" .automatic, .command (.place "T2" ["b"]), .command (.jam "t")]

theorem junction_pass_order :
    junctionArrivals.drives.map (fun e => (e.drive.train, e.drive.route, e.drive.isFinished)) =
        [("T1", "left", false), ("T2", "bypass", false)] ∧
      ((junctionArrivals.passAt junctionRoutes 0).passAt junctionRoutes 1).interlocking.holder =
        ((junctionArrivals.passAt junctionRoutes 1).passAt junctionRoutes 0).interlocking.holder ∧
      ((junctionArrivals.passAt junctionRoutes 0).passAt junctionRoutes 1).interlocking.track =
        ((junctionArrivals.passAt junctionRoutes 1).passAt junctionRoutes 0).interlocking.track ∧
      ((junctionArrivals.passAt junctionRoutes 0).passAt junctionRoutes 1).drives =
        ((junctionArrivals.passAt junctionRoutes 1).passAt junctionRoutes 0).drives ∧
      ((junctionArrivals.passAt junctionRoutes 0).passAt junctionRoutes 1).drives.map
          (·.drive.outcome?) =
        [some (.completed ["s", "m"] true [.jammedSignal "t"]),
          some (.completed ["s"] true [.jammedSignal "t"])] := by
  have hfirst : junctionArrivals.drives[0]?.map (·.drive.train) = some "T1" := by decide
  have hsecond : junctionArrivals.drives[1]?.map (·.drive.train) = some "T2" := by decide
  obtain ⟨e, he, htrain⟩ := Option.map_eq_some_iff.mp hfirst
  obtain ⟨e', he', htrain'⟩ := Option.map_eq_some_iff.mp hsecond
  have hne : e.drive.train ≠ e'.drive.train := by
    rw [htrain, htrain']
    decide
  obtain ⟨hholder, htrack, -, hdrives, -⟩ :=
    pass_order_immaterial junctionRoutes he he' (.inl hne)
  exact ⟨by decide, hholder, htrack, hdrives, by decide⟩

/-- Two drives for one train on one route race for the release, which only the first one makes. -/
example :
    let s := junctionArrivals.operate junctionRoutes (.launchOutside "T1" "left" .automatic)
    ((s.passAt junctionRoutes 0).passAt junctionRoutes 2).drives.map (·.drive.outcome?) ≠
      ((s.passAt junctionRoutes 2).passAt junctionRoutes 0).drives.map (·.drive.outcome?) := by
  decide

end Session

end Signalbox
