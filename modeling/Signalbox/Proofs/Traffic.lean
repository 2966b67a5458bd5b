import Mathlib.Data.List.Induction
import Signalbox.Proofs.DrivePass

/-!
Drives among everything else that happens. The drives of a site make their passes in any order,
each pass at once, and between two passes the route set may be found in any other state. A run of
such moves is followed by the passes of each drive.
-/
namespace Signalbox

/-- Nothing has changed but for what is recorded about drives. -/
structure Interlocking.OnlyNotes (il il' : Interlocking) : Prop where
  track : il'.track = il.track
  holder : il'.holder = il.holder
  log : ∃ events, il'.log = il.log ++ events ∧ ∀ e ∈ events, e.isDrive = true

namespace Interlocking.OnlyNotes

variable {il il' il'' : Interlocking}

theorem refl (il : Interlocking) : il.OnlyNotes il := ⟨rfl, rfl, [], by simp, by simp⟩

theorem trans (h : il.OnlyNotes il') (h' : il'.OnlyNotes il'') : il.OnlyNotes il'' where
  track := h'.track.trans h.track
  holder := h'.holder.trans h.holder
  log := by
    obtain ⟨first, hfirst, hdrives⟩ := h.log
    obtain ⟨second, hsecond, hdrives'⟩ := h'.log
    refine ⟨first ++ second, by rw [hsecond, hfirst, List.append_assoc], ?_⟩
    exact List.forall_mem_append.mpr ⟨hdrives, hdrives'⟩

theorem record (il : Interlocking) {e : Event} (h : e.isDrive = true) :
    il.OnlyNotes (il.record e) :=
  ⟨rfl, rfl, [e], rfl, by simpa using h⟩

end Interlocking.OnlyNotes

namespace Drive

theorem onlyNotes_begin (reg : Registry) (d : Drive) (il : Interlocking) :
    il.OnlyNotes (d.begin reg il).2 := by
  have hbegun := begin_begun reg d il
  generalize d.begin reg il = result at hbegun ⊢
  cases hbegun with
  | already => exact .refl il
  | refused | started =>
    exact (Interlocking.OnlyNotes.record _ rfl).trans (Interlocking.OnlyNotes.record _ rfl)

/-- A drive with a cause to abort ends at its pass, for such a cause. It has stopped what it had
before, and does nothing but record its end. -/
theorem pass_of_cause {reg : Registry} {d : Drive} {il : Interlocking} {reason : AbortReason}
    (h : d.OnRoute reg) (hunfinished : d.isFinished = false) (cause : d.Cause reg il reason) :
    (∃ reason faults, d.Cause reg il reason ∧
      (d.pass reg il).1.outcome? = some (.aborted reason d.stopped faults)) ∧
    il.OnlyNotes (d.pass reg il).2 := by
  by_cases hphase : d.phase = .initializing
  · have hnone : d.stopped = [] := by simp [stopped, hphase]
    have hbegun := begin_begun reg d il
    have honRoute := h.begin il
    have hnotes := onlyNotes_begin reg d il
    rw [← pass_begin, hnone]
    generalize d.begin reg il = result at hbegun honRoute hnotes ⊢
    cases hbegun with
    | already hbefore => exact absurd hphase hbefore
    | refused _ houtset =>
      rw [pass_of_finished reg _ rfl]
      exact ⟨⟨_, [], .refused hphase houtset, rfl⟩, hnotes⟩
    | @started p _ houtset =>
      obtain ⟨r, -, -, hstopped⟩ := outset_eq_ok houtset
      have hcause : ∃ reason, Cause reg { d with phase := .progressing p }
          (d.recordState (d.recordState il .initializing) .progressing) reason := by
        cases cause with
        | cancelled hcancelled => exact ⟨_, .cancelled hcancelled⟩
        | lost hlost => exact ⟨_, .lost hlost⟩
        | refused _ hrefused => rw [houtset] at hrefused; cases hrefused
      obtain ⟨_, hcause⟩ := hcause
      obtain ⟨reason, hcause, habort⟩ := pass_eq_abort honRoute rfl hcause
      rw [habort]
      refine ⟨⟨reason, p.faults, ?_, by rw [← hstopped]; rfl⟩, hnotes.trans (.record _ rfl)⟩
      cases hcause with
      | cancelled hcancelled => exact .cancelled hcancelled
      | lost hlost => exact .lost hlost
      | refused hphase => cases hphase
  · obtain ⟨p, hp⟩ := progress?_of_unfinished hunfinished hphase
    obtain ⟨reason, hcause, habort⟩ := pass_eq_abort h hp cause
    rw [habort, stopped_of_progress? hp]
    exact ⟨⟨reason, p.faults, hcause, rfl⟩, .record _ rfl⟩

end Drive

/-- Drives and the route set on which they run. No drive is ever taken off the list, so the place
of a drive tells it from all others. -/
structure Traffic where
  interlocking : Interlocking
  drives : List Drive

inductive Move where
  | launch (train : TrainId) (route : RouteId) (mode : DriveMode)
  | cancel (n : Nat)
  | begin (n : Nat)
  | pass (n : Nat)
  /-- whatever else happens to the route set -/
  | other (il : Interlocking)

def Move.actor? : Move → Option Nat
  | .begin n | .pass n => some n
  | .launch .. | .cancel _ | .other _ => none

namespace Traffic

def actAt (t : Traffic) (n : Nat) (act : Drive → Interlocking → Drive × Interlocking) : Traffic :=
  match t.drives[n]? with
  | none => t
  | some d =>
    let (d, il) := act d t.interlocking
    ⟨il, t.drives.set n d⟩

def step (reg : Registry) (t : Traffic) : Move → Traffic
  | .launch train route mode => { t with drives := t.drives ++ [Drive.launch train route mode] }
  | .cancel n => t.actAt n fun d il => (d.cancel, il)
  | .begin n => t.actAt n (Drive.begin reg)
  | .pass n => t.actAt n (Drive.pass reg)
  | .other il => { t with interlocking := il }

def run (reg : Registry) (t : Traffic) (moves : List Move) : Traffic := moves.foldl (step reg) t

/-- In the course of the moves the drive at this place makes a pass. It is then as given, and so is
the route set. -/
def Passes (reg : Registry) (t : Traffic) (moves : List Move) (n : Nat) (d : Drive)
    (il : Interlocking) : Prop :=
  ∃ earlier later, moves = earlier ++ .pass n :: later ∧
    (t.run reg earlier).drives[n]? = some d ∧ (t.run reg earlier).interlocking = il

def onTrack (t : Traffic) (track : Track) : Traffic :=
  { t with interlocking := { t.interlocking with track } }

/-- Whatever the track is like, the move gives no command and changes no holder. All that it
records is about drives. -/
def Quiet (reg : Registry) (t : Traffic) (m : Move) : Prop :=
  ∀ track, (t.onTrack track).interlocking.OnlyNotes ((t.onTrack track).step reg m).interlocking

section Run

variable {reg : Registry} {t : Traffic} {moves : List Move} {m : Move} {n : Nat} {d d' : Drive}
  {il : Interlocking}

theorem run_append (reg : Registry) (t : Traffic) (first second : List Move) :
    t.run reg (first ++ second) = (t.run reg first).run reg second :=
  List.foldl_append

theorem run_append_singleton (reg : Registry) (t : Traffic) (moves : List Move) (m : Move) :
    t.run reg (moves ++ [m]) = (t.run reg moves).step reg m :=
  run_append reg t moves [m]

section ActAt

variable {act : Drive → Interlocking → Drive × Interlocking} {k : Nat}

theorem actAt_of_drive (h : t.drives[n]? = some d) :
    t.actAt n act = ⟨(act d t.interlocking).2, t.drives.set n (act d t.interlocking).1⟩ := by
  simp [actAt, h]

theorem actAt_of_beyond (h : t.drives[n]? = none) : t.actAt n act = t := by
  simp [actAt, h]

theorem length_actAt (t : Traffic) (n : Nat)
    (act : Drive → Interlocking → Drive × Interlocking) :
    (t.actAt n act).drives.length = t.drives.length := by
  cases h : t.drives[n]? with
  | none => rw [actAt_of_beyond h]
  | some d => simp [actAt_of_drive h]

theorem drive_of_actAt (h : (t.actAt k act).drives[n]? = some d') :
    k ≠ n ∧ t.drives[n]? = some d' ∨
      k = n ∧ ∃ d, t.drives[n]? = some d ∧ d' = (act d t.interlocking).1 := by
  cases hk : t.drives[k]? with
  | none =>
    rw [actAt_of_beyond hk] at h
    refine .inl ⟨?_, h⟩
    rintro rfl
    rw [hk] at h
    cases h
  | some d =>
    rw [actAt_of_drive hk, List.getElem?_set] at h
    split at h
    · rename_i hkn
      subst hkn
      split at h
      · exact .inr ⟨rfl, d, hk, (Option.some.inj h).symm⟩
      · cases h
    · rename_i hkn
      exact .inl ⟨hkn, h⟩

end ActAt

theorem step_pass (h : t.drives[n]? = some d) :
    t.step reg (.pass n) =
      ⟨(d.pass reg t.interlocking).2, t.drives.set n (d.pass reg t.interlocking).1⟩ := by
  rw [step, actAt_of_drive h]

theorem step_begin (h : t.drives[n]? = some d) :
    t.step reg (.begin n) =
      ⟨(d.begin reg t.interlocking).2, t.drives.set n (d.begin reg t.interlocking).1⟩ := by
  rw [step, actAt_of_drive h]

theorem step_cancel (h : t.drives[n]? = some d) :
    t.step reg (.cancel n) = { t with drives := t.drives.set n d.cancel } := by
  rw [step, actAt_of_drive h]

/-- Where the drive at a place comes from when a move has been made. -/
inductive Stepped (reg : Registry) (t : Traffic) (n : Nat) : Move → Drive → Prop
  | launched {train : TrainId} {route : RouteId} {mode : DriveMode} (hn : t.drives.length = n) :
    Stepped reg t n (.launch train route mode) (Drive.launch train route mode)
  | cancelled {d : Drive} (hd : t.drives[n]? = some d) : Stepped reg t n (.cancel n) d.cancel
  | begun {d : Drive} (hd : t.drives[n]? = some d) :
    Stepped reg t n (.begin n) (d.begin reg t.interlocking).1
  | passed {d : Drive} (hd : t.drives[n]? = some d) :
    Stepped reg t n (.pass n) (d.pass reg t.interlocking).1
  | kept {m : Move} {d : Drive} (hd : t.drives[n]? = some d) (hm : m.actor? ≠ some n) :
    Stepped reg t n m d

theorem stepped (h : (t.step reg m).drives[n]? = some d') : Stepped reg t n m d' := by
  cases m with
  | other il => exact .kept h nofun
  | launch train route mode =>
    rw [step, List.getElem?_append] at h
    split at h
    · exact .kept h nofun
    · rename_i hn
      obtain ⟨hlt, hd⟩ := List.getElem?_eq_some_iff.mp h
      simp only [List.length_singleton] at hlt
      have hlast : t.drives.length = n := by omega
      simp only [hlast, Nat.sub_self, List.getElem_cons_zero] at hd
      rw [← hd]
      exact .launched hlast
  | cancel k =>
    obtain ⟨-, hd⟩ | ⟨rfl, d, hd, rfl⟩ := drive_of_actAt h
    · exact .kept hd nofun
    · exact .cancelled hd
  | begin k =>
    obtain ⟨hne, hd⟩ | ⟨rfl, d, hd, rfl⟩ := drive_of_actAt h
    · exact .kept hd (by simpa [Move.actor?] using hne)
    · exact .begun hd
  | pass k =>
    obtain ⟨hne, hd⟩ | ⟨rfl, d, hd, rfl⟩ := drive_of_actAt h
    · exact .kept hd (by simpa [Move.actor?] using hne)
    · exact .passed hd

theorem length_le_step (reg : Registry) (t : Traffic) (m : Move) :
    t.drives.length ≤ (t.step reg m).drives.length := by
  cases m with
  | other il => exact Nat.le_refl _
  | launch train route mode => simp [step]
  | cancel k | begin k | pass k => exact Nat.le_of_eq (length_actAt t k _).symm

theorem length_le_run (reg : Registry) (t : Traffic) (moves : List Move) :
    t.drives.length ≤ (t.run reg moves).drives.length := by
  induction moves generalizing t with
  | nil => exact Nat.le_refl _
  | cons m rest ih => exact Nat.le_trans (length_le_step reg t m) (ih _)

theorem step_of_drive (reg : Registry) (m : Move) (hd : t.drives[n]? = some d) :
    ∃ d', (t.step reg m).drives[n]? = some d' ∧
      (m ≠ .pass n ∧ (d' = d ∨ d' = d.cancel ∨ d' = (d.begin reg t.interlocking).1) ∨
        m = .pass n ∧ d' = (d.pass reg t.interlocking).1) := by
  obtain ⟨hlt, -⟩ := List.getElem?_eq_some_iff.mp hd
  have hlt' := Nat.lt_of_lt_of_le hlt (length_le_step reg t m)
  obtain ⟨d', hd'⟩ : ∃ d', (t.step reg m).drives[n]? = some d' :=
    ⟨_, List.getElem?_eq_getElem hlt'⟩
  refine ⟨d', hd', ?_⟩
  cases stepped hd' with
  | launched hn => exact absurd hn (by omega)
  | cancelled hbefore =>
    cases hd.symm.trans hbefore
    exact .inl ⟨by simp, .inr (.inl rfl)⟩
  | begun hbefore =>
    cases hd.symm.trans hbefore
    exact .inl ⟨by simp, .inr (.inr rfl)⟩
  | passed hbefore =>
    cases hd.symm.trans hbefore
    exact .inr ⟨rfl, rfl⟩
  | kept hbefore hm =>
    cases hd.symm.trans hbefore
    exact .inl ⟨fun hpass => hm (congrArg Move.actor? hpass), .inl rfl⟩

/-- Until its next pass a drive may be cancelled and may begin. -/
inductive Waits (reg : Registry) (d : Drive) : Drive → Prop
  | refl : Waits reg d d
  | cancel {d' : Drive} (h : Waits reg d d') : Waits reg d d'.cancel
  | begin {d' : Drive} (h : Waits reg d d') (il : Interlocking) : Waits reg d (d'.begin reg il).1

theorem Waits.names (h : Waits reg d d') : d'.train = d.train ∧ d'.route = d.route := by
  induction h with
  | refl => exact ⟨rfl, rfl⟩
  | cancel _ ih => exact ih
  | begin _ il ih =>
    obtain ⟨htrain, hroute⟩ := Drive.train_route_begin reg _ il
    rwa [htrain, hroute]

theorem Waits.stopped (h : Waits reg d d') : d'.stopped = d.stopped := by
  induction h with
  | refl => rfl
  | cancel _ ih => exact ih
  | begin _ il ih => rwa [Drive.stopped_begin]

theorem Waits.unfinished (h : Waits reg d d') (hunfinished : d.isFinished = false) :
    (d'.isFinished = false ∧ (d'.phase = .initializing → d.phase = .initializing)) ∨
      ∃ reason, d.phase = .initializing ∧ Drive.outset reg d.route = .error reason ∧
        d'.outcome? = some (.aborted reason [] []) := by
  induction h with
  | refl => exact .inl ⟨hunfinished, id⟩
  | cancel _ ih => exact ih
  | @begin d' hwaits il ih =>
    rcases ih with ⟨hgoes, hphase⟩ | ⟨reason, hphase, hrefused, ho⟩
    · cases hfinished : (d'.begin reg il).1.isFinished with
      | false => exact .inl ⟨rfl, fun h => absurd h (Drive.phase_begin_ne reg d' il)⟩
      | true =>
        obtain ⟨reason, hfresh, hrefused, ho⟩ := Drive.refused_of_finished_begin hgoes hfinished
        rw [hwaits.names.2] at hrefused
        exact .inr ⟨reason, hphase hfresh, hrefused, ho⟩
    · have hended : d'.isFinished = true := by simp [Drive.isFinished, ho]
      rw [Drive.begin_of_ne reg il (Drive.phase_ne_of_finished hended)]
      exact .inr ⟨reason, hphase, hrefused, ho⟩

theorem run_of_waiting (reg : Registry) (hd : t.drives[n]? = some d) (hwaiting : .pass n ∉ moves) :
    ∃ d', (t.run reg moves).drives[n]? = some d' ∧ Waits reg d d' := by
  induction moves using List.reverseRecOn with
  | nil => exact ⟨d, hd, .refl⟩
  | append_singleton moves m ih =>
    rw [List.mem_append, not_or, List.mem_singleton] at hwaiting
    obtain ⟨d', hd', hwaits⟩ := ih hwaiting.1
    rw [run_append_singleton]
    obtain ⟨d'', hd'', ⟨-, rfl | rfl | rfl⟩ | ⟨hm, -⟩⟩ := step_of_drive reg m hd'
    · exact ⟨_, hd'', hwaits⟩
    · exact ⟨_, hd'', hwaits.cancel⟩
    · exact ⟨_, hd'', hwaits.begin _⟩
    · exact absurd hm.symm hwaiting.2

theorem run_of_ended (reg : Registry) (moves : List Move) {o : Outcome}
    (hd : t.drives[n]? = some d) (ho : d.outcome? = some o) :
    ∃ d', (t.run reg moves).drives[n]? = some d' ∧ d'.outcome? = some o := by
  induction moves generalizing t d with
  | nil => exact ⟨d, hd, ho⟩
  | cons m rest ih =>
    obtain ⟨d', hd', hcases⟩ := step_of_drive reg m hd
    refine ih hd' ?_
    have hfinished : d.isFinished = true := by simp [Drive.isFinished, ho]
    rcases hcases with ⟨-, rfl | rfl | rfl⟩ | ⟨-, rfl⟩
    · exact ho
    · exact ho
    · rwa [Drive.begin_of_ne reg _ (Drive.phase_ne_of_finished hfinished)]
    · rwa [Drive.pass_of_finished reg _ hfinished]

/-! ### Moves without commands -/

theorem quiet_begin (reg : Registry) (t : Traffic) (n : Nat) : Quiet reg t (.begin n) := by
  intro track
  cases hd : (t.onTrack track).drives[n]? with
  | none =>
    rw [step, actAt_of_beyond hd]
    exact .refl _
  | some d =>
    rw [step_begin hd]
    exact Drive.onlyNotes_begin reg d _

theorem quiet_pass_of_finished (hd : t.drives[n]? = some d) (h : d.isFinished = true) :
    Quiet reg t (.pass n) := by
  intro track
  rw [step_pass (t := t.onTrack track) hd, Drive.pass_of_finished reg _ h]
  exact .refl _

theorem quiet_pass_of_cause {reason : AbortReason} (hd : t.drives[n]? = some d)
    (h : d.OnRoute reg) (hunfinished : d.isFinished = false)
    (cause : d.Cause reg t.interlocking reason) : Quiet reg t (.pass n) := by
  intro track
  -- What makes the drive abort does not depend on the track.
  have hcause : d.Cause reg (t.onTrack track).interlocking reason := by
    cases cause with
    | cancelled hcancelled => exact .cancelled hcancelled
    | lost hlost => exact .lost hlost
    | refused hphase houtset => exact .refused hphase houtset
  rw [step_pass (t := t.onTrack track) hd]
  exact (Drive.pass_of_cause h hunfinished hcause).2

/-! ### Passes -/

theorem passes_append_singleton :
    Passes reg t (moves ++ [m]) n d il ↔
      Passes reg t moves n d il ∨ m = .pass n ∧ (t.run reg moves).drives[n]? = some d ∧
        (t.run reg moves).interlocking = il := by
  constructor
  · rintro ⟨earlier, later, hmoves, hd⟩
    rcases List.eq_nil_or_concat later with rfl | ⟨later, last, rfl⟩
    · obtain ⟨rfl, hm⟩ := List.append_inj' hmoves rfl
      exact .inr ⟨List.singleton_inj.mp hm, hd⟩
    · rw [List.concat_eq_append, ← List.cons_append, ← List.append_assoc] at hmoves
      obtain ⟨rfl, -⟩ := List.append_inj' hmoves rfl
      exact .inl ⟨earlier, later, rfl, hd⟩
  · rintro (⟨earlier, later, rfl, hd⟩ | ⟨rfl, hd⟩)
    · exact ⟨earlier, later ++ [m], by simp, hd⟩
    · exact ⟨moves, [], rfl, hd⟩

theorem Passes.lt_length (h : Passes reg t moves n d il) : n < (t.run reg moves).drives.length := by
  obtain ⟨earlier, later, rfl, hd, -⟩ := h
  obtain ⟨hlt, -⟩ := List.getElem?_eq_some_iff.mp hd
  rw [run_append]
  exact Nat.lt_of_lt_of_le hlt (length_le_run reg _ _)

end Run

/-! ### Runs that start without drives -/

section FromNothing

variable {reg : Registry} {start : Traffic} {moves : List Move} {n : Nat} {d before : Drive}
  {il : Interlocking}

theorem sound_run (hstart : start.drives = []) (hd : (start.run reg moves).drives[n]? = some d) :
    d.Sound reg := by
  induction moves using List.reverseRecOn generalizing d with
  | nil => simp [run, hstart] at hd
  | append_singleton moves m ih =>
    rw [run_append_singleton] at hd
    cases stepped hd with
    | launched hn => exact Drive.sound_launch reg _ _ _
    | cancelled hbefore => exact (ih hbefore).cancel
    | begun hbefore => exact (ih hbefore).begin _
    | passed hbefore => exact (ih hbefore).pass _
    | kept hbefore hm => exact ih hbefore

theorem Passes.train_route (h : Passes reg start moves n before il) (hstart : start.drives = [])
    (hd : (start.run reg moves).drives[n]? = some d) :
    before.train = d.train ∧ before.route = d.route := by
  induction moves using List.reverseRecOn generalizing d with
  | nil => simp [run, hstart] at hd
  | append_singleton moves m ih =>
    rw [run_append_singleton] at hd
    rcases passes_append_singleton.mp h with hearlier | ⟨rfl, hbefore, rfl⟩
    · cases stepped hd with
      | launched hn => exact absurd hearlier.lt_length (by omega)
      | @cancelled other hb => exact ih (d := other) hearlier hb
      | begun hb =>
        obtain ⟨htrain, hroute⟩ := Drive.train_route_begin reg _ (start.run reg moves).interlocking
        rw [htrain, hroute]
        exact ih hearlier hb
      | kept hb hm => exact ih hearlier hb
      | passed hb =>
        obtain ⟨htrain, hroute⟩ := Drive.train_route_pass (start.run reg moves).interlocking
          (sound_run hstart hb).onRoute
        rw [htrain, hroute]
        exact ih hearlier hb
    · obtain ⟨d', hd', ⟨hm, -⟩ | ⟨-, rfl⟩⟩ := step_of_drive reg (.pass n) hbefore
      · exact absurd rfl hm
      · cases hd.symm.trans hd'
        obtain ⟨htrain, hroute⟩ := Drive.train_route_pass
          (start.run reg moves).interlocking (sound_run hstart hbefore).onRoute
        exact ⟨htrain.symm, hroute.symm⟩

/-- What a drive counts as stopped, it has stopped in one of its passes. -/
theorem stopped_run (hstart : start.drives = [])
    (hd : (start.run reg moves).drives[n]? = some d) {q : SignalId} (hq : q ∈ d.stopped) :
    ∃ before il, Passes reg start moves n before il ∧
      il.Records (before.pass reg il).2 (.signal q .stop) := by
  induction moves using List.reverseRecOn generalizing d with
  | nil => simp [run, hstart] at hd
  | append_singleton moves m ih =>
    rw [run_append_singleton] at hd
    have hkept {d : Drive} (hd : (start.run reg moves).drives[n]? = some d)
        (hq : q ∈ d.stopped) : ∃ before il, Passes reg start (moves ++ [m]) n before il ∧
          il.Records (before.pass reg il).2 (.signal q .stop) := by
      obtain ⟨before, il, hpasses, hrecords⟩ := ih hd hq
      exact ⟨before, il, passes_append_singleton.mpr (.inl hpasses), hrecords⟩
    cases stepped hd with
    | launched hn => cases hq
    | cancelled hbefore => exact hkept hbefore hq
    | begun hbefore => exact hkept hbefore (Drive.stopped_begin reg _ _ ▸ hq)
    | kept hbefore hm => exact hkept hbefore hq
    | passed hbefore =>
      rcases Drive.mem_stopped_pass (sound_run hstart hbefore).onRoute hq with hq | hrecords
      · exact hkept hbefore hq
      · exact ⟨_, _, passes_append_singleton.mpr (.inr ⟨rfl, hbefore, rfl⟩), hrecords⟩

def Clears (reg : Registry) (d : Drive) (il : Interlocking) : Prop :=
  ∃ i, reg.index? d.route = some i ∧ il.holder i = some d.train ∧
    (d.pass reg il).2.holder i = none

theorem hasReleased_iff (hstart : start.drives = [])
    (hd : (start.run reg moves).drives[n]? = some d) :
    d.hasReleased = true ↔ ∃ before il, Passes reg start moves n before il ∧
      Clears reg before il := by
  induction moves using List.reverseRecOn generalizing d with
  | nil => simp [run, hstart] at hd
  | append_singleton moves m ih =>
    rw [run_append_singleton] at hd
    simp only [passes_append_singleton, or_and_right, exists_or]
    cases stepped hd with
    | launched hn =>
      refine iff_of_false (by simp [Drive.hasReleased, Drive.outcome?, Drive.launch]) ?_
      rintro (⟨before, il, hpasses, -⟩ | ⟨before, il, ⟨hm, -⟩, -⟩)
      · exact absurd hpasses.lt_length (by omega)
      · cases hm
    | cancelled hbefore =>
      rw [← ih hbefore]
      simp [Drive.hasReleased, Drive.outcome?, Drive.cancel]
    | begun hbefore =>
      rw [Drive.hasReleased_begin, ← ih hbefore]
      simp
    | kept hbefore hm =>
      have hpass : m ≠ .pass n := fun h => hm (congrArg Move.actor? h)
      rw [← ih hbefore]
      simp [hpass]
    | passed hbefore =>
      rcases Drive.holder_pass _ (sound_run hstart hbefore).onRoute with
        ⟨hholder, hreleased⟩ | ⟨i, hi, held, -, hreleased, hafter⟩
      · rw [hreleased, ih hbefore]
        refine (or_iff_left ?_).symm
        rintro ⟨before, il, ⟨-, hsame, rfl⟩, i, -, held, hnone⟩
        cases hbefore.symm.trans hsame
        rw [hholder, held] at hnone
        cases hnone
      · rw [hreleased]
        exact iff_of_true rfl (.inr ⟨_, _, ⟨rfl, hbefore, rfl⟩, i, hi, held, by simp [hafter]⟩)

end FromNothing

end Traffic

end Signalbox
