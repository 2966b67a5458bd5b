import Signalbox.Proofs.Traffic

/-!
What drives record. A drive says when it begins, and how it ends at the pass that ends it. Before,
in between, and ever after, it records nothing of itself. So the events of each drive tell its
course, whatever happens around it.
-/
namespace Signalbox

namespace Interlocking

def driveEvents (il il' : Interlocking) : List Event :=
  (il'.log.drop il.log.length).filter Event.isDrive

section DriveEvents

variable {il il' : Interlocking}

theorem driveEvents_of_log {events : List Event} (h : il'.log = il.log ++ events) :
    driveEvents il il' = events.filter Event.isDrive := by
  rw [driveEvents, h, List.drop_left]

theorem driveEvents_self (il : Interlocking) : driveEvents il il = [] := by
  simp [driveEvents]

theorem filter_isDrive_log {kind : Event → Prop} (h : il.Adds kind il') :
    il'.log.filter Event.isDrive = il.log.filter Event.isDrive ++ driveEvents il il' := by
  obtain ⟨events, hlog, -⟩ := h
  rw [driveEvents_of_log hlog, hlog, List.filter_append]

theorem driveEvents_of_adds (h : il.Adds (·.isDrive = false) il') : driveEvents il il' = [] := by
  obtain ⟨events, hlog, hevents⟩ := h
  rw [driveEvents_of_log hlog]
  simpa using hevents

theorem driveEvents_trans {il'' : Interlocking} {kind kind' : Event → Prop} (h : il.Adds kind il')
    (h' : il'.Adds kind' il'') :
    driveEvents il il'' = driveEvents il il' ++ driveEvents il' il'' := by
  obtain ⟨first, hfirst, -⟩ := h
  obtain ⟨second, hsecond, -⟩ := h'
  rw [driveEvents_of_log hfirst, driveEvents_of_log hsecond, ← List.filter_append]
  exact driveEvents_of_log (by rw [hsecond, hfirst, List.append_assoc])

theorem driveEvents_record (h : il.Adds (·.isDrive = false) il') {e : Event}
    (he : e.isDrive = true) : driveEvents il (il'.record e) = [e] := by
  obtain ⟨events, hlog, hevents⟩ := h
  have hnone : events.filter Event.isDrive = [] := by simpa using hevents
  have hlater : (il'.record e).log = il.log ++ (events ++ [e]) := by
    rw [log_record, hlog, List.append_assoc]
  rw [driveEvents_of_log hlater, List.filter_append, hnone]
  simp [he]

end DriveEvents

end Interlocking

namespace Drive

open Interlocking

/-- The states that a drive has recorded up to now, none before it begins. -/
inductive Course : List DriveState → Prop
  | waiting : Course []
  | refused : Course [.initializing, .aborted]
  | going : Course [.initializing, .progressing]
  | ended {last : DriveState} (h : last = .completed ∨ last = .aborted) :
    Course [.initializing, .progressing, last]

def Recorded (d : Drive) (events : List Event) : Prop :=
  ∃ states, Course states ∧ states.getLastD .initializing = d.state ∧
    events = states.map (.drive d.train d.route)

/-- What the pass of a running drive records of drives: nothing while the drive goes on, and how it
ends when it ends. -/
inductive PassRecord (reg : Registry) (d : Drive) (il : Interlocking) : Drive × Interlocking → Prop
  | going {phase : DrivePhase} {il' : Interlocking}
    (running : ∃ p, phase = .progressing p ∨ phase = .arriving p)
    (silent : Withdraws reg (fun _ => false) il il') : PassRecord reg d il ({ d with phase }, il')
  | ended {o : Outcome} {il' : Interlocking} (silent : Withdraws reg (fun _ => false) il il') :
    PassRecord reg d il (d.finish il' o)

section PassRecord

variable {reg : Registry} {d : Drive} {il il' : Interlocking}

theorem adds_of_withdraws (h : Withdraws reg (fun _ => false) il il') :
    il.Adds (·.isDrive = false) il' :=
  h.adds (fun _ _ => rfl) (fun _ => rfl) nofun

theorem releaseRoute_record (silent : Withdraws reg (fun _ => false) il il') (p : Progress) :
    PassRecord reg d il (releaseRoute reg d il' p) := by
  have hrelease : Withdraws reg (fun _ => false) il' _ :=
    releaseIfHeldBy_withdraws il' reg d.route d.train
  unfold releaseRoute
  cases hr : il'.releaseIfHeldBy reg d.route d.train with
  | mk next result =>
    rw [hr] at hrelease
    cases result with
    | ok released => cases released <;> exact .ended (silent.trans hrelease)
    | error e => cases e <;> exact .ended (silent.trans hrelease)

theorem arrive_record (silent : Withdraws reg (fun _ => false) il il') (p : Progress) :
    PassRecord reg d il (arrive reg d il' p) := by
  unfold arrive
  cases (reg.find? d.route).bind Route.lastSegment? with
  | none => exact releaseRoute_record silent p
  | some last =>
    dsimp only
    split
    · exact .ended silent
    · split
      · exact releaseRoute_record silent p
      · exact .going ⟨p, .inr rfl⟩ silent

theorem proceed_record (silent : Withdraws reg (fun _ => false) il il') (p : Progress) :
    PassRecord reg d il (proceed reg d il' p) := by
  unfold proceed
  split
  · exact .going ⟨p, .inl rfl⟩ silent
  · cases d.mode with
    | manual => exact .ended silent
    | automatic => exact arrive_record silent p

theorem pass_record (reg : Registry) (il : Interlocking) (h : d.isFinished = false)
    (hbegun : d.phase ≠ .initializing) : PassRecord reg d il (d.pass reg il) := by
  rw [pass_of_ne reg il hbegun]
  unfold watch
  cases hphase : d.phase with
  | initializing => exact absurd hphase hbegun
  | ended o => simp [isFinished, outcome?, hphase] at h
  | arriving p =>
    dsimp only
    split
    · exact .ended .refl
    · exact arrive_record .refl p
  | progressing p =>
    dsimp only
    split
    · exact .ended .refl
    · split
      · exact .ended .refl
      · exact proceed_record (stopSignals_withdraws reg il _ _) _

end PassRecord

/-! ### Courses -/

section Recorded

variable {d : Drive} {events : List Event}

theorem Course.eq_of_progressing {states : List DriveState} (h : Course states)
    (hlast : states.getLastD .initializing = .progressing) :
    states = [.initializing, .progressing] := by
  cases h with
  | waiting => cases hlast
  | refused => cases hlast
  | going => rfl
  | ended hended => rcases hended with rfl | rfl <;> cases hlast

theorem Course.eq_nil {states : List DriveState} (h : Course states)
    (hlast : states.getLastD .initializing = .initializing) : states = [] := by
  cases h with
  | waiting => rfl
  | refused => cases hlast
  | going => cases hlast
  | ended hended => rcases hended with rfl | rfl <;> cases hlast

theorem state_of_unfinished (h : d.isFinished = false) (hbegun : d.phase ≠ .initializing) :
    d.state = .progressing := by
  unfold state
  cases hphase : d.phase with
  | initializing => exact absurd hphase hbegun
  | ended o => simp [isFinished, outcome?, hphase] at h
  | progressing | arriving => rfl

theorem recorded_launch (train : TrainId) (route : RouteId) (mode : DriveMode) :
    (launch train route mode).Recorded [] :=
  ⟨[], .waiting, rfl, rfl⟩

theorem Recorded.begin (h : d.Recorded events) (reg : Registry) (il : Interlocking) :
    (d.begin reg il).1.Recorded (events ++ driveEvents il (d.begin reg il).2) := by
  by_cases hphase : d.phase = .initializing
  · obtain ⟨states, hcourse, hlast, rfl⟩ := h
    have hstate : d.state = .initializing := by simp [state, hphase]
    obtain rfl := hcourse.eq_nil (hlast.trans hstate)
    have hevents (state : DriveState) :
        driveEvents il (d.recordState (d.recordState il .initializing) state) =
          [.drive d.train d.route .initializing, .drive d.train d.route state] := by
      rw [driveEvents_of_log (List.append_assoc il.log _ _)]
      rfl
    have hbegun := begin_begun reg d il
    generalize d.begin reg il = result at hbegun ⊢
    cases hbegun with
    | already hbefore => exact absurd hphase hbefore
    | refused => exact ⟨_, .refused, rfl, hevents .aborted⟩
    | started => exact ⟨_, .going, rfl, hevents .progressing⟩
  · rw [begin_of_ne reg il hphase, driveEvents_self, List.append_nil]
    exact h

theorem Recorded.cancel (h : d.Recorded events) : d.cancel.Recorded events := h

theorem Recorded.pass_of_begun (h : d.Recorded events) (reg : Registry) (il : Interlocking)
    (hbegun : d.phase ≠ .initializing) :
    (d.pass reg il).1.Recorded (events ++ driveEvents il (d.pass reg il).2) := by
  cases hfinished : d.isFinished with
  | true =>
    rw [pass_of_finished reg il hfinished, driveEvents_self, List.append_nil]
    exact h
  | false =>
    obtain ⟨states, hcourse, hlast, rfl⟩ := h
    rw [state_of_unfinished hfinished hbegun] at hlast
    obtain rfl := hcourse.eq_of_progressing hlast
    have hpassed := pass_record reg il hfinished hbegun
    generalize d.pass reg il = result at hpassed ⊢
    cases hpassed with
    | @going phase il' running silent =>
      have hstate : state { d with phase } = .progressing := by
        obtain ⟨p, rfl | rfl⟩ := running <;> rfl
      refine ⟨_, .going, ?_, ?_⟩
      · rw [hstate]
        rfl
      · rw [driveEvents_of_adds (adds_of_withdraws silent), List.append_nil]
    | @ended o il' silent =>
      refine ⟨[.initializing, .progressing, o.state], .ended ?_, rfl, ?_⟩
      · cases o with
        | completed => exact .inl rfl
        | aborted => exact .inr rfl
      · rw [finish, recordState, driveEvents_record (adds_of_withdraws silent) rfl]
        rfl

theorem Recorded.pass (h : d.Recorded events) (reg : Registry) (il : Interlocking) :
    (d.pass reg il).1.Recorded (events ++ driveEvents il (d.pass reg il).2) := by
  have hpassed := (h.begin reg il).pass_of_begun reg (d.begin reg il).2 (phase_begin_ne reg d il)
  rwa [List.append_assoc, ← driveEvents_trans (begin_withdraws reg d il).grows
    (pass_withdraws reg _ _).grows, pass_begin] at hpassed

end Recorded

end Drive

namespace Traffic

open Interlocking

def notes (reg : Registry) (t : Traffic) (m : Move) : List (Nat × Event) :=
  match m.actor? with
  | none => []
  | some n => (driveEvents t.interlocking (t.step reg m).interlocking).map (n, ·)

def written (reg : Registry) (t : Traffic) : List Move → List (Nat × Event)
  | [] => []
  | m :: rest => t.notes reg m ++ (t.step reg m).written reg rest

def ofDrive (n : Nat) (notes : List (Nat × Event)) : List Event :=
  (notes.filter (·.1 == n)).map (·.2)

section Written

variable {reg : Registry} {t : Traffic} {n k : Nat}

theorem written_append (reg : Registry) (t : Traffic) (first second : List Move) :
    t.written reg (first ++ second) =
      t.written reg first ++ (t.run reg first).written reg second := by
  induction first generalizing t with
  | nil => rfl
  | cons m rest ih =>
    rw [List.cons_append, written, ih, written, List.append_assoc]
    rfl

theorem written_append_singleton (reg : Registry) (t : Traffic) (moves : List Move) (m : Move) :
    t.written reg (moves ++ [m]) = t.written reg moves ++ (t.run reg moves).notes reg m := by
  rw [written_append, written, written, List.append_nil]

theorem ofDrive_append (n : Nat) (first second : List (Nat × Event)) :
    ofDrive n (first ++ second) = ofDrive n first ++ ofDrive n second := by
  simp [ofDrive]

theorem ofDrive_self (n : Nat) (events : List Event) : ofDrive n (events.map (n, ·)) = events := by
  simp [ofDrive, List.filter_map, Function.comp_def]

theorem ofDrive_of_forall_ne {notes : List (Nat × Event)} (h : ∀ p ∈ notes, p.1 ≠ n) :
    ofDrive n notes = [] := by
  simpa [ofDrive] using h

theorem notes_of_actor {m : Move} (h : m.actor? = some n) :
    t.notes reg m = (driveEvents t.interlocking (t.step reg m).interlocking).map (n, ·) := by
  rw [notes, h]

theorem written_singleton_of_actor {m : Move} (h : m.actor? = some n) :
    (t.written reg [m]).map (·.2) =
      driveEvents t.interlocking (t.run reg [m]).interlocking := by
  rw [written, written, List.append_nil, notes_of_actor h]
  simp [Function.comp_def, run]

theorem actor_of_mem_notes {m : Move} {p : Nat × Event} (h : p ∈ t.notes reg m) :
    m.actor? = some p.1 := by
  unfold notes at h
  cases hactor : m.actor? with
  | none => simp [hactor] at h
  | some k =>
    rw [hactor] at h
    obtain ⟨e, -, rfl⟩ := List.mem_map.mp h
    rfl

theorem lt_length_of_mem_notes {m : Move} {p : Nat × Event} (h : p ∈ t.notes reg m) :
    p.1 < (t.step reg m).drives.length := by
  have hactor := actor_of_mem_notes h
  cases m with
  | launch train route mode => cases hactor
  | cancel k => cases hactor
  | other il => cases hactor
  | begin k | pass k =>
    cases hactor
    cases hk : t.drives[p.1]? with
    | none => simp [notes, Move.actor?, step, actAt_of_beyond hk, driveEvents_self] at h
    | some d =>
      obtain ⟨hlt, -⟩ := List.getElem?_eq_some_iff.mp hk
      exact Nat.lt_of_lt_of_le hlt (length_le_step reg t _)

end Written

section FromNothing

variable {reg : Registry} {start : Traffic} {moves : List Move}

theorem lt_length_of_mem_written (reg : Registry) (t : Traffic) (moves : List Move)
    {p : Nat × Event} (h : p ∈ t.written reg moves) : p.1 < (t.run reg moves).drives.length := by
  induction moves generalizing t with
  | nil => cases h
  | cons m rest ih =>
    rcases List.mem_append.mp h with hfirst | hlater
    · exact Nat.lt_of_lt_of_le (lt_length_of_mem_notes hfirst) (length_le_run reg _ rest)
    · exact ih _ hlater

/-- Whatever happens around a drive, what it has recorded is its course. -/
theorem recorded_run (hstart : start.drives = []) {n : Nat} {d : Drive}
    (hd : (start.run reg moves).drives[n]? = some d) :
    d.Recorded (ofDrive n (start.written reg moves)) := by
  induction moves using List.reverseRecOn generalizing d with
  | nil => simp [run, hstart] at hd
  | append_singleton moves m ih =>
    rw [run_append_singleton] at hd
    rw [written_append_singleton, ofDrive_append]
    -- Only the drive that acts in a move records in it.
    have hquiet (hm : m.actor? ≠ some n) :
        ofDrive n ((start.run reg moves).notes reg m) = [] := by
      apply ofDrive_of_forall_ne
      rintro p hp rfl
      exact hm (actor_of_mem_notes hp)
    cases stepped hd with
    | @launched train route mode hn =>
      have hnone : ofDrive n (start.written reg moves) = [] := by
        apply ofDrive_of_forall_ne
        intro p hp
        have hlt := lt_length_of_mem_written reg start moves hp
        omega
      rw [hquiet (by simp [Move.actor?]), hnone]
      exact Drive.recorded_launch train route mode
    | cancelled hbefore =>
      rw [hquiet (by simp [Move.actor?]), List.append_nil]
      exact (ih hbefore).cancel
    | begun hbefore =>
      rw [notes_of_actor rfl, ofDrive_self, step_begin hbefore]
      exact (ih hbefore).begin reg _
    | passed hbefore =>
      rw [notes_of_actor rfl, ofDrive_self, step_pass hbefore]
      exact (ih hbefore).pass reg _
    | kept hbefore hm =>
      rw [hquiet hm, List.append_nil]
      exact ih hbefore

end FromNothing

end Traffic

end Signalbox
