import Signalbox.Proofs.SessionTraffic

/-!
Cancelled drives. Once a drive has been cancelled it gives no command any more, and its next pass
ends it with what it has reached. So do the drives that a session collects, and those of the
controller when it is closed.
-/
namespace Signalbox

namespace Drive

def faults (d : Drive) : List TrackFault :=
  match d.phase with
  | .initializing => []
  | .progressing p | .arriving p => p.faults
  | .ended o => o.faults

/-- Why a drive that has yet to begin will end as it begins. -/
def refusal? (reg : Registry) (d : Drive) : Option AbortReason :=
  match d.phase, outset reg d.route with
  | .initializing, .error reason => some reason
  | _, _ => none

/-- The outcome of the drive, or the one that it gets when it is cancelled now. -/
def outcomeOnCancel (reg : Registry) (d : Drive) : Outcome :=
  d.outcome?.getD (.aborted ((d.refusal? reg).getD .cancelled) d.stopped d.faults)

/-- Whatever the route set is like, the next pass of the drive gives no command, changes no holder
and leaves the drive ended with this outcome. -/
def EndsAs (reg : Registry) (d : Drive) (o : Outcome) : Prop :=
  ∀ il : Interlocking, il.OnlyNotes (d.pass reg il).2 ∧ (d.pass reg il).1.outcome? = some o

/-- What happens to a drive: it is cancelled, begins or makes a pass on whatever route set. -/
inductive Step (reg : Registry) : Drive → Drive → Prop
  | cancel (d : Drive) : Step reg d d.cancel
  | begin (d : Drive) (il : Interlocking) : Step reg d (d.begin reg il).1
  | pass (d : Drive) (il : Interlocking) : Step reg d (d.pass reg il).1

abbrev Moves (reg : Registry) : Drive → Drive → Prop := Relation.ReflTransGen (Step reg)

section Phase

variable (reg : Registry) (d : Drive) (il : Interlocking) (p : Progress)

theorem exists_phase_releaseRoute : ∃ phase, (releaseRoute reg d il p).1 = { d with phase } := by
  unfold releaseRoute
  split <;> exact ⟨_, rfl⟩

theorem exists_phase_arrive : ∃ phase, (arrive reg d il p).1 = { d with phase } := by
  unfold arrive
  split
  · exact exists_phase_releaseRoute reg d il p
  · split
    · exact ⟨_, rfl⟩
    · split
      · exact exists_phase_releaseRoute reg d il p
      · exact ⟨_, rfl⟩

theorem exists_phase_proceed : ∃ phase, (proceed reg d il p).1 = { d with phase } := by
  unfold proceed
  split
  · exact ⟨_, rfl⟩
  · split
    · exact ⟨_, rfl⟩
    · exact exists_phase_arrive reg d il p

theorem exists_phase_watch : ∃ phase, (d.watch reg il).1 = { d with phase } := by
  unfold watch
  split
  · exact ⟨d.phase, rfl⟩
  · exact ⟨d.phase, rfl⟩
  · split
    · exact ⟨_, rfl⟩
    · split
      · exact ⟨_, rfl⟩
      · exact exists_phase_proceed reg d _ _
  · split
    · exact ⟨_, rfl⟩
    · exact exists_phase_arrive reg d il _

theorem exists_phase_pass : ∃ phase, (d.pass reg il).1 = { d with phase } := by
  obtain ⟨begun, hbegin⟩ := exists_phase_begin reg d il
  obtain ⟨phase, hwatch⟩ := exists_phase_watch reg (d.begin reg il).1 (d.begin reg il).2
  refine ⟨phase, hwatch.trans ?_⟩
  rw [hbegin]

end Phase

section Cancelled

variable {reg : Registry} {d d' : Drive}

theorem outcomeOnCancel_of_outcome? {o : Outcome} (h : d.outcome? = some o) :
    d.outcomeOnCancel reg = o := by
  rw [outcomeOnCancel, h]
  rfl

theorem outcomeOnCancel_of_unfinished (h : d.isFinished = false) :
    d.outcomeOnCancel reg =
      .aborted ((d.refusal? reg).getD .cancelled) d.stopped d.faults := by
  have hnone : d.outcome? = none := by simpa [isFinished] using h
  rw [outcomeOnCancel, hnone]
  rfl

theorem refusal?_of_progress? {p : Progress} (h : d.progress? = some p) :
    d.refusal? reg = none := by
  unfold progress? at h
  unfold refusal?
  cases hphase : d.phase with
  | initializing | ended => simp [hphase] at h
  | progressing | arriving => rfl

theorem faults_of_progress? {p : Progress} (h : d.progress? = some p) : d.faults = p.faults := by
  unfold progress? at h
  unfold faults
  cases hphase : d.phase with
  | initializing | ended => simp [hphase] at h
  | progressing q | arriving q =>
    rw [hphase] at h
    cases h
    rfl

theorem outcomeOnCancel_begin (reg : Registry) (d : Drive) (il : Interlocking) :
    (d.begin reg il).1.outcomeOnCancel reg = d.outcomeOnCancel reg := by
  have hbegun := begin_begun reg d il
  generalize d.begin reg il = result at hbegun ⊢
  cases hbegun with
  | already => rfl
  | refused hfresh houtset =>
    simp [outcomeOnCancel, outcome?, refusal?, finish, stopped, faults, hfresh, houtset]
  | started hfresh houtset =>
    obtain ⟨r, q, -, hstart, rfl⟩ := start_of_outset houtset
    simp [outcomeOnCancel, outcome?, refusal?, stopped, faults, hfresh, houtset,
      (Progression.signals_of_start hstart).2]

theorem watch_of_cancelled (il : Interlocking) (h : d.cancelled = true) {p : Progress}
    (hp : d.progress? = some p) :
    d.watch reg il = d.finish il (.aborted .cancelled p.progression.stopped p.faults) := by
  unfold progress? at hp
  unfold watch
  cases hphase : d.phase with
  | initializing | ended => simp [hphase] at hp
  | progressing q | arriving q =>
    rw [hphase] at hp
    cases hp
    dsimp only
    rw [if_pos h]
    rfl

theorem endsAs_of_cancelled_of_begun (reg : Registry) (h : d.cancelled = true)
    (hbegun : d.phase ≠ .initializing) : d.EndsAs reg (d.outcomeOnCancel reg) := by
  intro il
  rcases d.phase_cases with hphase | ⟨p, hp⟩ | hfinished
  · exact absurd hphase hbegun
  · have hunfinished : d.isFinished = false := by simp [isFinished, outcome?_of_progress? hp]
    rw [pass_of_ne reg il hbegun, watch_of_cancelled il h hp,
      outcomeOnCancel_of_unfinished hunfinished, refusal?_of_progress? hp,
      stopped_of_progress? hp, faults_of_progress? hp]
    exact ⟨.record il rfl, rfl⟩
  · obtain ⟨o, ho⟩ := Option.isSome_iff_exists.mp hfinished
    rw [pass_of_finished reg il hfinished, outcomeOnCancel_of_outcome? ho]
    exact ⟨.refl il, ho⟩

theorem endsAs_of_cancelled (reg : Registry) (h : d.cancelled = true) :
    d.EndsAs reg (d.outcomeOnCancel reg) := by
  intro il
  have hbegun := endsAs_of_cancelled_of_begun reg ((cancelled_begin reg d il).trans h)
    (phase_begin_ne reg d il) (d.begin reg il).2
  rw [pass_begin, outcomeOnCancel_begin] at hbegun
  exact ⟨(onlyNotes_begin reg d il).trans hbegun.1, hbegun.2⟩

theorem Moves.same (h : Moves reg d d') :
    d'.train = d.train ∧ d'.route = d.route ∧ d'.mode = d.mode := by
  induction h with
  | refl => exact ⟨rfl, rfl, rfl⟩
  | @tail b c _ hstep ih =>
    rw [← ih.1, ← ih.2.1, ← ih.2.2]
    cases hstep with
    | cancel => exact ⟨rfl, rfl, rfl⟩
    | begin il =>
      obtain ⟨phase, hphase⟩ := exists_phase_begin reg b il
      rw [hphase]
      exact ⟨rfl, rfl, rfl⟩
    | pass il =>
      obtain ⟨phase, hphase⟩ := exists_phase_pass reg b il
      rw [hphase]
      exact ⟨rfl, rfl, rfl⟩

theorem Moves.of_cancelled (h : Moves reg d d') (cancelled : d.cancelled = true) :
    d'.cancelled = true ∧ d'.outcomeOnCancel reg = d.outcomeOnCancel reg := by
  induction h with
  | refl => exact ⟨cancelled, rfl⟩
  | @tail b c _ hstep ih =>
    obtain ⟨hcancelled, houtcome⟩ := ih
    rw [← houtcome]
    cases hstep with
    | cancel => exact ⟨rfl, rfl⟩
    | begin il =>
      exact ⟨(cancelled_begin reg b il).trans hcancelled, outcomeOnCancel_begin reg b il⟩
    | pass il =>
      obtain ⟨phase, hphase⟩ := exists_phase_pass reg b il
      refine ⟨?_, outcomeOnCancel_of_outcome? (endsAs_of_cancelled reg hcancelled il).2⟩
      rw [hphase]
      exact hcancelled

end Cancelled

end Drive

namespace Session

section Collect

variable (reg : Registry) (s : Session)

/-- Collecting gives no command and changes no holder. It leaves the other drives as they are,
and of each that it takes it answers the outcome that it had or gets from being cancelled. -/
theorem collectFrom_eq (picked : DriveEntry → Bool) (entries : List DriveEntry)
    (il : Interlocking) :
    (collectFrom reg picked entries il).1 = entries.filter (!picked ·) ∧
      (collectFrom reg picked entries il).2.1 =
        (entries.filter picked).map (·.drive.outcomeOnCancel reg) ∧
      il.OnlyNotes (collectFrom reg picked entries il).2.2 := by
  induction entries generalizing il with
  | nil => exact ⟨rfl, rfl, .refl il⟩
  | cons e rest ih =>
    unfold collectFrom
    cases hpicked : picked e with
    | true =>
      obtain ⟨hnotes, houtcome⟩ := Drive.endsAs_of_cancelled reg (d := e.drive.cancel) rfl il
      obtain ⟨hleft, houtcomes, hrest⟩ := ih (e.drive.cancel.pass reg il).2
      rw [List.filter_cons_of_neg (by simp [hpicked]), List.filter_cons_of_pos hpicked]
      refine ⟨hleft, ?_, hnotes.trans hrest⟩
      change (e.drive.cancel.pass reg il).1.outcome?.toList ++
        (collectFrom reg picked rest (e.drive.cancel.pass reg il).2).2.1 = _
      rw [houtcome, houtcomes]
      rfl
    | false =>
      obtain ⟨hleft, houtcomes, hrest⟩ := ih il
      rw [List.filter_cons_of_pos (by simp [hpicked]), List.filter_cons_of_neg (by simp [hpicked])]
      refine ⟨?_, houtcomes, hrest⟩
      rw [← hleft]
      rfl

theorem ungrab_drives_of_unlisted {s : Session} (unlisted : ∀ e ∈ s.drives, e.isListed = false)
    (slot : Slot) : (s.ungrab slot).1.drives = s.drives := by
  unfold ungrab
  cases s.grabs.release slot with
  | mk grabs train =>
    cases train with
    | none => rfl
    | some t =>
      refine (List.map_congr_left fun e he => ?_).trans (List.map_id s.drives)
      rw [if_neg (by simp [DriveEntry.isListedFor, unlisted e he])]
      rfl

theorem ungrabEach_drives_of_unlisted {s : Session}
    (unlisted : ∀ e ∈ s.drives, e.isListed = false) (slots : List Slot) :
    (s.ungrabEach slots).drives = s.drives := by
  induction slots generalizing s with
  | nil => rfl
  | cons slot rest ih =>
    have hslot := ungrab_drives_of_unlisted unlisted slot
    rw [ungrabEach, ih (by rwa [hslot]), hslot]

def endListed : Session × List Outcome := collect { s with running := false } reg (·.isListed)

theorem endListed_drives : (s.endListed reg).1.drives = s.drives.filter (!·.isListed) :=
  (collectFrom_eq reg (·.isListed) s.drives s.interlocking).1

theorem close_fst : (s.close reg).1 =
    ((s.endListed reg).1.interlock (·.releaseAll reg)).1.ungrabEach
      ((s.endListed reg).1.grabs.taken.map (·.1)) := rfl

theorem close_drives : (s.close reg).1.drives = s.drives.filter (!·.isListed) := by
  rw [close_fst, ungrabEach_drives_of_unlisted]
  · exact endListed_drives reg s
  · intro e he
    change e ∈ (s.endListed reg).1.drives at he
    rw [endListed_drives] at he
    simpa using (List.mem_filter.mp he).2

end Collect

end Session

end Signalbox
