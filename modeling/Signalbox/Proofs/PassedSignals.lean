import Signalbox.Proofs.DriveOutcomes
import Signalbox.Proofs.RiddenRoute

/-!
The signals that a drive sets to stop on its way. They stand behind the train: of each of them a
report of one of the passes has told that the train is past it. A signal that has obeyed is left
alone from then on, one that has refused is commanded again in the next pass.
-/
namespace Signalbox

namespace Interlocking

def stopAnswers (il : Interlocking) : List SignalId → List (SignalId × Option TrackFault)
  | [] => []
  | s :: rest =>
    let (il, answer) := il.commandSignal s .stop
    (s, answer) :: stopAnswers il rest

theorem map_stopAnswers (il : Interlocking) (signals : List SignalId) :
    ((il.stopAnswers signals).map fun c => (c.1, Aspect.stop)) = signals.map (·, .stop) := by
  induction signals generalizing il with
  | nil => rfl
  | cons s rest ih => rw [stopAnswers, List.map_cons, ih, List.map_cons]

end Interlocking

def obeyedIn (answers : List (SignalId × Option TrackFault)) : List SignalId :=
  (answers.filter (·.2.isNone)).map (·.1)

theorem mem_obeyedIn_iff {answers : List (SignalId × Option TrackFault)} {s : SignalId} :
    s ∈ obeyedIn answers ↔ (s, none) ∈ answers := by
  unfold obeyedIn
  rw [List.mem_map]
  constructor
  · rintro ⟨⟨q, answer⟩, hmem, rfl⟩
    obtain ⟨hlisted, hnone⟩ := List.mem_filter.mp hmem
    rw [Option.isNone_iff_eq_none] at hnone
    rwa [← hnone]
  · exact fun hmem => ⟨(s, none), List.mem_filter.mpr ⟨hmem, rfl⟩, rfl⟩

def Progress.hear (p : Progress) : SignalId × Option TrackFault → Progress
  | (s, none) => { p with progression := p.progression.markStopped s }
  | (s, some f) =>
    if p.failing.contains s then p
    else { p with failing := s :: p.failing, faults := p.faults ++ [f] }

theorem Progress.progression_hear_all (p : Progress)
    (answers : List (SignalId × Option TrackFault)) :
    (answers.foldl hear p).progression =
      (obeyedIn answers).foldl Progression.markStopped p.progression := by
  induction answers generalizing p with
  | nil => rfl
  | cons c rest ih =>
    rw [List.foldl_cons, ih]
    obtain ⟨s, answer⟩ := c
    cases answer with
    | none => rfl
    | some f =>
      rw [hear]
      split <;> rfl

namespace Progression

/-! ### Progress that waits for answers -/

/-- The progression on a route of which all this has been reported, when commands to stop have
been obeyed by these signals. -/
structure Trails (r : Route) (reported : List SegmentId) (obeyed : List SignalId)
    (p : Progression) : Prop where
  places : p.places = unmaskedPlaces r.path r.repeatedMask
  position : IsFurthest (r.placesTold reported) p.position
  records : p.records = r.signals.map fun s => ⟨s, r.standingPlace s, obeyed.contains s⟩

section Trails

variable {r : Route} {reported : List SegmentId} {obeyed : List SignalId} {p : Progression}

theorem trails_of_start (h : start r r.repeatedMask = .ok p) : Trails r [] [] p := by
  unfold start at h
  split at h
  · cases h
  · cases h
    exact ⟨rfl, isFurthest_untold r, rfl⟩

theorem Trails.advance (h : Trails r reported obeyed p) (report : List SegmentId) :
    Trails r (reported ++ report) obeyed (p.advance report).1 where
  places := by
    rw [← h.places]
    change (p.moved report).places = _
    rw [moved_eq]
  position := by
    change IsFurthest _ (p.moved report).position
    rw [position_moved, Route.placesTold_append]
    exact h.position.union (isFurthest_positionOf h.places report)
  records := by rw [records_advance, h.records]

theorem Trails.obey (h : Trails r reported obeyed p) (signals : List SignalId) :
    Trails r reported (obeyed ++ signals) (signals.foldl markStopped p) := by
  rw [foldl_markStopped]
  refine ⟨h.places, h.position, ?_⟩
  simp only [h.records, List.map_map, Function.comp_def, List.contains_append]

theorem Trails.mem_due_iff (h : Trails r reported obeyed p) {s : SignalId} :
    s ∈ p.due ↔ s ∈ r.passedSignals ∧ s ∉ obeyed ∧
      ∃ segment ∈ reported, ∃ i, r.HoldsOnce segment i ∧
        ∀ j, r.pathIndex? s = some j → j < i := by
  have hreached : isReached p.position (r.standingPlace s) = true ↔
      ∃ segment ∈ reported, ∃ i, r.HoldsOnce segment i ∧
        ∀ j, r.pathIndex? s = some j → j < i := by
    rw [isReached, h.position.any_le_iff]
    constructor
    · rintro ⟨i, ⟨segment, hmem, hholds⟩, hle⟩
      exact ⟨segment, hmem, i, hholds, (Route.standingPlace_le_iff hholds.1).mp hle⟩
    · rintro ⟨segment, hmem, i, hholds, hbehind⟩
      exact ⟨i, ⟨segment, hmem, hholds⟩, (Route.standingPlace_le_iff hholds.1).mpr hbehind⟩
  rw [due_eq h.records, List.mem_filter, Bool.and_eq_true, hreached]
  simp

end Trails

end Progression

namespace Drive

open Interlocking

/-! ### The commands of a pass -/

/-- The commands to stop that a drive on its way gives, with their answers. A drive that has been
cancelled, has lost its route or only waits for its arrival gives none. -/
def watchStops (reg : Registry) (d : Drive) (now : Interlocking) :
    List (SignalId × Option TrackFault) :=
  match d.phase with
  | .progressing p =>
    if d.cancelled then []
    else if !now.isHeldBy reg d.route d.train then []
    else now.stopAnswers (p.progression.advance (now.track.position d.train)).2
  | .initializing | .arriving _ | .ended _ => []

/-- The commands to stop of a pass. A drive that has not begun does so first. -/
def stopCommands (reg : Registry) (d : Drive) (now : Interlocking) :
    List (SignalId × Option TrackFault) :=
  (d.begin reg now).1.watchStops reg (d.begin reg now).2

def afterWatchStops (reg : Registry) (d : Drive) (now : Interlocking) : Interlocking :=
  (now.commandSignals ((d.watchStops reg now).map fun c => (c.1, .stop))).1

def afterStops (reg : Registry) (d : Drive) (now : Interlocking) : Interlocking :=
  (d.begin reg now).1.afterWatchStops reg (d.begin reg now).2

/-- After its commands the pass does nothing but note what becomes of the drive, unless it releases
the route. -/
def Closes (reg : Registry) (d : Drive) (il : Interlocking) (result : Drive × Interlocking) :
    Prop :=
  il.OnlyNotes result.2 ∨
    ∃ i, reg.index? d.route = some i ∧ result.1.hasReleased = true ∧
      (il.release reg i).1.OnlyNotes result.2

/-- The steps of a pass once the drive has begun. On the way it gives its commands and hears the
answers to them, and at all other times there are no commands. -/
inductive WatchSteps (reg : Registry) (d : Drive) (now : Interlocking) :
    Drive × Interlocking → Prop
  | idle (silent : d.watchStops reg now = []) (off : ∀ p, d.phase ≠ .progressing p) :
    WatchSteps reg d now (d, now)
  | ends (silent : d.watchStops reg now = []) (o : Outcome) :
    WatchSteps reg d now (d.finish now o)
  | waits (silent : d.watchStops reg now = []) (p : Progress) :
    WatchSteps reg d now (arrive reg d now p)
  | polls {p : Progress} (hphase : d.phase = .progressing p) :
    WatchSteps reg d now (proceed reg d (d.afterWatchStops reg now)
      ((d.watchStops reg now).foldl Progress.hear
        { p with progression := (p.progression.advance (now.track.position d.train)).1 }))

theorem stopSignals_eq (il : Interlocking) (p : Progress) (signals : List SignalId) :
    stopSignals il p signals =
      ((il.commandSignals (signals.map (·, .stop))).1,
        (il.stopAnswers signals).foldl Progress.hear p) := by
  unfold commandSignals
  induction signals generalizing il p with
  | nil => rfl
  | cons s rest ih =>
    simp only [stopSignals, stopAnswers, List.map_cons, commandAll, List.foldl_cons]
    cases hanswer : il.commandSignal s .stop with
    | mk next answer =>
      cases answer with
      | none => exact ih next _
      | some f =>
        dsimp only
        rw [ih, ih, Progress.hear]
        split <;> rfl

section Pass

variable {reg : Registry} {d : Drive} {now : Interlocking}

theorem closes_finish (il : Interlocking) (o : Outcome) : Closes reg d il (d.finish il o) :=
  .inl (.record il rfl)

theorem closes_releaseRoute (il : Interlocking) (p : Progress) :
    Closes reg d il (releaseRoute reg d il p) := by
  unfold releaseRoute releaseIfHeldBy indexOf
  cases hi : reg.index? d.route with
  | none => exact closes_finish il _
  | some i =>
    obtain ⟨r, hr, -⟩ := Registry.route?_of_index? hi
    dsimp only
    by_cases held : il.holder i = some d.train
    · have hheld : il.isHeld i = true := by rw [isHeld, held]; rfl
      rw [if_pos held]
      rcases release_answer hr hheld with hok | ⟨f, herror⟩
      · rw [← Prod.eta (il.release reg i), hok]
        exact .inr ⟨i, hi, rfl, .record _ rfl⟩
      · rw [← Prod.eta (il.release reg i), herror]
        exact .inr ⟨i, hi, rfl, .record _ rfl⟩
    · rw [if_neg held]
      exact closes_finish il _

theorem closes_arrive (il : Interlocking) (p : Progress) :
    Closes reg d il (arrive reg d il p) := by
  unfold arrive
  split
  · exact closes_releaseRoute il p
  · split
    · exact closes_finish il _
    · split
      · exact closes_releaseRoute il p
      · exact .inl (.refl il)

theorem closes_proceed (il : Interlocking) (p : Progress) :
    Closes reg d il (proceed reg d il p) := by
  unfold proceed
  split
  · exact .inl (.refl il)
  · split
    · exact closes_finish il _
    · exact closes_arrive il p

theorem watch_steps (reg : Registry) (d : Drive) (now : Interlocking) :
    WatchSteps reg d now (d.watch reg now) := by
  cases hphase : d.phase with
  | initializing | ended =>
    rw [watch, hphase]
    exact .idle (by simp [watchStops, hphase]) (by simp [hphase])
  | arriving p =>
    rw [watch, hphase]
    dsimp only
    split
    · exact .ends (by simp [watchStops, hphase]) _
    · exact .waits (by simp [watchStops, hphase]) p
  | progressing p =>
    cases active : d.cancelled with
    | true =>
      rw [watch, hphase, active]
      exact .ends (by simp [watchStops, hphase, active]) _
    | false =>
      cases held : now.isHeldBy reg d.route d.train with
      | false =>
        rw [watch, hphase, active, held]
        exact .ends (by simp [watchStops, hphase, held]) _
      | true =>
        have hcommands : d.watchStops reg now =
            now.stopAnswers (p.progression.advance (now.track.position d.train)).2 := by
          simp [watchStops, hphase, active, held]
        have hpolls : WatchSteps reg d now _ := .polls hphase
        rw [afterWatchStops, hcommands, map_stopAnswers] at hpolls
        simpa [watch, hphase, active, held, stopSignals_eq] using hpolls

theorem closes_watch (reg : Registry) (d : Drive) (now : Interlocking) :
    Closes reg d (d.afterWatchStops reg now) (d.watch reg now) := by
  have hsteps := watch_steps reg d now
  have hsilent (h : d.watchStops reg now = []) : d.afterWatchStops reg now = now := by
    rw [afterWatchStops, h]
    rfl
  generalize d.watch reg now = result at hsteps ⊢
  cases hsteps with
  | idle silent off =>
    rw [hsilent silent]
    exact .inl (.refl now)
  | ends silent o =>
    rw [hsilent silent]
    exact closes_finish now o
  | waits silent p =>
    rw [hsilent silent]
    exact closes_arrive now p
  | polls hphase => exact closes_proceed _ _

theorem closes_pass (reg : Registry) (d : Drive) (now : Interlocking) :
    Closes reg d (d.afterStops reg now) (d.pass reg now) := by
  have hclosed := closes_watch reg (d.begin reg now).1 (d.begin reg now).2
  unfold Closes at hclosed ⊢
  rwa [(train_route_begin reg d now).2] at hclosed

theorem mem_due_of_stopCommands {s : SignalId} {answer : Option TrackFault}
    (h : (s, answer) ∈ d.stopCommands reg now) :
    ∃ p, (d.begin reg now).1.phase = .progressing p ∧
      s ∈ (p.progression.advance (now.track.position d.train)).2 := by
  rw [← (onlyNotes_begin reg d now).track, ← (train_route_begin reg d now).1]
  unfold stopCommands watchStops at h
  split at h
  · rename_i p hphase
    split at h
    · cases h
    · split at h
      · cases h
      · have hcommand := List.mem_map_of_mem (f := fun c => (c.1, Aspect.stop)) h
        rw [map_stopAnswers] at hcommand
        obtain ⟨q, hq, heq⟩ := List.mem_map.mp hcommand
        cases heq
        exact ⟨p, hphase, hq⟩
  all_goals cases h

theorem phase_ne_progressing_of_finished (h : d.isFinished = true) (p : Progress) :
    d.phase ≠ .progressing p := by
  intro hphase
  simp [isFinished, outcome?, hphase] at h

theorem phase_arrive_ne_progressing (p q : Progress) :
    (arrive reg d now p).1.phase ≠ .progressing q := by
  rcases arrive_ends_or_waits p with finished | hwaits
  · exact phase_ne_progressing_of_finished finished q
  · rw [hwaits]
    exact nofun

theorem phase_arrive_ne (p : Progress) : (arrive reg d now p).1.phase ≠ .initializing := by
  rcases arrive_ends_or_waits p with finished | hwaits
  · exact phase_ne_of_finished finished
  · rw [hwaits]
    exact nofun

theorem phase_watch_ne (reg : Registry) (now : Interlocking) (hbegun : d.phase ≠ .initializing) :
    (d.watch reg now).1.phase ≠ .initializing := by
  have hsteps := watch_steps reg d now
  generalize d.watch reg now = result at hsteps ⊢
  cases hsteps with
  | idle => exact hbegun
  | ends => exact nofun
  | waits silent p => exact phase_arrive_ne p
  | polls =>
    unfold proceed
    split
    · exact nofun
    · split
      · exact nofun
      · exact phase_arrive_ne _

theorem phase_pass_ne (reg : Registry) (d : Drive) (now : Interlocking) :
    (d.pass reg now).1.phase ≠ .initializing :=
  phase_watch_ne reg _ (phase_begin_ne reg d now)

theorem progressing_of_watch {p' : Progress} (h : (d.watch reg now).1.phase = .progressing p') :
    ∃ p, d.phase = .progressing p ∧ p' = (d.watchStops reg now).foldl Progress.hear
      { p with progression := (p.progression.advance (now.track.position d.train)).1 } := by
  have hsteps := watch_steps reg d now
  generalize d.watch reg now = result at h hsteps
  cases hsteps with
  | idle silent off => exact absurd h (off p')
  | ends silent o => cases h
  | waits silent p => exact absurd h (phase_arrive_ne_progressing p p')
  | @polls p hphase =>
    unfold proceed at h
    split at h
    · cases h
      exact ⟨p, hphase, rfl⟩
    · split at h
      · cases h
      · exact absurd h (phase_arrive_ne_progressing _ p')

theorem progressing_of_pass {p' : Progress} (h : (d.pass reg now).1.phase = .progressing p') :
    ∃ p, (d.begin reg now).1.phase = .progressing p ∧
      p' = (d.stopCommands reg now).foldl Progress.hear
        { p with progression := (p.progression.advance (now.track.position d.train)).1 } := by
  rw [← (onlyNotes_begin reg d now).track, ← (train_route_begin reg d now).1]
  exact progressing_of_watch h

theorem phase_begin_cancel (reg : Registry) (d : Drive) (il : Interlocking) :
    (d.cancel.begin reg il).1.phase = (d.begin reg il).1.phase := by
  by_cases hfresh : d.phase = .initializing
  · unfold begin cancel
    simp only [hfresh]
    cases outset reg d.route <;> rfl
  · have hcancelled : d.cancel.phase ≠ .initializing := hfresh
    rw [begin_of_ne reg il hfresh, begin_of_ne reg il hcancelled]
    rfl

theorem trails_of_begin {il : Interlocking} {p : Progress} (hfresh : d.phase = .initializing)
    (h : (d.begin reg il).1.phase = .progressing p) :
    ∃ r, reg.find? d.route = some r ∧ Progression.Trails r [] [] p.progression := by
  have hbegun := begin_begun reg d il
  generalize d.begin reg il = result at h hbegun
  cases hbegun with
  | already hbefore => exact absurd hfresh hbefore
  | refused => cases h
  | started _ houtset =>
    obtain ⟨r, q, hr, hstart, hp⟩ := start_of_outset houtset
    cases h
    rw [hp]
    exact ⟨r, hr, Progression.trails_of_start hstart⟩

end Pass

end Drive

namespace Traffic

/-! ### The commands of a run -/

section Run

variable {reg : Registry} {start : Traffic} {moves : List Move} {n : Nat} {d : Drive}

/-- What the passes of a drive have reported of its train, and which signals have obeyed it. -/
structure Informs (reg : Registry) (start : Traffic) (moves : List Move) (n : Nat)
    (train : TrainId) (reported : List SegmentId) (obeyed : List SignalId) : Prop where
  told : ∀ segment ∈ reported, ∃ before now, Passes reg start moves n before now ∧
    segment ∈ now.track.position train
  obeyed : ∀ before now, Passes reg start moves n before now →
    ∀ s, (s, none) ∈ before.stopCommands reg now → s ∈ obeyed

variable {reported : List SegmentId} {obeyed : List SignalId}

theorem Informs.other_move {train : TrainId}
    (h : Informs reg start moves n train reported obeyed) {m : Move} (hm : m ≠ .pass n) :
    Informs reg start (moves ++ [m]) n train reported obeyed where
  told segment hsegment := by
    obtain ⟨before, now, hpasses, hmem⟩ := h.told segment hsegment
    exact ⟨before, now, passes_append_singleton.mpr (.inl hpasses), hmem⟩
  obeyed before now hpasses := by
    rcases passes_append_singleton.mp hpasses with hearlier | ⟨hpass, -⟩
    · exact h.obeyed before now hearlier
    · exact absurd hpass hm

theorem Informs.pass (h : Informs reg start moves n d.train reported obeyed)
    (hd : (start.run reg moves).drives[n]? = some d) :
    Informs reg start (moves ++ [.pass n]) n d.train
      (reported ++ (start.run reg moves).interlocking.track.position d.train)
      (obeyed ++ obeyedIn (d.stopCommands reg (start.run reg moves).interlocking)) where
  told segment hsegment := by
    rcases List.mem_append.mp hsegment with hearlier | hnow
    · obtain ⟨before, now, hpasses, hmem⟩ := h.told segment hearlier
      exact ⟨before, now, passes_append_singleton.mpr (.inl hpasses), hmem⟩
    · exact ⟨d, _, passes_append_singleton.mpr (.inr ⟨rfl, hd, rfl⟩), hnow⟩
  obeyed before now hpasses s hs := by
    rcases passes_append_singleton.mp hpasses with hearlier | ⟨-, hbefore, rfl⟩
    · exact List.mem_append_left _ (h.obeyed before now hearlier s hs)
    · cases hd.symm.trans hbefore
      exact List.mem_append_right _ (mem_obeyedIn_iff.mpr hs)

/-- A drive that is on its way, or will be as soon as it has begun, knows what its passes have
reported, and which signals have obeyed. -/
theorem trails_run (hstart : start.drives = []) {p : Progress} {il : Interlocking}
    (hd : (start.run reg moves).drives[n]? = some d)
    (hphase : (d.begin reg il).1.phase = .progressing p) :
    ∃ r reported obeyed, reg.find? d.route = some r ∧
      Progression.Trails r reported obeyed p.progression ∧
      Informs reg start moves n d.train reported obeyed := by
  induction moves using List.reverseRecOn generalizing d p il with
  | nil => simp [run, hstart] at hd
  | append_singleton moves m ih =>
    rw [run_append_singleton] at hd
    cases stepped hd with
    | @launched train route mode hn =>
      obtain ⟨r, hr, htrails⟩ := Drive.trails_of_begin rfl hphase
      refine ⟨r, [], [], hr, htrails, by simp, ?_⟩
      intro before now hpasses
      rcases passes_append_singleton.mp hpasses with hearlier | ⟨hpass, -⟩
      · exact absurd hearlier.lt_length (by omega)
      · cases hpass
    | @cancelled d hbefore =>
      rw [Drive.phase_begin_cancel] at hphase
      obtain ⟨r, reported, obeyed, hr, htrails, hinforms⟩ := ih hbefore hphase
      exact ⟨r, reported, obeyed, hr, htrails, hinforms.other_move (by simp)⟩
    | @begun before hbefore =>
      rw [Drive.begin_of_ne reg il (Drive.phase_begin_ne reg before _)] at hphase
      obtain ⟨r, reported, obeyed, hr, htrails, hinforms⟩ := ih hbefore hphase
      obtain ⟨htrain, hroute⟩ :=
        Drive.train_route_begin reg before (start.run reg moves).interlocking
      rw [htrain, hroute]
      exact ⟨r, reported, obeyed, hr, htrails, hinforms.other_move (by simp)⟩
    | kept hbefore hm =>
      obtain ⟨r, reported, obeyed, hr, htrails, hinforms⟩ := ih hbefore hphase
      have hother : m ≠ .pass n := fun hpass => hm (congrArg Move.actor? hpass)
      exact ⟨r, reported, obeyed, hr, htrails, hinforms.other_move hother⟩
    | @passed before hbefore =>
      rw [Drive.begin_of_ne reg il (Drive.phase_pass_ne reg before _)] at hphase
      obtain ⟨p, hbeforePhase, rfl⟩ := Drive.progressing_of_pass hphase
      obtain ⟨r, reported, obeyed, hr, htrails, hinforms⟩ := ih hbefore hbeforePhase
      obtain ⟨htrain, hroute⟩ := Drive.train_route_pass (start.run reg moves).interlocking
        (sound_run hstart hbefore).onRoute
      refine ⟨r, _, _, by rw [hroute, hr], ?_, by rw [htrain]; exact hinforms.pass hbefore⟩
      rw [Progress.progression_hear_all]
      exact (htrails.advance _).obey _

/-- Each pass of a drive commands signals to stop and then does nothing more, unless it releases
the route. Each command is for a signal that the train passes, and a segment that the path holds
once, behind the first place of the signal, has been reported by this pass or an earlier one. What
has obeyed once is not commanded again. -/
theorem stop_commands_behind_train (reg : Registry) (il : Interlocking) (moves : List Move)
    {n : Nat} {d : Drive} (hd : (run reg ⟨il, []⟩ moves).drives[n]? = some d) :
    let now := (run reg ⟨il, []⟩ moves).interlocking
    d.Closes reg (d.afterStops reg now) (d.pass reg now) ∧
      (∀ s answer, (s, answer) ∈ d.stopCommands reg now →
        ∃ r, reg.find? d.route = some r ∧ s ∈ r.passedSignals ∧
          ∃ segment i, r.HoldsOnce segment i ∧ (∀ j, r.pathIndex? s = some j → j < i) ∧
            ∃ before earlier, Passes reg ⟨il, []⟩ (moves ++ [.pass n]) n before earlier ∧
              segment ∈ earlier.track.position d.train) ∧
      ∀ before earlier, Passes reg ⟨il, []⟩ moves n before earlier →
        ∀ s, (s, none) ∈ before.stopCommands reg earlier →
          ∀ answer, (s, answer) ∉ d.stopCommands reg now := by
  intro now
  refine ⟨Drive.closes_pass reg d now, ?_, ?_⟩
  · intro s answer hs
    obtain ⟨p, hphase, hdue⟩ := Drive.mem_due_of_stopCommands hs
    obtain ⟨r, reported, obeyed, hr, htrails, hinforms⟩ := trails_run rfl hd hphase
    obtain ⟨hpassed, -, segment, hmem, i, hholds, hbehind⟩ :=
      (htrails.advance (now.track.position d.train)).mem_due_iff.mp hdue
    exact ⟨r, hr, hpassed, segment, i, hholds, hbehind, (hinforms.pass hd).told segment hmem⟩
  · intro before earlier hpasses s hobeyed answer hs
    obtain ⟨p, hphase, hdue⟩ := Drive.mem_due_of_stopCommands hs
    obtain ⟨r, reported, obeyed, -, htrails, hinforms⟩ := trails_run rfl hd hphase
    obtain ⟨-, hnot, -⟩ := (htrails.advance (now.track.position d.train)).mem_due_iff.mp hdue
    exact hnot (hinforms.obeyed before earlier hpasses s hobeyed)

end Run

/-- The train is in the throat and the signal before it is jammed. The first pass stops the signal
at the entry, and the second one commands the jammed signal alone. -/
theorem junction_jammed_commanded_again :
    let granted := junctionGranted "T1" (.initial junction.topology)
    let inThroat := { granted with track := (granted.track.place "T1" ["c"]).jam "m" }
    let moves := [.launch "T1" "left" .automatic, .other inThroat, .pass 0]
    ∃ d, (run junctionRoutes ⟨granted, []⟩ moves).drives[0]? = some d ∧
      d.stopCommands junctionRoutes (run junctionRoutes ⟨granted, []⟩ moves).interlocking =
        [("m", some (.jammedSignal "m"))] ∧
      (∃ before, Passes junctionRoutes ⟨granted, []⟩ moves 0 before inThroat ∧
        before.stopCommands junctionRoutes inThroat =
          [("s", none), ("m", some (.jammedSignal "m"))]) ∧
      (∃ r, junctionRoutes.find? "left" = some r ∧ "m" ∈ r.passedSignals) ∧
      ∀ answer, ("s", answer) ∉ d.stopCommands junctionRoutes
        (run junctionRoutes ⟨granted, []⟩ moves).interlocking := by
  intro granted inThroat moves
  let first : Drive := Drive.launch "T1" "left" .automatic
  let second : Drive := (first.pass junctionRoutes inThroat).1
  have hfirst : first.stopCommands junctionRoutes inThroat =
      [("s", none), ("m", some (.jammedSignal "m"))] := by decide
  have hpass : Passes junctionRoutes ⟨granted, []⟩ moves 0 first inThroat :=
    ⟨[.launch "T1" "left" .automatic, .other inThroat], [], rfl, rfl, rfl⟩
  have hd : (run junctionRoutes ⟨granted, []⟩ moves).drives[0]? = some second := rfl
  have hcommands : second.stopCommands junctionRoutes
      (run junctionRoutes ⟨granted, []⟩ moves).interlocking =
        [("m", some (.jammedSignal "m"))] := by decide
  obtain ⟨-, hbehind, hobeyed⟩ := stop_commands_behind_train junctionRoutes granted moves hd
  obtain ⟨r, hr, hpassed, -⟩ := hbehind "m" (some (.jammedSignal "m")) (by rw [hcommands]; simp)
  exact ⟨second, hd, hcommands, ⟨first, hpass, hfirst⟩, ⟨r, hr, hpassed⟩,
    hobeyed first inThroat hpass "s" (by rw [hfirst]; simp)⟩

end Traffic

end Signalbox
