import Signalbox.Proofs.DriveAccounts
import Signalbox.Proofs.HistoryOrder
import Signalbox.Proofs.Shutdown

/-!
Drives of grabbed trains. The controller starts drives for grabbed trains only, and when it lets go
of a train it cancels all drives of the train, for good. So a drive on its list that is neither
finished nor cancelled has a grabbed train.
-/
namespace Signalbox

namespace Drive

/-- The drive goes on: it is neither finished nor cancelled. -/
def isLive (d : Drive) : Bool := !d.isFinished && !d.cancelled

theorem isLive_eq_false_of_cancelled {d : Drive} (h : d.cancelled = true) : d.isLive = false := by
  simp [isLive, h]

theorem isLive_of_same {d d' : Drive} (hphase : ∃ phase, d' = { d with phase })
    (hended : d.isFinished = true → d' = d) (live : d'.isLive = true) : d.isLive = true := by
  cases hfinished : d.isFinished with
  | true => rwa [hended hfinished] at live
  | false =>
    obtain ⟨phase, rfl⟩ := hphase
    obtain ⟨-, hactive⟩ := Bool.and_eq_true_iff.mp live
    exact Bool.and_eq_true_iff.mpr ⟨by rw [hfinished]; rfl, hactive⟩

theorem Moves.isLive {reg : Registry} {d d' : Drive} (h : Moves reg d d')
    (live : d'.isLive = true) : d.isLive = true := by
  induction h with
  | refl => exact live
  | @tail b c _ hstep ih =>
    apply ih
    cases hstep with
    | cancel => rw [isLive_eq_false_of_cancelled rfl] at live; cases live
    | begin il =>
      refine isLive_of_same (exists_phase_begin reg b il) (fun hended => ?_) live
      rw [begin_of_ne reg il (phase_ne_of_finished hended)]
    | pass il =>
      refine isLive_of_same (exists_phase_pass reg b il) (fun hended => ?_) live
      rw [pass_of_finished reg il hended]

end Drive

namespace DriveEntry

theorem Keeps.exists_of_mem {reg : Registry} {off : DriveEntry → Bool}
    {launched entries entries' : List DriveEntry} {e' : DriveEntry}
    (h : Keeps reg off launched entries entries') (he' : e' ∈ entries') :
    ∃ e, e.Moved reg e' ∧ (e ∈ entries ∧ off e = false ∨ e ∈ launched) := by
  obtain ⟨hlength, hmoved⟩ := List.forall₂_iff_get.mp h
  obtain ⟨n, hn, rfl⟩ := List.getElem_of_mem he'
  refine ⟨_, hmoved n (hlength ▸ hn) hn, ?_⟩
  rcases List.mem_append.mp (List.getElem_mem (hlength ▸ hn)) with hkept | hlaunched
  · exact .inl (by simpa using List.mem_filter.mp hkept)
  · exact .inr hlaunched

end DriveEntry

namespace GrabTable

variable {g g' : GrabTable} {slot : Slot} {train : TrainId}

theorem Distinct.trainOf?_grab (hg : g.Distinct) {other : TrainId} {found : Slot}
    (h : g.grab other = (g', .ok found)) (held : g.trainOf? slot = some train) :
    g'.trainOf? slot = some train := by
  obtain ⟨-, -, htaken⟩ := grab_eq_ok h
  rw [trainOf?, lookup_eq_some_iff_mem (hg.grab h).slots, htaken]
  have hmem := (lookup_eq_some_iff_mem hg.slots).mp held
  exact (insertSlot_perm found other g.taken).mem_iff.mpr (List.mem_cons_of_mem _ hmem)

end GrabTable

namespace Session

open DriveEntry

/-- Every drive of the controller that goes on has a grabbed train. -/
def LiveGrabbed (s : Session) : Prop :=
  ∀ e ∈ s.drives, e.isListed = true → e.drive.isLive = true →
    s.grabs.isGrabbed e.drive.train = true

variable {reg : Registry} {s : Session}

theorem ungrab_cases (distinct : s.grabs.Distinct) (slot : Slot) {e' : DriveEntry}
    (he' : e' ∈ (s.ungrab slot).1.drives) (listed : e'.isListed = true) :
    e'.drive.cancelled = true ∨
      (s.ungrab slot).1.grabs.isGrabbed e'.drive.train = s.grabs.isGrabbed e'.drive.train := by
  unfold ungrab at he' ⊢
  cases htrain : s.grabs.trainOf? slot with
  | none => simp [GrabTable.release, htrain]
  | some train =>
    simp only [GrabTable.release, htrain] at he' ⊢
    obtain ⟨e, -, rfl⟩ := List.mem_map.mp he'
    split
    · exact .inl rfl
    · rename_i hother
      refine .inr ((distinct.isGrabbed_release htrain _).trans (if_neg ?_))
      rintro rfl
      rw [if_neg hother] at listed
      exact hother (by simp [isListedFor, listed])

theorem isGrabbed_of_enlistDrive {train : TrainId} {route : RouteId} {mode : DriveMode}
    (h : (s.enlistDrive reg train route mode).2.isOk = true) : s.grabs.isGrabbed train = true := by
  by_contra hfree
  have hready : ∃ e, (s.requireRunning.bind fun _ => s.requireGrabbed train) = .error e := by
    cases hrunning : s.requireRunning with
    | error e => exact ⟨e, rfl⟩
    | ok u => exact ⟨.notGrabbed train, by simp [requireGrabbed, hfree, Except.bind]⟩
  obtain ⟨e, he⟩ := hready
  rw [enlistDrive, he] at h
  cases h

theorem isGrabbed_of_launched {op : Operation} {e : DriveEntry} (he : e ∈ s.launchedBy reg op)
    (listed : e.isListed = true) : s.grabs.isGrabbed e.drive.train = true := by
  have hinside {train : TrainId} {route : RouteId} {mode : DriveMode}
      (he : e ∈ s.launchedBy reg (.enlist train route mode)) :
      s.grabs.isGrabbed e.drive.train = true := by
    rw [launchedBy] at he
    split at he
    · rename_i hok
      obtain rfl := List.mem_singleton.mp he
      exact isGrabbed_of_enlistDrive hok
    · cases he
  have houtside {number : Nat} {d : Drive} (he : e ∈ [⟨.outside number, d⟩]) :
      s.grabs.isGrabbed e.drive.train = true := by
    obtain rfl := List.mem_singleton.mp he
    cases listed
  cases op with
  | enlist => exact hinside he
  | launchOutside => exact houtside he
  | command c =>
    cases c with
    | drive => exact hinside he
    | outsideDrive => exact houtside he
    | _ => cases he
  | _ => cases he

/-- A train stays grabbed as long as a drive of it goes on. -/
theorem isGrabbed_operate (distinct : s.grabs.Distinct) {op : Operation} {e : DriveEntry}
    (he : e ∈ (s.operate reg op).drives) (listed : e.isListed = true)
    (live : e.drive.isLive = true) (grabbed : s.grabs.isGrabbed e.drive.train = true) :
    (s.operate reg op).grabs.isGrabbed e.drive.train = true := by
  have hclosed {before : Session} (he : e ∈ (before.close reg).1.drives) :
      (s.operate reg op).grabs.isGrabbed e.drive.train = true := by
    rw [close_drives] at he
    simp [listed] at he
  cases hgrabbing : op.isGrabbing with
  | false => rwa [grabs_operate_of_not_grabbing reg s hgrabbing]
  | true =>
    cases op with
    | close => exact hclosed he
    | command c =>
      cases c with
      | grab train =>
        simp only [operate, perform, answer_fst, grabTrain]
        cases s.requireRunning with
        | error e => exact grabbed
        | ok u =>
          dsimp only
          cases hgrab : s.grabs.grab train with
          | mk grabs result =>
            cases result with
            | error e => exact grabbed
            | ok slot =>
              change grabs.isGrabbed e.drive.train = true
              rw [GrabTable.isGrabbed_grab hgrab, grabbed, ite_self]
      | ungrab slot =>
        rcases ungrab_cases distinct slot he listed with hcancelled | hsame
        · rw [Drive.isLive_eq_false_of_cancelled hcancelled] at live
          cases live
        · exact hsame.trans grabbed
      | shutdown =>
        simp only [operate, perform, answer_fst, shutdown] at he
        exact hclosed he
      | _ => cases hgrabbing
    | _ => cases hgrabbing

theorem liveGrabbed_operate (distinct : s.grabs.Distinct) (h : s.LiveGrabbed) (op : Operation) :
    (s.operate reg op).LiveGrabbed := by
  intro e' he' listed live
  refine isGrabbed_operate distinct he' listed live ?_
  obtain ⟨e, hmoved, horigin⟩ := (operate_keeps reg s op).exists_of_mem he'
  have hlisted : e.isListed = true := hmoved.isListed_eq ▸ listed
  rw [hmoved.drive.same.1]
  rcases horigin with ⟨hkept, -⟩ | hlaunched
  · exact h e hkept hlisted (hmoved.drive.isLive live)
  · exact isGrabbed_of_launched hlaunched hlisted

theorem liveGrabbed_of_reachable {allowed : Operation → Prop} (h : Reachable reg allowed s) :
    s.LiveGrabbed := by
  induction h with
  | start hstart => simp [LiveGrabbed, drives_of_start hstart]
  | step hs _ ih => exact liveGrabbed_operate (grabsTakeTurns_of_reachable hs).distinct ih _

/-! ### Letting go of a train -/

theorem let_go_of_operate (distinct : s.grabs.Distinct) {op : Operation} {slot : Slot}
    {train : TrainId} (held : s.grabs.trainOf? slot = some train)
    (lost : (s.operate reg op).grabs.trainOf? slot ≠ some train) :
    op = .command (.ungrab slot) ∨ op.closes = true := by
  cases hgrabbing : op.isGrabbing with
  | false =>
    rw [grabs_operate_of_not_grabbing reg s hgrabbing] at lost
    exact absurd held lost
  | true =>
    cases op with
    | close => exact .inr rfl
    | command c =>
      cases c with
      | grab other =>
        refine absurd ?_ lost
        simp only [operate, perform, answer_fst, grabTrain]
        cases s.requireRunning with
        | error e => exact held
        | ok u =>
          dsimp only
          cases hgrab : s.grabs.grab other with
          | mk grabs result =>
            cases result with
            | error e => exact held
            | ok found => exact distinct.trainOf?_grab hgrab held
      | ungrab other =>
        by_cases hslot : slot = other
        · exact .inl (by rw [hslot])
        · refine absurd ?_ lost
          change (s.ungrab other).1.grabs.taken.lookup slot = some train
          rw [ungrab_taken]
          rw [lookup_eq_some_iff_mem (distinct.slots.sublist (List.filter_sublist.map _))]
          have hmem := (lookup_eq_some_iff_mem distinct.slots).mp held
          exact List.mem_filter.mpr ⟨hmem, by simpa using hslot⟩
      | shutdown => exact .inr rfl
      | _ => cases hgrabbing
    | _ => cases hgrabbing

theorem cancelled_of_let_go (distinct : s.grabs.Distinct) {op : Operation} {slot : Slot}
    {train : TrainId} (held : s.grabs.trainOf? slot = some train)
    (lost : (s.operate reg op).grabs.trainOf? slot ≠ some train) {place : Nat} {e : DriveEntry}
    (he : s.drives[place]? = some e) (listed : e.isListedFor train = true) :
    s.takesOff reg op e = true ∨ ∃ place', s.placeAfter reg op place = some place' ∧
      (s.operate reg op).drives[place']? = some { e with drive := e.drive.cancel } := by
  obtain ⟨hlisted, -⟩ := Bool.and_eq_true_iff.mp listed
  rcases let_go_of_operate distinct held lost with rfl | hcloses
  · refine .inr ⟨place, ?_, ?_⟩
    · rw [placeAfter_of_kept he rfl]
      have hlt : place ≤ s.drives.length :=
        Nat.le_of_lt (List.getElem?_eq_some_iff.mp he).1
      simp [takesOff, hlt]
    · have htrain : (s.ungrab slot).2 = some train := by
        simp [ungrab, GrabTable.release, held]
      have hungrab : s.ungrab slot = ((s.ungrab slot).1, some train) := Prod.ext rfl htrain
      exact ungrab_eq_some hungrab he listed
  · refine .inl ?_
    cases op with
    | close => exact hlisted
    | command c =>
      cases c with
      | shutdown => exact hlisted
      | _ => cases hcloses
    | _ => cases hcloses

/-- A drive on the controller's list that is neither finished nor cancelled has a grabbed train, in
every state that a session can reach. When a train loses its slot, by whatever operation, each
listed drive of it is cancelled at once, and stays so whatever follows, a new grab of the same train
included, until it is taken off the list, finished or to be ended. When a close frees the slots,
no drive is on the list any more. -/
theorem live_drives_grabbed {allowed : Operation → Prop} (hs : Reachable reg allowed s) :
    (∀ e ∈ s.drives, e.isListed = true → e.drive.isFinished = false → e.drive.cancelled = false →
      s.grabs.isGrabbed e.drive.train = true) ∧
    (∀ op slot train, s.grabs.trainOf? slot = some train →
      (s.operate reg op).grabs.trainOf? slot ≠ some train →
      ∀ place e, s.drives[place]? = some e → e.isListedFor train = true → ∀ later,
        (∀ place', s.placeThrough reg (op :: later) place = some place' →
          ∃ e', (s.operateAll reg (op :: later)).drives[place']? = some e' ∧ e.Moved reg e' ∧
            e'.drive.cancelled = true) ∧
        (s.placeThrough reg (op :: later) place = none →
          ∃ earlier last rest place' e', op :: later = earlier ++ last :: rest ∧
            s.placeThrough reg earlier place = some place' ∧
            (s.operateAll reg earlier).drives[place']? = some e' ∧ e.Moved reg e' ∧
            (e'.drive.isFinished = true ∨ last.collects train = true))) ∧
    ∃ drained : Session, drained.drives = s.drives.filter (!·.isListed) ∧
      drained.grabs = s.grabs ∧
      (s.close reg).1 = drained.ungrabEach (drained.grabs.taken.map (·.1)) := by
  refine ⟨?_, ?_, ?_⟩
  · intro e he listed unfinished active
    exact liveGrabbed_of_reachable hs e he listed (by simp [Drive.isLive, unfinished, active])
  · intro op slot train held lost place e he listed later
    obtain ⟨hcontroller, htrain⟩ := Bool.and_eq_true_iff.mp listed
    rw [beq_iff_eq] at htrain
    constructor
    · intro place' hplace
      have hdistinct := (grabsTakeTurns_of_reachable hs).distinct
      rcases cancelled_of_let_go hdistinct held lost he listed with hoff | ⟨next, hnext, hcancelled⟩
      · rw [placeThrough, placeAfter_of_takenOff he hoff] at hplace
        cases hplace
      · obtain ⟨e', he', hmoved⟩ := moved_of_placeThrough he hplace
        rw [placeThrough, hnext, Option.bind_some] at hplace
        obtain ⟨last, hlast, hmoved'⟩ := moved_of_placeThrough hcancelled hplace
        obtain rfl : last = e' := Option.some.inj (hlast.symm.trans he')
        exact ⟨last, he', hmoved, (hmoved'.drive.of_cancelled rfl).1⟩
    · intro hplace
      obtain ⟨earlier, last, rest, place', e', hsplit, hthrough, he', hmoved, htaken⟩ :=
        exists_takenOff he hplace
      have hleft := finished_or_collected (hmoved.isListed_eq.trans hcontroller) htaken
      rw [hmoved.drive.same.1, htrain] at hleft
      exact ⟨earlier, last, rest, place', e', hsplit, hthrough, he', hmoved, hleft⟩
  · refine ⟨((s.endListed reg).1.interlock (·.releaseAll reg)).1, ?_, rfl, close_fst reg s⟩
    exact endListed_drives reg s

/-- A train is let go of while its drive goes on, and is grabbed again in the next slot. The drive
stays cancelled. -/
theorem junction_live_drive_let_go :
    let s := junctionSession.operateAll junctionRoutes [.command (.grab "T1"),
      .command (.directGrant "T1" "left"), .command (.drive "T1" "left" .automatic)]
    let run := [.command (.ungrab 0), .command (.grab "T1"), .command (.place "T1" ["a"])]
    s.grabs.isGrabbed "T1" = true ∧
      (s.operateAll junctionRoutes run).grabs.slotOf? "T1" = some 1 ∧
      ∃ e, (s.operateAll junctionRoutes run).drives[0]? = some e ∧ e.drive.train = "T1" ∧
        e.drive.cancelled = true := by
  intro s run
  have hs : Reachable junctionRoutes (fun _ => True) s :=
    (Reachable.start junction_started).operateAll fun _ _ => trivial
  obtain ⟨hgrabbed, hlost, -⟩ := live_drives_grabbed hs
  let e := s.drives.head (by decide)
  obtain ⟨hstays, -⟩ := hlost (.command (.ungrab 0)) 0 "T1" (by decide) (by decide) 0 e (by decide)
    (by decide) [.command (.grab "T1"), .command (.place "T1" ["a"])]
  obtain ⟨e', he', hmoved, hcancelled⟩ := hstays 0 (by decide)
  exact ⟨hgrabbed e (by decide) rfl rfl rfl, by decide, e', he', hmoved.drive.same.1, hcancelled⟩

end Session

end Signalbox
