import Signalbox.Proofs.HistoryReplay
import Signalbox.Proofs.RefusedCommands
import Signalbox.Proofs.RejectedCommands
import Signalbox.Proofs.ScenarioRun
import Signalbox.Proofs.SessionTurns

/-!
Faults in a session. A table that has been read lists declared signals and points only, and the
track of a fresh session knows all of these. So unless signals are lost, every fault that a
session reports is the refusal of a signal or point that has been jammed before, and a play,
which jams nothing, meets none.
-/
namespace Signalbox

open Interlocking

/-- The result of a command tells of the fault: a grant or an outcome carries it, or a release
has failed with it. What the track answers to a command given to it directly is not meant. -/
inductive Reports : Except CommandError CommandReply → TrackFault → Prop
  | grant {g : Grant} {f : TrackFault} (h : f ∈ g.faults) : Reports (.ok (.grant g)) f
  | outcomes {os : List Outcome} {o : Outcome} {f : TrackFault} (ho : o ∈ os)
      (h : f ∈ o.faults) : Reports (.ok (.outcomes os)) f
  | outcome {o : Outcome} {f : TrackFault} (h : f ∈ o.faults) :
      Reports (.ok (.outcome (some o))) f
  | direct (f : TrackFault) : Reports (.error (.interlocking (.track f))) f
  | controller (f : TrackFault) : Reports (.error (.session (.interlocking (.track f)))) f

/-- The fault is the refusal of a signal or point that one of the operations has jammed. -/
def Operation.RefusedAfter (operations : List Operation) (f : TrackFault) : Prop :=
  ∃ id, operations.any (·.jams id) = true ∧ (f = .jammedSignal id ∨ f = .jammedPoint id)

/-! ### The invariant -/

namespace Traffic

/-- The track knows the signals and points of all routes, and what drives have met are refusals
of jammed ones. -/
structure Answered (reg : Registry) (t : Traffic) : Prop where
  equipped : Equipped reg t.interlocking
  sound : ∀ d ∈ t.drives, d.Sound reg
  faults : ∀ d ∈ t.drives, ∀ f ∈ d.faults, t.interlocking.Refuses f

variable {reg : Registry} {may : Interlocking → Interlocking → Prop} {t t' : Traffic}

theorem Turn.retains (h : Turn reg may t t') (besides : ∀ il il', may il il' → il.Retains il') :
    t.interlocking.Retains t'.interlocking := by
  cases h with
  | launch | cancel | drop => exact retains_of_track_eq rfl
  | begin il before after d => exact (Drive.begin_withdraws reg d il).retains
  | pass il before after d => exact (Drive.pass_withdraws reg d il).retains
  | other drives h => exact besides _ _ h

theorem Answered.turn (h : t.Answered reg) (hturn : Turn reg may t t')
    (besides : ∀ il il', may il il' → il.Retains il') : t'.Answered reg := by
  have hretains := hturn.retains besides
  have hmet : ∀ d ∈ t'.drives, d.Sound reg ∧ ∀ f ∈ d.faults, t.interlocking.Refuses f := by
    refine hturn.forall_drives (fun d hd => ⟨h.sound d hd, h.faults d hd⟩) ?_ ?_ ?_ ?_
    · intro train route mode
      exact ⟨Drive.sound_launch reg train route mode, nofun⟩
    · exact fun d hd => ⟨hd.1.cancel, hd.2⟩
    · intro d hd
      rw [Drive.begin_faults]
      exact ⟨hd.1.begin _, hd.2⟩
    · intro d hd
      refine ⟨hd.1.pass _, Drive.pass_faults hd.1.onRoute hd.2 ?_⟩
      intro r hr q hq f hf
      obtain ⟨i, -, hi⟩ := Option.bind_eq_some_iff.mp hr
      exact h.equipped.refuses (List.mem_of_getElem? hi) hq hf
  exact ⟨h.equipped.retained hretains, fun d hd => (hmet d hd).1,
    fun d hd f hf => ((hmet d hd).2 f hf).retained hretains⟩

theorem Answered.turns (h : t.Answered reg) (hturns : Turns reg may t t')
    (besides : ∀ il il', may il il' → il.Retains il') : t'.Answered reg := by
  induction hturns with
  | refl => exact h
  | tail _ hturn ih => exact ih.turn hturn besides

end Traffic

theorem Operation.Besides.retains {reg : Registry} {op : Operation} {il il' : Interlocking}
    (h : op.Besides reg il il') (hreported : op.isReported = true) : il.Retains il' := by
  cases h with
  | attempt _ h => exact h.retains
  | release _ i =>
    exact .of_sameSignals (sameSignals_release il reg i) fun p => by rw [point_release]
  | grab _ train held => exact retains_of_track_eq rfl
  | outside s h =>
    cases op with
    | disturb => cases hreported
    | command c =>
      cases c with
      | place | removeTrain | mark =>
        exact ⟨fun _ hid => hid, fun _ hq => hq, fun _ hp => hp⟩
      | setAspect signal a =>
        simp only [Session.operate, Session.perform, Session.answer_fst]
        refine .of_sameSignals (sameSignals_commandSignal s.interlocking signal a) fun p => ?_
        exact congrArg (fun point => (point p).isSome)
          (point_commandSignal s.interlocking signal a)
      | setPoint point p =>
        simp only [Session.operate, Session.perform, Session.answer_fst]
        obtain ⟨haspect, hjammed⟩ := track_commandPoint s.interlocking point p
        refine .of_sameSignals ⟨hjammed, fun q => congrArg Option.isSome (congrFun haspect q)⟩ ?_
        exact fun q => isSome_point_commandPoint s.interlocking point q p
      | jam id =>
        refine ⟨fun other hother => ?_, fun _ hq => hq, fun _ hp => hp⟩
        exact Bool.or_eq_true_iff.mpr (.inr hother)
      | lose => cases hreported
      | _ => cases h
    | _ => cases h

theorem Operation.isReported_of_isPlayed {op : Operation} (h : op.isPlayed = true) :
    op.isReported = true := by
  cases op with
  | command c => cases c <;> first | rfl | cases h
  | disturb => cases h
  | _ => rfl

namespace Session

open Traffic

variable {reg : Registry} {s : Session}

theorem answered_of_reachable {text : List Char} {t : Table} (read : Table.ofChars text = .ok t)
    (accepted : Registry.ofTable t = .ok reg) (h : Reachable reg (·.isReported = true) s) :
    s.traffic.Answered reg := by
  have hequipped : Equipped reg (.initial reg.topology) := by
    obtain ⟨htopology, hroutes⟩ := Registry.ofTable_eq_ok_iff.mp accepted
    constructor
    · intro r hr q hq
      rw [hroutes] at hr
      simp [Interlocking.initial, Track.initial, htopology, Table.isSignal_of_ofChars read hr hq]
    · intro r hr p hp
      rw [hroutes] at hr
      simp [Interlocking.initial, Track.initial, htopology, Table.isPoint_of_ofChars read hr hp]
  refine h.of_turns (P := Answered reg) ⟨hequipped, by simp, by simp⟩ ?_
  intro op u u' hreported hturn hanswered
  exact hanswered.turn hturn fun _ _ hbesides => hbesides.retains hreported

theorem answered_settle (h : s.traffic.Answered reg) : (s.settle reg).traffic.Answered reg := by
  have hturns : Turns reg (fun _ _ => False) s.traffic (s.settle reg).traffic := turns_settle s
  exact h.turns hturns fun _ _ hnever => hnever.elim

theorem refuses_of_settle {f : TrackFault} (h : (s.settle reg).interlocking.Refuses f) :
    s.interlocking.Refuses f := by
  obtain ⟨id, hjammed, hf⟩ := h
  rw [(settle_withdraws reg s).sameSignals.jammed] at hjammed
  exact ⟨id, hjammed, hf⟩

theorem refuses_of_collect (h : s.traffic.Answered reg) {picked : DriveEntry → Bool} {o : Outcome}
    (ho : o ∈ (s.collect reg picked).2) {f : TrackFault} (hf : f ∈ o.faults) :
    s.interlocking.Refuses f := by
  change o ∈ (collectFrom reg picked s.drives s.interlocking).2.1 at ho
  rw [(collectFrom_eq reg picked s.drives s.interlocking).2.1] at ho
  obtain ⟨e, he, rfl⟩ := List.mem_map.mp ho
  rw [Drive.outcomeOnCancel_faults] at hf
  exact h.faults _ (List.mem_map_of_mem (List.mem_of_mem_filter he)) f hf

theorem refuses_of_grant (h : s.traffic.Answered reg) {train : TrainId} {route : RouteId}
    {g : Grant} (hg : (s.grantRoute reg train route).2 = .ok g) {f : TrackFault}
    (hf : f ∈ g.faults) : s.interlocking.Refuses f := by
  unfold Session.grantRoute at hg
  cases hrunning : s.requireRunning with
  | error e => simp [hrunning] at hg
  | ok u =>
    rw [hrunning] at hg
    cases hanswer : (s.interlocking.grantRoute reg s.policy train route).2 with
    | error e => simp [interlock, hanswer, Except.mapError] at hg
    | ok g' =>
      obtain rfl : g' = g := by simpa [interlock, hanswer, Except.mapError] using hg
      exact refuses_of_grantRoute h.equipped hanswer hf

theorem refuses_of_close (h : s.traffic.Answered reg) {f : TrackFault}
    (hf : (s.close reg).2 = .error (.interlocking (.track f))) : s.interlocking.Refuses f := by
  rw [close_snd] at hf
  cases hfirst : firstFault? reg s.interlocking.isHeld s.interlocking.refusal?
      (List.range reg.size) with
  | none => simp [hfirst] at hf
  | some f' =>
    obtain rfl : f' = f := by simpa [hfirst] using hf
    exact refuses_of_firstFault? h.equipped hfirst

/-! ### What is reported -/

theorem reports_answer {ε α : Type} {wrapError : ε → CommandError} {wrap : α → CommandReply}
    {result : Session × Except ε α} {f : TrackFault}
    (h : Reports (answer wrapError wrap result).2 f) :
    (∃ a, result.2 = .ok a ∧ Reports (.ok (wrap a)) f) ∨
      ∃ e, result.2 = .error e ∧ Reports (.error (wrapError e)) f := by
  obtain ⟨next, outcome⟩ := result
  cases outcome with
  | ok a => exact .inl ⟨a, rfl, h⟩
  | error e => exact .inr ⟨e, rfl, h⟩

theorem error_of_reports {ε α : Type} {wrapError : ε → CommandError} {wrap : α → CommandReply}
    {result : Session × Except ε α} {f : TrackFault}
    (silent : ∀ a, ¬ Reports (.ok (wrap a)) f) (h : Reports (answer wrapError wrap result).2 f) :
    ∃ e, result.2 = .error e ∧ Reports (.error (wrapError e)) f := by
  rcases reports_answer h with ⟨a, -, hreported⟩ | hfailed
  · exact absurd hreported (silent a)
  · exact hfailed

theorem requireRunning_of_error {e : SessionError} (h : s.requireRunning = .error e) :
    e = .shuttingDown := by
  unfold requireRunning at h
  split at h
  · cases h
  · exact (Except.error.inj h).symm

theorem ready_of_error {train : TrainId} {e : SessionError}
    (h : (s.requireRunning.bind fun _ => s.requireGrabbed train) = .error e) :
    e = .shuttingDown ∨ e = .notGrabbed train := by
  cases hrunning : s.requireRunning with
  | error e' =>
    rw [hrunning] at h
    exact .inl ((Except.error.inj h).symm.trans (requireRunning_of_error hrunning))
  | ok u =>
    rw [hrunning] at h
    change s.requireGrabbed train = .error e at h
    unfold requireGrabbed at h
    split at h
    · cases h
    · exact .inr (Except.error.inj h).symm

section Controller

variable {f : TrackFault}

theorem grabTrain_ne_fault (train : TrainId) :
    (s.grabTrain train).2 ≠ .error (.interlocking (.track f)) := by
  unfold grabTrain
  cases hrunning : s.requireRunning with
  | error e =>
    rw [requireRunning_of_error hrunning]
    simp
  | ok u =>
    dsimp only
    cases s.grabs.grab train with
    | mk grabs result => cases result <;> simp

theorem grantRoute_ne_fault (train : TrainId) (route : RouteId) :
    (s.grantRoute reg train route).2 ≠ .error (.interlocking (.track f)) := by
  unfold grantRoute
  cases hrunning : s.requireRunning with
  | error e =>
    rw [requireRunning_of_error hrunning]
    simp
  | ok u =>
    intro h
    obtain ⟨e, he, hwrapped⟩ := mapError_eq_error h
    cases hwrapped
    exact Interlocking.grantRoute_ne_fault f he

theorem requestRoute_ne_fault (request : RouteRequest) :
    (s.requestRoute reg request).2 ≠ .error (.interlocking (.track f)) := by
  unfold requestRoute
  cases hready : s.requireRunning.bind fun _ => s.requireGrabbed request.train with
  | error e => rcases ready_of_error hready with rfl | rfl <;> simp
  | ok u =>
    intro h
    obtain ⟨e, he, hwrapped⟩ := mapError_eq_error h
    cases hwrapped
    exact Interlocking.requestRoute_ne_fault request f he

theorem enlistDrive_ne_fault (train : TrainId) (route : RouteId) (mode : DriveMode) :
    (s.enlistDrive reg train route mode).2 ≠ .error (.interlocking (.track f)) := by
  unfold enlistDrive
  cases hready : s.requireRunning.bind fun _ => s.requireGrabbed train with
  | error e => rcases ready_of_error hready with rfl | rfl <;> simp
  | ok u =>
    dsimp only
    unfold indexOf
    cases reg.index? route <;> simp

theorem startDrive_ne_fault (train : TrainId) (route : RouteId) (mode : DriveMode) :
    (s.startDrive reg train route mode).2 ≠ .error (.interlocking (.track f)) := by
  have henlist : (s.enlistDrive reg train route mode).2 ≠ .error (.interlocking (.track f)) :=
    enlistDrive_ne_fault train route mode
  unfold startDrive
  cases h : s.enlistDrive reg train route mode with
  | mk next result =>
    rw [h] at henlist
    cases result with
    | ok u => simp
    | error e => exact henlist

theorem setAlgorithm_ne_fault (name : String) : (s.setAlgorithm name).2 ≠ .error (.track f) := by
  unfold setAlgorithm
  cases ConflictPolicy.ofName? name <;> simp

end Controller

/-- Whatever fault a command reports, it is the refusal of a jammed signal or point. -/
theorem refuses_of_report (h : s.traffic.Answered reg) {c : SessionCommand} {f : TrackFault}
    (hf : Reports (s.perform reg c).2 f) : s.interlocking.Refuses f := by
  cases c with
  | place | removeTrain | mark | jam | lose | ungrab | poll | listDrives | outsideDrive
  | cancelOutside => cases hf
  | setAspect | setPoint =>
    obtain ⟨e, -, hreported⟩ := error_of_reports (by rintro _ ⟨⟩) hf
    cases hreported
  | grab train =>
    obtain ⟨e, he, hreported⟩ := error_of_reports (by rintro _ ⟨⟩) hf
    cases hreported
    exact absurd he (grabTrain_ne_fault train)
  | request r =>
    obtain ⟨e, he, hreported⟩ := error_of_reports (by rintro _ ⟨⟩) hf
    cases hreported
    exact absurd he (requestRoute_ne_fault r)
  | drive train route mode =>
    obtain ⟨e, he, hreported⟩ := error_of_reports (by rintro _ ⟨⟩) hf
    cases hreported
    exact absurd he (startDrive_ne_fault train route mode)
  | directRequest r =>
    obtain ⟨e, he, hreported⟩ := error_of_reports (by rintro _ ⟨⟩) hf
    cases hreported
    exact absurd he (Interlocking.requestRoute_ne_fault r f)
  | setAlgorithm name =>
    obtain ⟨e, he, hreported⟩ := error_of_reports (by rintro _ ⟨⟩) hf
    cases hreported
    exact absurd he (setAlgorithm_ne_fault name)
  | grant train route =>
    rcases reports_answer hf with ⟨g, hg, hreported⟩ | ⟨e, he, hreported⟩
    · cases hreported with
      | grant hf => exact refuses_of_grant h hg hf
    · cases hreported
      exact absurd he (grantRoute_ne_fault train route)
  | directGrant train route =>
    rcases reports_answer hf with ⟨g, hg, hreported⟩ | ⟨e, he, hreported⟩
    · cases hreported with
      | grant hf => exact refuses_of_grantRoute h.equipped hg hf
    · cases hreported
      exact absurd he (Interlocking.grantRoute_ne_fault f)
  | release route =>
    obtain ⟨e, he, hreported⟩ := error_of_reports (by rintro _ ⟨⟩) hf
    cases hreported
    obtain ⟨e, he, hwrapped⟩ := mapError_eq_error he
    cases hwrapped
    exact refuses_of_releaseRoute h.equipped he
  | releaseIfHeldBy route train =>
    obtain ⟨e, he, hreported⟩ := error_of_reports (by rintro _ ⟨⟩) hf
    cases hreported
    exact refuses_of_releaseIfHeldBy h.equipped he
  | releaseAll =>
    obtain ⟨e, he, hreported⟩ := error_of_reports (by rintro _ ⟨⟩) hf
    cases hreported
    exact refuses_of_releaseAll h.equipped he
  | shutdown =>
    obtain ⟨e, he, hreported⟩ := error_of_reports (by rintro _ ⟨⟩) hf
    cases hreported
    exact refuses_of_settle (refuses_of_close (answered_settle h) he)
  | await train =>
    cases hf with
    | outcomes ho hf => exact refuses_of_settle (refuses_of_collect (answered_settle h) ho hf)
  | endOutside number =>
    change Reports (.ok (.outcome (s.collect reg (·.origin == .outside number)).2.head?)) f at hf
    cases ho : (s.collect reg (·.origin == .outside number)).2.head? with
    | none =>
      rw [ho] at hf
      cases hf
    | some o =>
      rw [ho] at hf
      cases hf with
      | outcome hf => exact refuses_of_collect h (List.mem_of_mem_head? ho) hf

theorem refusedAfter_of_refuses {config : SessionConfig} (started : start reg config = .ok s)
    {operations : List Operation} (reported : ∀ op ∈ operations, op.isReported = true)
    {f : TrackFault} (h : (s.operateAll reg operations).interlocking.Refuses f) :
    Operation.RefusedAfter operations f := by
  have undisturbed : ∀ op ∈ operations, op.isDisturbance = false := by
    intro op hop
    cases op with
    | disturb => exact absurd (reported _ hop) (by simp [Operation.isReported])
    | _ => rfl
  obtain ⟨id, hjammed, hf⟩ := h
  rw [(signals_operateAll reg s undisturbed id).1, interlocking_of_start started] at hjammed
  exact ⟨id, hjammed, hf⟩

theorem not_refusedAfter_of_played {operations : List Operation}
    (played : ∀ op ∈ operations, op.isPlayed = true) (f : TrackFault) :
    ¬ Operation.RefusedAfter operations f := by
  rintro ⟨id, hjams, -⟩
  obtain ⟨op, hop, hjams⟩ := List.any_eq_true.mp hjams
  have hplayed := played op hop
  cases op with
  | command c => cases c <;> first | cases hjams | cases hplayed
  | _ => cases hjams

section Read

variable {text : List Char} {t : Table} (read : Table.ofChars text = .ok t)
  (accepted : Registry.ofTable t = .ok reg) {config : SessionConfig} {s₀ : Session}
  (started : start reg config = .ok s₀)
include read accepted started

theorem answered_and_refusals {operations : List Operation}
    (reported : ∀ op ∈ operations, op.isReported = true) :
    (s₀.operateAll reg operations).traffic.Answered reg ∧
      ∀ f, (s₀.operateAll reg operations).interlocking.Refuses f →
        Operation.RefusedAfter operations f :=
  ⟨answered_of_reachable read accepted ((Reachable.start started).operateAll reported),
    fun _ => refusedAfter_of_refuses started reported⟩

theorem answered_of_actions {actions : List Action} (h : actions.foldlM (act reg) s₀ = .ok s) :
    s.traffic.Answered reg ∧ ∀ f, ¬ s.interlocking.Refuses f := by
  have hany : ∀ a ∈ actions, ∀ n ∈ a.names, True := fun _ _ _ _ => trivial
  obtain ⟨operations, hoperations, rfl⟩ := playsTo_of_actions hany h
  have played : ∀ op ∈ operations, op.isPlayed = true := fun op hop => (hoperations op hop).1
  have reported : ∀ op ∈ operations, op.isReported = true := fun op hop =>
    Operation.isReported_of_isPlayed (played op hop)
  obtain ⟨hanswered, hrefusals⟩ := answered_and_refusals read accepted started reported
  exact ⟨hanswered, fun f hf => not_refusedAfter_of_played played f (hrefusals f hf)⟩

theorem close_of_actions {actions : List Action} (h : actions.foldlM (act reg) s₀ = .ok s) :
    (s.close reg).2 = .ok () := by
  obtain ⟨hanswered, hnone⟩ := answered_of_actions read accepted started h
  have hfault {f : TrackFault} (hf : (s.close reg).2 = .error (.interlocking (.track f))) :
      False := hnone f (refuses_of_close hanswered hf)
  have hresult := close_snd reg s
  split at hresult
  · exact hresult
  · exact (hfault hresult).elim

theorem act_ne_fault {actions : List Action} (h : actions.foldlM (act reg) s₀ = .ok s)
    (a : Action) (f : TrackFault) :
    act reg s a ≠ .error (.session (.interlocking (.track f))) := by
  obtain ⟨hanswered, hnone⟩ := answered_of_actions read accepted started h
  intro hact
  have hrequired {α : Type} {result : Session × Except SessionError α}
      (hresult : require .session result = .error (.session (.interlocking (.track f)))) :
      result.2 = .error (.interlocking (.track f)) := by
    obtain ⟨e, he, hwrapped⟩ := error_of_require hresult
    cases hwrapped
    exact he
  cases a with
  | grab train => exact grabTrain_ne_fault train (hrequired hact)
  | request train source destination => exact requestRoute_ne_fault _ (hrequired hact)
  | drive train route mode => exact enlistDrive_ne_fault train route mode (hrequired hact)
  | release route =>
    obtain ⟨e, he, hwrapped⟩ := mapError_eq_error (hrequired hact)
    cases hwrapped
    exact hnone f (refuses_of_releaseRoute hanswered.equipped he)
  | grant train route =>
    obtain ⟨e, he, hwrapped⟩ := error_of_attemptGrant hact
    cases hwrapped
    exact grantRoute_ne_fault train route he
  | setAspect signal aspect =>
    obtain ⟨e, -, hwrapped⟩ := error_of_require hact
    cases hwrapped
  | ungrab train =>
    rw [act] at hact
    cases hslot : s.grabs.slotOf? train <;> simp [hslot] at hact
  | place train segments => cases segments <;> cases hact
  | wait | occupy | await => cases hact

theorem playAll_ne_fault (actions : List Action) (f : TrackFault) :
    s₀.playAll reg actions ≠ .error (.session (.interlocking (.track f))) := by
  intro hplay
  unfold playAll at hplay
  cases hactions : actions.foldlM (act reg) s₀ with
  | error e =>
    rw [hactions] at hplay
    obtain ⟨earlier, a, later, reached, -, hearlier, hfails⟩ := exists_failing_action hactions
    exact act_ne_fault read accepted started hearlier a f (hfails.trans hplay)
  | ok s =>
    rw [hactions] at hplay
    obtain ⟨e, he, -⟩ := error_of_require hplay
    rw [close_of_actions read accepted started hactions] at he
    cases he

end Read

/-- A table that has been read meets no unknown names. In every run of its site in which no signal
is lost, whatever fault a grant, a drive or a release meets is the refusal of a signal or point
that has been jammed before. In a play there are none: whatever the actions are that have gone
through, no grant carries a fault and nothing fails on the track, so that the close goes through
and no play ends with such a failure. -/
theorem faults_are_refusals {text : List Char} {t : Table} (read : Table.ofChars text = .ok t)
    (accepted : Registry.ofTable t = .ok reg) {config : SessionConfig} {s₀ : Session}
    (started : start reg config = .ok s₀) :
    (∀ operations : List Operation, (∀ op ∈ operations, op.isReported = true) →
      let s := s₀.operateAll reg operations
      (∀ c f, Reports (s.perform reg c).2 f → Operation.RefusedAfter operations f) ∧
      (∀ train i r, reg.route? i = some r →
        ∀ f ∈ (s.interlocking.commit reg train i r).2.faults,
          Operation.RefusedAfter operations f) ∧
      (∀ e ∈ s.drives, ∀ f ∈ e.drive.faults, Operation.RefusedAfter operations f) ∧
      (∀ picked, ∀ o ∈ (s.collect reg picked).2, ∀ f ∈ o.faults,
        Operation.RefusedAfter operations f) ∧
      ∀ f, (s.close reg).2 = .error (.interlocking (.track f)) →
        Operation.RefusedAfter operations f) ∧
    (∀ (actions : List Action) (s : Session), actions.foldlM (act reg) s₀ = .ok s →
      (∀ c f, ¬ Reports (s.perform reg c).2 f) ∧
      (∀ train i r, reg.route? i = some r → (s.interlocking.commit reg train i r).2.faults = []) ∧
      (∀ e ∈ s.drives, e.drive.faults = []) ∧
      (s.close reg).2 = .ok ()) ∧
    ∀ (actions : List Action) (f : TrackFault),
      Scenario.play t actions config ≠ .error (.session (.interlocking (.track f))) := by
  refine ⟨?_, ?_, ?_⟩
  · intro operations reported s
    obtain ⟨hanswered, hrefusals⟩ := answered_and_refusals read accepted started reported
    refine ⟨fun c f hf => hrefusals f (refuses_of_report hanswered hf), ?_, ?_, ?_, ?_⟩
    · intro train i r hr f hf
      exact hrefusals f (refuses_of_commit hanswered.equipped hr hf)
    · intro e he f hf
      exact hrefusals f (hanswered.faults _ (List.mem_map_of_mem he) f hf)
    · intro picked o ho f hf
      exact hrefusals f (refuses_of_collect hanswered ho hf)
    · intro f hf
      exact hrefusals f (refuses_of_close hanswered hf)
  · intro actions s hactions
    obtain ⟨hanswered, hnone⟩ := answered_of_actions read accepted started hactions
    refine ⟨fun c f hf => hnone f (refuses_of_report hanswered hf), ?_, ?_,
      close_of_actions read accepted started hactions⟩
    · intro train i r hr
      refine List.eq_nil_iff_forall_not_mem.mpr fun f hf => hnone f ?_
      exact refuses_of_commit hanswered.equipped hr hf
    · intro e he
      refine List.eq_nil_iff_forall_not_mem.mpr fun f hf => hnone f ?_
      exact hanswered.faults _ (List.mem_map_of_mem he) f hf
  · intro actions f hplay
    rcases error_of_play accepted started hplay with hroom | hall
    · cases hroom
    · exact playAll_ne_fault read accepted started actions f hall

/-- The first signal of the block is jammed, and then the route is granted. -/
theorem block_grant_refused :
    let jammed := blockSession.operateAll blockRoutes [.command (.jam "s")]
    Reports (jammed.perform blockRoutes (.directGrant "T1" "r")).2 (.jammedSignal "s") ∧
      Operation.RefusedAfter [.command (.jam "s")] (.jammedSignal "s") := by
  intro jammed
  have hreports : Reports (jammed.perform blockRoutes (.directGrant "T1" "r")).2
      (.jammedSignal "s") := .grant (g := ⟨"r", [.jammedSignal "s"]⟩) List.mem_cons_self
  have haccepted : Registry.ofTable block = .ok blockRoutes := rfl
  have hstarted : start blockRoutes .standard = .ok blockSession := rfl
  obtain ⟨hrefusals, -⟩ := faults_are_refusals block_read haccepted hstarted
  have hrun := hrefusals [.command (.jam "s")] (by decide)
  exact ⟨hreports, hrun.1 _ _ hreports⟩

end Session

end Signalbox
