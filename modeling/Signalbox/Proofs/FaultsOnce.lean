import Signalbox.Proofs.PassedSignals
import Signalbox.Proofs.RefusedCommands
import Signalbox.Proofs.SessionTurns

/-!
Faults in the outcome of a drive. A signal that refuses a command refuses all later ones, since
nothing undoes a jam or a loss. So a drive that has met a refusal on its way never comes to the
release of its route, and the faults on the way and the fault of the release do not meet in one
outcome.
-/
namespace Signalbox

/-- The signal that the fault is of. -/
def TrackFault.signal? : TrackFault → Option SignalId
  | .unknownSignal s | .jammedSignal s => some s
  | .unknownPoint _ | .jammedPoint _ => none

/-- The faults are of signals, each of another one. -/
def OncePerSignal (faults : List TrackFault) : Prop :=
  ∃ signals : List SignalId, signals.Nodup ∧ faults.map (·.signal?) = signals.map some

theorem oncePerSignal_nil : OncePerSignal [] := ⟨[], .nil, rfl⟩

theorem oncePerSignal_singleton {f : TrackFault} {s : SignalId} (h : f.signal? = some s) :
    OncePerSignal [f] :=
  ⟨[s], List.nodup_singleton s, by simp [h]⟩

/-- What an outcome tells of faults. A drive that has completed has met one at most, that of the
release. -/
structure Outcome.BlamesOnce (o : Outcome) : Prop where
  once : OncePerSignal o.faults
  completed : o.state = .completed → o.faults.length ≤ 1

namespace Interlocking

/-- What refuses commands goes on refusing them. -/
def StaysRefusing (il il' : Interlocking) : Prop :=
  ∀ s, (il.refusal? s).isSome = true → (il'.refusal? s).isSome = true

variable {il il' : Interlocking}

theorem SameSignals.staysRefusing (h : SameSignals il il') : il.StaysRefusing il' := by
  intro s hs
  rwa [h.refusal?_eq]

theorem isSome_refusal? (il : Interlocking) (s : SignalId) :
    (il.refusal? s).isSome = (il.track.jammed s || !(il.track.aspect s).isSome) := by
  unfold refusal?
  cases il.track.jammed s <;> cases il.track.aspect s <;> rfl

theorem signal?_of_refusal? {s : SignalId} {f : TrackFault} (h : il.refusal? s = some f) :
    f.signal? = some s := by
  unfold refusal? at h
  split at h
  · cases h
    rfl
  · split at h
    · cases h
      rfl
    · cases h

theorem exists_refusal_of_releaseIfHeldBy {reg : Registry} {route : RouteId} {train : TrainId}
    {f : TrackFault} (h : (il.releaseIfHeldBy reg route train).2 = .error (.track f)) :
    ∃ s, il.refusal? s = some f := by
  unfold releaseIfHeldBy indexOf at h
  cases hi : reg.index? route with
  | none => simp [hi] at h
  | some i =>
    rw [hi] at h
    dsimp only at h
    split at h
    · obtain ⟨-, s, -, -, hs⟩ := exists_refusal_of_release h
      exact ⟨s, hs⟩
    · cases h

theorem stopAnswers_eq (il : Interlocking) (signals : List SignalId) :
    il.stopAnswers signals = signals.map fun s => (s, il.refusal? s) := by
  induction signals generalizing il with
  | nil => rfl
  | cons s rest ih =>
    have hsame : (il.commandSignal s .stop).1.refusal? = il.refusal? :=
      funext (sameSignals_commandSignal il s .stop).refusal?_eq
    change (s, (il.commandSignal s .stop).2) ::
      (il.commandSignal s .stop).1.stopAnswers rest = _
    rw [ih, hsame, commandSignal_snd, List.map_cons]

end Interlocking

open Interlocking

/-! ### Progress -/

namespace Progression

def Lacks (p : Progression) (s : SignalId) : Prop :=
  ∃ record ∈ p.eligible, record.signal = s ∧ record.stopped = false

variable {p : Progression} {s : SignalId}

theorem lacks_of_mem_due (h : s ∈ p.due) : p.Lacks s := by
  unfold due at h
  cases hposition : p.position with
  | none => simp [hposition] at h
  | some i =>
    rw [hposition] at h
    obtain ⟨record, hmem, rfl⟩ := List.mem_map.mp h
    obtain ⟨heligible, hdue⟩ := List.mem_filter.mp hmem
    exact ⟨record, heligible, rfl, by simpa using (Bool.and_eq_true_iff.mp hdue).1⟩

theorem Lacks.markStopped {other : SignalId} (h : p.Lacks s) (hne : s ≠ other) :
    (p.markStopped other).Lacks s := by
  obtain ⟨record, hmem, rfl, hstopped⟩ := h
  refine ⟨record, ?_, rfl, hstopped⟩
  rw [eligible, Progression.markStopped, ← List.map_dropLast]
  exact List.mem_map.mpr ⟨record, hmem, if_neg hne⟩

theorem not_lacks_of_isComplete (h : p.isComplete = true) : ¬ p.Lacks s := by
  rintro ⟨record, hmem, -, hstopped⟩
  rw [List.all_eq_true.mp h record hmem] at hstopped
  cases hstopped

theorem lacks_advance_iff (reported : List SegmentId) :
    (p.advance reported).1.Lacks s ↔ p.Lacks s := by
  unfold Lacks eligible
  rw [records_advance]

end Progression

namespace Progress

/-- The faults are of the signals that have failed, each of another one. These refuse commands
now, and the drive still lacks them. -/
structure Blames (il : Interlocking) (p : Progress) : Prop where
  signals : p.faults.map (·.signal?) = p.failing.reverse.map some
  distinct : p.failing.Nodup
  refusing : ∀ s ∈ p.failing, (il.refusal? s).isSome = true
  lacked : ∀ s ∈ p.failing, p.progression.Lacks s

variable {il il' : Interlocking} {p : Progress}

theorem blames_start (il : Interlocking) (progression : Progression) :
    Blames il ⟨progression, [], []⟩ :=
  ⟨rfl, .nil, by simp, by simp⟩

theorem Blames.oncePerSignal (h : p.Blames il) : OncePerSignal p.faults :=
  ⟨p.failing.reverse, List.nodup_reverse.mpr h.distinct, h.signals⟩

theorem Blames.stays (h : p.Blames il) (hstays : il.StaysRefusing il') : p.Blames il' :=
  { h with refusing := fun s hs => hstays s (h.refusing s hs) }

theorem Blames.faults_eq_nil (h : p.Blames il) (complete : p.progression.isComplete = true) :
    p.faults = [] := by
  have hfailing : p.failing = [] := List.eq_nil_iff_forall_not_mem.mpr fun s hs =>
    Progression.not_lacks_of_isComplete complete (h.lacked s hs)
  have hsignals := h.signals
  rw [hfailing] at hsignals
  exact List.map_eq_nil_iff.mp hsignals

theorem Blames.advance (h : p.Blames il) (reported : List SegmentId) :
    Blames il { p with progression := (p.progression.advance reported).1 } :=
  { h with lacked := fun s hs => (Progression.lacks_advance_iff reported).mpr (h.lacked s hs) }

theorem lacks_hear {s other : SignalId} (h : p.progression.Lacks s)
    (refusing : (il.refusal? s).isSome = true) :
    (p.hear (other, il.refusal? other)).progression.Lacks s := by
  cases hother : il.refusal? other with
  | none =>
    refine h.markStopped ?_
    rintro rfl
    rw [hother] at refusing
    cases refusing
  | some f =>
    rw [hear]
    split <;> exact h

theorem Blames.hear (h : p.Blames il) {s : SignalId}
    (due : (il.refusal? s).isSome = true → p.progression.Lacks s) :
    Blames il (p.hear (s, il.refusal? s)) := by
  have hlacked : ∀ t ∈ p.failing, (p.hear (s, il.refusal? s)).progression.Lacks t :=
    fun t ht => lacks_hear (h.lacked t ht) (h.refusing t ht)
  cases hs : il.refusal? s with
  | none =>
    rw [hs] at hlacked
    exact ⟨h.signals, h.distinct, h.refusing, hlacked⟩
  | some f =>
    have hrefusing : (il.refusal? s).isSome = true := by rw [hs]; rfl
    rw [Progress.hear]
    split
    · exact h
    · rename_i hnew
      constructor
      · simp [h.signals, signal?_of_refusal? hs]
      · exact List.nodup_cons.mpr ⟨by simpa using hnew, h.distinct⟩
      · exact List.forall_mem_cons.mpr ⟨hrefusing, h.refusing⟩
      · exact List.forall_mem_cons.mpr ⟨due hrefusing, h.lacked⟩

theorem Blames.hear_all {signals : List SignalId} (h : p.Blames il)
    (due : ∀ s ∈ signals, (il.refusal? s).isSome = true → p.progression.Lacks s) :
    Blames il ((il.stopAnswers signals).foldl Progress.hear p) := by
  rw [stopAnswers_eq]
  induction signals generalizing p with
  | nil => exact h
  | cons s rest ih =>
    rw [List.forall_mem_cons] at due
    refine ih (h.hear due.1) fun t ht refusing => ?_
    exact lacks_hear (due.2 t ht refusing) refusing

end Progress

/-! ### Drives -/

namespace Drive

/-- What a drive has met of refusals so far, or reports of them. -/
structure FaultsOnce (il : Interlocking) (d : Drive) : Prop where
  running : ∀ p, d.progress? = some p → p.Blames il
  ended : ∀ o, d.outcome? = some o → o.BlamesOnce

variable {reg : Registry} {d : Drive} {il il' : Interlocking} {p : Progress}

theorem FaultsOnce.stays (h : d.FaultsOnce il) (hstays : il.StaysRefusing il') :
    d.FaultsOnce il' :=
  { h with running := fun p hp => (h.running p hp).stays hstays }

theorem faultsOnce_of_running {d' : Drive} (hp : d'.progress? = some p) (h : p.Blames il) :
    d'.FaultsOnce il where
  running q hq := by
    cases hp.symm.trans hq
    exact h
  ended o ho := by
    rw [outcome?_of_progress? hp] at ho
    cases ho

theorem faultsOnce_of_ended {d' : Drive} {o : Outcome} (hphase : d'.phase = .ended o)
    (once : OncePerSignal o.faults) (completed : o.state = .completed → o.faults.length ≤ 1) :
    d'.FaultsOnce il where
  running q hq := by simp [progress?, hphase] at hq
  ended o' ho' := by
    rw [outcome?, hphase] at ho'
    cases ho'
    exact ⟨once, completed⟩

theorem faultsOnce_abort (h : p.Blames il) (reason : AbortReason) :
    (d.abort il' reason p).1.FaultsOnce il :=
  faultsOnce_of_ended rfl h.oncePerSignal nofun

theorem faultsOnce_releaseRoute (unblamed : p.faults = []) :
    (releaseRoute reg d il' p).1.FaultsOnce il := by
  have hsilent (o : Outcome) (ho : o.faults = p.faults) (next : Interlocking) :
      (d.finish next o).1.FaultsOnce il := by
    rw [unblamed] at ho
    refine faultsOnce_of_ended (o := o) rfl ?_ fun _ => ?_
    · rw [ho]
      exact oncePerSignal_nil
    · rw [ho]
      exact Nat.zero_le 1
  unfold releaseRoute
  cases hanswer : il'.releaseIfHeldBy reg d.route d.train with
  | mk next result =>
    cases result with
    | ok released => cases released <;> exact hsilent _ rfl next
    | error e =>
      cases e with
      | notGrantable | notClear | invalid => exact hsilent _ rfl next
      | track f =>
        obtain ⟨s, hs⟩ := exists_refusal_of_releaseIfHeldBy (congrArg Prod.snd hanswer)
        refine faultsOnce_of_ended rfl ?_ fun _ => ?_
        · rw [Outcome.faults, unblamed]
          exact oncePerSignal_singleton (signal?_of_refusal? hs)
        · simp [Outcome.faults, unblamed]

theorem faultsOnce_arrive (h : p.Blames il) (complete : p.progression.isComplete = true) :
    (arrive reg d il' p).1.FaultsOnce il := by
  have hrelease : (releaseRoute reg d il' p).1.FaultsOnce il :=
    faultsOnce_releaseRoute (h.faults_eq_nil complete)
  unfold arrive
  split
  · exact hrelease
  · split
    · exact faultsOnce_abort h _
    · split
      · exact hrelease
      · exact faultsOnce_of_running rfl h

theorem faultsOnce_proceed (h : p.Blames il) : (proceed reg d il' p).1.FaultsOnce il := by
  unfold proceed
  cases complete : p.progression.isComplete with
  | false => exact faultsOnce_of_running rfl h
  | true =>
    cases d.mode with
    | automatic => exact faultsOnce_arrive h complete
    | manual =>
      refine faultsOnce_of_ended rfl h.oncePerSignal fun _ => ?_
      rw [Outcome.faults, h.faults_eq_nil complete]
      exact Nat.zero_le 1

theorem FaultsOnce.begin (h : d.FaultsOnce il) (reg : Registry) :
    (d.begin reg il).1.FaultsOnce il := by
  have hbegun := begin_begun reg d il
  generalize d.begin reg il = result at hbegun ⊢
  cases hbegun with
  | already => exact h
  | refused => exact faultsOnce_of_ended rfl oncePerSignal_nil nofun
  | started hfresh houtset =>
    obtain ⟨r, progression, -, -, rfl⟩ := start_of_outset houtset
    exact faultsOnce_of_running rfl (Progress.blames_start il progression)

theorem FaultsOnce.watch (h : d.FaultsOnce il) (onRoute : d.OnRoute reg) :
    (d.watch reg il).1.FaultsOnce il := by
  unfold Drive.watch
  cases hphase : d.phase with
  | initializing | ended => exact h
  | arriving p =>
    have hp : p.Blames il := h.running p (by simp [progress?, hphase])
    dsimp only
    split
    · exact faultsOnce_abort hp _
    · exact faultsOnce_arrive hp (onRoute.arriving p hphase).2
  | progressing p =>
    have hp : p.Blames il := h.running p (by simp [progress?, hphase])
    dsimp only
    split
    · exact faultsOnce_abort hp _
    · split
      · exact faultsOnce_abort hp _
      · rw [stopSignals_eq]
        refine faultsOnce_proceed ((hp.advance _).hear_all fun s hs _ => ?_)
        exact Progression.lacks_of_mem_due hs

theorem FaultsOnce.pass (h : d.FaultsOnce il) (onRoute : d.OnRoute reg) :
    (d.pass reg il).1.FaultsOnce il := by
  -- The beginning only writes to the history, which does not count for refusals.
  have htrack := (onlyNotes_begin reg d il).track
  have hbegun := (h.begin reg).stays (sameSignals_of_track_eq htrack).staysRefusing
  exact (hbegun.watch (onRoute.begin il)).stays (sameSignals_of_track_eq htrack.symm).staysRefusing

theorem faultsOnce_launch (il : Interlocking) (train : TrainId) (route : RouteId)
    (mode : DriveMode) : (launch train route mode).FaultsOnce il :=
  ⟨nofun, nofun⟩

theorem FaultsOnce.faults (h : d.FaultsOnce il) : OncePerSignal d.faults := by
  unfold Drive.faults
  cases hphase : d.phase with
  | initializing => exact oncePerSignal_nil
  | ended o => exact (h.ended o (by simp [outcome?, hphase])).once
  | progressing p | arriving p => exact (h.running p (by simp [progress?, hphase])).oncePerSignal

theorem FaultsOnce.outcomeOnCancel (h : d.FaultsOnce il) (reg : Registry) :
    (d.outcomeOnCancel reg).BlamesOnce := by
  cases ho : d.outcome? with
  | some o =>
    rw [outcomeOnCancel_of_outcome? ho]
    exact h.ended o ho
  | none =>
    have unfinished : d.isFinished = false := by rw [isFinished, ho, Option.isSome_none]
    rw [outcomeOnCancel_of_unfinished unfinished]
    exact ⟨h.faults, fun completed => by cases completed⟩

end Drive

/-! ### Runs -/

theorem Operation.Besides.staysRefusing {reg : Registry} {op : Operation} {il il' : Interlocking}
    (h : op.Besides reg il il') (undisturbed : op.isDisturbance = false) :
    il.StaysRefusing il' := by
  cases h with
  | attempt _ h =>
    have heffect : Effect reg _ Event.isDrive il il' := h.effect
    exact heffect.sameSignals.staysRefusing
  | release _ i => exact (sameSignals_release il reg i).staysRefusing
  | grab _ train held => exact (sameSignals_of_track_eq rfl).staysRefusing
  | outside s _ =>
    intro q hq
    obtain ⟨hjammed, hreports⟩ := s.signals_operate reg undisturbed q
    rw [isSome_refusal?] at hq ⊢
    rw [hjammed, hreports]
    cases hj : s.interlocking.track.jammed q <;>
      cases ha : (s.interlocking.track.aspect q).isSome <;> simp_all

namespace Traffic

variable {reg : Registry} {may : Interlocking → Interlocking → Prop} {t t' : Traffic}

theorem Turn.staysRefusing (h : Turn reg may t t')
    (besides : ∀ il il', may il il' → il.StaysRefusing il') :
    t.interlocking.StaysRefusing t'.interlocking := by
  cases h with
  | launch | cancel | drop => exact fun _ hs => hs
  | begin il before after d => exact (Drive.begin_withdraws reg d il).sameSignals.staysRefusing
  | pass il before after d => exact (Drive.pass_withdraws reg d il).sameSignals.staysRefusing
  | other drives h => exact besides _ _ h

theorem Turn.faultsOnce (h : Turn reg may t t')
    (besides : ∀ il il', may il il' → il.StaysRefusing il')
    (before : ∀ d ∈ t.drives, d.Sound reg ∧ d.FaultsOnce t.interlocking) :
    ∀ d ∈ t'.drives, d.Sound reg ∧ d.FaultsOnce t'.interlocking := by
  have hmet : ∀ d ∈ t'.drives, d.Sound reg ∧ d.FaultsOnce t.interlocking := by
    refine h.forall_drives before ?_ ?_ ?_ ?_
    · intro train route mode
      exact ⟨Drive.sound_launch .., Drive.faultsOnce_launch ..⟩
    · exact fun d hd => ⟨hd.1.cancel, hd.2.running, hd.2.ended⟩
    · exact fun d hd => ⟨hd.1.begin _, hd.2.begin reg⟩
    · exact fun d hd => ⟨hd.1.pass _, hd.2.pass hd.1.onRoute⟩
  exact fun d hd => ⟨(hmet d hd).1, (hmet d hd).2.stays (h.staysRefusing besides)⟩

end Traffic

namespace Session

open Traffic

variable {reg : Registry} {s : Session}

theorem faultsOnce_of_reachable (h : Reachable reg (·.isDisturbance = false) s) :
    ∀ e ∈ s.drives, e.drive.FaultsOnce s.interlocking := by
  have hall : ∀ d ∈ s.traffic.drives, d.Sound reg ∧ d.FaultsOnce s.traffic.interlocking := by
    refine h.of_turns
      (P := fun t => ∀ d ∈ t.drives, d.Sound reg ∧ d.FaultsOnce t.interlocking) (by simp) ?_
    intro op t t' undisturbed hturn hbefore
    exact hturn.faultsOnce (fun _ _ hbesides => hbesides.staysRefusing undisturbed) hbefore
  exact fun e he => (hall _ (List.mem_map_of_mem he)).2

theorem blamesOnce_of_collect (h : Reachable reg (·.isDisturbance = false) s)
    {picked : DriveEntry → Bool} {o : Outcome} (ho : o ∈ (s.collect reg picked).2) :
    o.BlamesOnce := by
  change o ∈ (collectFrom reg picked s.drives s.interlocking).2.1 at ho
  rw [(collectFrom_eq reg picked s.drives s.interlocking).2.1] at ho
  obtain ⟨e, he, rfl⟩ := List.mem_map.mp ho
  exact (faultsOnce_of_reachable h e (List.mem_of_mem_filter he)).outcomeOnCancel reg

/-- Whatever is jammed and lost in a run, and whenever it is, the faults that a drive has met so
far, and those of its outcome, are each of another signal. This is so while the drive is on the
list, when it is collected, and when it is awaited or ended from outside. -/
theorem drives_blame_signals_once {config : SessionConfig} {s₀ : Session}
    (started : start reg config = .ok s₀) {operations : List Operation}
    (undisturbed : ∀ op ∈ operations, op.isDisturbance = false) :
    let s := s₀.operateAll reg operations
    (∀ e ∈ s.drives, OncePerSignal e.drive.faults ∧
      ∀ o, e.drive.outcome? = some o → o.BlamesOnce) ∧
    (∀ picked, ∀ o ∈ (s.collect reg picked).2, o.BlamesOnce) ∧
    (∀ train, ∀ o ∈ (s.awaitDrives reg train).2, o.BlamesOnce) ∧
    ∀ number o, (s.endOutside reg number).2 = some o → o.BlamesOnce := by
  intro s
  have h : Reachable reg (·.isDisturbance = false) s :=
    (Reachable.start started).operateAll undisturbed
  have hpolls : ∀ op ∈ [Operation.command .poll, .command .poll], op.isDisturbance = false := by
    simp [Operation.isDisturbance]
  have hsettled : Reachable reg (·.isDisturbance = false) (s.settle reg) := h.operateAll hpolls
  refine ⟨fun e he => ?_, fun picked o ho => blamesOnce_of_collect h ho,
    fun train o ho => blamesOnce_of_collect hsettled ho, fun number o ho => ?_⟩
  · have honce := faultsOnce_of_reachable h e he
    exact ⟨honce.faults, honce.ended⟩
  · exact blamesOnce_of_collect h (List.mem_of_mem_head? ho)

/-- A jammed signal refuses in every pass, and is reported once. -/
theorem junction_jammed_blamed_once :
    let operations := [.jam "m", .directGrant "T1" "left", .outsideDrive "T1" "left" .automatic,
      .place "T1" ["c"], .poll, .poll].map Operation.command
    let o := Outcome.aborted .cancelled ["s"] [.jammedSignal "m"]
    ((junctionSession.operateAll junctionRoutes operations).endOutside junctionRoutes 0).2 =
      some o ∧ o.BlamesOnce := by
  intro operations o
  have hended : ((junctionSession.operateAll junctionRoutes operations).endOutside
      junctionRoutes 0).2 = some o := by decide
  have hundisturbed : ∀ op ∈ operations, op.isDisturbance = false := by
    simp [operations, Operation.isDisturbance]
  obtain ⟨-, -, -, honce⟩ := drives_blame_signals_once junction_started hundisturbed
  exact ⟨hended, honce 0 o hended⟩

end Session

end Signalbox
