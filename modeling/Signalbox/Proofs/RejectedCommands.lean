import Signalbox.Proofs.Lists
import Signalbox.Proofs.Operation

/-!
Commands that are rejected. A command can fail because the track refuses it, and then it may have
done part of its work. If it fails for any other reason, it has been rejected before anything
happened, and at most a refused grant is put on record.
-/
namespace Signalbox

namespace Interlocking

variable {il : Interlocking} {reg : Registry} {policy : ConflictPolicy} {train : TrainId}
  {i : RouteIndex} {id : RouteId} {e : InterlockingError}

/-- The error of a refused grant, with the status that is put on record. -/
inductive GrantRefusal (id : RouteId) : InterlockingError → RouteStatus → Prop
  | notGrantable : GrantRefusal id (.notGrantable id) .notGrantable
  | notClear : GrantRefusal id (.notClear id) .notClear

theorem grant_of_error (h : (il.grant reg policy train i).2 = .error e) :
    (il.grant reg policy train i).1 = il ∨ ∃ r status, reg.route? i = some r ∧
      GrantRefusal r.id e status ∧
      (il.grant reg policy train i).1 = il.record (.route r.id status) := by
  unfold grant at h ⊢
  cases hr : reg.route? i with
  | none => exact .inl rfl
  | some r =>
    rw [hr] at h
    dsimp only at h ⊢
    split at h
    · rename_i hempty
      rw [if_pos hempty]
      exact .inl rfl
    · rename_i hnamed
      rw [if_neg hnamed]
      split at h
      · rename_i hbarred
        cases h
        rw [if_pos hbarred]
        exact .inr ⟨r, _, rfl, .notGrantable, rfl⟩
      · rename_i hgrantable
        rw [if_neg hgrantable]
        split at h
        · rename_i hunclear
          cases h
          rw [if_pos hunclear]
          exact .inr ⟨r, _, rfl, .notClear, rfl⟩
        · cases h

theorem grantRoute_of_error (h : (il.grantRoute reg policy train id).2 = .error e) :
    (il.grantRoute reg policy train id).1 = il ∨ ∃ status, GrantRefusal id e status ∧
      (il.grantRoute reg policy train id).1 = il.record (.route id status) := by
  unfold grantRoute indexOf at h ⊢
  cases hi : reg.index? id with
  | none => exact .inl rfl
  | some i =>
    rw [hi] at h
    rcases grant_of_error h with hsame | ⟨r, status, hr, hrefusal, hrecord⟩
    · exact .inl hsame
    · obtain ⟨r', hr', rfl⟩ := Registry.route?_of_index? hi
      obtain rfl : r = r' := Option.some.inj (hr.symm.trans hr')
      exact .inr ⟨status, hrefusal, hrecord⟩

theorem requestRoute_of_error {request : RouteRequest}
    (h : (il.requestRoute reg policy request).2 = .error e) :
    (il.requestRoute reg policy request).1 = il := by
  unfold requestRoute at h ⊢
  split
  · rfl
  · rename_i hnamed
    rw [if_neg hnamed] at h
    cases hunknown : [request.source, request.destination].find? (!reg.topology.isSignal ·) with
    | some s => rfl
    | none => simp [hunknown] at h

theorem release_of_error (h : (il.release reg i).2 = .error e) :
    (∃ f, e = .track f) ∨ reg.route? i = none ∧ (il.release reg i).1 = il := by
  unfold release at h ⊢
  cases hr : reg.route? i with
  | none => exact .inr ⟨rfl, rfl⟩
  | some r =>
    left
    rw [hr] at h
    dsimp only at h
    split at h
    · cases h
    · dsimp only at h
      split at h
      · cases h
      · cases h
        exact ⟨_, rfl⟩

theorem releaseRoute_of_error (h : (il.releaseRoute reg id).2 = .error e) :
    (∃ f, e = .track f) ∨ (il.releaseRoute reg id).1 = il := by
  unfold releaseRoute at h ⊢
  cases hi : indexOf reg id with
  | error e => exact .inr rfl
  | ok i =>
    rw [hi] at h
    dsimp only at h ⊢
    cases hresult : (il.release reg i).2 with
    | ok released => rw [hresult] at h; cases h
    | error e' =>
      rw [hresult] at h
      cases h
      exact (release_of_error hresult).imp_right And.right

theorem releaseIfHeldBy_of_error (h : (il.releaseIfHeldBy reg id train).2 = .error e) :
    (∃ f, e = .track f) ∨ (il.releaseIfHeldBy reg id train).1 = il := by
  unfold releaseIfHeldBy at h ⊢
  cases hi : indexOf reg id with
  | error e => exact .inr rfl
  | ok i =>
    rw [hi] at h
    dsimp only at h ⊢
    split at h
    · rename_i held
      rw [if_pos held]
      exact (release_of_error h).imp_right And.right
    · cases h

theorem releaseEach_of_error {places : List RouteIndex}
    (known : ∀ i ∈ places, (reg.route? i).isSome)
    (h : (il.releaseEach reg places).2 = .error e) : ∃ f, e = .track f := by
  induction places generalizing il with
  | nil => cases h
  | cons i rest ih =>
    rw [List.forall_mem_cons] at known
    unfold releaseEach at h
    dsimp only at h
    split at h
    · exact ih known.2 h
    · rename_i e' hfirst
      cases h
      rcases release_of_error hfirst with hfault | ⟨hunknown, -⟩
      · exact hfault
      · rw [hunknown] at known
        cases known.1

theorem releaseAll_of_error (h : (il.releaseAll reg).2 = .error e) : ∃ f, e = .track f :=
  releaseEach_of_error (fun _ hi => Registry.isSome_route?_iff.mpr (List.mem_range.mp hi)) h

end Interlocking

/-- The track has refused a command. -/
def CommandError.isTrackFault : CommandError → Bool
  | .track _ | .interlocking (.track _) | .session (.interlocking (.track _)) => true
  | _ => false

/-- An error that the track has no part in, or nobody found in a slot that was to be freed. -/
def isRejection : Except CommandError CommandReply → Bool
  | .error e => !e.isTrackFault
  | .ok (.train none) => true
  | .ok _ => false

namespace Session

open Interlocking

variable {reg : Registry} {s : Session}

theorem exists_error_of_isRejection {ε α : Type} {wrapError : ε → CommandError}
    {wrap : α → CommandReply} {result : Session × Except ε α}
    (accepted : ∀ a, isRejection (.ok (wrap a)) = false)
    (h : isRejection (answer wrapError wrap result).2 = true) :
    ∃ e, result.2 = .error e ∧ (answer wrapError wrap result).2 = .error (wrapError e) ∧
      (wrapError e).isTrackFault = false := by
  obtain ⟨s', outcome⟩ := result
  cases outcome with
  | ok a =>
    rw [show (answer wrapError wrap (s', .ok a)).2 = .ok (wrap a) from rfl, accepted] at h
    cases h
  | error e =>
    refine ⟨e, rfl, rfl, ?_⟩
    simpa [isRejection, answer] using h

theorem interlock_of_eq {α : Type} (f : Interlocking → Interlocking × α) {il : Interlocking}
    (h : (f s.interlocking).1 = il) : (s.interlock f).1 = { s with interlocking := il } := by
  rw [← h]
  rfl

theorem grabTrain_of_error {train : TrainId} {e : SessionError}
    (h : (s.grabTrain train).2 = .error e) : (s.grabTrain train).1 = s := by
  unfold grabTrain at h ⊢
  cases hrunning : s.requireRunning with
  | error e => rfl
  | ok u =>
    rw [hrunning] at h
    dsimp only at h ⊢
    cases hgrab : s.grabs.grab train with
    | mk grabs result =>
      rw [hgrab] at h
      cases result with
      | error e => rfl
      | ok slot => cases h

theorem ungrab_of_none {slot : Slot} (h : (s.ungrab slot).2 = none) :
    (s.ungrab slot).1 = s := by
  unfold ungrab at h ⊢
  cases hrelease : s.grabs.release slot with
  | mk grabs train =>
    rw [hrelease] at h
    cases train with
    | none => rfl
    | some t => cases h

theorem startDrive_of_error {train : TrainId} {route : RouteId} {mode : DriveMode}
    {e : SessionError} (h : (s.startDrive reg train route mode).2 = .error e) :
    (s.startDrive reg train route mode).1 = s := by
  unfold startDrive enlistDrive at h ⊢
  cases hready : s.requireRunning.bind fun _ => s.requireGrabbed train with
  | error e => rfl
  | ok u =>
    rw [hready] at h
    cases hindex : indexOf reg route with
    | error e => rfl
    | ok i =>
      rw [hindex] at h
      cases h

theorem setAlgorithm_of_error {name : String} {e : InterlockingError}
    (h : (s.setAlgorithm name).2 = .error e) : (s.setAlgorithm name).1 = s := by
  unfold setAlgorithm at h ⊢
  cases hname : ConflictPolicy.ofName? name with
  | none => rfl
  | some policy =>
    rw [hname] at h
    cases h

theorem grantRoute_of_error {train : TrainId} {id : RouteId} {e : SessionError}
    (h : (s.grantRoute reg train id).2 = .error e) :
    (s.grantRoute reg train id).1 = s ∨ ∃ cause status, e = .interlocking cause ∧
      GrantRefusal id cause status ∧
      (s.grantRoute reg train id).1 = s.record (.route id status) := by
  unfold grantRoute at h ⊢
  cases hrunning : s.requireRunning with
  | error e => exact .inl rfl
  | ok u =>
    rw [hrunning] at h
    obtain ⟨cause, hcause, rfl⟩ := mapError_eq_error h
    rcases Interlocking.grantRoute_of_error hcause with hsame | ⟨status, hrefusal, hrecord⟩
    · exact .inl (interlock_of_eq (·.grantRoute reg s.policy train id) hsame)
    · exact .inr ⟨cause, status, rfl, hrefusal,
        interlock_of_eq (·.grantRoute reg s.policy train id) hrecord⟩

theorem requestRoute_of_error {request : RouteRequest} {e : SessionError}
    (h : (s.requestRoute reg request).2 = .error e) : (s.requestRoute reg request).1 = s := by
  unfold requestRoute at h ⊢
  cases hready : s.requireRunning.bind fun _ => s.requireGrabbed request.train with
  | error e => rfl
  | ok u =>
    rw [hready] at h
    obtain ⟨cause, hcause, -⟩ := mapError_eq_error h
    exact interlock_of_eq (·.requestRoute reg s.policy request)
      (Interlocking.requestRoute_of_error hcause)

theorem releaseRoute_of_error {id : RouteId} {e : SessionError}
    (h : (s.releaseRoute reg id).2 = .error e) :
    (∃ f, e = .interlocking (.track f)) ∨ (s.releaseRoute reg id).1 = s := by
  obtain ⟨cause, hcause, rfl⟩ := mapError_eq_error h
  rcases Interlocking.releaseRoute_of_error hcause with ⟨f, rfl⟩ | hsame
  · exact .inl ⟨f, rfl⟩
  · exact .inr (interlock_of_eq (·.releaseRoute reg id) hsame)

theorem shutdown_of_error {e : SessionError} (h : (s.shutdown reg).2 = .error e) :
    ∃ f, e = .interlocking (.track f) := by
  obtain ⟨cause, hcause, rfl⟩ := mapError_eq_error h
  obtain ⟨f, rfl⟩ := releaseAll_of_error hcause
  exact ⟨f, rfl⟩

/-- A command that is rejected leaves everything as it was. Only a refused grant is put on
record, once and with the reason that is answered. -/
theorem rejected_command_changes_nothing (reg : Registry) (s : Session) {c : SessionCommand}
    (h : isRejection (s.perform reg c).2 = true) :
    (s.perform reg c).1 = s ∨
      ∃ train id cause status, GrantRefusal id cause status ∧
        (c = .grant train id ∧ (s.perform reg c).2 = .error (.session (.interlocking cause)) ∨
          c = .directGrant train id ∧ (s.perform reg c).2 = .error (.interlocking cause)) ∧
        (s.perform reg c).1 = s.record (.route id status) := by
  cases c with
  | place | removeTrain | mark | jam | lose | poll | listDrives | await | outsideDrive
  | cancelOutside | endOutside => cases h
  | ungrab slot =>
    left
    cases hnone : (s.ungrab slot).2 with
    | none => exact ungrab_of_none hnone
    | some train =>
      change isRejection (.ok (.train (s.ungrab slot).2)) = true at h
      rw [hnone] at h
      cases h
  | setAspect signal a =>
    obtain ⟨e, -, -, hno⟩ := exists_error_of_isRejection (fun _ => rfl) h
    cases hno
  | setPoint point p =>
    obtain ⟨e, -, -, hno⟩ := exists_error_of_isRejection (fun _ => rfl) h
    cases hno
  | grab train =>
    obtain ⟨e, he, -⟩ := exists_error_of_isRejection (fun _ => rfl) h
    exact .inl ((answer_fst ..).trans (grabTrain_of_error he))
  | grant train id =>
    obtain ⟨e, he, hreply, -⟩ := exists_error_of_isRejection (fun _ => rfl) h
    rcases grantRoute_of_error he with hsame | ⟨cause, status, rfl, hrefusal, hrecord⟩
    · exact .inl ((answer_fst ..).trans hsame)
    · exact .inr ⟨train, id, cause, status, hrefusal, .inl ⟨rfl, hreply⟩,
        (answer_fst ..).trans hrecord⟩
  | request r =>
    obtain ⟨e, he, -⟩ := exists_error_of_isRejection (fun _ => rfl) h
    exact .inl ((answer_fst ..).trans (requestRoute_of_error he))
  | release id =>
    obtain ⟨e, he, -, hno⟩ := exists_error_of_isRejection (fun _ => rfl) h
    rcases releaseRoute_of_error he with ⟨f, rfl⟩ | hsame
    · cases hno
    · exact .inl ((answer_fst ..).trans hsame)
  | drive train route mode =>
    obtain ⟨e, he, -⟩ := exists_error_of_isRejection (fun _ => rfl) h
    exact .inl ((answer_fst ..).trans (startDrive_of_error he))
  | shutdown =>
    obtain ⟨e, he, -, hno⟩ := exists_error_of_isRejection (fun _ => rfl) h
    obtain ⟨f, rfl⟩ := shutdown_of_error he
    cases hno
  | directGrant train id =>
    obtain ⟨e, he, hreply, -⟩ := exists_error_of_isRejection (fun _ => rfl) h
    rcases Interlocking.grantRoute_of_error he with hsame | ⟨status, hrefusal, hrecord⟩
    · exact .inl ((answer_fst ..).trans
        (interlock_of_eq (·.grantRoute reg s.policy train id) hsame))
    · exact .inr ⟨train, id, e, status, hrefusal, .inr ⟨rfl, hreply⟩,
        (answer_fst ..).trans (interlock_of_eq (·.grantRoute reg s.policy train id) hrecord)⟩
  | directRequest r =>
    obtain ⟨e, he, -⟩ := exists_error_of_isRejection (fun _ => rfl) h
    exact .inl ((answer_fst ..).trans (interlock_of_eq (·.requestRoute reg s.policy r)
      (Interlocking.requestRoute_of_error he)))
  | releaseIfHeldBy id train =>
    obtain ⟨e, he, -, hno⟩ := exists_error_of_isRejection (fun _ => rfl) h
    rcases releaseIfHeldBy_of_error he with ⟨f, rfl⟩ | hsame
    · cases hno
    · exact .inl ((answer_fst ..).trans
        (interlock_of_eq (·.releaseIfHeldBy reg id train) hsame))
  | releaseAll =>
    obtain ⟨e, he, -, hno⟩ := exists_error_of_isRejection (fun _ => rfl) h
    obtain ⟨f, rfl⟩ := releaseAll_of_error he
    cases hno
  | setAlgorithm name =>
    obtain ⟨e, he, -⟩ := exists_error_of_isRejection (fun _ => rfl) h
    exact .inl ((answer_fst ..).trans (setAlgorithm_of_error he))

/-- The other route of the junction is refused while the first one is held. -/
theorem junction_refusal_recorded :
    let s := junctionSession.operate junctionRoutes (.command (.directGrant "T1" "left"))
    (s.perform junctionRoutes (.grant "T2" "right")).1 =
      s.record (.route "right" .notGrantable) := by
  intro s
  have hrejected : isRejection (s.perform junctionRoutes (.grant "T2" "right")).2 = true := rfl
  rcases rejected_command_changes_nothing junctionRoutes s hrejected with
    hsame | ⟨train, id, cause, status, hrefusal, ⟨hc, hreply⟩ | ⟨hc, -⟩, hrecord⟩
  · have hlength := congrArg (·.interlocking.log.length) hsame
    exact absurd hlength (by decide)
  · cases hc
    have hcause : (.error (.session (.interlocking (.notGrantable "right"))) :
        Except CommandError CommandReply) = .error (.session (.interlocking cause)) := hreply
    cases hcause
    cases hrefusal
    exact hrecord
  · cases hc

end Session

end Signalbox
