import Signalbox.Proofs.GrabSlots
import Signalbox.Proofs.Operation

/-!
Slots in a session. Only four operations touch the slots, and they do it one train at a time,
each time with a note in the history. What such a step keeps of slots and route set together,
these operations keep, and the others leave the slots as they are.
-/
namespace Signalbox

open Interlocking

/-- Kept when a train is grabbed, when a slot is freed, and when anything is withdrawn. -/
structure GrabTable.Kept (reg : Registry) (P : GrabTable → Interlocking → Prop) : Prop where
  withdraws : ∀ {g : GrabTable} {il il' : Interlocking}, Withdraws reg Event.isDrive il il' →
    P g il → P g il'
  grab : ∀ {g g' : GrabTable} {il : Interlocking} {train : TrainId} {slot : Slot},
    g.grab train = (g', .ok slot) → P g il → P g' (il.record (.grab train true))
  release : ∀ {g : GrabTable} {il : Interlocking} {train : TrainId} {slot : Slot},
    g.trainOf? slot = some train → P g il → P (g.release slot).1 (il.record (.grab train false))

namespace Session

section Kept

variable {reg : Registry} {P : GrabTable → Interlocking → Prop} (kept : GrabTable.Kept reg P)
  {s : Session}
include kept

theorem kept_grabTrain (h : P s.grabs s.interlocking) (train : TrainId) :
    P (s.grabTrain train).1.grabs (s.grabTrain train).1.interlocking := by
  unfold grabTrain
  cases s.requireRunning with
  | error e => exact h
  | ok u =>
    dsimp only
    cases hgrab : s.grabs.grab train with
    | mk grabs result =>
      cases result with
      | error e => exact h
      | ok slot => exact kept.grab hgrab h

theorem kept_ungrab (h : P s.grabs s.interlocking) (slot : Slot) :
    P (s.ungrab slot).1.grabs (s.ungrab slot).1.interlocking := by
  unfold ungrab
  cases htrain : s.grabs.trainOf? slot with
  | none => simpa [GrabTable.release, htrain] using h
  | some train =>
    simp only [GrabTable.release, htrain]
    exact kept.release htrain h

theorem kept_ungrabEach (h : P s.grabs s.interlocking) (slots : List Slot) :
    P (s.ungrabEach slots).grabs (s.ungrabEach slots).interlocking := by
  induction slots generalizing s with
  | nil => exact h
  | cons slot rest ih => exact ih (kept_ungrab kept h slot)

theorem kept_close (h : P s.grabs s.interlocking) :
    P (s.close reg).1.grabs (s.close reg).1.interlocking := by
  obtain ⟨released, hreleased, hgrabs, hclose⟩ := exists_released_of_close reg s
  rw [hclose]
  apply kept_ungrabEach kept
  rw [hgrabs]
  exact kept.withdraws hreleased h

theorem kept_operate_of_grabbing (h : P s.grabs s.interlocking) {op : Operation}
    (hgrabbing : op.isGrabbing = true) :
    P (s.operate reg op).grabs (s.operate reg op).interlocking := by
  cases op with
  | close => exact kept_close kept h
  | command c =>
    unfold operate
    cases c with
    | grab train =>
      simp only [perform, answer_fst]
      exact kept_grabTrain kept h train
    | ungrab slot => exact kept_ungrab kept h slot
    | shutdown =>
      simp only [perform, answer_fst]
      exact kept_close kept (s := s.settle reg) (kept.withdraws (settle_withdraws reg s) h)
    | _ => cases hgrabbing
  | _ => cases hgrabbing

end Kept

/-! ### Other operations -/

theorem grabs_actAt (s : Session) (place : Nat)
    (act : Drive → Interlocking → Drive × Interlocking) : (s.actAt place act).grabs = s.grabs := by
  unfold actAt
  cases s.drives[place]? <;> rfl

theorem grabs_passLast (reg : Registry) (s : Session) : (s.passLast reg).grabs = s.grabs := by
  unfold passLast
  cases s.drives.getLast? <;> rfl

theorem grabs_enlistDrive (reg : Registry) (s : Session) (train : TrainId) (route : RouteId)
    (mode : DriveMode) : (s.enlistDrive reg train route mode).1.grabs = s.grabs := by
  unfold enlistDrive
  cases s.requireRunning.bind fun _ => s.requireGrabbed train with
  | error e => rfl
  | ok u =>
    dsimp only
    cases indexOf reg route <;> rfl

theorem grabs_startDrive (reg : Registry) (s : Session) (train : TrainId) (route : RouteId)
    (mode : DriveMode) : (s.startDrive reg train route mode).1.grabs = s.grabs := by
  have henlist := grabs_enlistDrive reg s train route mode
  unfold startDrive
  cases h : s.enlistDrive reg train route mode with
  | mk s' result =>
    rw [h] at henlist
    cases result with
    | error e => exact henlist
    | ok u => exact (grabs_passLast reg s').trans henlist

theorem grabs_operate_of_not_grabbing (reg : Registry) (s : Session) {op : Operation}
    (h : op.isGrabbing = false) : (s.operate reg op).grabs = s.grabs := by
  cases op with
  | begin place | pass place => exact grabs_actAt s place _
  | enlist train route mode => exact grabs_enlistDrive reg s train route mode
  | launchOutside | collectTrain | disturb => rfl
  | close => cases h
  | command c =>
    unfold operate
    cases c with
    | grab | ungrab | shutdown => cases h
    | drive train route mode =>
      simp only [perform, answer_fst]
      exact grabs_startDrive reg s train route mode
    | outsideDrive train route mode => exact grabs_passLast reg _
    | grant train route =>
      simp only [perform, answer_fst, grantRoute]
      cases s.requireRunning <;> rfl
    | request r =>
      simp only [perform, answer_fst, requestRoute]
      cases s.requireRunning.bind fun _ => s.requireGrabbed r.train <;> rfl
    | setAlgorithm name =>
      simp only [perform, answer_fst, setAlgorithm]
      cases ConflictPolicy.ofName? name <;> rfl
    | setAspect | setPoint | release | directGrant | directRequest | releaseIfHeldBy
    | releaseAll =>
      simp only [perform, answer_fst]
      rfl
    | place | removeTrain | mark | jam | lose | poll | listDrives | await | cancelOutside
    | endOutside => rfl

end Session

end Signalbox
