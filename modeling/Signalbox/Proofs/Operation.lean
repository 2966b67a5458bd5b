import Signalbox.Proofs.RouteRequest
import Signalbox.Proofs.Withdrawal
import Signalbox.Session.Command

/-!
The runs of a session. The operations of a run follow one another in any order, and each drive
begins and makes its passes on its own. An operation comes from outside and changes the track, or
asks for a route and is granted at most one, or only withdraws.
-/
namespace Signalbox

/-- One step of a run. In the commands the drives move together, in starting order. The other
steps leave that order open. -/
inductive Operation where
  | command (command : SessionCommand)
  /-- the drive at this place of the list begins, if it has not begun yet -/
  | begin (place : Nat)
  /-- one pass of the drive at this place of the list -/
  | pass (place : Nat)
  /-- a drive of the controller, which has not begun -/
  | enlist (train : TrainId) (route : RouteId) (mode : DriveMode)
  /-- a drive outside the controller's list, which has not begun -/
  | launchOutside (train : TrainId) (route : RouteId) (mode : DriveMode)
  | collectTrain (train : TrainId)
  | close
  /-- the track is found in another state, whatever has happened to it -/
  | disturb (track : Track)

namespace Session

def actAt (s : Session) (place : Nat) (act : Drive → Interlocking → Drive × Interlocking) :
    Session :=
  match s.drives[place]? with
  | none => s
  | some e =>
    let (drive, il) := act e.drive s.interlocking
    { s with drives := s.drives.set place { e with drive }, interlocking := il }

def beginAt (s : Session) (reg : Registry) (place : Nat) : Session :=
  s.actAt place (Drive.begin reg)

def passAt (s : Session) (reg : Registry) (place : Nat) : Session := s.actAt place (Drive.pass reg)

def launchOutside (s : Session) (train : TrainId) (route : RouteId) (mode : DriveMode) : Session :=
  { s.launch (.outside s.outsideCount) train route mode with outsideCount := s.outsideCount + 1 }

def operate (reg : Registry) (s : Session) : Operation → Session
  | .command c => (s.perform reg c).1
  | .begin place => s.beginAt reg place
  | .pass place => s.passAt reg place
  | .enlist train route mode => (s.enlistDrive reg train route mode).1
  | .launchOutside train route mode => s.launchOutside train route mode
  | .collectTrain train => (s.collectTrain reg train).1
  | .close => (s.close reg).1
  | .disturb track => s.onTrack fun _ => track

def operateAll (reg : Registry) (s : Session) (operations : List Operation) : Session :=
  operations.foldl (operate reg) s

theorem operateAll_append (reg : Registry) (s : Session) (first second : List Operation) :
    s.operateAll reg (first ++ second) = (s.operateAll reg first).operateAll reg second :=
  List.foldl_append

/-- The states that a run of allowed operations leads to from a start. -/
inductive Reachable (reg : Registry) (allowed : Operation → Prop) : Session → Prop
  | start {config : SessionConfig} {s : Session} (h : start reg config = .ok s) :
    Reachable reg allowed s
  | step {s : Session} {op : Operation} (hs : Reachable reg allowed s) (h : allowed op) :
    Reachable reg allowed (s.operate reg op)

theorem Reachable.operateAll {reg : Registry} {allowed : Operation → Prop} {s : Session}
    (hs : Reachable reg allowed s) {operations : List Operation}
    (h : ∀ op ∈ operations, allowed op) :
    Reachable reg allowed (s.operateAll reg operations) := by
  induction operations generalizing s with
  | nil => exact hs
  | cons op rest ih =>
    exact ih (hs.step (h op List.mem_cons_self)) fun o ho => h o (List.mem_cons_of_mem op ho)

theorem eq_of_start {reg : Registry} {config : SessionConfig} {s : Session}
    (h : start reg config = .ok s) : ∃ policy, s = {
      interlocking := .initial reg.topology
      policy
      config
      grabs := .empty config.maxTrains
      drives := []
      running := true
      outsideCount := 0 } := by
  unfold start at h
  cases hp : ConflictPolicy.ofName? config.algorithm with
  | none => simp [hp] at h
  | some policy =>
    simp only [hp, Except.ok.injEq] at h
    exact ⟨policy, h.symm⟩

theorem interlocking_of_start {reg : Registry} {config : SessionConfig} {s : Session}
    (h : start reg config = .ok s) : s.interlocking = .initial reg.topology := by
  obtain ⟨policy, rfl⟩ := eq_of_start h
  rfl

theorem drives_of_start {reg : Registry} {config : SessionConfig} {s : Session}
    (h : start reg config = .ok s) : s.drives = [] := by
  obtain ⟨policy, rfl⟩ := eq_of_start h
  rfl

theorem free_of_start {reg : Registry} {config : SessionConfig} {s : Session}
    (h : start reg config = .ok s) (i : RouteIndex) : s.interlocking.isHeld i = false := by
  rw [interlocking_of_start h]
  rfl

def junctionSession : Session where
  interlocking := .initial junction.topology
  policy := .sectional
  config := .standard
  grabs := .empty 32
  drives := []
  running := true
  outsideCount := 0

theorem junction_started : start junctionRoutes .standard = .ok junctionSession := rfl

end Session

namespace Interlocking

/-- What an operation on the site can do to the route set under a policy. -/
inductive Effect (reg : Registry) (policy : ConflictPolicy) (noted : Event → Bool)
    (il : Interlocking) : Interlocking → Prop
  | refused {il' : Interlocking} (h : il.Refused il') : Effect reg policy noted il il'
  | granted {train : TrainId} {i : RouteIndex} {r : Route} (hr : reg.route? i = some r)
    (h : il.Admits reg policy train i) : Effect reg policy noted il (il.commit reg train i r).1
  | withdrawn {il' : Interlocking} (h : Withdraws reg noted il il') :
    Effect reg policy noted il il'

theorem Effect.mono {reg : Registry} {policy : ConflictPolicy} {noted noted' : Event → Bool}
    {il il' : Interlocking} (hnoted : ∀ e, noted e = true → noted' e = true)
    (h : Effect reg policy noted il il') : Effect reg policy noted' il il' := by
  cases h with
  | refused h => exact .refused h
  | granted hr h => exact .granted hr h
  | withdrawn h => exact .withdrawn (h.mono hnoted)

/-- What can come of an attempt to be granted a route. -/
inductive Attempt (reg : Registry) (policy : ConflictPolicy) (il : Interlocking) :
    Interlocking → Prop
  | refused {il' : Interlocking} (h : il.Refused il') : Attempt reg policy il il'
  | granted {train : TrainId} {i : RouteIndex} {r : Route} (hr : reg.route? i = some r)
    (h : il.Admits reg policy train i) : Attempt reg policy il (il.commit reg train i r).1

theorem Attempt.effect {reg : Registry} {policy : ConflictPolicy} {noted : Event → Bool}
    {il il' : Interlocking} (h : Attempt reg policy il il') : Effect reg policy noted il il' := by
  cases h with
  | refused h => exact .refused h
  | granted hr h => exact .granted hr h

section Requests

variable (il : Interlocking) (reg : Registry) (policy : ConflictPolicy)

theorem grant_attempt (train : TrainId) (i : RouteIndex) :
    Attempt reg policy il (il.grant reg policy train i).1 := by
  by_cases h : il.Admits reg policy train i
  · obtain ⟨r, hr⟩ := exists_route_of_isClear h.clear
    rw [grant_of_admits hr h]
    exact .granted hr h
  · obtain ⟨e, -, hrefused⟩ := grant_of_not_admits h
    exact .refused hrefused

theorem grantRoute_attempt (train : TrainId) (id : RouteId) :
    Attempt reg policy il (il.grantRoute reg policy train id).1 := by
  unfold grantRoute
  cases indexOf reg id with
  | error e => exact .refused (.inl rfl)
  | ok i => exact grant_attempt il reg policy train i

theorem requestRoute_attempt (request : RouteRequest) :
    Attempt reg policy il (il.requestRoute reg policy request).1 := by
  rcases requestRoute_cases request with h | ⟨i, r, hr, hadmits, h⟩
  · exact .refused (.inl h)
  · rw [h]
    exact .granted hr hadmits

end Requests

end Interlocking

namespace Session

open Interlocking

variable (reg : Registry) (s : Session)

@[simp] theorem answer_fst {ε α : Type} (wrapError : ε → CommandError)
    (wrap : α → CommandReply) (result : Session × Except ε α) :
    (answer wrapError wrap result).1 = result.1 := by
  rcases result with ⟨s, _ | _⟩ <;> rfl

/-! ### Operations that withdraw -/

theorem passEach_withdraws (drives : List DriveEntry) (il : Interlocking) :
    Withdraws reg Event.isDrive il (passEach reg drives il).2 := by
  induction drives generalizing il with
  | nil => exact .refl
  | cons e rest ih => exact (Drive.pass_withdraws reg e.drive il).trans (ih _)

theorem poll_withdraws : Withdraws reg Event.isDrive s.interlocking (s.poll reg).interlocking :=
  passEach_withdraws reg s.drives s.interlocking

theorem settle_withdraws : Withdraws reg Event.isDrive s.interlocking (s.settle reg).interlocking :=
  (poll_withdraws reg s).trans (poll_withdraws reg _)

theorem collectFrom_withdraws (picked : DriveEntry → Bool) (drives : List DriveEntry)
    (il : Interlocking) :
    Withdraws reg Event.isDrive il (collectFrom reg picked drives il).2.2 := by
  induction drives generalizing il with
  | nil => exact .refl
  | cons e rest ih =>
    unfold collectFrom
    split
    · exact (Drive.pass_withdraws reg e.drive.cancel il).trans (ih _)
    · exact ih il

theorem collect_withdraws (picked : DriveEntry → Bool) :
    Withdraws reg Event.isDrive s.interlocking (s.collect reg picked).1.interlocking :=
  collectFrom_withdraws reg picked s.drives s.interlocking

theorem passLast_withdraws :
    Withdraws reg Event.isDrive s.interlocking (s.passLast reg).interlocking := by
  unfold passLast
  cases s.drives.getLast? with
  | none => exact .refl
  | some e => exact Drive.pass_withdraws reg e.drive s.interlocking

theorem actAt_withdraws (place : Nat) {act : Drive → Interlocking → Drive × Interlocking}
    (h : ∀ d il, Withdraws reg Event.isDrive il (act d il).2) :
    Withdraws reg Event.isDrive s.interlocking (s.actAt place act).interlocking := by
  unfold actAt
  cases s.drives[place]? with
  | none => exact .refl
  | some e => exact h e.drive s.interlocking

theorem enlistDrive_withdraws (train : TrainId) (route : RouteId) (mode : DriveMode) :
    Withdraws reg Event.isDrive s.interlocking
      (s.enlistDrive reg train route mode).1.interlocking := by
  unfold enlistDrive
  cases s.requireRunning.bind fun _ => s.requireGrabbed train with
  | error e => exact .refl
  | ok u =>
    dsimp only
    cases indexOf reg route with
    | error e => exact .refl
    | ok i => exact .refl

theorem startDrive_withdraws (train : TrainId) (route : RouteId) (mode : DriveMode) :
    Withdraws reg Event.isDrive s.interlocking
      (s.startDrive reg train route mode).1.interlocking := by
  have henlist := enlistDrive_withdraws reg s train route mode
  unfold startDrive
  cases h : s.enlistDrive reg train route mode with
  | mk s' result =>
    rw [h] at henlist
    cases result with
    | error e => exact henlist
    | ok u => exact henlist.trans (passLast_withdraws reg s')

theorem ungrab_withdraws (slot : Slot) :
    Withdraws reg Event.isBookkeeping s.interlocking (s.ungrab slot).1.interlocking := by
  unfold ungrab
  cases s.grabs.release slot with
  | mk grabs train =>
    cases train with
    | none => exact .refl
    | some t => exact .single (.note _ _ rfl)

theorem ungrabEach_withdraws (slots : List Slot) :
    Withdraws reg Event.isBookkeeping s.interlocking (s.ungrabEach slots).interlocking := by
  induction slots generalizing s with
  | nil => exact .refl
  | cons slot rest ih => exact (ungrab_withdraws reg s slot).trans (ih _)

theorem grabTrain_withdraws (train : TrainId) :
    Withdraws reg Event.isBookkeeping s.interlocking (s.grabTrain train).1.interlocking := by
  unfold grabTrain
  cases s.requireRunning with
  | error e => exact .refl
  | ok u =>
    dsimp only
    cases s.grabs.grab train with
    | mk grabs result =>
      cases result with
      | error e => exact .refl
      | ok slot => exact .single (.note _ _ rfl)

theorem exists_released_of_close :
    ∃ released : Session, Withdraws reg Event.isDrive s.interlocking released.interlocking ∧
      released.grabs = s.grabs ∧
      (s.close reg).1 = released.ungrabEach (released.grabs.taken.map Prod.fst) := by
  let ended := (collect { s with running := false } reg (·.isListed)).1
  have hended : Withdraws reg Event.isDrive s.interlocking ended.interlocking :=
    collect_withdraws reg { s with running := false } (·.isListed)
  have hreleased : Withdraws reg Event.isDrive ended.interlocking
      (ended.interlock (·.releaseAll reg)).1.interlocking :=
    releaseEach_withdraws ended.interlocking reg (List.range reg.size)
  exact ⟨(ended.interlock (·.releaseAll reg)).1, hended.trans hreleased, rfl, rfl⟩

theorem close_withdraws :
    Withdraws reg Event.isBookkeeping s.interlocking (s.close reg).1.interlocking := by
  obtain ⟨released, hreleased, -, hclose⟩ := exists_released_of_close reg s
  rw [hclose]
  exact (hreleased.mono fun _ => Event.isBookkeeping_of_isDrive).trans
    (ungrabEach_withdraws reg released _)

end Session

def Operation.isOutside : Operation → Bool
  | .command (.place ..) | .command (.removeTrain _) | .command (.mark ..)
  | .command (.setAspect ..) | .command (.setPoint ..) | .command (.jam _)
  | .command (.lose _) | .disturb _ => true
  | _ => false

/-- Whether an operation grabs trains or lets go of them. -/
def Operation.isGrabbing : Operation → Bool
  | .command (.grab _) | .command (.ungrab _) | .command .shutdown | .close => true
  | _ => false

/-- Whether an operation does nothing but ask for a route. -/
def Operation.isGrantAttempt : Operation → Bool
  | .command (.grant ..) | .command (.request _) | .command (.directGrant ..)
  | .command (.directRequest _) => true
  | _ => false

namespace Session

open Interlocking

theorem operate_attempt (reg : Registry) (s : Session) {op : Operation}
    (h : op.isGrantAttempt = true) :
    Attempt reg s.policy s.interlocking (s.operate reg op).interlocking ∧
      (s.operate reg op).policy = s.policy := by
  cases op with
  | command c =>
    unfold operate
    cases c with
    | grant train route =>
      simp only [perform, answer_fst]
      unfold grantRoute
      cases s.requireRunning with
      | error e => exact ⟨.refused (.inl rfl), rfl⟩
      | ok u => exact ⟨grantRoute_attempt s.interlocking reg s.policy train route, rfl⟩
    | request r =>
      simp only [perform, answer_fst]
      unfold requestRoute
      cases s.requireRunning.bind fun _ => s.requireGrabbed r.train with
      | error e => exact ⟨.refused (.inl rfl), rfl⟩
      | ok u => exact ⟨requestRoute_attempt s.interlocking reg s.policy r, rfl⟩
    | directGrant train route =>
      simp only [perform, answer_fst]
      exact ⟨grantRoute_attempt s.interlocking reg s.policy train route, rfl⟩
    | directRequest r =>
      simp only [perform, answer_fst]
      exact ⟨requestRoute_attempt s.interlocking reg s.policy r, rfl⟩
    | _ => cases h
  | _ => cases h

theorem holder_operate_of_outside (reg : Registry) (s : Session) {op : Operation}
    (h : op.isOutside = true) :
    (s.operate reg op).interlocking.holder = s.interlocking.holder := by
  cases op with
  | disturb track => rfl
  | command c =>
    cases c with
    | setAspect signal a =>
      simp only [operate, perform, answer_fst]
      exact holder_commandSignal s.interlocking signal a
    | setPoint point p =>
      simp only [operate, perform, answer_fst]
      exact holder_commandPoint s.interlocking point p
    | place | removeTrain | mark | jam | lose => rfl
    | _ => cases h
  | _ => cases h

theorem operate_effect_of_not_grabbing (reg : Registry) (s : Session) {op : Operation}
    (h : op.isOutside = false) (hgrabbing : op.isGrabbing = false) :
    Effect reg s.policy Event.isDrive s.interlocking (s.operate reg op).interlocking := by
  by_cases hattempt : op.isGrantAttempt = true
  · exact (operate_attempt reg s hattempt).1.effect
  cases op with
  | begin place => exact .withdrawn (actAt_withdraws reg s place (Drive.begin_withdraws reg))
  | pass place => exact .withdrawn (actAt_withdraws reg s place (Drive.pass_withdraws reg))
  | enlist train route mode => exact .withdrawn (enlistDrive_withdraws reg s train route mode)
  | launchOutside train route mode => exact .refused (.inl rfl)
  | collectTrain train => exact .withdrawn (collect_withdraws reg s _)
  | close => cases hgrabbing
  | disturb track => cases h
  | command c =>
    unfold operate
    cases c with
    | place | removeTrain | mark | setAspect | setPoint | jam | lose => cases h
    | grab | ungrab | shutdown => cases hgrabbing
    | grant | request | directGrant | directRequest => exact absurd rfl hattempt
    | release route =>
      simp only [perform, answer_fst]
      exact .withdrawn (releaseRoute_withdraws s.interlocking reg route)
    | drive train route mode =>
      simp only [perform, answer_fst]
      exact .withdrawn (startDrive_withdraws reg s train route mode)
    | poll => exact .withdrawn (poll_withdraws reg s)
    | listDrives => exact .refused (.inl rfl)
    | await train =>
      exact .withdrawn ((settle_withdraws reg s).trans (collect_withdraws reg _ _))
    | releaseIfHeldBy route train =>
      simp only [perform, answer_fst]
      exact .withdrawn (releaseIfHeldBy_withdraws s.interlocking reg route train)
    | releaseAll =>
      simp only [perform, answer_fst]
      exact .withdrawn (releaseEach_withdraws s.interlocking reg _)
    | setAlgorithm name =>
      simp only [perform, answer_fst]
      unfold setAlgorithm
      cases ConflictPolicy.ofName? name <;> exact .refused (.inl rfl)
    | outsideDrive train route mode =>
      exact .withdrawn
        (passLast_withdraws reg (s.launch (.outside s.outsideCount) train route mode))
    | cancelOutside number => exact .refused (.inl rfl)
    | endOutside number => exact .withdrawn (collect_withdraws reg s _)

theorem operate_withdraws_of_grabbing (reg : Registry) (s : Session) {op : Operation}
    (h : op.isGrabbing = true) :
    Withdraws reg Event.isBookkeeping s.interlocking (s.operate reg op).interlocking := by
  cases op with
  | close => exact close_withdraws reg s
  | command c =>
    unfold operate
    cases c with
    | grab train =>
      simp only [perform, answer_fst]
      exact grabTrain_withdraws reg s train
    | ungrab slot => exact ungrab_withdraws reg s slot
    | shutdown =>
      simp only [perform, answer_fst]
      exact ((settle_withdraws reg s).mono fun _ => Event.isBookkeeping_of_isDrive).trans
        (close_withdraws reg _)
    | _ => cases h
  | _ => cases h

theorem operate_effect (reg : Registry) (s : Session) {op : Operation}
    (h : op.isOutside = false) :
    Effect reg s.policy Event.isBookkeeping s.interlocking
      (s.operate reg op).interlocking := by
  cases hgrabbing : op.isGrabbing with
  | false =>
    exact (operate_effect_of_not_grabbing reg s h hgrabbing).mono
      fun _ => Event.isBookkeeping_of_isDrive
  | true => exact .withdrawn (operate_withdraws_of_grabbing reg s hgrabbing)

end Session

end Signalbox
