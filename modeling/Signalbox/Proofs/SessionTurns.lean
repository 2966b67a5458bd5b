import Signalbox.Proofs.Operation
import Signalbox.Proofs.Traffic

/-!
The turns of a session. Whatever is done in a session is done in turns: one drive is launched, is
cancelled, begins, makes a pass or is taken off the list when it has ended, or the drives stand
still and the route set is granted, released, noted on or reached from outside.
-/
namespace Signalbox

open Interlocking

/-! ### What is recorded -/

namespace Interlocking

variable {reg : Registry} {policy : ConflictPolicy} {il il' : Interlocking}
  {kind : Event → Prop}

theorem Attempt.adds (h : Attempt reg policy il il') (hsignal : ∀ s a, kind (.signal s a))
    (hpoint : ∀ p c, kind (.point p c)) (hroute : ∀ id status, kind (.route id status)) :
    il.Adds kind il' := by
  cases h with
  | @granted train i r hr hadmits =>
    exact adds_commit il reg train i r hsignal hpoint (hroute r.id (.granted train))
  | refused hrefused =>
    rcases hrefused with rfl | ⟨id, status, -, rfl⟩
    · exact .refl _
    · exact adds_record il (hroute id status)

theorem Effect.adds {noted : Event → Bool} (h : Effect reg policy noted il il')
    (hsignal : ∀ s a, kind (.signal s a)) (hpoint : ∀ p c, kind (.point p c))
    (hroute : ∀ id status, kind (.route id status)) (hnoted : ∀ e, noted e = true → kind e) :
    il.Adds kind il' := by
  cases h with
  | refused h =>
    have hattempt : Attempt reg policy il il' := .refused h
    exact hattempt.adds hsignal hpoint hroute
  | @granted train i r hr h =>
    have hattempt : Attempt reg policy il (il.commit reg train i r).1 := .granted hr h
    exact hattempt.adds hsignal hpoint hroute
  | withdrawn h => exact h.adds hsignal (fun id => hroute id .released) hnoted

end Interlocking

theorem Session.adds_operate_of_outside (reg : Registry) (s : Session) {op : Operation}
    {kind : Event → Prop} (h : op.isOutside = true) (hsignal : ∀ s a, kind (.signal s a))
    (hpoint : ∀ p c, kind (.point p c)) (hoccupied : ∀ q value, kind (.occupied q value))
    (hposition : ∀ train segments, kind (.position train segments)) :
    s.interlocking.Adds kind (s.operate reg op).interlocking := by
  cases op with
  | disturb track => exact .of_log_eq rfl
  | command c =>
    cases c with
    | setAspect signal a =>
      simp only [Session.operate, Session.perform, Session.answer_fst]
      exact adds_commandSignal s.interlocking signal a (hsignal signal a)
    | setPoint point p =>
      simp only [Session.operate, Session.perform, Session.answer_fst]
      exact adds_commandPoint s.interlocking point p (hpoint point p)
    | place train segments => exact adds_record _ (hposition train segments)
    | removeTrain train => exact adds_record _ (hposition train [])
    | mark segment value => exact adds_record _ (hoccupied segment value)
    | jam | lose => exact .of_log_eq rfl
    | _ => cases h
  | _ => cases h

/-! ### Turns -/

/-- What one turn does. What the route set may come to while the drives stand still is given. -/
inductive Traffic.Turn (reg : Registry) (may : Interlocking → Interlocking → Prop) :
    Traffic → Traffic → Prop
  | launch (il : Interlocking) (drives : List Drive) (train : TrainId) (route : RouteId)
      (mode : DriveMode) :
      Turn reg may ⟨il, drives⟩ ⟨il, drives ++ [Drive.launch train route mode]⟩
  | cancel (il : Interlocking) (before after : List Drive) (d : Drive) :
      Turn reg may ⟨il, before ++ d :: after⟩ ⟨il, before ++ d.cancel :: after⟩
  | begin (il : Interlocking) (before after : List Drive) (d : Drive) :
      Turn reg may ⟨il, before ++ d :: after⟩
        ⟨(d.begin reg il).2, before ++ (d.begin reg il).1 :: after⟩
  | pass (il : Interlocking) (before after : List Drive) (d : Drive) :
      Turn reg may ⟨il, before ++ d :: after⟩
        ⟨(d.pass reg il).2, before ++ (d.pass reg il).1 :: after⟩
  | drop (il : Interlocking) (before after : List Drive) (d : Drive)
      (finished : d.isFinished = true) :
      Turn reg may ⟨il, before ++ d :: after⟩ ⟨il, before ++ after⟩
  | other {il il' : Interlocking} (drives : List Drive) (h : may il il') :
      Turn reg may ⟨il, drives⟩ ⟨il', drives⟩

abbrev Traffic.Turns (reg : Registry) (may : Interlocking → Interlocking → Prop) :
    Traffic → Traffic → Prop :=
  Relation.ReflTransGen (Turn reg may)

theorem Traffic.Turn.forall_drives {reg : Registry} {may : Interlocking → Interlocking → Prop}
    {t t' : Traffic} {Q : Drive → Prop} (h : Turn reg may t t') (before : ∀ d ∈ t.drives, Q d)
    (launch : ∀ train route mode, Q (Drive.launch train route mode))
    (cancel : ∀ d, Q d → Q d.cancel) (begins : ∀ d, Q d → Q (d.begin reg t.interlocking).1)
    (pass : ∀ d, Q d → Q (d.pass reg t.interlocking).1) :
    ∀ d ∈ t'.drives, Q d := by
  cases h with
  | launch il drives train route mode =>
    exact List.forall_mem_append.mpr ⟨before, by simpa using launch train route mode⟩
  | cancel il earlier later d =>
    rw [List.forall_mem_append, List.forall_mem_cons] at before ⊢
    exact ⟨before.1, cancel d before.2.1, before.2.2⟩
  | begin il earlier later d =>
    rw [List.forall_mem_append, List.forall_mem_cons] at before ⊢
    exact ⟨before.1, begins d before.2.1, before.2.2⟩
  | pass il earlier later d =>
    rw [List.forall_mem_append, List.forall_mem_cons] at before ⊢
    exact ⟨before.1, pass d before.2.1, before.2.2⟩
  | drop il earlier later d =>
    rw [List.forall_mem_append, List.forall_mem_cons] at before
    exact List.forall_mem_append.mpr ⟨before.1, before.2.2⟩
  | other drives h => exact before

theorem Traffic.Turn.sound {reg : Registry} {may : Interlocking → Interlocking → Prop}
    {t t' : Traffic} (h : Turn reg may t t') (before : ∀ d ∈ t.drives, d.Sound reg) :
    ∀ d ∈ t'.drives, d.Sound reg :=
  h.forall_drives before (fun _ _ _ => Drive.sound_launch ..) (fun _ hd => hd.cancel)
    (fun _ hd => hd.begin _) fun _ hd => hd.pass _

theorem Traffic.Turns.adds {reg : Registry} {may : Interlocking → Interlocking → Prop}
    {kind : Event → Prop} {t t' : Traffic} (h : Turns reg may t t')
    (besides : ∀ il il', may il il' → il.Adds kind il') (hsignal : ∀ s a, kind (.signal s a))
    (hreleased : ∀ id, kind (.route id .released)) (hdrive : ∀ e, e.isDrive = true → kind e) :
    t.interlocking.Adds kind t'.interlocking := by
  induction h with
  | refl => exact .refl _
  | tail _ hturn ih =>
    apply ih.trans
    cases hturn with
    | begin il before after d =>
      exact (Drive.begin_withdraws reg d il).adds hsignal hreleased hdrive
    | pass il before after d =>
      exact (Drive.pass_withdraws reg d il).adds hsignal hreleased hdrive
    | launch | cancel | drop => exact .refl _
    | other drives h => exact besides _ _ h

/-- What an operation does to the route set while the drives stand still. -/
inductive Operation.Besides (reg : Registry) (op : Operation) :
    Interlocking → Interlocking → Prop
  | attempt {policy : ConflictPolicy} {il il' : Interlocking} (asked : op.isGrantAttempt = true)
      (h : Attempt reg policy il il') : Besides reg op il il'
  | release (il : Interlocking) (i : RouteIndex) : Besides reg op il (il.release reg i).1
  | grab (il : Interlocking) (train : TrainId) (held : Bool) :
      Besides reg op il (il.record (.grab train held))
  | outside (s : Session) (h : op.isOutside = true) :
      Besides reg op s.interlocking (s.operate reg op).interlocking

theorem Operation.Besides.adds {reg : Registry} {op : Operation} {il il' : Interlocking}
    (h : op.Besides reg il il') : il.Adds (·.isDrive = false) il' := by
  cases h with
  | attempt _ h => exact h.adds (fun _ _ => rfl) (fun _ _ => rfl) (fun _ _ => rfl)
  | release _ i => exact adds_release il reg i (fun _ _ => rfl) (fun _ => rfl)
  | grab _ train held => exact adds_record il rfl
  | outside s h =>
    exact s.adds_operate_of_outside reg h (fun _ _ => rfl) (fun _ _ => rfl) (fun _ _ => rfl)
      fun _ _ => rfl

namespace Session

open Traffic

def traffic (s : Session) : Traffic := ⟨s.interlocking, s.drives.map (·.drive)⟩

section Turns

variable {reg : Registry} {may : Interlocking → Interlocking → Prop}

theorem turns_passEach (entries : List DriveEntry) (il : Interlocking) (before : List Drive) :
    Turns reg may ⟨il, before ++ entries.map (·.drive)⟩
      ⟨(passEach reg entries il).2, before ++ (passEach reg entries il).1.map (·.drive)⟩ := by
  induction entries generalizing il before with
  | nil => exact .refl
  | cons e rest ih =>
    have hnext := ih (e.drive.pass reg il).2 (before ++ [(e.drive.pass reg il).1])
    rw [List.append_assoc, List.append_assoc] at hnext
    exact .head (.pass il before (rest.map DriveEntry.drive) e.drive) hnext

theorem turns_poll (s : Session) : Turns reg may s.traffic (s.poll reg).traffic :=
  turns_passEach s.drives s.interlocking []

theorem turns_settle (s : Session) : Turns reg may s.traffic (s.settle reg).traffic :=
  (turns_poll s).trans (turns_poll _)

theorem turns_cancelEach (il : Interlocking) (picked : DriveEntry → Prop) [DecidablePred picked]
    (entries : List DriveEntry) (before : List Drive) :
    Turns reg may ⟨il, before ++ entries.map (·.drive)⟩ ⟨il, before ++ (entries.map fun e =>
      if picked e then { e with drive := e.drive.cancel } else e).map (·.drive)⟩ := by
  induction entries generalizing before with
  | nil => exact .refl
  | cons e rest ih =>
    rw [List.map_cons, List.map_cons, List.map_cons]
    split
    · have hnext := ih (before ++ [e.drive.cancel])
      rw [List.append_assoc, List.append_assoc] at hnext
      exact .head (.cancel il before (rest.map DriveEntry.drive) e.drive) hnext
    · have hnext := ih (before ++ [e.drive])
      rwa [List.append_assoc, List.append_assoc] at hnext

theorem turns_filter (il : Interlocking) {kept : DriveEntry → Bool}
    (finished : ∀ e, kept e = false → e.drive.isFinished = true) (entries : List DriveEntry)
    (before : List Drive) :
    Turns reg may ⟨il, before ++ entries.map (·.drive)⟩
      ⟨il, before ++ (entries.filter kept).map (·.drive)⟩ := by
  induction entries generalizing before with
  | nil => exact .refl
  | cons e rest ih =>
    cases hkept : kept e with
    | true =>
      have hnext := ih (before ++ [e.drive])
      rw [List.append_assoc, List.append_assoc] at hnext
      rwa [List.filter_cons_of_pos hkept]
    | false =>
      rw [List.filter_cons_of_neg (by simp [hkept])]
      exact .head (.drop il before (rest.map DriveEntry.drive) e.drive (finished e hkept))
        (ih before)

theorem turns_reap (s : Session) : Turns reg may s.traffic s.reap.traffic := by
  refine turns_filter s.interlocking (fun e he => ?_) s.drives []
  rw [Bool.not_eq_false', Bool.and_eq_true] at he
  exact he.2

theorem turns_launch (s : Session) (origin : DriveOrigin) (train : TrainId) (route : RouteId)
    (mode : DriveMode) :
    Turns reg may s.traffic (s.launch origin train route mode).traffic := by
  unfold traffic Session.launch
  rw [List.map_append]
  exact .single (.launch s.interlocking _ train route mode)

theorem turn_actEntry {act : Drive → Interlocking → Drive × Interlocking}
    (hact : ∀ il before after d, Turn reg may ⟨il, before ++ d :: after⟩
      ⟨(act d il).2, before ++ (act d il).1 :: after⟩)
    (il : Interlocking) {entries before after : List DriveEntry} {e : DriveEntry}
    (h : before ++ e :: after = entries) :
    Turn reg may ⟨il, entries.map (·.drive)⟩ ⟨(act e.drive il).2,
      (before ++ { e with drive := (act e.drive il).1 } :: after).map (·.drive)⟩ := by
  rw [← h, List.map_append, List.map_append]
  exact hact il _ _ e.drive

theorem turns_actAt {act : Drive → Interlocking → Drive × Interlocking}
    (hact : ∀ il before after d, Turn reg may ⟨il, before ++ d :: after⟩
      ⟨(act d il).2, before ++ (act d il).1 :: after⟩) (s : Session) (place : Nat) :
    Turns reg may s.traffic (s.actAt place act).traffic := by
  unfold actAt
  cases he : s.drives[place]? with
  | none => exact .refl
  | some e =>
    obtain ⟨hlt, rfl⟩ := List.getElem?_eq_some_iff.mp he
    let acted := { s.drives[place] with drive := (act s.drives[place].drive s.interlocking).1 }
    obtain ⟨before, after, hdrives, -, hset⟩ := @List.exists_of_set _ place acted s.drives hlt
    have hturn : Turn reg may s.traffic ⟨(act s.drives[place].drive s.interlocking).2,
        (before ++ acted :: after).map (·.drive)⟩ :=
      turn_actEntry hact s.interlocking hdrives.symm
    rw [← hset] at hturn
    exact .single hturn

theorem turns_passLast (s : Session) : Turns reg may s.traffic (s.passLast reg).traffic := by
  unfold passLast
  cases he : s.drives.getLast? with
  | none => exact .refl
  | some e =>
    exact .single (turn_actEntry .pass s.interlocking (List.dropLast_append_getLast? e he))

theorem turns_enlistDrive (s : Session) (train : TrainId) (route : RouteId) (mode : DriveMode) :
    Turns reg may s.traffic (s.enlistDrive reg train route mode).1.traffic := by
  unfold enlistDrive
  cases s.requireRunning.bind fun _ => s.requireGrabbed train with
  | error e => exact .refl
  | ok u =>
    dsimp only
    cases indexOf reg route with
    | error e => exact .refl
    | ok i => exact (turns_reap s).trans (turns_launch s.reap .controller train route mode)

theorem turns_startDrive (s : Session) (train : TrainId) (route : RouteId) (mode : DriveMode) :
    Turns reg may s.traffic (s.startDrive reg train route mode).1.traffic := by
  have henlist : Turns reg may s.traffic (s.enlistDrive reg train route mode).1.traffic :=
    turns_enlistDrive s train route mode
  unfold startDrive
  cases h : s.enlistDrive reg train route mode with
  | mk s' result =>
    rw [h] at henlist
    cases result with
    | error e => exact henlist
    | ok u => exact henlist.trans (turns_passLast s')

theorem turns_collectFrom (picked : DriveEntry → Bool) (entries : List DriveEntry)
    (il : Interlocking) (before : List Drive) :
    Turns reg may ⟨il, before ++ entries.map (·.drive)⟩
      ⟨(collectFrom reg picked entries il).2.2,
        before ++ (collectFrom reg picked entries il).1.map (·.drive)⟩ := by
  induction entries generalizing il before with
  | nil => exact .refl
  | cons e rest ih =>
    unfold collectFrom
    split
    · let passed := e.drive.cancel.pass reg il
      have hended : passed.1.isFinished = true := Drive.isFinished_pass_of_cancelled reg il rfl
      exact .head (.cancel il before (rest.map DriveEntry.drive) e.drive)
        (.head (.pass il before _ e.drive.cancel)
          (.head (.drop passed.2 before _ passed.1 hended) (ih passed.2 before)))
    · have hnext := ih il (before ++ [e.drive])
      rwa [List.append_assoc, List.append_assoc] at hnext

theorem turns_collect (s : Session) (picked : DriveEntry → Bool) :
    Turns reg may s.traffic (s.collect reg picked).1.traffic :=
  turns_collectFrom picked s.drives s.interlocking []

end Turns

section Besides

variable {reg : Registry} {op : Operation}

theorem turns_ungrab (s : Session) (slot : Slot) :
    Turns reg (op.Besides reg) s.traffic (s.ungrab slot).1.traffic := by
  unfold ungrab
  cases s.grabs.release slot with
  | mk grabs train =>
    cases train with
    | none => exact .refl
    | some t =>
      exact (turns_cancelEach s.interlocking _ s.drives []).tail (.other _ (.grab _ t false))

theorem turns_ungrabEach (s : Session) (slots : List Slot) :
    Turns reg (op.Besides reg) s.traffic (s.ungrabEach slots).traffic := by
  induction slots generalizing s with
  | nil => exact .refl
  | cons slot rest ih => exact (turns_ungrab s slot).trans (ih _)

theorem turns_releaseEach (il : Interlocking) (places : List RouteIndex) (drives : List Drive) :
    Turns reg (op.Besides reg) ⟨il, drives⟩ ⟨(il.releaseEach reg places).1, drives⟩ := by
  induction places generalizing il with
  | nil => exact .refl
  | cons i rest ih => exact .head (.other drives (.release il i)) (ih _)

theorem turns_close (s : Session) :
    Turns reg (op.Besides reg) s.traffic (s.close reg).1.traffic := by
  let ended := (collect { s with running := false } reg (·.isListed)).1
  have hended : Turns reg (op.Besides reg) s.traffic ended.traffic :=
    turns_collect { s with running := false } _
  have hreleased : Turns reg (op.Besides reg) ended.traffic
      (ended.interlock (·.releaseAll reg)).1.traffic :=
    turns_releaseEach ended.interlocking _ _
  exact (hended.trans hreleased).trans (turns_ungrabEach _ _)

theorem turns_grabTrain (s : Session) (train : TrainId) :
    Turns reg (op.Besides reg) s.traffic (s.grabTrain train).1.traffic := by
  unfold grabTrain
  cases s.requireRunning with
  | error e => exact .refl
  | ok u =>
    dsimp only
    cases s.grabs.grab train with
    | mk grabs result =>
      cases result with
      | error e => exact .refl
      | ok slot => exact .single (.other _ (.grab _ train true))

theorem turns_releaseRoute (il : Interlocking) (route : RouteId) (drives : List Drive) :
    Turns reg (op.Besides reg) ⟨il, drives⟩ ⟨(il.releaseRoute reg route).1, drives⟩ := by
  unfold Interlocking.releaseRoute
  cases indexOf reg route with
  | error e => exact .refl
  | ok i => exact .single (.other _ (.release _ i))

theorem turns_releaseIfHeldBy (il : Interlocking) (route : RouteId) (train : TrainId)
    (drives : List Drive) :
    Turns reg (op.Besides reg) ⟨il, drives⟩ ⟨(il.releaseIfHeldBy reg route train).1, drives⟩ := by
  unfold releaseIfHeldBy
  cases indexOf reg route with
  | error e => exact .refl
  | ok i =>
    dsimp only
    split
    · exact .single (.other _ (.release _ i))
    · exact .refl

theorem turns_operate_of_attempt (reg : Registry) (s : Session) (h : op.isGrantAttempt = true) :
    Turns reg (op.Besides reg) s.traffic (s.operate reg op).traffic := by
  have hdrives : (s.operate reg op).drives = s.drives := by
    cases op with
    | command c =>
      cases c with
      | grant train route =>
        simp only [operate, perform, answer_fst, grantRoute]
        cases s.requireRunning <;> rfl
      | request r =>
        simp only [operate, perform, answer_fst, requestRoute]
        cases s.requireRunning.bind fun _ => s.requireGrabbed r.train <;> rfl
      | directGrant | directRequest =>
        simp only [operate, perform, answer_fst]
        rfl
      | _ => cases h
    | _ => cases h
  unfold traffic
  rw [hdrives]
  exact .single (.other _ (.attempt h (operate_attempt reg s h).1))

theorem turns_operate_of_outside (reg : Registry) (s : Session) (h : op.isOutside = true) :
    Turns reg (op.Besides reg) s.traffic (s.operate reg op).traffic := by
  have hdrives : (s.operate reg op).drives = s.drives := by
    cases op with
    | disturb track => rfl
    | command c =>
      cases c with
      | place | removeTrain | mark | jam | lose => rfl
      | setAspect | setPoint =>
        simp only [operate, perform, answer_fst]
        rfl
      | _ => cases h
    | _ => cases h
  unfold traffic
  rw [hdrives]
  exact .single (.other _ (.outside s h))

/-- Whatever an operation does is done in turns. -/
theorem turns_operate (reg : Registry) (s : Session) (op : Operation) :
    Turns reg (op.Besides reg) s.traffic (s.operate reg op).traffic := by
  cases op with
  | begin place => exact turns_actAt .begin s place
  | pass place => exact turns_actAt .pass s place
  | enlist train route mode => exact turns_enlistDrive s train route mode
  | launchOutside train route mode =>
    exact turns_launch s (.outside s.outsideCount) train route mode
  | collectTrain train => exact turns_collect s _
  | close => exact turns_close s
  | disturb track => exact turns_operate_of_outside reg s rfl
  | command c =>
    cases c with
    | place | removeTrain | mark | setAspect | setPoint | jam | lose =>
      exact turns_operate_of_outside reg s rfl
    | grant | request | directGrant | directRequest => exact turns_operate_of_attempt reg s rfl
    | grab train =>
      simp only [operate, perform, answer_fst]
      exact turns_grabTrain s train
    | ungrab slot => exact turns_ungrab s slot
    | drive train route mode =>
      simp only [operate, perform, answer_fst]
      exact turns_startDrive s train route mode
    | poll => exact turns_poll s
    | listDrives => exact turns_reap s
    | await train => exact (turns_settle s).trans (turns_collect _ _)
    | shutdown =>
      simp only [operate, perform, answer_fst]
      exact (turns_settle s).trans (turns_close _)
    | release route =>
      simp only [operate, perform, answer_fst]
      exact turns_releaseRoute s.interlocking route _
    | releaseIfHeldBy route train =>
      simp only [operate, perform, answer_fst]
      exact turns_releaseIfHeldBy s.interlocking route train _
    | releaseAll =>
      simp only [operate, perform, answer_fst]
      exact turns_releaseEach s.interlocking _ _
    | setAlgorithm name =>
      simp only [operate, perform, answer_fst, setAlgorithm]
      cases ConflictPolicy.ofName? name <;> exact .refl
    | outsideDrive train route mode =>
      exact (turns_launch s (.outside s.outsideCount) train route mode).trans (turns_passLast _)
    | cancelOutside number => exact turns_cancelEach s.interlocking _ s.drives []
    | endOutside number => exact turns_collect s _

end Besides

/-- What every turn keeps, a run keeps. -/
theorem Reachable.of_turns {reg : Registry} {allowed : Operation → Prop} {P : Traffic → Prop}
    (initial : P ⟨.initial reg.topology, []⟩)
    (turn : ∀ op t t', allowed op → Turn reg (op.Besides reg) t t' → P t → P t')
    {s : Session} (h : Reachable reg allowed s) : P s.traffic := by
  induction h with
  | start hstart =>
    unfold traffic
    rw [interlocking_of_start hstart, drives_of_start hstart]
    exact initial
  | @step s op _ hallowed ih =>
    have hturns := turns_operate reg s op
    generalize (s.operate reg op).traffic = t' at hturns
    induction hturns with
    | refl => exact ih
    | tail _ hturn hbefore => exact turn op _ _ hallowed hturn hbefore

theorem Reachable.sound {reg : Registry} {allowed : Operation → Prop} {s : Session}
    (h : Reachable reg allowed s) {e : DriveEntry} (he : e ∈ s.drives) : e.drive.Sound reg := by
  have hsound : ∀ d ∈ s.traffic.drives, d.Sound reg := by
    refine h.of_turns (P := fun t => ∀ d ∈ t.drives, d.Sound reg) (by simp) ?_
    exact fun _ _ _ _ hturn => hturn.sound
  exact hsound _ (List.mem_map_of_mem he)

end Session

end Signalbox
