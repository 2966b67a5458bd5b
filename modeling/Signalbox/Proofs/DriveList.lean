import Signalbox.Proofs.CancelledDrives
import Signalbox.Proofs.Lists

/-!
The list of drives. A drive of the controller stays on the list until it is found finished or its
outcome is collected, and its place can be followed through all operations.
-/
namespace Signalbox

namespace DriveEntry

/-- The same entry later on. -/
structure Moved (reg : Registry) (e e' : DriveEntry) : Prop where
  origin : e'.origin = e.origin
  drive : e.drive.Moves reg e'.drive

section Moved

variable {reg : Registry} {e e' e'' : DriveEntry}

theorem Moved.refl (e : DriveEntry) : e.Moved reg e := ⟨rfl, .refl⟩

theorem Moved.trans (h : e.Moved reg e') (h' : e'.Moved reg e'') : e.Moved reg e'' :=
  ⟨h'.origin.trans h.origin, h.drive.trans h'.drive⟩

theorem moved_begin (e : DriveEntry) (il : Interlocking) :
    e.Moved reg { e with drive := (e.drive.begin reg il).1 } :=
  ⟨rfl, .single (.begin e.drive il)⟩

theorem moved_pass (e : DriveEntry) (il : Interlocking) :
    e.Moved reg { e with drive := (e.drive.pass reg il).1 } :=
  ⟨rfl, .single (.pass e.drive il)⟩

theorem moved_cancel (e : DriveEntry) : e.Moved reg { e with drive := e.drive.cancel } :=
  ⟨rfl, .single (.cancel e.drive)⟩

theorem Moved.isListed_eq (h : e.Moved reg e') : e'.isListed = e.isListed := by
  rw [isListed, isListed, h.origin]

theorem Moved.isListedFor_eq (h : e.Moved reg e') (train : TrainId) :
    e'.isListedFor train = e.isListedFor train := by
  rw [isListedFor, isListedFor, h.isListed_eq, h.drive.same.1]

end Moved

/-! ### What is left of a list -/

/-- The entries that are not taken off are on the new list in the same order, and after them those
that have been launched. -/
def Keeps (reg : Registry) (off : DriveEntry → Bool) (launched entries entries' : List DriveEntry) :
    Prop :=
  List.Forall₂ (Moved reg) (entries.filter (!off ·) ++ launched) entries'

section Keeps

variable {reg : Registry} {off : DriveEntry → Bool}
  {launched entries entries' entries'' : List DriveEntry}

theorem forall₂_moved_refl (entries : List DriveEntry) :
    List.Forall₂ (Moved reg) entries entries :=
  List.forall₂_same.mpr fun e _ => .refl e

theorem forall₂_moved_trans (h : List.Forall₂ (Moved reg) entries entries')
    (h' : List.Forall₂ (Moved reg) entries' entries'') :
    List.Forall₂ (Moved reg) entries entries'' :=
  forall₂_trans (fun _ _ _ first second => first.trans second) h h'

theorem listed_of_moved (h : List.Forall₂ (Moved reg) entries entries')
    (listed : ∀ e ∈ entries, e.isListed = true) : ∀ e ∈ entries', e.isListed = true := by
  induction h with
  | nil => exact listed
  | cons hhead _ ih =>
    rw [List.forall_mem_cons] at listed ⊢
    exact ⟨hhead.isListed_eq.trans listed.1, ih listed.2⟩

theorem keeps_filter (off : DriveEntry → Bool) (entries : List DriveEntry) :
    Keeps reg off [] entries (entries.filter (!off ·)) := by
  unfold Keeps
  rw [List.append_nil]
  exact forall₂_moved_refl _

theorem keeps_of_moved (h : List.Forall₂ (Moved reg) entries entries') :
    Keeps reg (fun _ => false) [] entries entries' := by
  simpa [Keeps] using h

theorem Keeps.append (h : Keeps reg off [] entries entries') (launched : List DriveEntry) :
    Keeps reg off launched entries (entries' ++ launched) := by
  unfold Keeps at h ⊢
  rw [List.append_nil] at h
  exact List.rel_append h (forall₂_moved_refl launched)

theorem Keeps.then_moved (h : Keeps reg off launched entries entries')
    (h' : List.Forall₂ (Moved reg) entries' entries'') : Keeps reg off launched entries entries'' :=
  forall₂_moved_trans h h'

theorem filter_moved {p : DriveEntry → Bool} (same : ∀ e e', e.Moved reg e' → p e' = p e)
    (h : List.Forall₂ (Moved reg) entries entries') :
    List.Forall₂ (Moved reg) (entries.filter p) (entries'.filter p) := by
  induction h with
  | nil => exact .nil
  | @cons e e' _ _ hhead _ ih =>
    have hsame := same e e' hhead
    cases hp : p e with
    | false =>
      rw [List.filter_cons_of_neg (by simp [hp]), List.filter_cons_of_neg (by simp [hsame, hp])]
      exact ih
    | true =>
      rw [List.filter_cons_of_pos (by simp [hp]), List.filter_cons_of_pos (by simp [hsame, hp])]
      exact .cons hhead ih

theorem Keeps.after_moved (h : List.Forall₂ (Moved reg) entries entries')
    (same : ∀ e e', e.Moved reg e' → off e' = off e)
    (h' : Keeps reg off launched entries' entries'') :
    Keeps reg off launched entries entries'' := by
  have hkept := filter_moved (p := (!off ·)) (fun e e' h => by rw [same e e' h]) h
  exact forall₂_moved_trans (List.rel_append hkept (forall₂_moved_refl launched)) h'

/-- An entry that is not taken off moves up by as many places as entries before it are. -/
theorem Keeps.getElem? (h : Keeps reg off launched entries entries') {place : Nat} {e : DriveEntry}
    (he : entries[place]? = some e) (kept : off e = false) :
    ∃ e', entries'[(entries.take place).countP (!off ·)]? = some e' ∧ e.Moved reg e' := by
  have hplace := getElem?_filter (p := (!off ·)) he (by rw [kept]; rfl)
  obtain ⟨hlt, hfiltered⟩ := List.getElem?_eq_some_iff.mp hplace
  obtain ⟨hlength, hmoved⟩ := List.forall₂_iff_get.mp h
  have hlt' : (entries.take place).countP (!off ·) <
      (entries.filter (!off ·) ++ launched).length := by
    rw [List.length_append]
    exact Nat.lt_add_right _ hlt
  have hget := hmoved _ hlt' (hlength ▸ hlt')
  rw [List.get_eq_getElem, List.get_eq_getElem, List.getElem_append_left hlt, hfiltered] at hget
  exact ⟨_, List.getElem?_eq_getElem (hlength ▸ hlt'), hget⟩

theorem Keeps.listed (h : Keeps reg off launched entries entries')
    (listed : ∀ e ∈ entries, e.isListed = true) (listed' : ∀ e ∈ launched, e.isListed = true) :
    ∀ e ∈ entries', e.isListed = true :=
  listed_of_moved h <|
    List.forall_mem_append.mpr ⟨fun e he => listed e (List.mem_of_mem_filter he), listed'⟩

end Keeps

end DriveEntry

/-- Whether an operation takes the controller's drives of a train off the list to end them. -/
def Operation.collects (train : TrainId) : Operation → Bool
  | .command (.await other) | .collectTrain other => train == other
  | .command .shutdown | .close => true
  | _ => false

/-- Whether an operation starts a drive that is not the controller's. -/
def Operation.startsOutside : Operation → Bool
  | .launchOutside .. | .command (.outsideDrive ..) => true
  | _ => false

namespace Session

open DriveEntry

def takesOff (reg : Registry) (s : Session) : Operation → DriveEntry → Bool
  | .command .listDrives, e => e.isListed && e.drive.isFinished
  | .enlist train route mode, e | .command (.drive train route mode), e =>
    (s.enlistDrive reg train route mode).2.isOk && (e.isListed && e.drive.isFinished)
  | .command (.endOutside number), e => e.origin == .outside number
  | .command (.await train), e | .collectTrain train, e => e.isListedFor train
  | .command .shutdown, e | .close, e => e.isListed
  | _, _ => false

def launchedBy (reg : Registry) (s : Session) : Operation → List DriveEntry
  | .enlist train route mode | .command (.drive train route mode) =>
    if (s.enlistDrive reg train route mode).2.isOk then
      [⟨.controller, .launch train route mode⟩]
    else []
  | .launchOutside train route mode | .command (.outsideDrive train route mode) =>
    [⟨.outside s.outsideCount, .launch train route mode⟩]
  | _ => []

theorem listed_launchedBy (reg : Registry) (s : Session) {op : Operation}
    (h : op.startsOutside = false) : ∀ e ∈ s.launchedBy reg op, e.isListed = true := by
  have hlisted (d : Drive) (started : Bool) :
      ∀ e ∈ (if started then [⟨.controller, d⟩] else [] : List DriveEntry), e.isListed = true := by
    cases started <;> simp [isListed]
  cases op with
  | enlist train route mode => exact hlisted _ _
  | launchOutside => cases h
  | command c =>
    cases c with
    | drive train route mode => exact hlisted _ _
    | outsideDrive => cases h
    | _ => simp [launchedBy]
  | _ => simp [launchedBy]

/-- The place at which a drive is found after an operation, unless it is taken off the list. -/
def placeAfter (reg : Registry) (s : Session) (op : Operation) (place : Nat) : Option Nat :=
  match s.drives[place]? with
  | none => none
  | some e =>
    if s.takesOff reg op e then none
    else some ((s.drives.take place).countP (!s.takesOff reg op ·))

def placeThrough (reg : Registry) (s : Session) : List Operation → Nat → Option Nat
  | [], place => some place
  | op :: rest, place =>
    (s.placeAfter reg op place).bind ((s.operate reg op).placeThrough reg rest)

section Operations

variable (reg : Registry) (s : Session)

theorem passEach_moved (entries : List DriveEntry) (il : Interlocking) :
    List.Forall₂ (Moved reg) entries (passEach reg entries il).1 := by
  induction entries generalizing il with
  | nil => exact .nil
  | cons e rest ih => exact .cons (moved_pass e il) (ih _)

theorem settle_moved : List.Forall₂ (Moved reg) s.drives (s.settle reg).drives :=
  forall₂_moved_trans (passEach_moved reg s.drives s.interlocking)
    (passEach_moved reg (s.poll reg).drives _)

theorem cancelEach_moved (picked : DriveEntry → Prop) [DecidablePred picked]
    (entries : List DriveEntry) :
    List.Forall₂ (Moved reg) entries (entries.map fun e =>
      if picked e then { e with drive := e.drive.cancel } else e) := by
  rw [List.forall₂_map_right_iff, List.forall₂_same]
  intro e _
  split
  · exact moved_cancel e
  · exact .refl e

theorem ungrab_moved (slot : Slot) :
    List.Forall₂ (Moved reg) s.drives (s.ungrab slot).1.drives := by
  unfold ungrab
  cases s.grabs.release slot with
  | mk grabs train =>
    cases train with
    | none => exact forall₂_moved_refl _
    | some t => exact cancelEach_moved reg _ s.drives

theorem actAt_moved {act : Drive → Interlocking → Drive × Interlocking}
    (hact : ∀ (e : DriveEntry) il, e.Moved reg { e with drive := (act e.drive il).1 })
    (place : Nat) : List.Forall₂ (Moved reg) s.drives (s.actAt place act).drives := by
  unfold actAt
  cases he : s.drives[place]? with
  | none => exact forall₂_moved_refl _
  | some e =>
    dsimp only
    rw [List.forall₂_iff_get]
    refine ⟨by simp, fun i hi hi' => ?_⟩
    rw [List.get_eq_getElem, List.get_eq_getElem, List.getElem_set]
    split
    · rename_i hplace
      subst hplace
      obtain ⟨-, rfl⟩ := List.getElem?_eq_some_iff.mp he
      exact hact _ _
    · exact .refl _

theorem passLast_moved : List.Forall₂ (Moved reg) s.drives (s.passLast reg).drives := by
  unfold passLast
  cases he : s.drives.getLast? with
  | none => exact forall₂_moved_refl _
  | some e =>
    have hsplit := List.dropLast_append_getLast? e he
    conv_lhs => rw [← hsplit]
    exact List.rel_append (forall₂_moved_refl _) (.cons (moved_pass e s.interlocking) .nil)

theorem collect_keeps (picked : DriveEntry → Bool) :
    Keeps reg picked [] s.drives (s.collect reg picked).1.drives := by
  have hleft : (s.collect reg picked).1.drives = s.drives.filter (!picked ·) :=
    (collectFrom_eq reg picked s.drives s.interlocking).1
  rw [hleft]
  exact keeps_filter picked s.drives

theorem enlistDrive_keeps (train : TrainId) (route : RouteId) (mode : DriveMode) :
    Keeps reg (s.takesOff reg (.enlist train route mode))
      (s.launchedBy reg (.enlist train route mode)) s.drives
      (s.enlistDrive reg train route mode).1.drives := by
  have hoff : s.takesOff reg (.enlist train route mode) = fun e =>
      (s.enlistDrive reg train route mode).2.isOk && (e.isListed && e.drive.isFinished) := rfl
  rw [hoff, launchedBy]
  unfold enlistDrive
  cases s.requireRunning.bind fun _ => s.requireGrabbed train with
  | error e => exact keeps_of_moved (forall₂_moved_refl _)
  | ok u =>
    dsimp only
    cases Interlocking.indexOf reg route with
    | error e => exact keeps_of_moved (forall₂_moved_refl _)
    | ok i => exact (keeps_filter _ s.drives).append _

theorem startDrive_keeps (train : TrainId) (route : RouteId) (mode : DriveMode) :
    Keeps reg (s.takesOff reg (.enlist train route mode))
      (s.launchedBy reg (.enlist train route mode)) s.drives
      (s.startDrive reg train route mode).1.drives := by
  have henlist := enlistDrive_keeps reg s train route mode
  unfold startDrive
  cases h : s.enlistDrive reg train route mode with
  | mk s' result =>
    rw [h] at henlist
    cases result with
    | error e => exact henlist
    | ok u => exact henlist.then_moved (passLast_moved reg s')

theorem operate_keeps (op : Operation) :
    Keeps reg (s.takesOff reg op) (s.launchedBy reg op) s.drives (s.operate reg op).drives := by
  have hsame : Keeps reg (fun _ => false) [] s.drives s.drives :=
    keeps_of_moved (forall₂_moved_refl s.drives)
  cases op with
  | begin place => exact keeps_of_moved (actAt_moved reg s moved_begin place)
  | pass place => exact keeps_of_moved (actAt_moved reg s moved_pass place)
  | enlist train route mode => exact enlistDrive_keeps reg s train route mode
  | launchOutside train route mode => exact hsame.append _
  | collectTrain train => exact collect_keeps reg s _
  | close =>
    rw [operate, close_drives]
    exact keeps_filter _ s.drives
  | disturb track => exact hsame
  | command c =>
    cases c with
    | ungrab slot => exact keeps_of_moved (ungrab_moved reg s slot)
    | poll => exact keeps_of_moved (passEach_moved reg s.drives s.interlocking)
    | listDrives => exact keeps_filter _ s.drives
    | await train =>
      exact (collect_keeps reg (s.settle reg) _).after_moved (settle_moved reg s)
        fun e e' h => h.isListedFor_eq train
    | cancelOutside number => exact keeps_of_moved (cancelEach_moved reg _ s.drives)
    | endOutside number => exact collect_keeps reg s _
    | outsideDrive train route mode =>
      exact (hsame.append _).then_moved
        (passLast_moved reg (s.launch (.outside s.outsideCount) train route mode))
    | drive train route mode =>
      simp only [operate, perform, answer_fst]
      exact startDrive_keeps reg s train route mode
    | shutdown =>
      simp only [operate, perform, answer_fst, shutdown]
      rw [close_drives]
      exact (keeps_filter _ _).after_moved (settle_moved reg s) fun e e' h => h.isListed_eq
    | grab train =>
      simp only [operate, perform, answer_fst, grabTrain]
      cases s.requireRunning with
      | error e => exact hsame
      | ok u =>
        dsimp only
        cases s.grabs.grab train with
        | mk grabs result => cases result <;> exact hsame
    | grant train route =>
      simp only [operate, perform, answer_fst, grantRoute]
      cases s.requireRunning <;> exact hsame
    | request r =>
      simp only [operate, perform, answer_fst, requestRoute]
      cases s.requireRunning.bind fun _ => s.requireGrabbed r.train <;> exact hsame
    | setAlgorithm name =>
      simp only [operate, perform, answer_fst, setAlgorithm]
      cases ConflictPolicy.ofName? name <;> exact hsame
    | setAspect | setPoint | release | directGrant | directRequest | releaseIfHeldBy
    | releaseAll =>
      simp only [operate, perform, answer_fst]
      exact hsame
    | place | removeTrain | mark | jam | lose => exact hsame

end Operations

/-! ### Following a drive -/

section Following

variable {reg : Registry} {s : Session} {place place' : Nat} {e : DriveEntry}

theorem placeAfter_of_kept {op : Operation} (he : s.drives[place]? = some e)
    (kept : s.takesOff reg op e = false) :
    s.placeAfter reg op place =
      some ((s.drives.take place).countP (!s.takesOff reg op ·)) := by
  simp [placeAfter, he, kept]

theorem placeAfter_of_takenOff {op : Operation} (he : s.drives[place]? = some e)
    (off : s.takesOff reg op e = true) : s.placeAfter reg op place = none := by
  simp [placeAfter, he, off]

theorem moved_of_placeThrough {operations : List Operation} (he : s.drives[place]? = some e)
    (h : s.placeThrough reg operations place = some place') :
    ∃ e', (s.operateAll reg operations).drives[place']? = some e' ∧ e.Moved reg e' := by
  induction operations generalizing s place e with
  | nil =>
    cases h
    exact ⟨e, he, .refl e⟩
  | cons op rest ih =>
    cases hoff : s.takesOff reg op e with
    | true =>
      rw [placeThrough, placeAfter_of_takenOff he hoff] at h
      cases h
    | false =>
      obtain ⟨e₁, he₁, hmoved⟩ := (operate_keeps reg s op).getElem? he hoff
      rw [placeThrough, placeAfter_of_kept he hoff] at h
      obtain ⟨e', he', hmoved'⟩ := ih he₁ h
      exact ⟨e', he', hmoved.trans hmoved'⟩

theorem exists_takenOff {operations : List Operation} (he : s.drives[place]? = some e)
    (h : s.placeThrough reg operations place = none) :
    ∃ earlier op later place' e', operations = earlier ++ op :: later ∧
      s.placeThrough reg earlier place = some place' ∧
      (s.operateAll reg earlier).drives[place']? = some e' ∧ e.Moved reg e' ∧
      (s.operateAll reg earlier).takesOff reg op e' = true := by
  induction operations generalizing s place e with
  | nil => cases h
  | cons op rest ih =>
    cases hoff : s.takesOff reg op e with
    | true => exact ⟨[], op, rest, place, e, rfl, rfl, he, .refl e, hoff⟩
    | false =>
      have hplace := placeAfter_of_kept he hoff
      obtain ⟨e₁, he₁, hmoved⟩ := (operate_keeps reg s op).getElem? he hoff
      rw [placeThrough, hplace] at h
      obtain ⟨earlier, last, later, place', e', rfl, hthrough, he', hmoved', htaken⟩ := ih he₁ h
      refine ⟨op :: earlier, last, later, place', e', rfl, ?_, he', hmoved.trans hmoved', htaken⟩
      rw [placeThrough, hplace]
      exact hthrough

theorem finished_or_collected {op : Operation} (listed : e.isListed = true)
    (h : s.takesOff reg op e = true) :
    e.drive.isFinished = true ∨ op.collects e.drive.train = true := by
  cases op with
  | enlist | collectTrain | close =>
    simp_all [takesOff, Operation.collects, isListedFor]
  | command c =>
    cases c with
    | drive | listDrives | await | shutdown =>
      simp_all [takesOff, Operation.collects, isListedFor]
    | endOutside number =>
      simp only [isListed, decide_eq_true_eq] at listed
      simp [takesOff, listed] at h
    | _ => cases h
  | _ => cases h

theorem ungrab_eq_some {slot : Slot} {train : TrainId} {s' : Session}
    (h : s.ungrab slot = (s', some train)) (he : s.drives[place]? = some e)
    (listed : e.isListedFor train = true) :
    s'.drives[place]? = some { e with drive := e.drive.cancel } := by
  unfold ungrab at h
  cases hrelease : s.grabs.release slot with
  | mk grabs released =>
    rw [hrelease] at h
    cases released with
    | none => cases h
    | some t =>
      cases h
      change (s.drives.map _)[place]? = _
      rw [List.getElem?_map, he, Option.map_some, if_pos listed]

end Following

end Session

end Signalbox
