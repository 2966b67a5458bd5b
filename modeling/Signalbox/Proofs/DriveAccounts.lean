import Signalbox.Proofs.DriveList

/-!
An account of the drives that the controller starts. Each of them is entered when it is started,
and its entry tells whether it is still on the list or for which reason it has been joined. The
entries that are still listed are the controller's list, in the order in which they were started.
-/
namespace Signalbox

/-- Why the controller joins a drive. -/
inductive JoinReason where
  /-- it was found finished -/
  | reaped
  /-- the drives of its train were awaited -/
  | awaited
  | closed
deriving DecidableEq, Repr

namespace Operation

def reaps : Operation → Bool
  | .command .listDrives | .command (.drive ..) | .enlist .. => true
  | _ => false

def awaits (train : TrainId) : Operation → Bool
  | .command (.await other) | .collectTrain other => train == other
  | _ => false

def closes : Operation → Bool
  | .command .shutdown | .close => true
  | _ => false

end Operation

/-- What has become of a drive that the controller has started. -/
inductive Standing where
  | listed (drive : Drive)
  | joined (reason : JoinReason)
deriving DecidableEq, Repr

namespace Standing

def drive? : Standing → Option Drive
  | .listed d => some d
  | .joined _ => none

/-- What an operation can make of it. A drive that has been joined is never joined again. -/
inductive Next (reg : Registry) (op : Operation) : Standing → Standing → Prop
  | stays {d d' : Drive} (h : d.Moves reg d') : Next reg op (.listed d) (.listed d')
  | reaped {d : Drive} (h : op.reaps = true) (finished : d.isFinished = true) :
    Next reg op (.listed d) (.joined .reaped)
  | awaited {d : Drive} (h : op.awaits d.train = true) :
    Next reg op (.listed d) (.joined .awaited)
  | closed {d : Drive} (h : op.closes = true) : Next reg op (.listed d) (.joined .closed)
  | remains (reason : JoinReason) : Next reg op (.joined reason) (.joined reason)

theorem exists_next {reg : Registry} {op : Operation} {book : List Standing}
    {entries entries' : List DriveEntry} {off : DriveEntry → Bool}
    (lists : book.filterMap drive? = entries.map (·.drive))
    (joins : ∀ e ∈ entries, off e = true → ∃ reason, Next reg op (.listed e.drive) (.joined reason))
    (moved : List.Forall₂ (DriveEntry.Moved reg) (entries.filter (!off ·)) entries') :
    ∃ book', List.Forall₂ (Next reg op) book book' ∧
      book'.filterMap drive? = entries'.map (·.drive) := by
  induction book generalizing entries entries' with
  | nil =>
    obtain rfl : entries = [] := by simpa using lists.symm
    cases moved
    exact ⟨[], .nil, rfl⟩
  | cons standing rest ih =>
    cases standing with
    | joined reason =>
      obtain ⟨book', hnext, hlists⟩ := ih lists joins moved
      exact ⟨.joined reason :: book', .cons (.remains reason) hnext, hlists⟩
    | listed d =>
      cases entries with
      | nil => cases lists
      | cons e entries =>
        obtain ⟨rfl, hrest⟩ : d = e.drive ∧ rest.filterMap drive? = entries.map (·.drive) :=
          List.cons.inj lists
        have hjoins := fun e' he' => joins e' (List.mem_cons_of_mem e he')
        cases hoff : off e with
        | true =>
          rw [List.filter_cons_of_neg (by simp [hoff])] at moved
          obtain ⟨reason, hreason⟩ := joins e List.mem_cons_self hoff
          obtain ⟨book', hnext, hlists⟩ := ih hrest hjoins moved
          exact ⟨.joined reason :: book', .cons hreason hnext, hlists⟩
        | false =>
          rw [List.filter_cons_of_pos (by simp [hoff])] at moved
          cases moved with
          | @cons _ e' _ entries' hhead htail =>
            obtain ⟨book', hnext, hlists⟩ := ih hrest hjoins htail
            refine ⟨.listed e'.drive :: book', .cons (.stays hhead.drive) hnext, ?_⟩
            rw [List.map_cons, ← hlists]
            rfl

end Standing

namespace Session

open DriveEntry

/-- The drives on the controller's list. -/
def listedDrives (s : Session) : List Drive := (s.drives.filter (·.isListed)).map (·.drive)

/-- The entries of the drives that an operation puts on the controller's list. -/
def entersOf (reg : Registry) (s : Session) (op : Operation) : List Standing :=
  ((s.launchedBy reg op).filter (·.isListed)).map fun e => .listed e.drive

/-- The book after a run: one entry for each drive that the controller has started, in starting
order. The entries that are still listed make up the controller's list at all times. -/
inductive Books (reg : Registry) (s₀ : Session) : List Operation → List Standing → Prop
  | start : Books reg s₀ [] []
  | step {operations : List Operation} {op : Operation} {book book' : List Standing}
    (before : Books reg s₀ operations book)
    (fates : List.Forall₂ (Standing.Next reg op)
      (book ++ (s₀.operateAll reg operations).entersOf reg op) book')
    (lists : book'.filterMap Standing.drive? =
      (s₀.operateAll reg (operations ++ [op])).listedDrives) :
    Books reg s₀ (operations ++ [op]) book'

variable {reg : Registry} {s : Session}

theorem exists_next_of_takesOff {op : Operation} {e : DriveEntry} (listed : e.isListed = true)
    (h : s.takesOff reg op e = true) :
    ∃ reason, Standing.Next reg op (.listed e.drive) (.joined reason) := by
  have hawaited {train : TrainId} (hown : e.isListedFor train = true)
      (hop : op.awaits train = true) :
      Standing.Next reg op (.listed e.drive) (.joined .awaited) := by
    obtain ⟨-, htrain⟩ := Bool.and_eq_true_iff.mp hown
    rw [beq_iff_eq] at htrain
    exact .awaited (htrain ▸ hop)
  have hreaped (hop : op.reaps = true) (hended : (e.isListed && e.drive.isFinished) = true) :
      Standing.Next reg op (.listed e.drive) (.joined .reaped) :=
    .reaped hop (Bool.and_eq_true_iff.mp hended).2
  cases op with
  | enlist => exact ⟨_, hreaped rfl (Bool.and_eq_true_iff.mp h).2⟩
  | collectTrain train => exact ⟨_, hawaited h (beq_self_eq_true train)⟩
  | close => exact ⟨_, .closed rfl⟩
  | command c =>
    cases c with
    | drive => exact ⟨_, hreaped rfl (Bool.and_eq_true_iff.mp h).2⟩
    | listDrives => exact ⟨_, hreaped rfl h⟩
    | await train => exact ⟨_, hawaited h (beq_self_eq_true train)⟩
    | shutdown => exact ⟨_, .closed rfl⟩
    | endOutside number =>
      simp only [isListed, decide_eq_true_eq] at listed
      simp [takesOff, listed] at h
    | _ => cases h
  | _ => cases h

/-- After every operation the book can be brought up to date with the controller's list. -/
theorem exists_next_of_operate {book : List Standing} (op : Operation)
    (lists : book.filterMap Standing.drive? = s.listedDrives) :
    ∃ book', List.Forall₂ (Standing.Next reg op) (book ++ s.entersOf reg op) book' ∧
      book'.filterMap Standing.drive? = (s.operate reg op).listedDrives := by
  let kept := (s.drives.filter (·.isListed)).filter (!s.takesOff reg op ·)
  let launched := (s.launchedBy reg op).filter (·.isListed)
  let after := (s.operate reg op).drives.filter (·.isListed)
  have hmoved : List.Forall₂ (Moved reg) (kept ++ launched) after := by
    have hkeeps := filter_moved (fun e e' h => h.isListed_eq) (operate_keeps reg s op)
    rwa [List.filter_append, List.filter_comm] at hkeeps
  have hkept := List.forall₂_take kept.length hmoved
  have hlaunched := List.forall₂_drop kept.length hmoved
  rw [List.take_left] at hkept
  rw [List.drop_left] at hlaunched
  obtain ⟨book₁, hnext₁, hlists₁⟩ := Standing.exists_next lists
    (fun e he hoff => exists_next_of_takesOff (by simpa using (List.mem_filter.mp he).2) hoff) hkept
  have hentered : (s.entersOf reg op).filterMap Standing.drive? = launched.map (·.drive) := by
    simp [entersOf, launched, Standing.drive?, List.filterMap_map, Function.comp_def]
  have hstay : List.Forall₂ (Moved reg) (launched.filter fun _ => !false)
      (after.drop kept.length) := by simpa using hlaunched
  obtain ⟨book₂, hnext₂, hlists₂⟩ :=
    @Standing.exists_next reg op _ _ _ (fun _ => false) hentered (fun _ _ => nofun) hstay
  refine ⟨book₁ ++ book₂, List.rel_append hnext₁ hnext₂, ?_⟩
  rw [List.filterMap_append, hlists₁, hlists₂, ← List.map_append, List.take_append_drop]
  rfl

theorem exists_books {config : SessionConfig} {s₀ : Session} (started : start reg config = .ok s₀)
    (operations : List Operation) : ∃ book, Books reg s₀ operations book ∧
      book.filterMap Standing.drive? = (s₀.operateAll reg operations).listedDrives := by
  induction operations using List.reverseRecOn with
  | nil =>
    refine ⟨[], .start, ?_⟩
    simp [listedDrives, operateAll, drives_of_start started]
  | append_singleton operations op ih =>
    obtain ⟨book, hbooks, hlists⟩ := ih
    obtain ⟨book', hnext, hlists'⟩ := exists_next_of_operate op hlists
    have hlast : (s₀.operateAll reg operations).operate reg op =
        s₀.operateAll reg (operations ++ [op]) := (operateAll_append reg s₀ operations [op]).symm
    rw [hlast] at hlists'
    exact ⟨book', .step hbooks hnext hlists', hlists'⟩

end Session

/-! ### Awaiting -/

/-- The drive can end with this outcome: it has ended so, or does on its way from here. -/
def Drive.Ends (reg : Registry) (d : Drive) (o : Outcome) : Prop :=
  ∃ d', d.Moves reg d' ∧ d'.outcome? = some o

theorem Drive.Ends.of_moves {reg : Registry} {d d' : Drive} {o : Outcome} (h : d.Moves reg d')
    (ends : d'.Ends reg o) : d.Ends reg o := by
  obtain ⟨last, hlast, ho⟩ := ends
  exact ⟨last, h.trans hlast, ho⟩

theorem Drive.ends_outcomeOnCancel (reg : Registry) (d : Drive) (il : Interlocking) :
    d.Ends reg (d.outcomeOnCancel reg) :=
  ⟨(d.cancel.pass reg il).1, .tail (.single (.cancel d)) (.pass d.cancel il),
    (endsAs_of_cancelled (d := d.cancel) reg rfl il).2⟩

namespace Session

open DriveEntry

variable (reg : Registry) (s : Session) (train : TrainId)

theorem collectTrain_drives :
    (s.collectTrain reg train).1.drives = s.drives.filter (!·.isListedFor train) :=
  (collectFrom_eq reg (DriveEntry.isListedFor train) s.drives s.interlocking).1

theorem collectTrain_outcomes : List.Forall₂ (fun e o => e.drive.Ends reg o)
    (s.drives.filter (·.isListedFor train)) (s.collectTrain reg train).2 := by
  have houtcomes : (s.collectTrain reg train).2 =
      (s.drives.filter (·.isListedFor train)).map (·.drive.outcomeOnCancel reg) :=
    (collectFrom_eq reg (DriveEntry.isListedFor train) s.drives s.interlocking).2.1
  rw [houtcomes, List.forall₂_map_right_iff, List.forall₂_same]
  exact fun e _ => e.drive.ends_outcomeOnCancel reg s.interlocking

theorem awaitDrives_outcomes : List.Forall₂ (fun e o => e.drive.Ends reg o)
    (s.drives.filter (·.isListedFor train)) (s.awaitDrives reg train).2 := by
  have hown := filter_moved (fun e e' h => h.isListedFor_eq train) (settle_moved reg s)
  exact forall₂_trans (fun _ _ _ h ends => ends.of_moves h.drive) hown
    (collectTrain_outcomes reg (s.settle reg) train)

/-- From the start of a session on, the controller's list holds the drives that it has started and
not joined, in starting order. No drive is joined twice, and none but by reaping when it has
finished, by awaiting its own train, or by the close. Awaiting a train answers the outcome that each
of its listed drives ends with, in starting order. It leaves none of them on the list, and the
drives of all other trains as they are, but for the passes that all drives make in the meantime. -/
theorem drives_accounted_for {config : SessionConfig} {s₀ : Session}
    (started : start reg config = .ok s₀) (operations : List Operation) :
    let s := s₀.operateAll reg operations
    (∃ book, Books reg s₀ operations book ∧
      book.filterMap Standing.drive? = s.listedDrives) ∧
    ∀ train,
      let own := s.drives.filter (·.isListedFor train)
      (List.Forall₂ (fun e o => e.drive.Ends reg o) own (s.collectTrain reg train).2 ∧
        (s.collectTrain reg train).1.drives = s.drives.filter (!·.isListedFor train)) ∧
      List.Forall₂ (fun e o => e.drive.Ends reg o) own (s.awaitDrives reg train).2 ∧
        (s.awaitDrives reg train).1.drives =
          (s.settle reg).drives.filter (!·.isListedFor train) := by
  refine ⟨exists_books started operations, fun train => ⟨⟨?_, ?_⟩, ?_, ?_⟩⟩
  · exact collectTrain_outcomes reg _ train
  · exact collectTrain_drives reg _ train
  · exact awaitDrives_outcomes reg _ train
  · exact collectTrain_drives reg (settle _ reg) train

/-- The drive of the second train has no route and ends in its first pass. Listing the drives reaps
it, and awaiting the first train joins the other one. -/
theorem junction_drives_accounted_for :
    let run := [.command (.grab "T1"), .command (.grab "T2"), .command (.directGrant "T1" "left"),
      .command (.drive "T1" "left" .manual), .command (.drive "T2" "right" .manual),
      .command .listDrives]
    let s := junctionSession.operateAll junctionRoutes run
    (∃ book, Books junctionRoutes junctionSession run book ∧
      book.filterMap Standing.drive? = s.listedDrives) ∧
    s.listedDrives.map (·.train) = ["T1"] ∧ (s.collectTrain junctionRoutes "T1").2.length = 1 := by
  intro run s
  obtain ⟨hbooks, hawaited⟩ := drives_accounted_for junctionRoutes junction_started run
  exact ⟨hbooks, rfl, (hawaited "T1").1.1.length_eq.symm⟩

end Session

end Signalbox
