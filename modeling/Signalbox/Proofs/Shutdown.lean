import Signalbox.Proofs.CancelledDrives
import Signalbox.Proofs.FaultySignals
import Signalbox.Proofs.OpenSignals
import Signalbox.Proofs.TableLoading

/-!
The end of a session. Its drives are ended, all routes are released and all slots are freed, also
when the track refuses some of the commands. The first refusal is reported, and from then on
nothing is granted or started any more.
-/
namespace Signalbox

namespace Interlocking

/-! ### Faults of releases -/

section Release

variable {il il' : Interlocking} {reg : Registry} {i : RouteIndex} {r : Route}

theorem refusal?_eq_none_iff {q : SignalId} : il.refusal? q = none ↔ il.obeys q = true := by
  unfold refusal? obeys
  cases il.track.jammed q <;> cases il.track.aspect q <;> simp

theorem release_snd_of_held (hr : reg.route? i = some r) (held : il.isHeld i = true) :
    (il.release reg i).2 = match r.signals.findSome? il.refusal? with
      | none => .ok true
      | some f => .error (.track f) := by
  have hfaults := commandSignals_snd il (fun _ => .stop) r.signals
  unfold release
  simp only [hr, held, Bool.not_true, Bool.false_eq_true, if_false, hfaults]
  rw [← List.head?_filterMap]
  cases r.signals.filterMap il.refusal? <;> rfl

def firstFault? (reg : Registry) (held : RouteIndex → Bool)
    (faultOf? : SignalId → Option TrackFault) (places : List RouteIndex) : Option TrackFault :=
  places.findSome? fun i =>
    if held i then (reg.route? i).bind fun r => r.signals.findSome? faultOf? else none

theorem firstFault?_congr {held held' : RouteIndex → Bool}
    {faultOf? faultOf?' : SignalId → Option TrackFault} {places : List RouteIndex}
    (hheld : ∀ i ∈ places, held' i = held i)
    (hfault : ∀ i r, reg.route? i = some r → ∀ q ∈ r.signals, faultOf?' q = faultOf? q) :
    firstFault? reg held' faultOf?' places = firstFault? reg held faultOf? places := by
  unfold firstFault?
  rw [← List.head?_filterMap, ← List.head?_filterMap]
  refine congrArg List.head? (List.filterMap_congr fun i hi => ?_)
  rw [hheld i hi]
  cases hr : reg.route? i with
  | none => rfl
  | some r =>
    rw [Option.bind_some, Option.bind_some, ← List.head?_filterMap, ← List.head?_filterMap,
      List.filterMap_congr (hfault i r hr)]

theorem firstFault?_eq_none_iff {held : RouteIndex → Bool}
    {faultOf? : SignalId → Option TrackFault} :
    firstFault? reg held faultOf? (List.range reg.size) = none ↔
      ∀ i r q, reg.route? i = some r → held i = true → q ∈ r.signals → faultOf? q = none := by
  unfold firstFault?
  simp only [List.findSome?_eq_none_iff, List.mem_range]
  constructor
  · intro h i r q hr hheld hq
    have hlt : i < reg.size := (List.getElem?_eq_some_iff.mp hr).1
    have hplace := h i hlt
    rw [if_pos hheld, hr, Option.bind_some, List.findSome?_eq_none_iff] at hplace
    exact hplace q hq
  · intro h i hlt
    split
    · rename_i hheld
      cases hr : reg.route? i with
      | none => rfl
      | some r =>
        rw [Option.bind_some, List.findSome?_eq_none_iff]
        exact fun q hq => h i r q hr hheld hq
    · rfl

theorem firstFault?_cons_of_free {held : RouteIndex → Bool}
    {faultOf? : SignalId → Option TrackFault} {rest : List RouteIndex} (h : held i = false) :
    firstFault? reg held faultOf? (i :: rest) = firstFault? reg held faultOf? rest := by
  simp [firstFault?, h]

theorem firstFault?_cons_of_held {held : RouteIndex → Bool}
    {faultOf? : SignalId → Option TrackFault} {rest : List RouteIndex} (hr : reg.route? i = some r) (h : held i = true) :
    firstFault? reg held faultOf? (i :: rest) =
      (r.signals.findSome? faultOf?).or (firstFault? reg held faultOf? rest) := by
  simp only [firstFault?, List.findSome?_cons, h, if_true, hr, Option.bind_some]
  cases r.signals.findSome? faultOf? <;> rfl

theorem releaseEach_snd (il : Interlocking) {places : List RouteIndex} (distinct : places.Nodup)
    (known : ∀ i ∈ places, (reg.route? i).isSome = true) :
    (il.releaseEach reg places).2 = match firstFault? reg il.isHeld il.refusal? places with
      | none => .ok ()
      | some f => .error (.track f) := by
  induction places generalizing il with
  | nil => rfl
  | cons i rest ih =>
    rw [List.nodup_cons] at distinct
    rw [List.forall_mem_cons] at known
    obtain ⟨r, hr⟩ := Option.isSome_iff_exists.mp known.1
    rw [releaseEach]
    dsimp only
    cases hheld : il.isHeld i with
    | false =>
      have hfree : (il.release reg i).2 = .ok false := by simp [release, hr, hheld]
      rw [firstFault?_cons_of_free hheld, hfree, release_of_free il reg i hheld]
      exact ih il distinct.2 known.2
    | true =>
      have hrest := ih (il.release reg i).1 distinct.2 known.2
      -- The routes after this one are held as before, and the same signals obey.
      have hheldRest : ∀ j ∈ rest, (il.release reg i).1.isHeld j = il.isHeld j := by
        intro j hj
        unfold isHeld
        rw [holder_release, if_neg]
        rintro ⟨rfl, -⟩
        exact distinct.1 hj
      rw [firstFault?_congr hheldRest
        fun _ _ _ q _ => (sameSignals_release il reg i).refusal?_eq q] at hrest
      rw [firstFault?_cons_of_held hr hheld, release_snd_of_held hr hheld]
      cases r.signals.findSome? il.refusal? with
      | none => exact hrest
      | some f => rfl

theorem releaseAll_snd (il : Interlocking) (reg : Registry) :
    (il.releaseAll reg).2 =
      match firstFault? reg il.isHeld il.refusal? (List.range reg.size) with
      | none => .ok ()
      | some f => .error (.track f) :=
  releaseEach_snd il List.nodup_range
    fun _ hi => Registry.isSome_route?_iff.mpr (List.mem_range.mp hi)

theorem holder_releaseEach (il : Interlocking) (reg : Registry) (places : List RouteIndex)
    (j : RouteIndex) :
    (il.releaseEach reg places).1.holder j =
      if j ∈ places ∧ (reg.route? j).isSome = true then none else il.holder j := by
  induction places generalizing il with
  | nil => simp [releaseEach]
  | cons i rest ih =>
    rw [releaseEach]
    dsimp only
    rw [ih, holder_release]
    by_cases hknown : (reg.route? j).isSome = true
    · by_cases hj : j = i
      · subst hj
        simp [hknown]
      · simp [hknown, hj]
    · have hi : ¬ (j = i ∧ (reg.route? i).isSome = true) := by
        rintro ⟨rfl, hsome⟩
        exact hknown hsome
      simp [hknown, hi]

theorem heldRoutes_releaseAll (il : Interlocking) (reg : Registry) :
    (il.releaseAll reg).1.heldRoutes reg = [] := by
  refine List.filterMap_eq_nil_iff.mpr ?_
  rintro ⟨r, i⟩ hp
  have hr : (reg.route? i).isSome = true := by
    rw [show reg.route? i = some r from List.mem_zipIdx_iff_getElem?.mp hp]
    rfl
  have hplace : i ∈ List.range reg.size := List.mem_range.mpr (Registry.isSome_route?_iff.mp hr)
  dsimp only
  rw [releaseAll, holder_releaseEach, if_pos ⟨hplace, hr⟩]
  rfl

theorem Withdraws.stop_stays {noted : Event → Bool} (h : Withdraws reg noted il il') {q : SignalId}
    (hstop : il.track.aspect q = some .stop) : il'.track.aspect q = some .stop := by
  refine h.keeps (P := (·.track.aspect q = some .stop)) ?_ hstop
  intro a b hstep ha
  cases hstep with
  | stop s =>
    rw [aspect_commandSignal]
    split
    · rfl
    · exact ha
  | note e _ => exact ha
  | release i =>
    cases hr : reg.route? i with
    | none =>
      rw [release_of_unknown a reg i hr]
      exact ha
    | some r =>
      rcases (closes_release a hr).aspect q with hsame | ⟨-, -, hstop⟩
      · rw [hsame]
        exact ha
      · exact hstop

theorem stop_of_releaseEach (il : Interlocking) {places : List RouteIndex} (hi : i ∈ places)
    (hr : reg.route? i = some r) (held : il.isHeld i = true) {q : SignalId} (hq : q ∈ r.signals)
    (hobeys : il.obeys q = true) :
    (il.releaseEach reg places).1.track.aspect q = some .stop := by
  induction places generalizing il with
  | nil => cases hi
  | cons first rest ih =>
    rw [releaseEach]
    dsimp only
    by_cases hfirst : i = first
    · subst hfirst
      have hrest : Withdraws reg Event.isDrive (il.release reg i).1 _ :=
        releaseEach_withdraws _ reg rest
      apply hrest.stop_stays
      rw [aspect_release il reg i hr held, if_pos ⟨hq, hobeys⟩]
    · refine ih _ ((List.mem_cons.mp hi).resolve_left hfirst) ?_ ?_
      · unfold isHeld at held ⊢
        rw [holder_release, if_neg fun h => hfirst h.1, held]
      · rw [(sameSignals_release il reg first).obeys_eq, hobeys]

end Release

end Interlocking

namespace Session

open Interlocking

section Close

variable (reg : Registry) (s : Session)

theorem ungrab_taken (slot : Slot) :
    (s.ungrab slot).1.grabs.taken = s.grabs.taken.filter (·.1 != slot) := by
  unfold ungrab
  cases hrelease : s.grabs.release slot with
  | mk grabs train =>
    have hgrabs : grabs = (s.grabs.release slot).1 := by rw [hrelease]
    have htrain : s.grabs.taken.lookup slot = train := congrArg Prod.snd hrelease
    cases train with
    | some t =>
      rw [hgrabs]
      rfl
    | none =>
      refine (List.filter_eq_self.mpr fun p hp => ?_).symm
      have hother := List.lookup_eq_none_iff.mp htrain p hp
      simpa [bne, Bool.beq_comm] using hother

theorem ungrabEach_taken (slots : List Slot) :
    (s.ungrabEach slots).grabs.taken = s.grabs.taken.filter fun p => !slots.contains p.1 := by
  induction slots generalizing s with
  | nil => simp [ungrabEach]
  | cons slot rest ih =>
    rw [ungrabEach, ih, ungrab_taken, List.filter_filter]
    apply List.filter_congr
    intro p _
    by_cases hp : p.1 = slot <;> simp [hp]

theorem ungrab_same (slot : Slot) :
    (s.ungrab slot).1.interlocking.track = s.interlocking.track ∧
      (s.ungrab slot).1.interlocking.holder = s.interlocking.holder ∧
      (s.ungrab slot).1.running = s.running := by
  unfold ungrab
  cases s.grabs.release slot with
  | mk grabs train => cases train <;> exact ⟨rfl, rfl, rfl⟩

theorem ungrabEach_same (slots : List Slot) :
    (s.ungrabEach slots).interlocking.track = s.interlocking.track ∧
      (s.ungrabEach slots).interlocking.holder = s.interlocking.holder ∧
      (s.ungrabEach slots).running = s.running := by
  induction slots generalizing s with
  | nil => exact ⟨rfl, rfl, rfl⟩
  | cons slot rest ih =>
    obtain ⟨htrack, hholder, hrunning⟩ := ungrab_same s slot
    obtain ⟨htrack', hholder', hrunning'⟩ := ih (s.ungrab slot).1
    exact ⟨htrack'.trans htrack, hholder'.trans hholder, hrunning'.trans hrunning⟩

theorem endListed_notes : s.interlocking.OnlyNotes (s.endListed reg).1.interlocking :=
  (collectFrom_eq reg (·.isListed) s.drives s.interlocking).2.2

theorem close_taken : (s.close reg).1.grabs.taken = [] := by
  rw [close_fst, ungrabEach_taken]
  refine List.filter_eq_nil_iff.mpr fun p hp => ?_
  have hslot : p.1 ∈ (s.endListed reg).1.grabs.taken.map (·.1) := List.mem_map_of_mem hp
  simpa using hslot

theorem close_running : (s.close reg).1.running = false := by
  rw [close_fst, (ungrabEach_same _ _).2.2]
  rfl

theorem close_same :
    (s.close reg).1.interlocking.track =
        ((s.endListed reg).1.interlocking.releaseAll reg).1.track ∧
      (s.close reg).1.interlocking.holder =
        ((s.endListed reg).1.interlocking.releaseAll reg).1.holder := by
  rw [close_fst]
  obtain ⟨htrack, hholder, -⟩ := ungrabEach_same
    ((s.endListed reg).1.interlock (·.releaseAll reg)).1
    ((s.endListed reg).1.grabs.taken.map (·.1))
  exact ⟨htrack, hholder⟩

theorem close_heldRoutes : (s.close reg).1.interlocking.heldRoutes reg = [] := by
  unfold heldRoutes
  rw [(close_same reg s).2]
  exact heldRoutes_releaseAll _ reg

theorem close_snd : (s.close reg).2 =
    match firstFault? reg s.interlocking.isHeld s.interlocking.refusal? (List.range reg.size) with
    | none => .ok ()
    | some f => .error (.interlocking (.track f)) := by
  have hnotes := endListed_notes reg s
  have hheld : (s.endListed reg).1.interlocking.isHeld = s.interlocking.isHeld := by
    unfold isHeld
    rw [hnotes.holder]
  have hrefusal : (s.endListed reg).1.interlocking.refusal? = s.interlocking.refusal? :=
    funext (sameSignals_of_track_eq hnotes.track).refusal?_eq
  have hreleased := releaseAll_snd (s.endListed reg).1.interlocking reg
  rw [hheld, hrefusal] at hreleased
  change ((s.endListed reg).1.interlocking.releaseAll reg).2.mapError SessionError.interlocking = _
  rw [hreleased]
  cases firstFault? reg s.interlocking.isHeld s.interlocking.refusal? (List.range reg.size) <;> rfl

theorem close_aspect {i : RouteIndex} {r : Route} (hr : reg.route? i = some r)
    (held : s.interlocking.isHeld i = true) {q : SignalId} (hq : q ∈ r.signals)
    (hobeys : s.interlocking.obeys q = true) :
    (s.close reg).1.interlocking.track.aspect q = some .stop := by
  have hnotes := endListed_notes reg s
  rw [(close_same reg s).1]
  refine stop_of_releaseEach _ (List.mem_range.mpr (List.getElem?_eq_some_iff.mp hr).1) hr ?_ hq ?_
  · unfold isHeld at held ⊢
    rw [hnotes.holder, held]
  · rw [(sameSignals_of_track_eq hnotes.track).obeys_eq, hobeys]

end Close

/-! ### After the close -/

section Running

variable {reg : Registry} {s : Session}

theorem requireRunning_of_closed (closed : s.running = false) :
    s.requireRunning = .error .shuttingDown := by
  simp [requireRunning, closed]

theorem running_actAt (s : Session) (place : Nat)
    (act : Drive → Interlocking → Drive × Interlocking) :
    (s.actAt place act).running = s.running := by
  unfold actAt
  cases s.drives[place]? <;> rfl

theorem running_passLast (reg : Registry) (s : Session) : (s.passLast reg).running = s.running := by
  unfold passLast
  cases s.drives.getLast? <;> rfl

theorem running_operate (reg : Registry) (op : Operation) (closed : s.running = false) :
    (s.operate reg op).running = false := by
  have hrefused := requireRunning_of_closed closed
  cases op with
  | begin place | pass place => exact (running_actAt s place _).trans closed
  | enlist train route mode =>
    simp only [operate, enlistDrive, hrefused]
    exact closed
  | launchOutside | collectTrain | disturb => exact closed
  | close => exact close_running reg s
  | command c =>
    unfold operate
    cases c with
    | shutdown =>
      simp only [perform, answer_fst]
      exact close_running reg (s.settle reg)
    | ungrab slot => exact (ungrab_same s slot).2.2.trans closed
    | outsideDrive train route mode =>
      exact (running_passLast reg (s.launch (.outside s.outsideCount) train route mode)).trans
        closed
    | drive train route mode =>
      simp only [perform, answer_fst, startDrive, enlistDrive, hrefused]
      exact closed
    | grab train =>
      simp only [perform, answer_fst, grabTrain, hrefused]
      exact closed
    | grant train route =>
      simp only [perform, answer_fst, grantRoute, hrefused]
      exact closed
    | request r =>
      simp only [perform, answer_fst, requestRoute, hrefused]
      exact closed
    | setAlgorithm name =>
      simp only [perform, answer_fst, setAlgorithm]
      cases ConflictPolicy.ofName? name <;> exact closed
    | setAspect | setPoint | release | directGrant | directRequest | releaseIfHeldBy
    | releaseAll =>
      simp only [perform, answer_fst]
      exact closed
    | place | removeTrain | mark | jam | lose | poll | listDrives | await | cancelOutside
    | endOutside => exact closed

theorem running_operateAll (reg : Registry) (operations : List Operation)
    (closed : s.running = false) : (s.operateAll reg operations).running = false := by
  induction operations generalizing s with
  | nil => exact closed
  | cons op rest ih => exact ih (running_operate reg op closed)

/-- A closed session refuses whatever would begin something, before it looks at anything else. -/
theorem shuttingDown_of_closed (reg : Registry) (closed : s.running = false) :
    (∀ train, (s.grabTrain train).2 = .error .shuttingDown) ∧
      (∀ train id, (s.grantRoute reg train id).2 = .error .shuttingDown) ∧
      (∀ request, (s.requestRoute reg request).2 = .error .shuttingDown) ∧
      ∀ train id mode, (s.startDrive reg train id mode).2 = .error .shuttingDown := by
  have hclosed := requireRunning_of_closed closed
  refine ⟨fun train => ?_, fun train id => ?_, fun request => ?_, fun train id mode => ?_⟩
  · rw [grabTrain, hclosed]
  · rw [grantRoute, hclosed]
  · rw [requestRoute, hclosed]
    rfl
  · rw [startDrive, enlistDrive, hclosed]
    rfl

end Running

/-- Closing a session ends all drives of the controller and leaves no route held and no train
grabbed, whatever signals have been jammed or lost, and every signal of a route that was held
shows stop, but for those. It fails exactly if there is such a signal, and with the fault of the
first one of the first route. Afterwards nothing is grabbed, granted or started. -/
theorem close_ends_everything {text : List Char} {t : Table} (read : Table.ofChars text = .ok t)
    {reg : Registry} (accepted : Registry.ofTable t = .ok reg) {config : SessionConfig}
    {s₀ : Session} (started : start reg config = .ok s₀) (operations : List Operation)
    (undisturbed : ∀ op ∈ operations, op.isDisturbance = false) :
    let s := s₀.operateAll reg operations
    let s' := (s.close reg).1
    let fault? := Operation.faultOf? operations
    s'.interlocking.heldRoutes reg = [] ∧ s'.grabs.taken = [] ∧
      s'.drives = s.drives.filter (!·.isListed) ∧
      (s.endListed reg).2 = (s.drives.filter (·.isListed)).map (·.drive.outcomeOnCancel reg) ∧
      (∀ i r q, reg.route? i = some r → s.interlocking.isHeld i = true → q ∈ r.signals →
        fault? q = none → s'.interlocking.track.aspect q = some .stop) ∧
      (s.close reg).2 =
        (match firstFault? reg s.interlocking.isHeld fault? (List.range reg.size) with
        | none => .ok ()
        | some f => .error (.interlocking (.track f))) ∧
      ((s.close reg).2 = .ok () ↔ ∀ i r q, reg.route? i = some r →
        s.interlocking.isHeld i = true → q ∈ r.signals → fault? q = none) ∧
      ∀ later, let s'' := s'.operateAll reg later
        (∀ train, (s''.grabTrain train).2 = .error .shuttingDown) ∧
          (∀ train id, (s''.grantRoute reg train id).2 = .error .shuttingDown) ∧
          (∀ request, (s''.requestRoute reg request).2 = .error .shuttingDown) ∧
          ∀ train id mode, (s''.startDrive reg train id mode).2 = .error .shuttingDown := by
  intro s s' fault?
  have hfault {i : RouteIndex} {r : Route} (hr : reg.route? i = some r) {q : SignalId}
      (hq : q ∈ r.signals) : s.interlocking.refusal? q = fault? q := by
    obtain ⟨htopology, hroutes⟩ := Registry.ofTable_eq_ok_iff.mp accepted
    have hsignal := Table.isSignal_of_ofChars read (hroutes ▸ List.mem_of_getElem? hr) hq
    rw [← htopology] at hsignal
    exact refusal?_operateAll started undisturbed hsignal
  have hfirst : firstFault? reg s.interlocking.isHeld s.interlocking.refusal?
      (List.range reg.size) = firstFault? reg s.interlocking.isHeld fault?
        (List.range reg.size) :=
    firstFault?_congr (fun _ _ => rfl) fun _ _ hr _ hq => hfault hr hq
  have hresult := close_snd reg s
  rw [hfirst] at hresult
  refine ⟨close_heldRoutes reg s, close_taken reg s, close_drives reg s,
    (collectFrom_eq reg _ _ _).2.1, ?_, hresult, ?_, ?_⟩
  · intro i r q hr held hq hnone
    refine close_aspect reg s hr held hq (refusal?_eq_none_iff.mp ?_)
    rw [hfault hr hq, hnone]
  · rw [← firstFault?_eq_none_iff, hresult]
    cases firstFault? reg s.interlocking.isHeld fault? (List.range reg.size) <;> simp
  · exact fun later =>
      shuttingDown_of_closed reg (running_operateAll reg later (close_running reg s))

def blockText : List Char := "segments [a, b] signals [s, t]
  route r { source s destination t orientation clockwise length 0 path [a, b] signals [s, t] }".toList

def block : Table where
  topology := {
    segments := ["a", "b"]
    signals := [("s", .main), ("t", .main)]
    points := []
    sections := [] }
  routes := [
    { id := "r", source := "s", destination := "t", orientation := .clockwise
      length := .zero, sections := [], points := []
      signals := ["s", "t"], conflicts := []
      path := [.segment "a", .segment "b"] }]

def blockRoutes : Registry := ⟨block.topology, block.routes, by decide, by decide⟩

theorem block_read : Table.ofChars blockText = .ok block := by
  have hread : (Table.ofChars blockText).toOption = some block := by decide +kernel
  cases htable : Table.ofChars blockText with
  | error e =>
    rw [htable] at hread
    cases hread
  | ok t =>
    rw [htable] at hread
    cases hread
    rfl

def blockSession : Session where
  interlocking := .initial block.topology
  policy := .sectional
  config := .standard
  grabs := .empty 32
  drives := []
  running := true
  outsideCount := 0

/-- The first signal of the held route is jammed while a train is on its way. -/
theorem block_closed_with_fault :
    let run : List Operation := [.command (.grab "T1"), .command (.grant "T1" "r"),
      .enlist "T1" "r" .automatic, .command (.jam "s")]
    let closed := (blockSession.operateAll blockRoutes run).close blockRoutes
    closed.1.interlocking.heldRoutes blockRoutes = [] ∧ closed.1.grabs.taken = [] ∧
      closed.1.drives = [] ∧ closed.1.interlocking.track.aspect "t" = some .stop ∧
      closed.2 = .error (.interlocking (.track (.jammedSignal "s"))) ∧
      (closed.1.grabTrain "T2").2 = .error .shuttingDown := by
  intro run closed
  have hundisturbed : ∀ op ∈ run, op.isDisturbance = false := by decide
  have hstart : start blockRoutes .standard = .ok blockSession := rfl
  have haccepted : Registry.ofTable block = .ok blockRoutes := rfl
  obtain ⟨hfree, hungrabbed, hdrives, -, hstop, hresult, -, hlater⟩ :=
    close_ends_everything block_read haccepted hstart run hundisturbed
  exact ⟨hfree, hungrabbed, hdrives, hstop 0 _ "t" rfl rfl (by decide) rfl, hresult,
    (hlater []).1 "T2"⟩

end Session

end Signalbox
