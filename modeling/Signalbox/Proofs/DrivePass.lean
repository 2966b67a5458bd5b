import Signalbox.Proofs.RecordedEvents
import Signalbox.Proofs.RegistryLookup

/-!
How a drive begins, and what one pass of it can do. It aborts and does nothing else, or the drive
goes on, or it completes. In the last two cases the train holds the route, and all that the drive
counts as stopped has been stopped by its own commands.
-/
namespace Signalbox

namespace Progression

theorem records_advance (p : Progression) (reported : List SegmentId) :
    (p.advance reported).1.records = p.records := by
  simp only [advance, moved]
  split <;> rfl

theorem stopped_advance (p : Progression) (reported : List SegmentId) :
    (p.advance reported).1.stopped = p.stopped := by
  rw [stopped, records_advance]
  rfl

theorem signals_markStopped (p : Progression) (s : SignalId) :
    (p.markStopped s).records.map (·.signal) = p.records.map (·.signal) := by
  rw [markStopped, List.map_map]
  apply List.map_congr_left
  intro record _
  simp only [Function.comp_apply]
  split <;> rfl

theorem eq_or_mem_of_mem_stopped_markStopped {p : Progression} {s q : SignalId}
    (h : q ∈ (p.markStopped s).stopped) : q = s ∨ q ∈ p.stopped := by
  simp only [stopped, markStopped, List.mem_map, List.mem_filter] at h ⊢
  obtain ⟨-, ⟨⟨record, hmem, rfl⟩, hstopped⟩, rfl⟩ := h
  by_cases hsignal : record.signal = s
  · exact .inl (by simp [hsignal])
  · rw [if_neg hsignal] at hstopped ⊢
    exact .inr ⟨record, ⟨hmem, hstopped⟩, rfl⟩

theorem mem_stopped_of_isComplete {p : Progression} (h : p.isComplete = true) {q : SignalId}
    (hq : q ∈ (p.records.map (·.signal)).dropLast) : q ∈ p.stopped := by
  rw [← List.map_dropLast] at hq
  obtain ⟨record, hmem, rfl⟩ := List.mem_map.mp hq
  have hstopped : record.stopped = true := List.all_eq_true.mp h record hmem
  exact List.mem_map_of_mem
    (List.mem_filter.mpr ⟨List.dropLast_subset _ hmem, hstopped⟩)

theorem signals_of_start {r : Route} {mask : List Bool} {p : Progression}
    (h : start r mask = .ok p) : p.records.map (·.signal) = r.signals ∧ p.stopped = [] := by
  unfold start at h
  split at h
  · cases h
  · cases h
    constructor
    · simp [Function.comp_def]
    · simp [stopped]

end Progression

namespace Interlocking

/-! ### What is recorded -/

theorem log_commandSignal (il : Interlocking) (s : SignalId) (a : Aspect) :
    il.log <+: (il.commandSignal s a).1.log := by
  have hgrows : il.Adds (fun _ => True) (il.commandSignal s a).1 :=
    adds_commandSignal il s a trivial
  exact hgrows.log_prefix

theorem log_release (il : Interlocking) (reg : Registry) (i : RouteIndex) :
    il.log <+: (il.release reg i).1.log := by
  have hgrows : il.Adds (fun _ => True) (il.release reg i).1 :=
    adds_release il reg i (fun _ _ => trivial) fun _ => trivial
  exact hgrows.log_prefix

def Records (il il' : Interlocking) (e : Event) : Prop :=
  ∃ events, il'.log = il.log ++ events ∧ e ∈ events

theorem Records.mono_right {il il' il'' : Interlocking} {e : Event} (h : il.Records il' e)
    (hlog : il'.log <+: il''.log) : il.Records il'' e := by
  obtain ⟨events, hevents, he⟩ := h
  obtain ⟨later, hlater⟩ := hlog
  exact ⟨events ++ later, by rw [← hlater, hevents, List.append_assoc],
    List.mem_append_left later he⟩

theorem Records.mono_left {il il' il'' : Interlocking} {e : Event} (h : il'.Records il'' e)
    (hlog : il.log <+: il'.log) : il.Records il'' e := by
  obtain ⟨events, hevents, he⟩ := h
  obtain ⟨earlier, hearlier⟩ := hlog
  exact ⟨earlier ++ events, by rw [hevents, ← hearlier, List.append_assoc],
    List.mem_append_right earlier he⟩

theorem records_of_commandSignal {il il' : Interlocking} {s : SignalId} {a : Aspect}
    (h : il.commandSignal s a = (il', none)) : il.Records il' (.signal s a) := by
  unfold commandSignal at h
  split at h
  · cases h
    exact ⟨[.signal s a], rfl, List.mem_singleton_self _⟩
  · cases h

/-! ### Holders -/

theorem isHeldBy_iff {il : Interlocking} {reg : Registry} {id : RouteId} {train : TrainId} :
    il.isHeldBy reg id train = true ↔
      ∃ i, reg.index? id = some i ∧ il.holder i = some train := by
  simp [isHeldBy, Option.any_eq_true]

theorem releaseIfHeldBy_of_held {il : Interlocking} {reg : Registry} {id : RouteId}
    {train : TrainId} {i : RouteIndex} (hi : reg.index? id = some i)
    (held : il.holder i = some train) :
    il.releaseIfHeldBy reg id train = il.release reg i := by
  simp [releaseIfHeldBy, indexOf, hi, held]

theorem release_answer {il : Interlocking} {reg : Registry} {i : RouteIndex} {r : Route}
    (hr : reg.route? i = some r) (held : il.isHeld i = true) :
    (il.release reg i).2 = .ok true ∨ ∃ f, (il.release reg i).2 = .error (.track f) := by
  unfold release
  simp only [hr, held, Bool.not_true, Bool.false_eq_true, if_false]
  split
  · exact .inl rfl
  · exact .inr ⟨_, rfl⟩

end Interlocking

namespace Drive

open Interlocking

/-- What setting signals to stop leaves: the same holders and the same records, of which more are
marked, but only for commands that were carried out. -/
structure Stops (il : Interlocking) (p : Progress) (il' : Interlocking) (p' : Progress) :
    Prop where
  holder : il'.holder = il.holder
  log : il.log <+: il'.log
  signals : p'.progression.records.map (·.signal) = p.progression.records.map (·.signal)
  stopped : ∀ q ∈ p'.progression.stopped,
    q ∈ p.progression.stopped ∨ il.Records il' (.signal q .stop)

theorem Stops.refl (il : Interlocking) (p : Progress) : Stops il p il p :=
  ⟨rfl, List.prefix_rfl, rfl, fun _ hq => .inl hq⟩

theorem stops_of_advance (il : Interlocking) (p : Progress) (reported : List SegmentId) :
    Stops il p il { p with progression := (p.progression.advance reported).1 } where
  holder := rfl
  log := List.prefix_rfl
  signals := by rw [Progression.records_advance]
  stopped q hq := .inl (by rwa [← Progression.stopped_advance])

theorem Stops.trans {il il' il'' : Interlocking} {p p' p'' : Progress} (h : Stops il p il' p')
    (h' : Stops il' p' il'' p'') : Stops il p il'' p'' where
  holder := h'.holder.trans h.holder
  log := h.log.trans h'.log
  signals := h'.signals.trans h.signals
  stopped := by
    intro q hq
    rcases h'.stopped q hq with hbefore | hrecorded
    · rcases h.stopped q hbefore with hfirst | hrecorded
      · exact .inl hfirst
      · exact .inr (hrecorded.mono_right h'.log)
    · exact .inr (hrecorded.mono_left h.log)

theorem stops_of_commandSignal {il il' : Interlocking} {s : SignalId} (p : Progress)
    (h : il.commandSignal s .stop = (il', none)) :
    Stops il p il' { p with progression := p.progression.markStopped s } where
  holder := by rw [← holder_commandSignal il s .stop, h]
  log := by simpa [h] using log_commandSignal il s .stop
  signals := Progression.signals_markStopped _ s
  stopped := by
    intro q hq
    rcases Progression.eq_or_mem_of_mem_stopped_markStopped hq with rfl | hmem
    · exact .inr (records_of_commandSignal h)
    · exact .inl hmem

theorem stops_of_fault {il il' : Interlocking} {s : SignalId} {f : TrackFault} (p p' : Progress)
    (h : il.commandSignal s .stop = (il', some f)) (hp : p'.progression = p.progression) :
    Stops il p il' p' where
  holder := by rw [← holder_commandSignal il s .stop, h]
  log := by simpa [h] using log_commandSignal il s .stop
  signals := by rw [hp]
  stopped q hq := .inl (by rwa [← hp])

theorem stopSignals_stops (il : Interlocking) (p : Progress) (signals : List SignalId) :
    Stops il p (stopSignals il p signals).1 (stopSignals il p signals).2 := by
  induction signals generalizing il p with
  | nil => exact .refl il p
  | cons s rest ih =>
    unfold stopSignals
    cases hs : il.commandSignal s .stop with
    | mk next fault =>
      cases fault with
      | none => exact (stops_of_commandSignal p hs).trans (ih _ _)
      | some f =>
        dsimp only
        have hfault (p' : Progress) (hp : p'.progression = p.progression) : Stops il p next p' :=
          stops_of_fault p p' hs hp
        split
        · exact (hfault p rfl).trans (ih next p)
        · refine (hfault _ ?_).trans (ih next _)
          rfl

/-! ### The beginning -/

/-- What becomes of a drive when it begins. One that has begun before stays as it is. -/
inductive Begun (reg : Registry) (d : Drive) (il : Interlocking) : Drive × Interlocking → Prop
  | already (h : d.phase ≠ .initializing) : Begun reg d il (d, il)
  | refused {reason : AbortReason} (hfresh : d.phase = .initializing)
    (h : outset reg d.route = .error reason) :
    Begun reg d il (d.finish (d.recordState il .initializing) (.aborted reason [] []))
  | started {p : Progress} (hfresh : d.phase = .initializing) (h : outset reg d.route = .ok p) :
    Begun reg d il
      ({ d with phase := .progressing p },
        d.recordState (d.recordState il .initializing) .progressing)

section Begin

variable {reg : Registry} {d : Drive}

theorem begin_begun (reg : Registry) (d : Drive) (il : Interlocking) :
    Begun reg d il (d.begin reg il) := by
  unfold begin
  cases hphase : d.phase with
  | initializing =>
    dsimp only
    cases houtset : outset reg d.route with
    | error reason => exact .refused hphase houtset
    | ok p => exact .started hphase houtset
  | progressing | arriving | ended => exact .already (by simp [hphase])

theorem begin_of_ne (reg : Registry) (il : Interlocking) (h : d.phase ≠ .initializing) :
    d.begin reg il = (d, il) := by
  have hbegun := begin_begun reg d il
  generalize d.begin reg il = result at hbegun ⊢
  cases hbegun with
  | already => rfl
  | refused hfresh | started hfresh => exact absurd hfresh h

theorem phase_begin_ne (reg : Registry) (d : Drive) (il : Interlocking) :
    (d.begin reg il).1.phase ≠ .initializing := by
  have hbegun := begin_begun reg d il
  generalize d.begin reg il = result at hbegun ⊢
  cases hbegun with
  | already h => exact h
  | refused | started => simp [finish]

theorem pass_begin (reg : Registry) (d : Drive) (il : Interlocking) :
    (d.begin reg il).1.pass reg (d.begin reg il).2 = d.pass reg il := by
  rw [pass, begin_of_ne reg _ (phase_begin_ne reg d il), pass]

theorem pass_of_ne (reg : Registry) (il : Interlocking) (h : d.phase ≠ .initializing) :
    d.pass reg il = d.watch reg il := by
  rw [pass, begin_of_ne reg il h]

theorem exists_phase_begin (reg : Registry) (d : Drive) (il : Interlocking) :
    ∃ phase, (d.begin reg il).1 = { d with phase } := by
  have hbegun := begin_begun reg d il
  generalize d.begin reg il = result at hbegun ⊢
  cases hbegun <;> exact ⟨_, rfl⟩

theorem train_route_begin (reg : Registry) (d : Drive) (il : Interlocking) :
    (d.begin reg il).1.train = d.train ∧ (d.begin reg il).1.route = d.route := by
  obtain ⟨phase, h⟩ := exists_phase_begin reg d il
  rw [h]
  exact ⟨rfl, rfl⟩

theorem cancelled_begin (reg : Registry) (d : Drive) (il : Interlocking) :
    (d.begin reg il).1.cancelled = d.cancelled := by
  obtain ⟨phase, h⟩ := exists_phase_begin reg d il
  rw [h]

theorem holder_begin (reg : Registry) (d : Drive) (il : Interlocking) :
    (d.begin reg il).2.holder = il.holder := by
  have hbegun := begin_begun reg d il
  generalize d.begin reg il = result at hbegun ⊢
  cases hbegun <;> rfl

theorem isHeldBy_begin (reg : Registry) (d : Drive) (il : Interlocking) (id : RouteId)
    (train : TrainId) : (d.begin reg il).2.isHeldBy reg id train = il.isHeldBy reg id train := by
  simp [isHeldBy, holder_begin]

theorem log_begin (reg : Registry) (d : Drive) (il : Interlocking) :
    il.log <+: (d.begin reg il).2.log :=
  (begin_withdraws reg d il).grows.log_prefix

theorem start_of_outset {route : RouteId} {p : Progress} (h : outset reg route = .ok p) :
    ∃ r q, reg.find? route = some r ∧ Progression.start r r.repeatedMask = .ok q ∧
      p = ⟨q, [], []⟩ := by
  unfold outset at h
  cases hr : reg.find? route with
  | none => simp [hr] at h
  | some r =>
    cases hq : Progression.start r r.repeatedMask with
    | error reason => simp [hr, hq, Except.map] at h
    | ok q =>
      obtain rfl : (⟨q, [], []⟩ : Progress) = p := by simpa [hr, hq, Except.map] using h
      exact ⟨r, q, rfl, hq, rfl⟩

theorem outset_eq_ok {route : RouteId} {p : Progress} (h : outset reg route = .ok p) :
    ∃ r, reg.find? route = some r ∧ p.progression.records.map (·.signal) = r.signals ∧
      p.progression.stopped = [] := by
  obtain ⟨r, q, hr, hq, rfl⟩ := start_of_outset h
  exact ⟨r, hr, Progression.signals_of_start hq⟩

end Begin

/-! ### The passes -/

/-- What a drive remembers while it runs. -/
def progress? (d : Drive) : Option Progress :=
  match d.phase with
  | .progressing p | .arriving p => some p
  | .initializing | .ended _ => none

/-- A running drive is on a route of the table and keeps a record for each of its signals. One
that waits at the end of the route has set all signals to stop that it passes. -/
structure OnRoute (reg : Registry) (d : Drive) : Prop where
  route : ∀ p, d.progress? = some p → ∃ r, reg.find? d.route = some r ∧
    p.progression.records.map (·.signal) = r.signals
  arriving : ∀ p, d.phase = .arriving p →
    d.mode = .automatic ∧ p.progression.isComplete = true

/-- What the pass of a running drive comes to. -/
inductive Passed (reg : Registry) (d : Drive) (il : Interlocking) (p : Progress) :
    Drive × Interlocking → Prop
  /-- the drive aborts, and that is all -/
  | aborted {reason : AbortReason}
    (cause : d.cancelled = true ∧ reason = .cancelled ∨
      il.isHeldBy reg d.route d.train = false ∧ reason = .notGranted d.route) :
    Passed reg d il p (d.abort il reason p)
  | going {il' : Interlocking} {p' : Progress} {phase : DrivePhase} (active : d.cancelled = false)
    (held : il.isHeldBy reg d.route d.train = true) (stops : Stops il p il' p')
    (next : phase = .progressing p' ∨
      phase = .arriving p' ∧ d.mode = .automatic ∧ p'.progression.isComplete = true) :
    Passed reg d il p ({ d with phase }, il')
  /-- a manual drive completes -/
  | completed {il' : Interlocking} {p' : Progress} (active : d.cancelled = false)
    (held : il.isHeldBy reg d.route d.train = true) (stops : Stops il p il' p')
    (complete : p'.progression.isComplete = true) (manual : d.mode = .manual) :
    Passed reg d il p (d.finish il' (.completed p'.progression.stopped false p'.faults))
  /-- an automatic drive releases its route and completes -/
  | released {il' : Interlocking} {p' : Progress} {i : RouteIndex} {faults : List TrackFault}
    (active : d.cancelled = false) (hi : reg.index? d.route = some i)
    (held : il.holder i = some d.train) (stops : Stops il p il' p')
    (complete : p'.progression.isComplete = true) (automatic : d.mode = .automatic) :
    Passed reg d il p
      (d.finish (il'.release reg i).1 (.completed p'.progression.stopped true faults))

section Pass

variable {reg : Registry} {d : Drive} {il il' : Interlocking} {p p' : Progress}

theorem releaseRoute_passed (active : d.cancelled = false)
    (held : il.isHeldBy reg d.route d.train = true) (stops : Stops il p il' p')
    (complete : p'.progression.isComplete = true) (automatic : d.mode = .automatic) :
    Passed reg d il p (releaseRoute reg d il' p') := by
  obtain ⟨i, hi, hholder⟩ := isHeldBy_iff.mp held
  obtain ⟨r, hr, -⟩ := Registry.route?_of_index? hi
  have hholder' : il'.holder i = some d.train := by rw [stops.holder, hholder]
  have hheld' : il'.isHeld i = true := by simp [isHeld, hholder']
  unfold releaseRoute
  rw [releaseIfHeldBy_of_held hi hholder']
  rcases release_answer hr hheld' with hok | ⟨f, herror⟩
  · rw [← Prod.eta (il'.release reg i), hok]
    exact .released active hi hholder stops complete automatic
  · rw [← Prod.eta (il'.release reg i), herror]
    exact .released active hi hholder stops complete automatic

theorem arrive_passed (active : d.cancelled = false)
    (held : il.isHeldBy reg d.route d.train = true) (stops : Stops il p il' p')
    (complete : p'.progression.isComplete = true) (automatic : d.mode = .automatic) :
    Passed reg d il p (arrive reg d il' p') := by
  have hheld' : il'.isHeldBy reg d.route d.train = true := by
    obtain ⟨i, hi, hholder⟩ := isHeldBy_iff.mp held
    exact isHeldBy_iff.mpr ⟨i, hi, by rw [stops.holder, hholder]⟩
  have hrelease := releaseRoute_passed active held stops complete automatic
  unfold arrive
  cases (reg.find? d.route).bind Route.lastSegment? with
  | none => exact hrelease
  | some last =>
    dsimp only
    rw [hheld']
    split
    · contradiction
    · split
      · exact hrelease
      · exact .going active held stops (.inr ⟨rfl, automatic, complete⟩)

theorem proceed_passed (active : d.cancelled = false)
    (held : il.isHeldBy reg d.route d.train = true) (stops : Stops il p il' p') :
    Passed reg d il p (proceed reg d il' p') := by
  unfold proceed
  cases complete : p'.progression.isComplete with
  | false => exact .going active held stops (.inl rfl)
  | true =>
    cases hmode : d.mode with
    | manual => exact .completed active held stops complete hmode
    | automatic => exact arrive_passed active held stops complete hmode

theorem arrive_of_not_held (h : d.OnRoute reg) (hp : d.progress? = some p)
    (lost : il.isHeldBy reg d.route d.train = false) :
    arrive reg d il p = d.abort il (.notGranted d.route) p := by
  obtain ⟨r, hr, -⟩ := h.route p hp
  unfold arrive
  cases (reg.find? d.route).bind Route.lastSegment? with
  | some last =>
    dsimp only
    rw [lost]
    rfl
  | none =>
    -- Without a place to wait for, the release itself asks who holds the route.
    obtain ⟨i, hi, -⟩ := Option.bind_eq_some_iff.mp hr
    have hholder : il.holder i ≠ some d.train := by
      intro hholder
      rw [isHeldBy_iff.mpr ⟨i, hi, hholder⟩] at lost
      cases lost
    have hrefused : il.releaseIfHeldBy reg d.route d.train = (il, .ok false) := by
      simp [releaseIfHeldBy, indexOf, hi, hholder]
    dsimp only
    rw [releaseRoute, hrefused]

theorem phase_ne_of_progress? (hp : d.progress? = some p) : d.phase ≠ .initializing := by
  intro h
  simp [progress?, h] at hp

theorem pass_passed (il : Interlocking) (h : d.OnRoute reg) (hp : d.progress? = some p) :
    Passed reg d il p (d.pass reg il) := by
  rw [pass_of_ne reg il (phase_ne_of_progress? hp)]
  unfold watch
  cases hphase : d.phase with
  | initializing | ended => simp [progress?, hphase] at hp
  | progressing q =>
    obtain rfl : q = p := by simpa [progress?, hphase] using hp
    dsimp only
    cases active : d.cancelled with
    | true => exact .aborted (.inl ⟨active, rfl⟩)
    | false =>
      cases held : il.isHeldBy reg d.route d.train with
      | false => exact .aborted (.inr ⟨held, rfl⟩)
      | true =>
        exact proceed_passed active held
          ((stops_of_advance il q _).trans (stopSignals_stops il _ _))
  | arriving q =>
    obtain rfl : q = p := by simpa [progress?, hphase] using hp
    obtain ⟨automatic, complete⟩ := h.arriving q hphase
    dsimp only
    cases active : d.cancelled with
    | true => exact .aborted (.inl ⟨active, rfl⟩)
    | false =>
      cases held : il.isHeldBy reg d.route d.train with
      | false =>
        rw [arrive_of_not_held h hp held]
        exact .aborted (.inr ⟨held, rfl⟩)
      | true => exact arrive_passed active held (.refl il q) complete automatic

end Pass

/-! ### What passes keep -/

def stopped (d : Drive) : List SignalId :=
  match d.phase with
  | .initializing => []
  | .progressing p | .arriving p => p.progression.stopped
  | .ended o => o.stopped

def hasReleased (d : Drive) : Bool := d.outcome?.any (·.released)

structure EndsWith (reg : Registry) (d : Drive) (o : Outcome) : Prop where
  manual : d.mode = .manual → o.released = false
  automatic : d.mode = .automatic → (o.state = .completed ↔ o.released = true)
  completed : o.state = .completed →
    ∃ r, reg.find? d.route = some r ∧ ∀ q ∈ r.passedSignals, q ∈ o.stopped

structure Sound (reg : Registry) (d : Drive) : Prop where
  onRoute : d.OnRoute reg
  ended : ∀ o, d.outcome? = some o → d.EndsWith reg o

section Sound

variable {reg : Registry} {d : Drive} {il : Interlocking}

theorem phase_cases (d : Drive) :
    d.phase = .initializing ∨ (∃ p, d.progress? = some p) ∨ d.isFinished = true := by
  unfold progress? isFinished outcome?
  cases d.phase <;> simp

theorem progress?_of_unfinished (h : d.isFinished = false) (hbegun : d.phase ≠ .initializing) :
    ∃ p, d.progress? = some p := by
  rcases d.phase_cases with hphase | hp | hfinished
  · exact absurd hphase hbegun
  · exact hp
  · rw [hfinished] at h
    cases h

theorem stopped_of_progress? {p : Progress} (h : d.progress? = some p) :
    d.stopped = p.progression.stopped := by
  unfold progress? at h
  unfold stopped
  cases hphase : d.phase with
  | initializing | ended => simp [hphase] at h
  | progressing q | arriving q =>
    rw [hphase] at h
    cases h
    rfl

theorem stopped_of_outcome? {o : Outcome} (h : d.outcome? = some o) : d.stopped = o.stopped := by
  unfold outcome? at h
  unfold stopped
  cases hphase : d.phase with
  | ended o' =>
    rw [hphase] at h
    cases h
    rfl
  | initializing | progressing | arriving => simp [hphase] at h

theorem hasReleased_of_progress? {p : Progress} (h : d.progress? = some p) :
    d.hasReleased = false := by
  unfold progress? at h
  unfold hasReleased outcome?
  cases hphase : d.phase with
  | initializing | ended => simp [hphase] at h
  | progressing q | arriving q => rfl

theorem phase_ne_of_finished (h : d.isFinished = true) : d.phase ≠ .initializing := by
  intro hphase
  simp [isFinished, outcome?, hphase] at h

theorem pass_of_finished (reg : Registry) (il : Interlocking) (h : d.isFinished = true) :
    d.pass reg il = (d, il) := by
  rw [pass_of_ne reg il (phase_ne_of_finished h)]
  unfold isFinished outcome? at h
  unfold watch
  cases hphase : d.phase with
  | ended o => rfl
  | initializing | progressing | arriving => simp [hphase] at h

theorem isFinished_watch_of_cancelled (reg : Registry) (il : Interlocking)
    (hbegun : d.phase ≠ .initializing) (h : d.cancelled = true) :
    (d.watch reg il).1.isFinished = true := by
  unfold watch
  cases hphase : d.phase with
  | initializing => exact absurd hphase hbegun
  | ended o => simp [isFinished, outcome?, hphase]
  | progressing p | arriving p =>
    dsimp only
    rw [if_pos h]
    rfl

theorem isFinished_pass_of_cancelled (reg : Registry) (il : Interlocking)
    (h : d.cancelled = true) : (d.pass reg il).1.isFinished = true :=
  isFinished_watch_of_cancelled reg _ (phase_begin_ne reg d il)
    ((cancelled_begin reg d il).trans h)

theorem state_ne_aborted (h : d.isFinished = false) : d.state ≠ .aborted := by
  unfold isFinished outcome? at h
  unfold state
  cases hphase : d.phase with
  | ended o => simp [hphase] at h
  | initializing | progressing | arriving => nofun

theorem refused_of_finished_begin (hunfinished : d.isFinished = false)
    (h : (d.begin reg il).1.isFinished = true) :
    ∃ reason, d.phase = .initializing ∧ outset reg d.route = .error reason ∧
      (d.begin reg il).1.outcome? = some (.aborted reason [] []) := by
  have hbegun := begin_begun reg d il
  generalize d.begin reg il = result at hbegun h ⊢
  cases hbegun with
  | already => rw [hunfinished] at h; cases h
  | refused hfresh houtset => exact ⟨_, hfresh, houtset, rfl⟩
  | started => cases h

theorem endsWith_aborted (reg : Registry) (d : Drive) (reason : AbortReason)
    (stopped : List SignalId) (faults : List TrackFault) :
    d.EndsWith reg (.aborted reason stopped faults) where
  manual _ := rfl
  automatic _ := by simp [Outcome.state, Outcome.released]
  completed h := by cases h

theorem outcome?_of_progress? {p : Progress} (h : d.progress? = some p) : d.outcome? = none := by
  unfold progress? at h
  unfold outcome?
  cases hphase : d.phase with
  | initializing | ended => simp [hphase] at h
  | progressing q | arriving q => rfl

theorem sound_of_running {p : Progress} (hp : d.progress? = some p) (onRoute : d.OnRoute reg) :
    d.Sound reg :=
  ⟨onRoute, fun o ho => by rw [outcome?_of_progress? hp] at ho; cases ho⟩

theorem sound_of_ended {o : Outcome} (hphase : d.phase = .ended o) (h : d.EndsWith reg o) :
    d.Sound reg where
  onRoute := ⟨fun p hp => by simp [progress?, hphase] at hp,
    fun p hp => by rw [hphase] at hp; cases hp⟩
  ended o' ho' := by
    rw [outcome?, hphase] at ho'
    cases ho'
    exact h

theorem sound_finish (il : Interlocking) {o : Outcome} (h : d.EndsWith reg o) :
    (d.finish il o).1.Sound reg :=
  sound_of_ended rfl ⟨h.manual, h.automatic, h.completed⟩

theorem sound_launch (reg : Registry) (train : TrainId) (route : RouteId) (mode : DriveMode) :
    (launch train route mode).Sound reg where
  onRoute := ⟨nofun, nofun⟩
  ended := nofun

theorem OnRoute.begin (h : d.OnRoute reg) (il : Interlocking) : (d.begin reg il).1.OnRoute reg := by
  have hbegun := begin_begun reg d il
  generalize d.begin reg il = result at hbegun ⊢
  cases hbegun with
  | already => exact h
  | refused => exact ⟨nofun, nofun⟩
  | started hfresh houtset =>
    obtain ⟨r, hr, hsignals, -⟩ := outset_eq_ok houtset
    refine ⟨?_, nofun⟩
    rintro q ⟨⟩
    exact ⟨r, hr, hsignals⟩

theorem Sound.begin (h : d.Sound reg) (il : Interlocking) : (d.begin reg il).1.Sound reg := by
  refine ⟨h.onRoute.begin il, ?_⟩
  have hbegun := begin_begun reg d il
  generalize d.begin reg il = result at hbegun ⊢
  cases hbegun with
  | already => exact h.ended
  | refused => exact (sound_finish _ (endsWith_aborted reg d _ _ _)).ended
  | started => exact nofun

theorem stopped_begin (reg : Registry) (d : Drive) (il : Interlocking) :
    (d.begin reg il).1.stopped = d.stopped := by
  have hbegun := begin_begun reg d il
  generalize d.begin reg il = result at hbegun ⊢
  cases hbegun with
  | already => rfl
  | refused hfresh => simp [stopped, finish, Outcome.stopped, hfresh]
  | started hfresh houtset =>
    obtain ⟨r, -, -, hstopped⟩ := outset_eq_ok houtset
    simp [stopped, hfresh, hstopped]

theorem hasReleased_begin (reg : Registry) (d : Drive) (il : Interlocking) :
    (d.begin reg il).1.hasReleased = d.hasReleased := by
  have hbegun := begin_begun reg d il
  generalize d.begin reg il = result at hbegun ⊢
  cases hbegun with
  | already => rfl
  | refused hfresh | started hfresh =>
    simp [hasReleased, outcome?, finish, Outcome.released, hfresh]

theorem Sound.cancel (h : d.Sound reg) : d.cancel.Sound reg where
  onRoute := ⟨h.onRoute.route, h.onRoute.arriving⟩
  ended o ho := ⟨(h.ended o ho).manual, (h.ended o ho).automatic, (h.ended o ho).completed⟩

theorem Sound.pass_of_begun (h : d.Sound reg) (hbegun : d.phase ≠ .initializing)
    (il : Interlocking) : (d.pass reg il).1.Sound reg := by
  cases hfinished : d.isFinished with
  | true =>
    rw [pass_of_finished reg il hfinished]
    exact h
  | false =>
    obtain ⟨p, hp⟩ := progress?_of_unfinished hfinished hbegun
    obtain ⟨r, hr, hsignals⟩ := h.onRoute.route p hp
    have hpassed := pass_passed il h.onRoute hp
    generalize d.pass reg il = result at hpassed ⊢
    -- A drive that completes has gone through all its records.
    have hall {il' : Interlocking} {p' : Progress} (stops : Stops il p il' p')
        (complete : p'.progression.isComplete = true) :
        ∃ r, reg.find? d.route = some r ∧
          ∀ q ∈ r.passedSignals, q ∈ p'.progression.stopped := by
      refine ⟨r, hr, fun q hq => ?_⟩
      apply Progression.mem_stopped_of_isComplete complete
      rwa [stops.signals, hsignals]
    cases hpassed with
    | aborted cause => exact sound_finish il (endsWith_aborted reg d _ _ _)
    | going active held stops next =>
      have hsame := stops.signals.trans hsignals
      rcases next with rfl | ⟨rfl, automatic, complete⟩
      · refine sound_of_running rfl ⟨?_, fun _ h => by cases h⟩
        intro q hq
        cases hq
        exact ⟨r, hr, hsame⟩
      · refine sound_of_running rfl ⟨?_, ?_⟩
        · intro q hq
          cases hq
          exact ⟨r, hr, hsame⟩
        · intro q hq
          cases hq
          exact ⟨automatic, complete⟩
    | completed active held stops complete manual =>
      refine sound_finish _ ⟨fun _ => rfl, ?_, fun _ => hall stops complete⟩
      intro automatic
      rw [manual] at automatic
      cases automatic
    | released active hi held stops complete automatic =>
      refine sound_finish _ ⟨?_, fun _ => ⟨fun _ => rfl, fun _ => rfl⟩,
        fun _ => hall stops complete⟩
      intro manual
      rw [automatic] at manual
      cases manual

theorem Sound.pass (h : d.Sound reg) (il : Interlocking) : (d.pass reg il).1.Sound reg := by
  rw [← pass_begin]
  exact (h.begin il).pass_of_begun (phase_begin_ne reg d il) _

theorem mem_stopped_pass_of_begun (h : d.OnRoute reg) (hbegun : d.phase ≠ .initializing)
    {q : SignalId} (hq : q ∈ (d.pass reg il).1.stopped) :
    q ∈ d.stopped ∨ il.Records (d.pass reg il).2 (.signal q .stop) := by
  cases hfinished : d.isFinished with
  | true =>
    rw [pass_of_finished reg il hfinished] at hq
    exact .inl hq
  | false =>
    obtain ⟨p, hp⟩ := progress?_of_unfinished hfinished hbegun
    rw [stopped_of_progress? hp]
    have hpassed := pass_passed il h hp
    generalize d.pass reg il = result at hpassed hq ⊢
    cases hpassed with
    | aborted cause => exact .inl hq
    | going active held stops next =>
      rcases next with rfl | ⟨rfl, -, -⟩ <;> exact stops.stopped q hq
    | completed active held stops complete manual =>
      rcases stops.stopped q hq with hbefore | hrecorded
      · exact .inl hbefore
      · exact .inr (hrecorded.mono_right (List.prefix_append _ _))
    | @released il' p' i faults active hi held stops complete automatic =>
      rcases stops.stopped q hq with hbefore | hrecorded
      · exact .inl hbefore
      · exact .inr ((hrecorded.mono_right (log_release il' reg i)).mono_right
          (List.prefix_append _ _))

theorem mem_stopped_pass (h : d.OnRoute reg) {q : SignalId}
    (hq : q ∈ (d.pass reg il).1.stopped) :
    q ∈ d.stopped ∨ il.Records (d.pass reg il).2 (.signal q .stop) := by
  rw [← pass_begin] at hq ⊢
  rcases mem_stopped_pass_of_begun (h.begin il) (phase_begin_ne reg d il) hq with hq | hrecorded
  · exact .inl (stopped_begin reg d il ▸ hq)
  · exact .inr (hrecorded.mono_left (log_begin reg d il))

theorem holder_pass_of_begun (il : Interlocking) (h : d.OnRoute reg)
    (hbegun : d.phase ≠ .initializing) :
    (d.pass reg il).2.holder = il.holder ∧
        (d.pass reg il).1.hasReleased = d.hasReleased ∨
      ∃ i, reg.index? d.route = some i ∧ il.holder i = some d.train ∧
        d.hasReleased = false ∧ (d.pass reg il).1.hasReleased = true ∧
        ∀ j, (d.pass reg il).2.holder j = if j = i then none else il.holder j := by
  cases hfinished : d.isFinished with
  | true =>
    rw [pass_of_finished reg il hfinished]
    exact .inl ⟨rfl, rfl⟩
  | false =>
    obtain ⟨p, hp⟩ := progress?_of_unfinished hfinished hbegun
    rw [hasReleased_of_progress? hp]
    have hpassed := pass_passed il h hp
    generalize d.pass reg il = result at hpassed ⊢
    cases hpassed with
    | aborted cause => exact .inl ⟨rfl, rfl⟩
    | going active held stops next =>
      rcases next with rfl | ⟨rfl, -, -⟩ <;> exact .inl ⟨stops.holder, rfl⟩
    | completed active held stops complete manual => exact .inl ⟨stops.holder, rfl⟩
    | @released il' p' i faults active hi held stops complete automatic =>
      refine .inr ⟨i, hi, held, rfl, rfl, ?_⟩
      obtain ⟨r, hr, -⟩ := Registry.route?_of_index? hi
      intro j
      rw [← stops.holder]
      change (il'.release reg i).1.holder j = _
      rw [holder_release]
      simp [hr]

/-- A pass changes no holder but that of the route of an automatic drive, which it takes from its
own train when it ends the drive. -/
theorem holder_pass (il : Interlocking) (h : d.OnRoute reg) :
    (d.pass reg il).2.holder = il.holder ∧
        (d.pass reg il).1.hasReleased = d.hasReleased ∨
      ∃ i, reg.index? d.route = some i ∧ il.holder i = some d.train ∧
        d.hasReleased = false ∧ (d.pass reg il).1.hasReleased = true ∧
        ∀ j, (d.pass reg il).2.holder j = if j = i then none else il.holder j := by
  have hbegun := holder_pass_of_begun (d.begin reg il).2 (h.begin il) (phase_begin_ne reg d il)
  rwa [pass_begin, holder_begin, hasReleased_begin, (train_route_begin reg d il).1,
    (train_route_begin reg d il).2] at hbegun

/-- The last pass of an automatic drive, which has come through all its signals. -/
inductive LastPass (reg : Registry) (d : Drive) (il : Interlocking) : Drive × Interlocking → Prop
  | intro {r : Route} {i : RouteIndex} {il' : Interlocking} {p : Progress}
    {faults : List TrackFault} (hr : reg.find? d.route = some r)
    (hi : reg.index? d.route = some i) (automatic : d.mode = .automatic)
    (active : d.cancelled = false) (holder : il'.holder = il.holder)
    (signals : p.progression.records.map (·.signal) = r.signals)
    (complete : p.progression.isComplete = true) :
    LastPass reg d il
      (d.finish (il'.release reg i).1 (.completed p.progression.stopped true faults))

theorem lastPass_of_begun (h : d.OnRoute reg) (hbegun : d.phase ≠ .initializing)
    (hchanged : (d.pass reg il).2.holder ≠ il.holder) : LastPass reg d il (d.pass reg il) := by
  cases hfinished : d.isFinished with
  | true =>
    rw [pass_of_finished reg il hfinished] at hchanged
    exact absurd rfl hchanged
  | false =>
    obtain ⟨p, hp⟩ := progress?_of_unfinished hfinished hbegun
    obtain ⟨r, hr, hsignals⟩ := h.route p hp
    have hpassed := pass_passed il h hp
    generalize d.pass reg il = result at hpassed hchanged ⊢
    cases hpassed with
    | aborted cause => exact absurd rfl hchanged
    | going active held stops next => exact absurd stops.holder hchanged
    | completed active held stops complete manual => exact absurd stops.holder hchanged
    | released active hi held stops complete automatic =>
      exact .intro hr hi automatic active stops.holder (stops.signals.trans hsignals) complete

theorem lastPass_of_holder_ne (h : d.OnRoute reg)
    (hchanged : (d.pass reg il).2.holder ≠ il.holder) : LastPass reg d il (d.pass reg il) := by
  rw [← pass_begin, ← holder_begin reg d il] at hchanged
  have hbegun := lastPass_of_begun (h.begin il) (phase_begin_ne reg d il) hchanged
  rw [pass_begin] at hbegun
  obtain ⟨phase, hphase⟩ := exists_phase_begin reg d il
  rw [hphase] at hbegun
  generalize d.pass reg il = result at hbegun ⊢
  cases hbegun with
  | intro hr hi automatic active holder signals complete =>
    exact .intro hr hi automatic active (holder.trans (holder_begin reg d il)) signals complete

theorem train_route_pass_of_begun (il : Interlocking) (h : d.OnRoute reg)
    (hbegun : d.phase ≠ .initializing) :
    (d.pass reg il).1.train = d.train ∧ (d.pass reg il).1.route = d.route := by
  cases hfinished : d.isFinished with
  | true =>
    rw [pass_of_finished reg il hfinished]
    exact ⟨rfl, rfl⟩
  | false =>
    obtain ⟨p, hp⟩ := progress?_of_unfinished hfinished hbegun
    have hpassed := pass_passed il h hp
    generalize d.pass reg il = result at hpassed ⊢
    cases hpassed <;> exact ⟨rfl, rfl⟩

theorem train_route_pass (il : Interlocking) (h : d.OnRoute reg) :
    (d.pass reg il).1.train = d.train ∧ (d.pass reg il).1.route = d.route := by
  obtain ⟨htrain, hroute⟩ := train_route_begin reg d il
  have hbegun := train_route_pass_of_begun (d.begin reg il).2 (h.begin il) (phase_begin_ne reg d il)
  rwa [pass_begin, htrain, hroute] at hbegun

/-- What makes a drive abort at its next pass. -/
inductive Cause (reg : Registry) (d : Drive) (il : Interlocking) : AbortReason → Prop
  | cancelled (h : d.cancelled = true) : Cause reg d il .cancelled
  | lost (h : il.isHeldBy reg d.route d.train = false) : Cause reg d il (.notGranted d.route)
  /-- the drive cannot start out on its route -/
  | refused {reason : AbortReason} (hphase : d.phase = .initializing)
    (h : outset reg d.route = .error reason) : Cause reg d il reason

theorem pass_eq_abort (h : d.OnRoute reg) {p : Progress} (hp : d.progress? = some p)
    {reason : AbortReason} (cause : d.Cause reg il reason) :
    ∃ reason, d.Cause reg il reason ∧ d.pass reg il = d.abort il reason p := by
  have hpassed := pass_passed il h hp
  have hstays (active : d.cancelled = false) (held : il.isHeldBy reg d.route d.train = true) :
      False := by
    cases cause with
    | cancelled hcancelled =>
      rw [active] at hcancelled
      cases hcancelled
    | lost hlost =>
      rw [held] at hlost
      cases hlost
    | refused hphase => exact phase_ne_of_progress? hp hphase
  generalize d.pass reg il = result at hpassed ⊢
  cases hpassed with
  | @aborted reason cause =>
    refine ⟨reason, ?_, rfl⟩
    rcases cause with ⟨hcancelled, rfl⟩ | ⟨hlost, rfl⟩
    · exact .cancelled hcancelled
    · exact .lost hlost
  | going active held => exact (hstays active held).elim
  | completed active held => exact (hstays active held).elim
  | released active hi held => exact (hstays active (isHeldBy_iff.mpr ⟨_, hi, held⟩)).elim

theorem cause_of_aborted_of_begun (h : d.OnRoute reg) (hunfinished : d.isFinished = false)
    (hbegun : d.phase ≠ .initializing) (haborted : (d.pass reg il).1.state = .aborted) :
    ∃ reason, d.Cause reg il reason := by
  obtain ⟨p, hp⟩ := progress?_of_unfinished hunfinished hbegun
  have hpassed := pass_passed il h hp
  generalize d.pass reg il = result at hpassed haborted
  cases hpassed with
  | aborted cause =>
    rcases cause with ⟨hcancelled, -⟩ | ⟨hlost, -⟩
    · exact ⟨_, .cancelled hcancelled⟩
    · exact ⟨_, .lost hlost⟩
  | going active held stops next =>
    rcases next with rfl | ⟨rfl, -, -⟩ <;> cases haborted
  | completed => cases haborted
  | released => cases haborted

theorem cause_of_aborted (h : d.OnRoute reg) (hunfinished : d.isFinished = false)
    (haborted : (d.pass reg il).1.state = .aborted) : ∃ reason, d.Cause reg il reason := by
  rw [← pass_begin] at haborted
  have hbegun := begin_begun reg d il
  have honRoute := h.begin il
  generalize d.begin reg il = result at hbegun honRoute haborted
  cases hbegun with
  | already hbefore => exact cause_of_aborted_of_begun h hunfinished hbefore haborted
  | refused hfresh houtset => exact ⟨_, .refused hfresh houtset⟩
  | started =>
    obtain ⟨reason, cause⟩ := cause_of_aborted_of_begun honRoute rfl nofun haborted
    cases cause with
    | cancelled hcancelled => exact ⟨_, .cancelled hcancelled⟩
    | lost hlost => exact ⟨_, .lost hlost⟩
    | refused hphase => cases hphase

end Sound

end Drive

end Signalbox
