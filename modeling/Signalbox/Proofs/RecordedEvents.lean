import Signalbox.Proofs.Withdrawal

/-!
What is recorded. Nothing is ever taken off a history, and each part of an operation adds events
of some kinds only: commands those of signals and points, a grant and a release one of the route
besides, and a withdrawal what it notes.
-/
namespace Signalbox

namespace Event

def isRefusal : Event → Bool
  | .route _ .notGrantable | .route _ .notClear => true
  | _ => false

def isGrab : Event → Bool
  | .grab .. => true
  | _ => false

theorem of_isDrive {kind : Event → Prop}
    (h : ∀ train route state, kind (.drive train route state)) (e : Event)
    (he : e.isDrive = true) : kind e := by
  cases e with
  | drive train route state => exact h train route state
  | _ => cases he

end Event

namespace Interlocking

def Adds (kind : Event → Prop) (il il' : Interlocking) : Prop :=
  ∃ events, il'.log = il.log ++ events ∧ ∀ e ∈ events, kind e

section Adds

variable {kind : Event → Prop} {il il' il'' : Interlocking}

theorem Adds.of_log_eq (h : il'.log = il.log) : il.Adds kind il' :=
  ⟨[], by rw [h, List.append_nil], by simp⟩

theorem Adds.refl (il : Interlocking) : il.Adds kind il := .of_log_eq rfl

theorem Adds.trans (h : il.Adds kind il') (h' : il'.Adds kind il'') : il.Adds kind il'' := by
  obtain ⟨first, hfirst, hkind⟩ := h
  obtain ⟨second, hsecond, hkind'⟩ := h'
  refine ⟨first ++ second, by rw [hsecond, hfirst, List.append_assoc], ?_⟩
  exact List.forall_mem_append.mpr ⟨hkind, hkind'⟩

theorem Adds.log_prefix (h : il.Adds kind il') : il.log <+: il'.log := by
  obtain ⟨events, hlog, -⟩ := h
  exact ⟨events, hlog.symm⟩

theorem adds_record (il : Interlocking) {e : Event} (h : kind e) : il.Adds kind (il.record e) :=
  ⟨[e], rfl, by simpa using h⟩

theorem Adds.filterMap_eq {β : Type} {g : Event → Option β} (h : il.Adds kind il')
    (hg : ∀ e, kind e → g e = none) : il'.log.filterMap g = il.log.filterMap g := by
  obtain ⟨events, hlog, hevents⟩ := h
  have hnone : events.filterMap g = [] :=
    List.filterMap_eq_nil_iff.mpr fun e he => hg e (hevents e he)
  rw [hlog, List.filterMap_append, hnone, List.append_nil]

/-! ### Commands -/

theorem adds_commandSignal (il : Interlocking) (s : SignalId) (a : Aspect)
    (h : kind (.signal s a)) : il.Adds kind (il.commandSignal s a).1 := by
  unfold commandSignal
  split
  · exact ⟨[.signal s a], rfl, by simpa using h⟩
  · exact .refl il

theorem adds_commandPoint (il : Interlocking) (p : PointId) (position : PointPosition)
    (h : kind (.point p position)) : il.Adds kind (il.commandPoint p position).1 := by
  unfold commandPoint
  split
  · exact ⟨[.point p position], rfl, by simpa using h⟩
  · exact .refl il

theorem adds_commandAll {α : Type}
    {command : Interlocking → α → Interlocking × Option TrackFault}
    (h : ∀ (il : Interlocking) a, il.Adds kind (command il a).1) (il : Interlocking)
    (commands : List α) : il.Adds kind (commandAll command il commands).1 := by
  induction commands generalizing il with
  | nil => exact .refl il
  | cons a rest ih => exact (h il a).trans (ih _)

theorem adds_commandSignals (il : Interlocking) (hsignal : ∀ s a, kind (.signal s a))
    (commands : List (SignalId × Aspect)) : il.Adds kind (il.commandSignals commands).1 :=
  adds_commandAll (fun il c => adds_commandSignal il c.1 c.2 (hsignal c.1 c.2)) il commands

theorem adds_after_granted (il : Interlocking) (reg : Registry) (train : TrainId) (i : RouteIndex)
    (r : Route) (hsignal : ∀ s a, kind (.signal s a)) (hpoint : ∀ p c, kind (.point p c)) :
    ((il.setHolder i (some train)).record (.route r.id (.granted train))).Adds kind
      (il.commit reg train i r).1 :=
  (adds_commandAll (fun il c => adds_commandPoint il c.1 c.2 (hpoint c.1 c.2)) _ r.points).trans
    (adds_commandSignals _ hsignal _)

theorem adds_commit (il : Interlocking) (reg : Registry) (train : TrainId) (i : RouteIndex)
    (r : Route) (hsignal : ∀ s a, kind (.signal s a)) (hpoint : ∀ p c, kind (.point p c))
    (hgranted : kind (.route r.id (.granted train))) : il.Adds kind (il.commit reg train i r).1 :=
  (adds_record _ hgranted).trans (adds_after_granted il reg train i r hsignal hpoint)

/-! ### Operations -/

theorem adds_release (il : Interlocking) (reg : Registry) (i : RouteIndex)
    (hsignal : ∀ s a, kind (.signal s a)) (hreleased : ∀ id, kind (.route id .released)) :
    il.Adds kind (il.release reg i).1 := by
  cases hr : reg.route? i with
  | none =>
    rw [release_of_unknown il reg i hr]
    exact .refl il
  | some r =>
    cases hheld : il.isHeld i with
    | false =>
      rw [release_of_free il reg i hheld]
      exact .refl il
    | true =>
      rw [release_of_held il reg i hr hheld]
      exact (adds_commandSignals il hsignal _).trans (adds_record _ (hreleased r.id))

theorem Withdraws.adds {reg : Registry} {noted : Event → Bool} (h : Withdraws reg noted il il')
    (hsignal : ∀ s a, kind (.signal s a)) (hreleased : ∀ id, kind (.route id .released))
    (hnoted : ∀ e, noted e = true → kind e) : il.Adds kind il' := by
  induction h with
  | refl => exact .refl il
  | tail _ hstep ih =>
    apply ih.trans
    cases hstep with
    | stop s => exact adds_commandSignal _ s .stop (hsignal s .stop)
    | release i => exact adds_release _ reg i hsignal hreleased
    | note e he => exact adds_record _ (hnoted e he)

theorem Withdraws.grows {reg : Registry} {noted : Event → Bool} (h : Withdraws reg noted il il') :
    il.Adds (fun _ => True) il' :=
  h.adds (fun _ _ => trivial) (fun _ => trivial) fun _ _ => trivial

end Adds

end Interlocking

end Signalbox
