import Signalbox.Proofs.Operation
import Signalbox.Proofs.PassOrder

/-!
Signals that do not obey. A signal takes commands unless it has been jammed or lost, which nothing
but the operation of that name does and nothing undoes. So the operations of a run tell which
fault a command to a declared signal meets.
-/
namespace Signalbox

namespace Track

theorem jammed_jam (t : Track) (id q : String) :
    (t.jam id).jammed q = (t.jammed q || id == q) := by
  by_cases hq : q = id
  · simp [jam, hq]
  · simp [jam, hq, Ne.symm hq]

theorem isSome_aspect_lose (t : Track) (signal q : SignalId) :
    ((t.lose signal).aspect q).isSome = ((t.aspect q).isSome && !(signal == q)) := by
  by_cases hq : q = signal
  · simp [lose, hq]
  · simp [lose, hq, Ne.symm hq]

end Track

namespace Interlocking

structure SameSignals (il il' : Interlocking) : Prop where
  jammed : il'.track.jammed = il.track.jammed
  reports : ∀ q, (il'.track.aspect q).isSome = (il.track.aspect q).isSome

section SameSignals

variable {il il' il'' : Interlocking} {reg : Registry}

theorem SameSignals.refl (il : Interlocking) : SameSignals il il := ⟨rfl, fun _ => rfl⟩

theorem SameSignals.trans (h : SameSignals il il') (h' : SameSignals il' il'') :
    SameSignals il il'' :=
  ⟨h'.jammed.trans h.jammed, fun q => (h'.reports q).trans (h.reports q)⟩

theorem SameSignals.refusal?_eq (h : SameSignals il il') (q : SignalId) :
    il'.refusal? q = il.refusal? q := by
  unfold refusal?
  rw [h.jammed, ← Option.not_isSome, ← Option.not_isSome, h.reports]

theorem SameSignals.obeys_eq (h : SameSignals il il') (q : SignalId) :
    il'.obeys q = il.obeys q := by
  unfold obeys
  rw [h.jammed, h.reports]

theorem sameSignals_of_track_eq (h : il'.track = il.track) : SameSignals il il' :=
  ⟨by rw [h], fun q => by rw [h]⟩

theorem sameSignals_of_aspect (hjammed : il'.track.jammed = il.track.jammed)
    {P : SignalId → Prop} [DecidablePred P] {shown : SignalId → Aspect}
    (haspect : ∀ q, il'.track.aspect q =
      if P q ∧ il.obeys q = true then some (shown q) else il.track.aspect q) :
    SameSignals il il' where
  jammed := hjammed
  reports q := by
    rw [haspect]
    split
    · rename_i h
      exact (Bool.and_eq_true_iff.mp h.2).2.symm
    · rfl

theorem sameSignals_commandSignal (il : Interlocking) (s : SignalId) (a : Aspect) :
    SameSignals il (il.commandSignal s a).1 :=
  sameSignals_of_aspect (jammed_commandSignal il s a) (P := (· = s))
    fun q => aspect_commandSignal il s q a

theorem commandSignal_snd (il : Interlocking) (s : SignalId) (a : Aspect) :
    (il.commandSignal s a).2 = il.refusal? s := by
  unfold commandSignal Track.setAspect refusal?
  by_cases hjammed : il.track.jammed s = true
  · simp [hjammed]
  · cases haspect : il.track.aspect s <;> simp [hjammed]

theorem commandSignals_snd (il : Interlocking) (aspectOf : SignalId → Aspect)
    (signals : List SignalId) :
    (il.commandSignals (signals.map fun s => (s, aspectOf s))).2 =
      signals.filterMap il.refusal? := by
  unfold commandSignals
  induction signals generalizing il with
  | nil => rfl
  | cons s rest ih =>
    have hsame : (il.commandSignal s (aspectOf s)).1.refusal? = il.refusal? :=
      funext (sameSignals_commandSignal il s (aspectOf s)).refusal?_eq
    have hrest := ih (il.commandSignal s (aspectOf s)).1
    rw [hsame] at hrest
    rw [List.map_cons, commandAll]
    dsimp only
    rw [hrest, commandSignal_snd, List.filterMap_cons]
    cases il.refusal? s <;> rfl

theorem sameSignals_commit (il : Interlocking) (reg : Registry) (train : TrainId)
    (i : RouteIndex) (r : Route) : SameSignals il (il.commit reg train i r).1 :=
  sameSignals_of_aspect (jammed_commit il reg train i r) (aspect_commit il reg train i r)

theorem sameSignals_release (il : Interlocking) (reg : Registry) (i : RouteIndex) :
    SameSignals il (il.release reg i).1 := by
  cases hr : reg.route? i with
  | none =>
    rw [release_of_unknown il reg i hr]
    exact .refl il
  | some r =>
    cases hheld : il.isHeld i with
    | false =>
      rw [release_of_free il reg i hheld]
      exact .refl il
    | true =>
      exact sameSignals_of_aspect (jammed_release il reg i) (aspect_release il reg i hr hheld)

theorem Withdraws.sameSignals {noted : Event → Bool} (h : Withdraws reg noted il il') :
    SameSignals il il' := by
  refine h.keeps (P := SameSignals il) ?_ (.refl il)
  intro a b hstep ha
  cases hstep with
  | stop s => exact ha.trans (sameSignals_commandSignal a s .stop)
  | release i => exact ha.trans (sameSignals_release a reg i)
  | note e _ => exact ha.trans (sameSignals_of_track_eq rfl)

theorem Effect.sameSignals {policy : ConflictPolicy} {noted : Event → Bool}
    (h : Effect reg policy noted il il') : SameSignals il il' := by
  cases h with
  | refused h => exact sameSignals_of_track_eq h.track_eq
  | granted hr h => exact sameSignals_commit ..
  | withdrawn h => exact h.sameSignals

end SameSignals

end Interlocking

namespace Operation

def jams (id : String) : Operation → Bool
  | .command (.jam other) => other == id
  | _ => false

def loses (signal : SignalId) : Operation → Bool
  | .command (.lose other) => other == signal
  | _ => false

/-- Whether the track is found in another state without anything having been done to it. -/
def isDisturbance : Operation → Bool
  | .disturb _ => true
  | _ => false

/-- The fault that a command to a declared signal meets after these operations. -/
def faultOf? (operations : List Operation) (signal : SignalId) : Option TrackFault :=
  if operations.any (·.jams signal) then some (.jammedSignal signal)
  else if operations.any (·.loses signal) then some (.unknownSignal signal)
  else none

end Operation

namespace Session

open Interlocking

variable {reg : Registry} {s : Session} {op : Operation}

theorem signals_operate_of_sameSignals
    (h : SameSignals s.interlocking (s.operate reg op).interlocking) (q : SignalId)
    (hjams : op.jams q = false) (hloses : op.loses q = false) :
    (s.operate reg op).interlocking.track.jammed q =
        (s.interlocking.track.jammed q || op.jams q) ∧
      ((s.operate reg op).interlocking.track.aspect q).isSome =
        ((s.interlocking.track.aspect q).isSome && !op.loses q) := by
  rw [h.jammed, h.reports, hjams, hloses]
  simp

theorem signals_operate (reg : Registry) (s : Session) (h : op.isDisturbance = false)
    (q : SignalId) :
    (s.operate reg op).interlocking.track.jammed q =
        (s.interlocking.track.jammed q || op.jams q) ∧
      ((s.operate reg op).interlocking.track.aspect q).isSome =
        ((s.interlocking.track.aspect q).isSome && !op.loses q) := by
  cases houtside : op.isOutside with
  | false =>
    have heffect := operate_effect reg s houtside
    refine signals_operate_of_sameSignals heffect.sameSignals q ?_ ?_
    · cases op with
      | command c => cases c <;> first | rfl | cases houtside
      | _ => rfl
    · cases op with
      | command c => cases c <;> first | rfl | cases houtside
      | _ => rfl
  | true =>
    cases op with
    | disturb track => cases h
    | command c =>
      cases c with
      | place | removeTrain | mark =>
        exact signals_operate_of_sameSignals ⟨rfl, fun _ => rfl⟩ q rfl rfl
      | setAspect signal a =>
        refine signals_operate_of_sameSignals ?_ q rfl rfl
        simp only [operate, perform, answer_fst]
        exact sameSignals_commandSignal s.interlocking signal a
      | setPoint point p =>
        refine signals_operate_of_sameSignals ?_ q rfl rfl
        simp only [operate, perform, answer_fst]
        obtain ⟨haspect, hjammed⟩ := track_commandPoint s.interlocking point p
        exact ⟨hjammed, fun s => congrArg Option.isSome (congrFun haspect s)⟩
      | jam id =>
        exact ⟨s.interlocking.track.jammed_jam id q, (Bool.and_true _).symm⟩
      | lose signal =>
        exact ⟨(Bool.or_false _).symm, s.interlocking.track.isSome_aspect_lose signal q⟩
      | _ => cases houtside
    | _ => cases houtside

theorem signals_operateAll (reg : Registry) (s : Session) {operations : List Operation}
    (undisturbed : ∀ op ∈ operations, op.isDisturbance = false) (q : SignalId) :
    (s.operateAll reg operations).interlocking.track.jammed q =
        (s.interlocking.track.jammed q || operations.any (·.jams q)) ∧
      ((s.operateAll reg operations).interlocking.track.aspect q).isSome =
        ((s.interlocking.track.aspect q).isSome && !operations.any (·.loses q)) := by
  induction operations generalizing s with
  | nil => simp [operateAll]
  | cons op rest ih =>
    rw [List.forall_mem_cons] at undisturbed
    obtain ⟨hjammed, hreports⟩ := signals_operate reg s undisturbed.1 q
    obtain ⟨hjammed', hreports'⟩ := ih (s.operate reg op) undisturbed.2
    rw [List.any_cons, List.any_cons, Bool.not_or, ← Bool.or_assoc, ← Bool.and_assoc, ← hjammed,
      ← hreports]
    exact ⟨hjammed', hreports'⟩

/-- In a run from the start, what stands in the way of a command to a declared signal is the fault
that the operations tell. -/
theorem refusal?_operateAll {config : SessionConfig} (started : start reg config = .ok s)
    {operations : List Operation} (undisturbed : ∀ op ∈ operations, op.isDisturbance = false)
    {q : SignalId} (declared : reg.topology.isSignal q = true) :
    (s.operateAll reg operations).interlocking.refusal? q =
      Operation.faultOf? operations q := by
  obtain ⟨hjammed, hreports⟩ := signals_operateAll reg s undisturbed q
  rw [interlocking_of_start started] at hjammed hreports
  unfold refusal? Operation.faultOf?
  rw [hjammed, ← Option.not_isSome, hreports]
  simp [Interlocking.initial, Track.initial, declared]

end Session

end Signalbox
