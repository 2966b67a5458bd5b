import Signalbox.Proofs.Operation

/-!
Signals that admit trains. As long as signals are set by routes alone and none is jammed, a
signal that does not show stop is passed by a route that is held, and shows what its kind shows
for a route.
-/
namespace Signalbox

namespace Interlocking

def IsPassed (reg : Registry) (il : Interlocking) (s : SignalId) : Prop :=
  ∃ i r, reg.route? i = some r ∧ il.isHeld i = true ∧ s ∈ r.passedSignals

structure SetByRoutes (reg : Registry) (il : Interlocking) : Prop where
  unjammed : ∀ s, il.track.jammed s = false
  declared : ∀ s, (il.track.aspect s).isSome → reg.topology.isSignal s = true
  proceeding : ∀ s a, il.track.aspect s = some a → a ≠ .stop →
    IsPassed reg il s ∧ a = proceedAspect reg.topology s

variable {reg : Registry} {il il' : Interlocking}

theorem IsPassed.heldRoutes_ne_nil {s : SignalId} (h : IsPassed reg il s) :
    il.heldRoutes reg ≠ [] := by
  obtain ⟨i, r, hr, hheld, -⟩ := h
  obtain ⟨train, htrain⟩ := Option.isSome_iff_exists.mp hheld
  have hmem : (r, i) ∈ reg.routes.zipIdx := List.mem_zipIdx_iff_getElem?.mpr hr
  have hlisted : (r.id, train) ∈ il.heldRoutes reg :=
    List.mem_filterMap.mpr ⟨(r, i), hmem, by simp [htrain]⟩
  exact List.ne_nil_of_mem hlisted

theorem setByRoutes_initial (reg : Registry) : SetByRoutes reg (.initial reg.topology) where
  unjammed _ := rfl
  declared := by
    intro s h
    by_contra hundeclared
    simp [initial, Track.initial, hundeclared] at h
  proceeding := by
    intro s a h hstop
    have hshown : a = .stop := by
      simp only [initial, Track.initial] at h
      split at h
      · exact (Option.some.inj h).symm
      · cases h
    exact absurd hshown hstop

namespace SetByRoutes

theorem obeys_eq (h : SetByRoutes reg il) (s : SignalId) :
    il.obeys s = (il.track.aspect s).isSome := by
  simp [obeys, h.unjammed s]

theorem of_reported (h : SetByRoutes reg il) (hjammed : il'.track.jammed = il.track.jammed)
    (hholder : il'.holder = il.holder)
    (hreported : ∀ s a, il'.track.aspect s = some a → il.track.aspect s = some a) :
    SetByRoutes reg il' where
  unjammed s := by rw [hjammed, h.unjammed]
  declared := by
    intro s hs
    obtain ⟨a, ha⟩ := Option.isSome_iff_exists.mp hs
    apply h.declared
    rw [hreported s a ha]
    rfl
  proceeding := by
    intro s a ha hstop
    have hpassed := h.proceeding s a (hreported s a ha) hstop
    unfold IsPassed isHeld at hpassed ⊢
    rw [hholder]
    exact hpassed

theorem of_track_eq (h : SetByRoutes reg il) (htrack : il'.track = il.track)
    (hholder : il'.holder = il.holder) : SetByRoutes reg il' := by
  apply h.of_reported (by rw [htrack]) hholder
  intro s a ha
  rw [← htrack]
  exact ha

theorem declared_of_command (h : SetByRoutes reg il) {q : SignalId} {named : Prop}
    [Decidable named] {a : Aspect} (haspect : il'.track.aspect q =
      if named ∧ il.obeys q = true then some a else il.track.aspect q)
    (hq : (il'.track.aspect q).isSome = true) : reg.topology.isSignal q = true := by
  apply h.declared
  rw [haspect, h.obeys_eq] at hq
  split at hq
  · rename_i hcase
    exact hcase.2
  · exact hq

theorem stop (h : SetByRoutes reg il) (s : SignalId) :
    SetByRoutes reg (il.commandSignal s .stop).1 where
  unjammed q := by rw [jammed_commandSignal, h.unjammed]
  declared q := h.declared_of_command (aspect_commandSignal il s q .stop)
  proceeding := by
    intro q a ha hstop
    rw [aspect_commandSignal] at ha
    split at ha
    · exact absurd (Option.some.inj ha).symm hstop
    · have hpassed := h.proceeding q a ha hstop
      unfold IsPassed isHeld at hpassed ⊢
      rw [holder_commandSignal]
      exact hpassed

theorem release (h : SetByRoutes reg il) (i : RouteIndex) :
    SetByRoutes reg (il.release reg i).1 := by
  cases hr : reg.route? i with
  | none =>
    rw [release_of_unknown il reg i hr]
    exact h
  | some r =>
    cases hheld : il.isHeld i with
    | false =>
      rw [release_of_free il reg i hheld]
      exact h
    | true =>
      have haspect := aspect_release il reg i hr hheld
      constructor
      case unjammed =>
        intro q
        rw [jammed_release, h.unjammed]
      case declared =>
        intro q
        exact h.declared_of_command (haspect q)
      case proceeding =>
        intro q a ha hstop
        rw [haspect] at ha
        split at ha
        · exact absurd (Option.some.inj ha).symm hstop
        · rename_i hkept
          obtain ⟨⟨j, other, hother, hjheld, hpassed⟩, hshown⟩ := h.proceeding q a ha hstop
          have hobeys : il.obeys q = true := by
            rw [h.obeys_eq, ha]
            rfl
          -- The released route has stopped all signals it lists, so it is not this one.
          have hne : j ≠ i := by
            intro hsame
            subst hsame
            rw [hr, Option.some.injEq] at hother
            subst hother
            exact hkept ⟨List.dropLast_subset _ hpassed, hobeys⟩
          refine ⟨⟨j, other, hother, ?_, hpassed⟩, hshown⟩
          unfold isHeld
          rw [holder_release, if_neg fun hcase => hne hcase.1]
          exact hjheld

theorem withdraws {noted : Event → Bool} (h : SetByRoutes reg il)
    (hw : Withdraws reg noted il il') : SetByRoutes reg il' := by
  apply hw.keeps (P := SetByRoutes reg) ?_ h
  intro a b hstep ha
  cases hstep with
  | stop s => exact ha.stop s
  | release i => exact ha.release i
  | note e _ => exact ha.of_track_eq rfl rfl

theorem commit (h : SetByRoutes reg il) (train : TrainId) {i : RouteIndex} {r : Route}
    (hr : reg.route? i = some r) : SetByRoutes reg (il.commit reg train i r).1 where
  unjammed q := by rw [jammed_commit, h.unjammed]
  declared q := h.declared_of_command (aspect_commit il reg train i r q)
  proceeding := by
    intro q a ha hstop
    rw [aspect_commit] at ha
    split at ha
    · rename_i hcase
      refine ⟨⟨i, r, hr, ?_, hcase.1⟩, (Option.some.inj ha).symm⟩
      unfold isHeld
      rw [holder_commit, if_pos rfl]
      rfl
    · obtain ⟨⟨j, other, hother, hjheld, hpassed⟩, hshown⟩ := h.proceeding q a ha hstop
      refine ⟨⟨j, other, hother, ?_, hpassed⟩, hshown⟩
      unfold isHeld
      rw [holder_commit]
      split
      · rfl
      · exact hjheld

theorem effect {policy : ConflictPolicy} {noted : Event → Bool} (h : SetByRoutes reg il)
    (heffect : Effect reg policy noted il il') : SetByRoutes reg il' := by
  cases heffect with
  | refused hrefused => exact h.of_track_eq hrefused.track_eq hrefused.holder_eq
  | withdrawn hw => exact h.withdraws hw
  | granted hr _ => exact h.commit _ hr

end SetByRoutes

end Interlocking

/-- Whether an operation leaves the aspects of signals to the routes, and jams nothing. -/
def Operation.sparesSignals : Operation → Bool
  | .command (.setAspect ..) | .command (.jam _) | .disturb _ => false
  | _ => true

namespace Session

open Interlocking

variable {reg : Registry} {s : Session}

theorem setByRoutes_operate (h : SetByRoutes reg s.interlocking) {op : Operation}
    (hspares : op.sparesSignals = true) :
    SetByRoutes reg (s.operate reg op).interlocking := by
  cases houtside : op.isOutside with
  | false => exact h.effect (operate_effect reg s houtside)
  | true =>
    cases op with
    | command c =>
      cases c with
      | place | removeTrain | mark => exact h.of_reported rfl rfl fun _ _ ha => ha
      | setPoint point p =>
        simp only [operate, perform, answer_fst]
        obtain ⟨haspect, hjammed⟩ := track_commandPoint s.interlocking point p
        apply h.of_reported hjammed (holder_commandPoint s.interlocking point p)
        intro q a ha
        rw [← haspect]
        exact ha
      | lose signal =>
        have hreported (q : SignalId) (a : Aspect)
            (ha : (s.interlocking.track.lose signal).aspect q = some a) :
            s.interlocking.track.aspect q = some a := by
          simp only [Track.lose] at ha
          split at ha
          · cases ha
          · exact ha
        exact h.of_reported rfl rfl hreported
      | setAspect | jam => cases hspares
      | _ => cases houtside
    | disturb => cases hspares
    | _ => cases houtside

theorem Reachable.setByRoutes (h : Reachable reg (·.sparesSignals = true) s) :
    SetByRoutes reg s.interlocking := by
  induction h with
  | start hstart =>
    rw [interlocking_of_start hstart]
    exact setByRoutes_initial reg
  | step _ hspares ih => exact setByRoutes_operate ih hspares

/-- In every state that the site can come to while signals are set by routes alone and nothing
is jammed, a signal at a proceed aspect is passed by a held route and shows the one of its
kind. While no route is held, all signals that report an aspect show stop. -/
theorem proceed_aspects_set_by_routes (h : Reachable reg (·.sparesSignals = true) s) :
    (∀ q a, s.interlocking.track.aspect q = some a → a.isPermissive = true →
      IsPassed reg s.interlocking q ∧
        ∃ kind, reg.topology.kind? q = some kind ∧ a = kind.proceedAspect) ∧
    (s.interlocking.heldRoutes reg = [] →
      ∀ q a, s.interlocking.track.aspect q = some a → a = .stop) := by
  have hset := h.setByRoutes
  constructor
  · intro q a ha hpermissive
    have hstop : a ≠ .stop := by
      intro hstop
      rw [hstop] at hpermissive
      cases hpermissive
    obtain ⟨hpassed, hshown⟩ := hset.proceeding q a ha hstop
    have hdeclared : (reg.topology.kind? q).isSome = true := by
      rw [Topology.isSome_kind?]
      apply hset.declared
      rw [ha]
      rfl
    obtain ⟨kind, hkind⟩ := Option.isSome_iff_exists.mp hdeclared
    refine ⟨hpassed, kind, hkind, ?_⟩
    rw [hshown, proceedAspect, hkind]
    rfl
  · intro hfree q a ha
    by_contra hstop
    obtain ⟨hpassed, -⟩ := hset.proceeding q a ha hstop
    exact hpassed.heldRoutes_ne_nil hfree

/-- A route opens its first two signals and not its last one. -/
theorem junction_aspects_of_grant :
    let s := junctionSession.operateAll junctionRoutes [.command (.directGrant "T1" "left")]
    Reachable junctionRoutes (·.sparesSignals = true) s ∧
      s.interlocking.track.aspect "m" = some .go ∧ IsPassed junctionRoutes s.interlocking "m" ∧
      s.interlocking.track.aspect "t" = some .stop := by
  intro s
  have hreachable : Reachable junctionRoutes (·.sparesSignals = true) s :=
    (Reachable.start junction_started).operateAll (by decide)
  have haspect : s.interlocking.track.aspect "m" = some .go := rfl
  exact ⟨hreachable, haspect,
    ((proceed_aspects_set_by_routes hreachable).1 "m" .go haspect rfl).1, rfl⟩

end Session

end Signalbox
