import Signalbox.Proofs.Operation
import Signalbox.Proofs.SectionalCheck

/-!
Reports that get worse. Every question that a grant puts to the track is answered in favour of a
refusal where a segment is occupied or an aspect is unknown. So a track that reports more
occupancy, or fewer aspects, admits no route that it did not admit before.
-/
namespace Signalbox

/-- The second track reports every segment occupied that the first one does, and of each signal
the same aspect or none. -/
structure Track.Worsens (t t' : Track) : Prop where
  occupied : ∀ segment, t.isOccupied segment = true → t'.isOccupied segment = true
  aspect : ∀ signal, t'.aspect signal = t.aspect signal ∨ t'.aspect signal = none

namespace Track

variable {t t' t'' : Track}

theorem Worsens.refl (t : Track) : t.Worsens t := ⟨fun _ h => h, fun _ => .inl rfl⟩

theorem Worsens.trans (h : t.Worsens t') (h' : t'.Worsens t'') : t.Worsens t'' where
  occupied segment hsegment := h'.occupied segment (h.occupied segment hsegment)
  aspect signal := by
    rcases h'.aspect signal with hsame | hnone
    · rw [hsame]
      exact h.aspect signal
    · exact .inr hnone

theorem Worsens.vacant (h : t.Worsens t') {segment : SegmentId}
    (hvacant : t'.isOccupied segment = false) : t.isOccupied segment = false := by
  cases hoccupied : t.isOccupied segment with
  | false => rfl
  | true =>
    rw [h.occupied segment hoccupied] at hvacant
    cases hvacant

theorem Worsens.reported (h : t.Worsens t') {signal : SignalId} {a : Aspect}
    (haspect : t'.aspect signal = some a) : t.aspect signal = some a := by
  rcases h.aspect signal with hsame | hnone
  · rw [← hsame, haspect]
  · rw [hnone] at haspect
    cases haspect

theorem worsens_lose (t : Track) (signal : SignalId) : t.Worsens (t.lose signal) where
  occupied _ h := h
  aspect q := by
    by_cases hq : q = signal
    · exact .inr (if_pos hq)
    · exact .inl (if_neg hq)

theorem worsens_mark (t : Track) (segment : SegmentId) : t.Worsens (t.mark segment true) where
  occupied c h := by
    unfold isOccupied mark at *
    by_cases hc : c = segment <;> simp_all
  aspect _ := .inl rfl

end Track

namespace Sectional

variable {topology : Topology} {track track' : Track}

theorem EntryClosed.of_worsens (h : track.Worsens track') {segment : SegmentId}
    (closed : EntryClosed topology track' segment) : EntryClosed topology track segment := by
  obtain ⟨enclosing, hsection, hentry⟩ := closed
  refine ⟨enclosing, hsection, fun s hs => ?_⟩
  obtain ⟨a, haspect, hadmitsNobody⟩ := hentry s hs
  exact ⟨a, h.reported haspect, hadmitsNobody⟩

theorem VacatedBack.of_worsens (h : track.Worsens track') {path : List PathElement} {i : Nat}
    (vacated : VacatedBack path track' i) : VacatedBack path track i :=
  fun j hj clear s hs => h.vacant (vacated j hj clear s hs)

theorem check_safe_of_worsens (reg : Registry) (h : track.Worsens track')
    {held requested : RouteIndex} (safe : (check reg track' held requested).safe = true) :
    (check reg track held requested).safe = true := by
  unfold check at safe ⊢
  cases hheld : reg.route? held with
  | none => simp [hheld, Check.refused] at safe
  | some g =>
    cases hrequested : reg.route? requested with
    | none => simp [hheld, hrequested, Check.refused] at safe
    | some r =>
      rw [hheld, hrequested] at safe
      dsimp only at safe ⊢
      split at safe
      · cases safe
      · rename_i hpaths
        rw [if_neg hpaths]
        rw [backwards_eq, walk_safe_iff _ _ _ _ _ (.inl rfl), everySharedSafe_iff] at safe ⊢
        intro i s hs hshared
        obtain ⟨hclosed, hvacated⟩ := safe i s hs hshared
        exact ⟨hclosed.of_worsens h, hvacated.of_worsens h⟩

end Sectional

namespace Interlocking

variable {il il' : Interlocking} {reg : Registry} {policy : ConflictPolicy} {train : TrainId}
  {i : RouteIndex}

theorem isGrantable_of_worsens (same : il'.holder = il.holder)
    (h : il.track.Worsens il'.track) (grantable : il'.isGrantable reg policy i = true) :
    il.isGrantable reg policy i = true := by
  have hheld : il'.isHeld = il.isHeld := by
    funext j
    rw [isHeld, isHeld, same]
  unfold isGrantable heldConflicts at grantable ⊢
  rw [hheld] at grantable
  rw [Bool.and_eq_true] at grantable ⊢
  refine ⟨grantable.1, ?_⟩
  cases policy with
  | blocking => exact grantable.2
  | sectional =>
    have hsafe := List.all_eq_true.mp grantable.2
    exact List.all_eq_true.mpr fun c hc => Sectional.check_safe_of_worsens reg h (hsafe c hc)

theorem isClear_of_worsens (h : il.track.Worsens il'.track) (clear : il'.isClear reg i = true) :
    il.isClear reg i = true := by
  obtain ⟨r, hr⟩ := exists_route_of_isClear clear
  simp only [isClear, hr, Option.any_some, routeIsClear, Bool.and_eq_true, List.all_eq_true,
    beq_iff_eq, Bool.not_eq_true'] at clear ⊢
  obtain ⟨hstop, hvacant⟩ := clear
  exact ⟨fun q hq => h.reported (hstop q hq), fun c hc => h.vacant (hvacant c hc)⟩

theorem Admits.of_worsens (same : il'.holder = il.holder) (h : il.track.Worsens il'.track)
    (admits : il'.Admits reg policy train i) : il.Admits reg policy train i where
  named := admits.named
  grantable := isGrantable_of_worsens same h admits.grantable
  clear := isClear_of_worsens h admits.clear

theorem grant_isOk_of_worsens (same : il'.holder = il.holder) (h : il.track.Worsens il'.track)
    (granted : (il'.grant reg policy train i).2.isOk = true) :
    (il.grant reg policy train i).2.isOk = true :=
  grant_isOk_iff.mpr ((grant_isOk_iff.mp granted).of_worsens same h)

theorem grantRoute_isOk_of_worsens (same : il'.holder = il.holder)
    (h : il.track.Worsens il'.track) {id : RouteId}
    (granted : (il'.grantRoute reg policy train id).2.isOk = true) :
    (il.grantRoute reg policy train id).2.isOk = true := by
  unfold grantRoute at granted ⊢
  cases hi : indexOf reg id with
  | error e => simp [hi, Except.isOk, Except.toBool] at granted
  | ok i =>
    rw [hi] at granted
    exact grant_isOk_of_worsens same h granted

end Interlocking

/-- Whether an operation makes the track lose the report of a signal, or report a segment
occupied. -/
def Operation.worsens : Operation → Bool
  | .command (.lose _) | .command (.mark _ true) => true
  | _ => false

namespace Session

theorem worsens_operate (reg : Registry) (s : Session) {op : Operation} (h : op.worsens = true) :
    (s.operate reg op).interlocking.holder = s.interlocking.holder ∧
      (s.operate reg op).policy = s.policy ∧
      s.interlocking.track.Worsens (s.operate reg op).interlocking.track := by
  cases op with
  | command c =>
    cases c with
    | lose signal => exact ⟨rfl, rfl, s.interlocking.track.worsens_lose signal⟩
    | mark segment occupied =>
      cases occupied with
      | true => exact ⟨rfl, rfl, s.interlocking.track.worsens_mark segment⟩
      | false => cases h
    | _ => cases h
  | _ => cases h

theorem worsens_operateAll (reg : Registry) (s : Session) {operations : List Operation}
    (h : ∀ op ∈ operations, op.worsens = true) :
    (s.operateAll reg operations).interlocking.holder = s.interlocking.holder ∧
      (s.operateAll reg operations).policy = s.policy ∧
      s.interlocking.track.Worsens (s.operateAll reg operations).interlocking.track := by
  induction operations generalizing s with
  | nil => exact ⟨rfl, rfl, .refl _⟩
  | cons op rest ih =>
    rw [List.forall_mem_cons] at h
    obtain ⟨hholder, hpolicy, hworsens⟩ := worsens_operate reg s h.1
    obtain ⟨hholder', hpolicy', hworsens'⟩ := ih (s.operate reg op) h.2
    exact ⟨hholder'.trans hholder, hpolicy'.trans hpolicy, hworsens.trans hworsens'⟩

end Session

namespace Interlocking

/-- Whatever is grantable, clear or granted on a track that reports more occupancy or fewer
aspects, is so on the other one, the same routes being held. So a grant that is refused stays
refused however many signals are lost and segments are found occupied. -/
theorem worse_track_grants_no_more {il il' : Interlocking} (same : il'.holder = il.holder)
    (h : il.track.Worsens il'.track) (reg : Registry) (policy : ConflictPolicy)
    (i : RouteIndex) :
    (il'.isGrantable reg policy i = true → il.isGrantable reg policy i = true) ∧
      (il'.isClear reg i = true → il.isClear reg i = true) ∧
      (∀ train, (il'.grant reg policy train i).2.isOk = true →
        (il.grant reg policy train i).2.isOk = true) ∧
      ∀ (s : Session) (operations : List Operation),
        (∀ op ∈ operations, op.worsens = true) → ∀ train id,
          let s' := s.operateAll reg operations
          (s.interlocking.grantRoute reg s.policy train id).2.isOk = false →
            (s'.interlocking.grantRoute reg s'.policy train id).2.isOk = false := by
  refine ⟨isGrantable_of_worsens same h, isClear_of_worsens h,
    fun train => grant_isOk_of_worsens same h, ?_⟩
  intro s operations hworsens train id s' refused
  obtain ⟨hholder, hpolicy, htrack⟩ := s.worsens_operateAll reg hworsens
  by_contra hgranted
  rw [Bool.not_eq_false, hpolicy] at hgranted
  rw [grantRoute_isOk_of_worsens hholder htrack hgranted] at refused
  cases refused

/-- A route into the throat of the junction is granted beside the one that is held there, although
a signal that the first train has passed is lost and the block behind it is occupied. -/
theorem junction_grant_on_worse_track :
    let s := Session.junctionSession.operateAll junctionRoutes
      [.command (.directGrant "T1" "left"), .command (.setAspect "s" .stop),
        .command (.setAspect "m" .stop)]
    let il' := (s.operateAll junctionRoutes
      [.command (.lose "s"), .command (.mark "a" true)]).interlocking
    il'.heldConflicts junctionRoutes 1 = [0] ∧ il'.track.aspect "s" = none ∧
      (il'.grant junctionRoutes .sectional "T2" 1).2.isOk = true ∧
      (s.interlocking.grant junctionRoutes .sectional "T2" 1).2.isOk = true ∧
      (il'.grantRoute junctionRoutes .sectional "T2" "left").2.isOk = false := by
  intro s il'
  have hgranted : (il'.grant junctionRoutes .sectional "T2" 1).2.isOk = true := by decide
  have hworse : ∀ op ∈ [Operation.command (.lose "s"), .command (.mark "a" true)],
      op.worsens = true := by decide
  obtain ⟨hholder, -, htrack⟩ := s.worsens_operateAll junctionRoutes hworse
  obtain ⟨-, -, hgrants, hrefuses⟩ :=
    worse_track_grants_no_more hholder htrack junctionRoutes .sectional 1
  exact ⟨by decide, rfl, hgranted, hgrants "T2" hgranted,
    hrefuses s _ hworse "T2" "left" (by decide)⟩

end Interlocking

end Signalbox
