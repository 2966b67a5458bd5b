import Signalbox.Proofs.Operation

/-!
Held routes that conflict. The history tells when a route was granted to the train that holds
it. Of two held routes, the one granted later was held against the check of the earlier one,
whatever has happened since.
-/
namespace Signalbox

def Event.isGrantOf (id : RouteId) : Event → Bool
  | .route other (.granted _) => other == id
  | _ => false

namespace Interlocking

def grantCount (il : Interlocking) (id : RouteId) : Nat := il.log.countP (Event.isGrantOf id)

section GrantCount

variable (il : Interlocking) (id : RouteId)

theorem grantCount_record (e : Event) :
    (il.record e).grantCount id = il.grantCount id + if e.isGrantOf id then 1 else 0 := by
  simp [grantCount, List.countP_singleton]

theorem grantCount_commandSignal (s : SignalId) (a : Aspect) :
    (il.commandSignal s a).1.grantCount id = il.grantCount id := by
  unfold commandSignal
  split
  · rw [grantCount_record]
    rfl
  · rfl

theorem grantCount_commandPoint (p : PointId) (position : PointPosition) :
    (il.commandPoint p position).1.grantCount id = il.grantCount id := by
  unfold commandPoint
  split
  · rw [grantCount_record]
    rfl
  · rfl

theorem grantCount_commandSignals (commands : List (SignalId × Aspect)) :
    (il.commandSignals commands).1.grantCount id = il.grantCount id := by
  apply commandAll_invariant (·.grantCount id)
  intro il c
  exact grantCount_commandSignal il id c.1 c.2

theorem grantCount_commandPoints (commands : List (PointId × PointPosition)) :
    (il.commandPoints commands).1.grantCount id = il.grantCount id := by
  apply commandAll_invariant (·.grantCount id)
  intro il c
  exact grantCount_commandPoint il id c.1 c.2

theorem grantCount_commit (reg : Registry) (train : TrainId) (i : RouteIndex) (r : Route) :
    (il.commit reg train i r).1.grantCount id =
      il.grantCount id + if r.id = id then 1 else 0 := by
  unfold commit
  rw [grantCount_commandSignals, grantCount_commandPoints, grantCount_record]
  simp [Event.isGrantOf, grantCount, setHolder]

theorem grantCount_release (reg : Registry) (i : RouteIndex) :
    (il.release reg i).1.grantCount id = il.grantCount id := by
  cases hr : reg.route? i with
  | none => rw [release_of_unknown il reg i hr]
  | some r =>
    cases hheld : il.isHeld i with
    | false => rw [release_of_free il reg i hheld]
    | true =>
      rw [release_of_held il reg i hr hheld, grantCount_record]
      exact grantCount_commandSignals il id _

end GrantCount

theorem Refused.grantCount_eq {il il' : Interlocking} (h : il.Refused il') (id : RouteId) :
    il'.grantCount id = il.grantCount id := by
  rcases h with rfl | ⟨other, status, hstatus, rfl⟩
  · rfl
  · rw [grantCount_record]
    rcases hstatus with rfl | rfl <;> rfl

theorem Withdraws.grantCount_eq {reg : Registry} {il il' : Interlocking}
    (h : Withdraws reg Event.isBookkeeping il il') (id : RouteId) :
    il'.grantCount id = il.grantCount id := by
  apply h.keeps (P := fun next => next.grantCount id = il.grantCount id) ?_ rfl
  intro a b hstep ha
  rw [← ha]
  cases hstep with
  | stop s => exact grantCount_commandSignal a id s .stop
  | release i => exact grantCount_release a id reg i
  | note e h =>
    rw [grantCount_record]
    cases e with
    | grab | drive => rfl
    | _ => cases h

end Interlocking

namespace Session

open Interlocking

section Step

variable {reg : Registry} {s : Session} {op : Operation} {i : RouteIndex} {r : Route}

theorem grantCount_operate_of_outside (h : op.isOutside = true) (id : RouteId) :
    (s.operate reg op).interlocking.grantCount id = s.interlocking.grantCount id := by
  cases op with
  | disturb track => rfl
  | command c =>
    cases c with
    | setAspect signal a =>
      simp only [operate, perform, answer_fst]
      exact grantCount_commandSignal s.interlocking id signal a
    | setPoint point p =>
      simp only [operate, perform, answer_fst]
      exact grantCount_commandPoint s.interlocking id point p
    | place | removeTrain | mark => exact grantCount_record _ id _
    | jam | lose => rfl
    | _ => cases h
  | _ => cases h

theorem admits_of_granted (hr : reg.route? i = some r)
    (h : s.interlocking.grantCount r.id < (s.operate reg op).interlocking.grantCount r.id) :
    ∃ train, s.interlocking.Admits reg s.policy train i ∧
      (s.operate reg op).interlocking = (s.interlocking.commit reg train i r).1 := by
  cases houtside : op.isOutside with
  | true =>
    rw [grantCount_operate_of_outside houtside] at h
    omega
  | false =>
    have heffect := operate_effect reg s houtside
    generalize (s.operate reg op).interlocking = il' at heffect h ⊢
    cases heffect with
    | refused hrefused =>
      rw [hrefused.grantCount_eq] at h
      omega
    | withdrawn hwithdrawn =>
      rw [hwithdrawn.grantCount_eq] at h
      omega
    | @granted train j other hother hadmits =>
      rw [grantCount_commit] at h
      split at h
      · rename_i hid
        have hplace := Registry.place_eq_of_id_eq hother hr hid
        subst hplace
        rw [hr, Option.some.injEq] at hother
        subst hother
        exact ⟨train, hadmits, rfl⟩
      · omega

theorem granted_of_acquired (hr : reg.route? i = some r)
    (free : s.interlocking.isHeld i = false)
    (held : (s.operate reg op).interlocking.isHeld i = true) :
    s.interlocking.grantCount r.id < (s.operate reg op).interlocking.grantCount r.id := by
  cases houtside : op.isOutside with
  | true =>
    unfold isHeld at free held
    rw [holder_operate_of_outside reg s houtside, free] at held
    cases held
  | false =>
    have heffect := operate_effect reg s houtside
    generalize (s.operate reg op).interlocking = il' at heffect held ⊢
    unfold isHeld at free held
    cases heffect with
    | refused hrefused =>
      rw [hrefused.holder_eq, free] at held
      cases held
    | withdrawn hwithdrawn =>
      obtain ⟨train, htrain⟩ := Option.isSome_iff_exists.mp held
      rw [hwithdrawn.holder_of_held htrain] at free
      cases free
    | @granted train j other hother hadmits =>
      rw [holder_commit] at held
      split at held
      · rename_i hij
        subst hij
        rw [hr, Option.some.injEq] at hother
        subst hother
        rw [grantCount_commit, if_pos rfl]
        omega
      · rw [free] at held
        cases held

end Step

section Run

variable (reg : Registry) (s : Session) (operations : List Operation)

/-- The state before the operation at a place of a run. From the end of the run on it is the
last state. -/
def before (k : Nat) : Session := s.operateAll reg (operations.take k)

def GrantedAt (id : RouteId) (k : Nat) : Prop :=
  (before reg s operations k).interlocking.grantCount id <
    (before reg s operations (k + 1)).interlocking.grantCount id

instance (id : RouteId) (k : Nat) : Decidable (GrantedAt reg s operations id k) :=
  inferInstanceAs (Decidable (_ < _))

/-- The last place of a run at which the route was granted. -/
structure LastGrantedAt (id : RouteId) (k : Nat) : Prop where
  granted : GrantedAt reg s operations id k
  last : ∀ j, k < j → ¬ GrantedAt reg s operations id j

theorem before_length :
    before reg s operations operations.length = s.operateAll reg operations := by
  rw [before, List.take_length]

theorem before_succ (k : Nat) :
    before reg s operations (k + 1) = before reg s operations k ∨
      ∃ op ∈ operations,
        before reg s operations (k + 1) = (before reg s operations k).operate reg op := by
  unfold before operateAll
  rw [List.take_add_one]
  cases hop : operations[k]? with
  | none => exact .inl (by rw [Option.toList_none, List.append_nil])
  | some op =>
    refine .inr ⟨op, List.mem_of_getElem? hop, ?_⟩
    rw [Option.toList_some, List.foldl_concat]

theorem before_of_length_le {k : Nat} (h : operations.length ≤ k) :
    before reg s operations k = s.operateAll reg operations := by
  rw [before, List.take_of_length_le h]

variable {reg s operations} {i : RouteIndex} {r : Route}

theorem forall_before {P : Session → Prop}
    (h : ∀ k ≤ operations.length, P (before reg s operations k)) (k : Nat) :
    P (before reg s operations k) := by
  rcases Nat.le_total k operations.length with hk | hk
  · exact h k hk
  · rw [before_of_length_le reg s operations hk, ← before_length]
    exact h _ (Nat.le_refl _)

theorem GrantedAt.lt_length {id : RouteId} {k : Nat} (h : GrantedAt reg s operations id k) :
    k < operations.length := by
  by_contra hge
  unfold GrantedAt at h
  rw [before_of_length_le reg s operations (by omega),
    before_of_length_le reg s operations (by omega)] at h
  omega

theorem lastGrantedAt_iff {id : RouteId} {k : Nat} :
    LastGrantedAt reg s operations id k ↔ GrantedAt reg s operations id k ∧
      ∀ j < operations.length, k < j → ¬ GrantedAt reg s operations id j := by
  constructor
  · intro h
    exact ⟨h.granted, fun j _ hkj => h.last j hkj⟩
  · rintro ⟨hgranted, hlast⟩
    exact ⟨hgranted, fun j hkj hj => hlast j hj.lt_length hkj hj⟩

instance (id : RouteId) (k : Nat) : Decidable (LastGrantedAt reg s operations id k) :=
  decidable_of_iff' _ lastGrantedAt_iff

theorem GrantedAt.admits (hr : reg.route? i = some r) {k : Nat}
    (h : GrantedAt reg s operations r.id k) :
    ∃ train, (before reg s operations k).interlocking.Admits reg
        (before reg s operations k).policy train i ∧
      (before reg s operations (k + 1)).interlocking =
        ((before reg s operations k).interlocking.commit reg train i r).1 := by
  unfold GrantedAt at h
  rcases before_succ reg s operations k with hsame | ⟨op, -, hstep⟩
  · rw [hsame] at h
    omega
  · rw [hstep] at h ⊢
    exact admits_of_granted hr h

theorem grantedAt_of_acquired (hr : reg.route? i = some r) {k : Nat}
    (free : (before reg s operations k).interlocking.isHeld i = false)
    (held : (before reg s operations (k + 1)).interlocking.isHeld i = true) :
    GrantedAt reg s operations r.id k := by
  unfold GrantedAt
  rcases before_succ reg s operations k with hsame | ⟨op, -, hstep⟩
  · rw [hsame, free] at held
    cases held
  · rw [hstep] at held ⊢
    exact granted_of_acquired hr free held

theorem exists_grantedAt_before (hr : reg.route? i = some r)
    (free : s.interlocking.isHeld i = false) {n : Nat}
    (held : (before reg s operations n).interlocking.isHeld i = true) :
    ∃ k < n, GrantedAt reg s operations r.id k ∧
      ∀ j, k < j → j < n → ¬ GrantedAt reg s operations r.id j := by
  induction n with
  | zero =>
    have hzero : before reg s operations 0 = s := rfl
    rw [hzero, free] at held
    cases held
  | succ n ih =>
    by_cases hgranted : GrantedAt reg s operations r.id n
    · refine ⟨n, by omega, hgranted, ?_⟩
      intro j hlow hhigh
      omega
    · have heldBefore : (before reg s operations n).interlocking.isHeld i = true := by
        by_contra hfree
        exact hgranted (grantedAt_of_acquired hr (Bool.eq_false_iff.mpr hfree) held)
      -- Nothing was granted at place `n`, so the last grant before it stays the last one.
      obtain ⟨k, hk, hgrant, hlast⟩ := ih heldBefore
      refine ⟨k, by omega, hgrant, ?_⟩
      intro j hlow hhigh
      by_cases hjn : j = n
      · rw [hjn]
        exact hgranted
      · exact hlast j hlow (by omega)

theorem exists_lastGrantedAt (hr : reg.route? i = some r)
    (free : s.interlocking.isHeld i = false)
    (held : (s.operateAll reg operations).interlocking.isHeld i = true) :
    ∃ k, LastGrantedAt reg s operations r.id k := by
  rw [← before_length] at held
  obtain ⟨k, -, hgrant, hlast⟩ := exists_grantedAt_before hr free held
  refine ⟨k, hgrant, ?_⟩
  intro j hj hgranted
  exact hlast j hj hgranted.lt_length hgranted

/-- A route that is held at the end has been held ever since its last grant. -/
theorem LastGrantedAt.held_since (hr : reg.route? i = some r) {k : Nat}
    (hlast : LastGrantedAt reg s operations r.id k)
    (held : (s.operateAll reg operations).interlocking.isHeld i = true) {j : Nat} (hj : k < j) :
    (before reg s operations j).interlocking.isHeld i = true := by
  by_contra hnot
  have hfree := Bool.eq_false_iff.mpr hnot
  -- Once free it stays free, as there is no later grant.
  have hforever (m : Nat) :
      (before reg s operations (j + m)).interlocking.isHeld i = false := by
    induction m with
    | zero => exact hfree
    | succ m ih =>
      by_contra hheld
      exact hlast.last (j + m) (by omega)
        (grantedAt_of_acquired hr ih (Bool.eq_true_of_not_eq_false hheld))
  have hend := hforever operations.length
  rw [before_of_length_le reg s operations (by omega), held] at hend
  cases hend

theorem GrantedAt.eq_of_same_place {a b : RouteIndex} {ra rb : Route}
    (ha : reg.route? a = some ra) (hb : reg.route? b = some rb) {k : Nat}
    (hka : GrantedAt reg s operations ra.id k) (hkb : GrantedAt reg s operations rb.id k) :
    a = b := by
  obtain ⟨train, -, hstep⟩ := hka.admits ha
  unfold GrantedAt at hkb
  rw [hstep, grantCount_commit] at hkb
  split at hkb
  · rename_i hid
    exact Registry.place_eq_of_id_eq ha hb hid
  · omega

end Run

end Session

namespace Interlocking

variable {il : Interlocking} {reg : Registry} {policy : ConflictPolicy} {a b : RouteIndex}

theorem mem_conflicts {ra rb : Route}
    (ha : reg.route? a = some ra) (hb : reg.route? b = some rb) (hlists : ra.id ∈ rb.conflicts) :
    a ∈ reg.conflicts b := by
  unfold Registry.conflicts
  rw [hb]
  exact List.mem_filterMap.mpr ⟨ra.id, hlists, Registry.index?_of_route? ha⟩

theorem sectional_of_grantable (hgrantable : il.isGrantable reg policy b = true)
    (hne : a ≠ b) (hconflict : a ∈ reg.conflicts b) (held : il.isHeld a = true) :
    policy = .sectional ∧ (Sectional.check reg il.track a b).safe = true := by
  have hmem : a ∈ il.heldConflicts reg b := by
    unfold heldConflicts
    rw [List.mem_filter]
    exact ⟨hconflict, by simp [hne, held]⟩
  unfold isGrantable at hgrantable
  rw [Bool.and_eq_true] at hgrantable
  have hadmissible := hgrantable.2
  cases policy with
  | blocking =>
    rw [List.isEmpty_iff] at hadmissible
    rw [hadmissible] at hmem
    cases hmem
  | sectional => exact ⟨rfl, List.all_eq_true.mp hadmissible a hmem⟩

end Interlocking

namespace Session

/-- In every state that a run leads to, two held routes have been granted by different
operations. If the one granted later has the other among its conflicts, then the sectional
policy was selected before that grant, and its check passed on the track as it stood then. -/
theorem held_conflict_was_safe {reg : Registry}
    {config : SessionConfig} {s : Session} (started : start reg config = .ok s)
    (operations : List Operation) {a b : RouteIndex} {ra rb : Route}
    (ha : reg.route? a = some ra) (hb : reg.route? b = some rb) (hne : a ≠ b)
    (heldA : (s.operateAll reg operations).interlocking.isHeld a = true)
    (heldB : (s.operateAll reg operations).interlocking.isHeld b = true) :
    (∃ k, LastGrantedAt reg s operations ra.id k) ∧
      (∃ k, LastGrantedAt reg s operations rb.id k) ∧
      ∀ ka kb, LastGrantedAt reg s operations ra.id ka → LastGrantedAt reg s operations rb.id kb →
        ka ≠ kb ∧
        (ka < kb → ra.id ∈ rb.conflicts →
          (before reg s operations kb).policy = .sectional ∧
          (Sectional.check reg (before reg s operations kb).interlocking.track a b).safe
            = true) := by
  have free (i : RouteIndex) : s.interlocking.isHeld i = false := by
    rw [interlocking_of_start started]
    rfl
  refine ⟨exists_lastGrantedAt ha (free a) heldA, exists_lastGrantedAt hb (free b) heldB, ?_⟩
  intro ka kb hka hkb
  constructor
  · intro hsame
    subst hsame
    exact hne (hka.granted.eq_of_same_place ha hb hkb.granted)
  · intro horder hlists
    obtain ⟨train, hadmits, -⟩ := hkb.granted.admits hb
    exact Interlocking.sectional_of_grantable hadmits.grantable hne
      (Interlocking.mem_conflicts ha hb hlists) (hka.held_since ha heldA horder)

/-- The train on the first route of the junction enters the throat, which stops the signals
behind it, and leaves. Then the other route is granted with the first one still held. -/
theorem junction_conflict_was_safe :
    let run : List Operation := [.command (.directGrant "T1" "left"),
      .launchOutside "T1" "left" .manual, .command (.place "T1" ["c"]), .pass 0,
      .command (.removeTrain "T1"), .command (.directGrant "T2" "right")]
    (junctionSession.operateAll junctionRoutes run).interlocking.heldRoutes junctionRoutes =
        [("left", "T1"), ("right", "T2")] ∧
      (before junctionRoutes junctionSession run 5).policy = .sectional ∧
      (Sectional.check junctionRoutes
        (before junctionRoutes junctionSession run 5).interlocking.track 0 1).safe = true := by
  intro run
  obtain ⟨-, -, hsafe⟩ := held_conflict_was_safe junction_started run
    (a := 0) (b := 1) rfl rfl (by decide) rfl rfl
  have hleft : LastGrantedAt junctionRoutes junctionSession run "left" 0 := by
    refine ⟨by decide, ?_⟩
    intro j hj hgranted
    have hlater : ∀ j < 6, 0 < j →
        ¬ GrantedAt junctionRoutes junctionSession run "left" j := by decide
    exact hlater j hgranted.lt_length hj hgranted
  have hright : LastGrantedAt junctionRoutes junctionSession run "right" 5 := by
    refine ⟨by decide, ?_⟩
    intro j hj hgranted
    have hend : j < 6 := hgranted.lt_length
    omega
  exact ⟨rfl, (hsafe 0 5 hleft hright).2 (by decide) (by decide)⟩

end Session

end Signalbox
