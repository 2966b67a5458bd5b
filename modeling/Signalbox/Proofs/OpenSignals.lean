import Signalbox.Proofs.FaultySignals
import Signalbox.Proofs.MutualExclusion
import Signalbox.Proofs.SessionTraffic

/-!
Signals that stand open, and what closes them. A signal is opened by the grant of a route that it
is passed on, and while it stays open all routes that list it stay held. So a release closes a
signal of another held route only if its own route lists the signal too and was not granted after
the grant that has opened it.
-/
namespace Signalbox

namespace Interlocking

def isOpen (il : Interlocking) (q : SignalId) : Bool := (il.track.aspect q).any (· != .stop)

/-- Some of the given signals may have been set to stop, and no signal has changed otherwise. -/
structure Closes (signals : List SignalId) (il il' : Interlocking) : Prop where
  same : SameSignals il il'
  aspect : ∀ q, il'.track.aspect q = il.track.aspect q ∨
    q ∈ signals ∧ il.obeys q = true ∧ il'.track.aspect q = some .stop

section Closes

variable {signals : List SignalId} {il il' il'' : Interlocking} {reg : Registry}

theorem Closes.refl (signals : List SignalId) (il : Interlocking) : Closes signals il il :=
  ⟨.refl il, fun _ => .inl rfl⟩

theorem Closes.trans (h : Closes signals il il') (h' : Closes signals il' il'') :
    Closes signals il il'' where
  same := h.same.trans h'.same
  aspect q := by
    rcases h'.aspect q with hsame | ⟨hlisted, hobeys, hstop⟩
    · rw [hsame]
      exact h.aspect q
    · exact .inr ⟨hlisted, by rwa [← h.same.obeys_eq], hstop⟩

theorem closes_of_track_eq (signals : List SignalId) (h : il'.track = il.track) :
    Closes signals il il' :=
  ⟨sameSignals_of_track_eq h, fun _ => .inl (by rw [h])⟩

theorem closes_of_aspect (same : SameSignals il il') {P : SignalId → Prop} [DecidablePred P]
    (listed : ∀ q, P q → q ∈ signals) (haspect : ∀ q, il'.track.aspect q =
      if P q ∧ il.obeys q = true then some .stop else il.track.aspect q) :
    Closes signals il il' where
  same := same
  aspect q := by
    rw [haspect]
    split
    · rename_i h
      exact .inr ⟨listed q h.1, h.2, rfl⟩
    · exact .inl rfl

theorem closes_commandSignal (il : Interlocking) {s : SignalId} (hs : s ∈ signals) :
    Closes signals il (il.commandSignal s .stop).1 := by
  apply closes_of_aspect (sameSignals_commandSignal il s .stop) (P := (· = s))
  · rintro q rfl
    exact hs
  · exact fun q => aspect_commandSignal il s q .stop

theorem closes_release (il : Interlocking) {i : RouteIndex} {r : Route}
    (hr : reg.route? i = some r) : Closes r.signals il (il.release reg i).1 := by
  cases hheld : il.isHeld i with
  | false =>
    rw [release_of_free il reg i hheld]
    exact .refl _ il
  | true =>
    exact closes_of_aspect (sameSignals_release il reg i) (fun q hq => hq)
      (aspect_release il reg i hr hheld)

end Closes

/-! ### Signals that stay open -/

/-- If the signal is open in the second state and not jammed, then it was so in the first one, and
every route that lists it is still held. -/
def OpenFrom (reg : Registry) (q : SignalId) (il il' : Interlocking) : Prop :=
  il'.isOpen q = true → il'.track.jammed q = false →
    il.isOpen q = true ∧ il.track.jammed q = false ∧
      ∀ i r, reg.route? i = some r → q ∈ r.signals → il.isHeld i = true → il'.isHeld i = true

section OpenFrom

variable {reg : Registry} {q : SignalId} {il il' il'' : Interlocking}

theorem OpenFrom.of_aspect (hjammed : il'.track.jammed q = false → il.track.jammed q = false)
    (hholder : il'.holder = il.holder)
    (haspect : il'.isOpen q = true → il.isOpen q = true) : OpenFrom reg q il il' := by
  intro hopen unjammed
  refine ⟨haspect hopen, hjammed unjammed, fun i r _ _ held => ?_⟩
  unfold isHeld at held ⊢
  rwa [hholder]

theorem OpenFrom.trans (h : OpenFrom reg q il il') (h' : OpenFrom reg q il' il'') :
    OpenFrom reg q il il'' := by
  intro hopen unjammed
  obtain ⟨hopen', unjammed', hheld'⟩ := h' hopen unjammed
  obtain ⟨hopen'', unjammed'', hheld⟩ := h hopen' unjammed'
  exact ⟨hopen'', unjammed'', fun i r hr hq held => hheld' i r hr hq (hheld i r hr hq held)⟩

theorem isOpen_iff {il : Interlocking} {q : SignalId} :
    il.isOpen q = true ↔ ∃ a, il.track.aspect q = some a ∧ a ≠ .stop := by
  simp [isOpen, Option.any_eq_true]

theorem isOpen_of_closes {signals : List SignalId} (h : Closes signals il il')
    (hopen : il'.isOpen q = true) : il.isOpen q = true := by
  unfold isOpen at hopen ⊢
  rcases h.aspect q with hsame | ⟨-, -, hstop⟩
  · rwa [← hsame]
  · rw [hstop] at hopen
    cases hopen

theorem obeys_of_isOpen (hopen : il.isOpen q = true) (unjammed : il.track.jammed q = false) :
    il.obeys q = true := by
  unfold isOpen at hopen
  unfold obeys
  cases haspect : il.track.aspect q with
  | none => simp [haspect] at hopen
  | some a => simp [unjammed]

theorem openFrom_release (il : Interlocking) (i : RouteIndex) :
    OpenFrom reg q il (il.release reg i).1 := by
  cases hr : reg.route? i with
  | none =>
    rw [release_of_unknown il reg i hr]
    exact .of_aspect id rfl id
  | some r =>
    intro hopen unjammed
    have hopen' := isOpen_of_closes (closes_release il hr) hopen
    rw [jammed_release] at unjammed
    refine ⟨hopen', unjammed, ?_⟩
    intro j other hother hlisted held
    unfold isHeld at held ⊢
    rw [holder_release]
    split
    · -- The released route would have stopped the signal.
      rename_i hplace
      obtain rfl : r = other := by
        rw [hplace.1, hr, Option.some.injEq] at hother
        exact hother
      have hstop := aspect_release il reg i hr (by rw [hplace.1] at held; exact held) q
      rw [if_pos ⟨hlisted, obeys_of_isOpen hopen' unjammed⟩] at hstop
      unfold isOpen at hopen
      rw [hstop] at hopen
      cases hopen
    · exact held

theorem Withdraws.openFrom {noted : Event → Bool} (h : Withdraws reg noted il il') :
    OpenFrom reg q il il' := by
  induction h with
  | refl => exact .of_aspect id rfl id
  | tail _ hstep ih =>
    apply ih.trans
    cases hstep with
    | stop s =>
      refine .of_aspect ?_ (holder_commandSignal _ s .stop)
        (isOpen_of_closes (closes_commandSignal _ (List.mem_singleton_self s)))
      rw [jammed_commandSignal]
      exact id
    | release i => exact openFrom_release _ i
    | note e _ => exact .of_aspect id rfl id

theorem commit_opens (il : Interlocking) (train : TrainId) (i : RouteIndex) (r : Route) :
    OpenFrom reg q il (il.commit reg train i r).1 ∨
      q ∈ r.passedSignals ∧ (il.commit reg train i r).1.isHeld i = true := by
  by_cases hpassed : q ∈ r.passedSignals
  · refine .inr ⟨hpassed, ?_⟩
    unfold isHeld
    rw [holder_commit, if_pos rfl]
    rfl
  · left
    intro hopen unjammed
    unfold isOpen at hopen
    rw [aspect_commit, if_neg fun h => hpassed h.1] at hopen
    rw [jammed_commit] at unjammed
    refine ⟨hopen, unjammed, fun j _ _ _ held => ?_⟩
    unfold isHeld at held ⊢
    rw [holder_commit]
    split
    · rfl
    · exact held

end OpenFrom

end Interlocking

/-! ### What a pass closes -/

theorem Progression.mem_signals_of_mem_due {p : Progression} {s : SignalId} (h : s ∈ p.due) :
    s ∈ p.records.map (·.signal) := by
  unfold due at h
  cases hposition : p.position with
  | none => simp [hposition] at h
  | some i =>
    rw [hposition] at h
    obtain ⟨record, hmem, rfl⟩ := List.mem_map.mp h
    exact List.mem_map_of_mem (List.dropLast_subset _ (List.mem_filter.mp hmem).1)

namespace Drive

open Interlocking

variable {reg : Registry} {d : Drive} {il : Interlocking} {r : Route}

theorem stopSignals_closes {signals : List SignalId} (il : Interlocking) (p : Progress)
    {due : List SignalId} (listed : ∀ s ∈ due, s ∈ signals) :
    Closes signals il (stopSignals il p due).1 := by
  induction due generalizing il p with
  | nil => exact .refl signals il
  | cons s rest ih =>
    have hstop := closes_commandSignal il (listed s List.mem_cons_self)
    have hrest : ∀ s ∈ rest, s ∈ signals := fun s hs => listed s (List.mem_cons_of_mem _ hs)
    unfold stopSignals
    cases hs : il.commandSignal s .stop with
    | mk next fault =>
      rw [hs] at hstop
      cases fault with
      | none => exact hstop.trans (ih next _ hrest)
      | some f =>
        dsimp only
        split <;> exact hstop.trans (ih next _ hrest)

theorem finish_closes (signals : List SignalId) (d : Drive) (il : Interlocking) (o : Outcome) :
    Closes signals il (d.finish il o).2 :=
  closes_of_track_eq signals rfl

section OnRoute

variable (hr : reg.find? d.route = some r)
include hr

theorem releaseRoute_closes (il : Interlocking) (p : Progress) :
    Closes r.signals il (releaseRoute reg d il p).2 := by
  obtain ⟨i, hi, hri⟩ := Option.bind_eq_some_iff.mp hr
  have hrelease : Closes r.signals il (il.releaseIfHeldBy reg d.route d.train).1 := by
    simp only [releaseIfHeldBy, indexOf, hi]
    split
    · exact closes_release il hri
    · exact .refl _ il
  unfold releaseRoute
  cases hanswer : il.releaseIfHeldBy reg d.route d.train with
  | mk next result =>
    rw [hanswer] at hrelease
    have hend (o : Outcome) : Closes r.signals il (d.finish next o).2 :=
      hrelease.trans (finish_closes _ d next o)
    cases result with
    | ok released => cases released <;> exact hend _
    | error e => cases e <;> exact hend _

theorem arrive_closes (il : Interlocking) (p : Progress) :
    Closes r.signals il (arrive reg d il p).2 := by
  unfold arrive
  cases (reg.find? d.route).bind Route.lastSegment? with
  | none => exact releaseRoute_closes hr il p
  | some last =>
    dsimp only
    split
    · exact finish_closes _ d il _
    · split
      · exact releaseRoute_closes hr il p
      · exact .refl _ il

theorem proceed_closes (il : Interlocking) (p : Progress) :
    Closes r.signals il (proceed reg d il p).2 := by
  unfold proceed
  split
  · exact .refl _ il
  · cases d.mode with
    | manual => exact finish_closes _ d il _
    | automatic => exact arrive_closes hr il p

theorem watch_closes (h : d.OnRoute reg) (il : Interlocking) :
    Closes r.signals il (d.watch reg il).2 := by
  unfold watch
  cases hphase : d.phase with
  | initializing | ended => exact .refl _ il
  | arriving p =>
    dsimp only
    split
    · exact finish_closes _ d il _
    · exact arrive_closes hr il p
  | progressing p =>
    obtain ⟨r', hr', hsignals⟩ := h.route p (by simp [progress?, hphase])
    obtain rfl : r = r' := Option.some.inj (hr.symm.trans hr')
    dsimp only
    split
    · exact finish_closes _ d il _
    · split
      · exact finish_closes _ d il _
      · refine (stopSignals_closes il _ ?_).trans (proceed_closes hr _ _)
        intro s hs
        rw [← hsignals, ← Progression.records_advance p.progression (il.track.position d.train)]
        exact Progression.mem_signals_of_mem_due hs

theorem pass_closes (h : d.OnRoute reg) (il : Interlocking) :
    Closes r.signals il (d.pass reg il).2 := by
  rw [← (train_route_begin reg d il).2] at hr
  have hbegin := closes_of_track_eq r.signals (onlyNotes_begin reg d il).track
  exact hbegin.trans (watch_closes hr (h.begin il) _)

end OnRoute

theorem stop_of_freed {i : RouteIndex} (hri : reg.route? i = some r) (h : d.OnRoute reg)
    (hi : reg.index? d.route = some i) (held : il.isHeld i = true)
    (freed : (d.pass reg il).2.isHeld i = false) {q : SignalId} (hq : q ∈ r.signals)
    (hobeys : il.obeys q = true) : (d.pass reg il).2.track.aspect q = some .stop := by
  have hr : reg.find? d.route = some r := by rw [Registry.find?, hi]; exact hri
  have hobeys' : (d.pass reg il).2.obeys q = true := by
    rw [(pass_closes hr h il).same.obeys_eq, hobeys]
  have hchanged : (d.pass reg il).2.holder ≠ il.holder := by
    intro hsame
    unfold isHeld at held freed
    rw [hsame, held] at freed
    cases freed
  have hlastPass := lastPass_of_holder_ne h hchanged
  generalize d.pass reg il = result at hobeys' hlastPass ⊢
  cases hlastPass with
  | @intro _ j il' _ _ _ hj _ _ hholder =>
    obtain rfl : i = j := Option.some.inj (hi.symm.trans hj)
    have hheld' : il'.isHeld i = true := by
      unfold isHeld at held ⊢
      rw [hholder, held]
    change (il'.release reg i).1.obeys q = true at hobeys'
    rw [(closes_release il' hri).same.obeys_eq] at hobeys'
    change (il'.release reg i).1.track.aspect q = some .stop
    rw [aspect_release il' reg i hri hheld', if_pos ⟨hq, hobeys'⟩]

end Drive

/-- Whether an operation leaves it to grants, releases and drives what the signals show. -/
def Operation.sparesAspects : Operation → Bool
  | .command (.setAspect ..) | .disturb _ => false
  | _ => true

namespace Session

open Interlocking

section Step

variable {reg : Registry} {s : Session} {op : Operation} {q : SignalId}

theorem openFrom_operate_of_outside (h : op.isOutside = true) (spares : op.sparesAspects = true) :
    OpenFrom reg q s.interlocking (s.operate reg op).interlocking := by
  have hholder := holder_operate_of_outside reg s h
  cases op with
  | command c =>
    cases c with
    | place | removeTrain | mark => exact .of_aspect id hholder id
    | setPoint point p =>
      refine .of_aspect ?_ hholder ?_
      · simp only [operate, perform, answer_fst]
        exact fun hjam => (congrFun (track_commandPoint s.interlocking point p).2 q) ▸ hjam
      · simp only [operate, perform, answer_fst, isOpen]
        exact fun hopen => (congrFun (track_commandPoint s.interlocking point p).1 q) ▸ hopen
    | jam id =>
      refine .of_aspect ?_ hholder fun hopen => hopen
      intro hjam
      exact (Bool.or_eq_false_iff.mp hjam).2
    | lose signal =>
      refine .of_aspect (fun hjam => hjam) hholder ?_
      intro hopen
      obtain ⟨a, haspect, hne⟩ := isOpen_iff.mp hopen
      refine isOpen_iff.mpr ⟨a, ?_, hne⟩
      change (if q = signal then none else s.interlocking.track.aspect q) = some a at haspect
      split at haspect
      · cases haspect
      · exact haspect
    | setAspect => cases spares
    | _ => cases h
  | disturb track => cases spares
  | _ => cases h

/-- An operation that leaves a signal open has found it open, with all routes that list it held
and still held, or else it has granted a route on which the signal is passed. -/
theorem openFrom_operate (reg : Registry) (s : Session) (q : SignalId)
    (spares : op.sparesAspects = true) :
    OpenFrom reg q s.interlocking (s.operate reg op).interlocking ∨
      ∃ i r, reg.route? i = some r ∧ q ∈ r.passedSignals ∧
        (s.operate reg op).interlocking.isHeld i = true ∧
        s.interlocking.grantCount r.id < (s.operate reg op).interlocking.grantCount r.id := by
  cases houtside : op.isOutside with
  | true => exact .inl (openFrom_operate_of_outside houtside spares)
  | false =>
    have heffect := operate_effect reg s houtside
    generalize (s.operate reg op).interlocking = il' at heffect ⊢
    cases heffect with
    | refused h =>
      refine .inl (.of_aspect ?_ h.holder_eq ?_)
      · rw [h.track_eq]
        exact id
      · unfold isOpen
        rw [h.track_eq]
        exact id
    | withdrawn h => exact .inl h.openFrom
    | @granted train i r hr hadmits =>
      refine (commit_opens s.interlocking train i r).imp_right ?_
      rintro ⟨hpassed, held⟩
      refine ⟨i, r, hr, hpassed, held, ?_⟩
      rw [grantCount_commit, if_pos rfl]
      omega

end Step

section Run

variable (reg : Registry) (s : Session) (operations : List Operation)

def OpenSince (q : SignalId) (k : Nat) : Prop :=
  ∀ j, k < j → (before reg s operations j).interlocking.isOpen q = true

/-- The signal has been opened by the last grant of a route that is still held. -/
structure OpenedBy (q : SignalId) (i : RouteIndex) (r : Route) (k : Nat) : Prop where
  route : reg.route? i = some r
  passed : q ∈ r.passedSignals
  held : (s.operateAll reg operations).interlocking.isHeld i = true
  granted : LastGrantedAt reg s operations r.id k
  since : OpenSince reg s operations q k

variable {reg s operations} {q : SignalId} {i : RouteIndex} {r : Route}

theorem GrantedAt.isOpen_eq_false (hr : reg.route? i = some r)
    {k : Nat} (h : GrantedAt reg s operations r.id k) (hq : q ∈ r.signals) :
    (before reg s operations k).interlocking.isOpen q = false := by
  obtain ⟨train, hadmits, -⟩ := h.admits hr
  have hstop := ((isClear_iff hr).mp hadmits.clear).1 q hq
  simp [isOpen, hstop]

theorem OpenSince.le_of_granted {k : Nat}
    (h : OpenSince reg s operations q k) (hr : reg.route? i = some r) (hq : q ∈ r.signals) {j : Nat}
    (hgranted : GrantedAt reg s operations r.id j) : j ≤ k := by
  by_contra hlate
  have hstop := hgranted.isOpen_eq_false hr hq
  rw [h j (by omega)] at hstop
  cases hstop

theorem exists_opener (closed : s.interlocking.isOpen q = false)
    (spared : ∀ op ∈ operations, op.sparesAspects = true) {n : Nat}
    (hopen : (before reg s operations n).interlocking.isOpen q = true)
    (unjammed : (before reg s operations n).interlocking.track.jammed q = false) :
    ∃ i r k, reg.route? i = some r ∧ q ∈ r.passedSignals ∧
      (before reg s operations n).interlocking.isHeld i = true ∧
      GrantedAt reg s operations r.id k ∧
      ∀ j, k < j → j ≤ n → (before reg s operations j).interlocking.isOpen q = true := by
  induction n with
  | zero =>
    have hzero : before reg s operations 0 = s := rfl
    rw [hzero, closed] at hopen
    cases hopen
  | succ n ih =>
    have hstep : OpenFrom reg q (before reg s operations n).interlocking
          (before reg s operations (n + 1)).interlocking ∨
        ∃ i r, reg.route? i = some r ∧ q ∈ r.passedSignals ∧
          (before reg s operations (n + 1)).interlocking.isHeld i = true ∧
          GrantedAt reg s operations r.id n := by
      unfold GrantedAt
      rcases before_succ reg s operations n with hsame | ⟨op, hmem, hafter⟩
      · rw [hsame]
        exact .inl (.of_aspect id rfl id)
      · rw [hafter]
        exact openFrom_operate reg _ q (spared op hmem)
    rcases hstep with hfrom | ⟨i, r, hr, hpassed, held, hgranted⟩
    · obtain ⟨hopen', unjammed', hheld⟩ := hfrom hopen unjammed
      obtain ⟨i, r, k, hr, hpassed, held, hgranted, hsince⟩ := ih hopen' unjammed'
      refine ⟨i, r, k, hr, hpassed, hheld i r hr (List.dropLast_subset _ hpassed) held,
        hgranted, ?_⟩
      intro j hlow hhigh
      rcases Nat.lt_or_eq_of_le hhigh with hbefore | rfl
      · exact hsince j hlow (by omega)
      · exact hopen
    · refine ⟨i, r, n, hr, hpassed, held, hgranted, ?_⟩
      intro j hlow hhigh
      obtain rfl : j = n + 1 := by omega
      exact hopen

/-- A signal that is open at the end of a run has been opened by the last grant of a held route,
and no route that lists it has been granted since. -/
theorem exists_openedBy (closed : s.interlocking.isOpen q = false)
    (spared : ∀ op ∈ operations, op.sparesAspects = true)
    (hopen : (s.operateAll reg operations).interlocking.isOpen q = true)
    (unjammed : (s.operateAll reg operations).interlocking.track.jammed q = false) :
    ∃ i r k, OpenedBy reg s operations q i r k := by
  rw [← before_length] at hopen unjammed
  obtain ⟨i, r, k, hr, hpassed, held, hgranted, hsince⟩ :=
    exists_opener closed spared hopen unjammed
  rw [before_length] at hopen held
  have since : OpenSince reg s operations q k := by
    intro j hj
    rcases Nat.le_total operations.length j with hend | hrun
    · rw [before_of_length_le reg s operations hend]
      exact hopen
    · exact hsince j hj hrun
  refine ⟨i, r, k, hr, hpassed, held, ⟨hgranted, fun j hj hlater => ?_⟩, since⟩
  have hle := since.le_of_granted hr (List.dropLast_subset _ hpassed) hlater
  omega

end Run

theorem isOpen_start {config : SessionConfig} {reg : Registry} {s : Session}
    (started : start reg config = .ok s) (q : SignalId) : s.interlocking.isOpen q = false := by
  rw [interlocking_of_start started]
  simp only [isOpen, Interlocking.initial, Track.initial]
  split <;> rfl

/-! ### Releases -/

/-- The ways to release a route: by its id, for one train only, or by a pass of a drive on it. -/
inductive Releasing (s : Session) (r : Route) : Operation → Prop
  | byId : Releasing s r (.command (.release r.id))
  | forTrain (train : TrainId) : Releasing s r (.command (.releaseIfHeldBy r.id train))
  | byDrive {place : Nat} {e : DriveEntry} (he : s.drives[place]? = some e)
    (hroute : e.drive.route = r.id) : Releasing s r (.pass place)

section Releasing

variable {reg : Registry} {s : Session} {op : Operation} {a : RouteIndex} {r : Route}
  {allowed : Operation → Prop}

theorem Releasing.closes (hs : Reachable reg allowed s)
    (hr : reg.route? a = some r) (h : Releasing s r op) :
    Closes r.signals s.interlocking (s.operate reg op).interlocking := by
  have hindex := Registry.index?_of_route? hr
  cases h with
  | byId =>
    simp only [operate, perform, answer_fst, Session.releaseRoute, interlock,
      Interlocking.releaseRoute, indexOf, hindex]
    exact closes_release s.interlocking hr
  | forTrain train =>
    simp only [operate, perform, answer_fst, interlock, releaseIfHeldBy, indexOf, hindex]
    split
    · exact closes_release s.interlocking hr
    · exact .refl _ _
  | @byDrive place e he hroute =>
    rw [operate, passAt_of_drive reg he]
    refine Drive.pass_closes ?_ (hs.sound (List.mem_of_getElem? he)).onRoute s.interlocking
    rw [hroute, Registry.find?, hindex]
    exact hr

theorem Releasing.stop_of_freed (hs : Reachable reg allowed s)
    (hr : reg.route? a = some r) (h : Releasing s r op)
    (held : s.interlocking.isHeld a = true)
    (freed : (s.operate reg op).interlocking.isHeld a = false) {q : SignalId}
    (hq : q ∈ r.signals) (hobeys : s.interlocking.obeys q = true) :
    (s.operate reg op).interlocking.track.aspect q = some .stop := by
  have hindex := Registry.index?_of_route? hr
  have hcloses := h.closes hs hr
  cases h with
  | byId =>
    simp only [operate, perform, answer_fst, Session.releaseRoute, interlock,
      Interlocking.releaseRoute, indexOf, hindex]
    rw [aspect_release s.interlocking reg a hr held, if_pos ⟨hq, hobeys⟩]
  | forTrain train =>
    simp only [operate, perform, answer_fst, interlock, releaseIfHeldBy, indexOf, hindex]
      at freed ⊢
    split at freed
    · rename_i hholder
      rw [if_pos hholder, aspect_release s.interlocking reg a hr held, if_pos ⟨hq, hobeys⟩]
    · rw [held] at freed
      cases freed
  | @byDrive place e he hroute =>
    rw [operate, passAt_of_drive reg he] at freed hcloses ⊢
    rw [← hroute] at hindex
    exact Drive.stop_of_freed hr (hs.sound (List.mem_of_getElem? he)).onRoute hindex held freed hq
      hobeys

end Releasing

/-- Releasing a route leaves a signal that another held route passes as it was, unless both list
it and it has stood open since the last grant of a held route that was granted no earlier than
either of the two. Such a signal is set to stop. So a signal that the other route has opened
outlasts the release of a route granted later. -/
theorem release_closes_no_earlier {reg : Registry} {config : SessionConfig} {s : Session}
    (started : start reg config = .ok s) (operations : List Operation)
    (spared : ∀ op ∈ operations, op.sparesAspects = true) {a b : RouteIndex} {ra rb : Route}
    (ha : reg.route? a = some ra) (hb : reg.route? b = some rb)
    (heldA : (s.operateAll reg operations).interlocking.isHeld a = true)
    (heldB : (s.operateAll reg operations).interlocking.isHeld b = true)
    {q : SignalId} (hq : q ∈ rb.passedSignals) {op : Operation}
    (releasing : Releasing (s.operateAll reg operations) ra op) :
    let il := (s.operateAll reg operations).interlocking
    let il' := ((s.operateAll reg operations).operate reg op).interlocking
    (il'.track.aspect q = il.track.aspect q ∨
        q ∈ ra.signals ∧ il'.track.aspect q = some .stop ∧
          ∃ i r k ka kb, OpenedBy reg s operations q i r k ∧
            LastGrantedAt reg s operations ra.id ka ∧ LastGrantedAt reg s operations rb.id kb ∧
            ka ≤ k ∧ kb ≤ k) ∧
      (q ∈ ra.signals → il.obeys q = true → il'.isHeld a = false →
        il'.track.aspect q = some .stop) ∧
      ∀ ka kb, LastGrantedAt reg s operations ra.id ka → LastGrantedAt reg s operations rb.id kb →
        kb < ka → OpenSince reg s operations q kb → il'.track.aspect q = il.track.aspect q := by
  intro il il'
  have hreachable : Reachable reg (fun _ => True) (s.operateAll reg operations) :=
    (Reachable.start started).operateAll fun _ _ => trivial
  have hcloses : Closes ra.signals il il' := releasing.closes hreachable ha
  have hqb : q ∈ rb.signals := List.dropLast_subset _ hq
  refine ⟨?_, fun hqa hobeys freed =>
    releasing.stop_of_freed hreachable ha heldA freed hqa hobeys, ?_⟩
  · by_cases hsame : il'.track.aspect q = il.track.aspect q
    · exact .inl hsame
    obtain ⟨hqa, hobeys, hstop⟩ := (hcloses.aspect q).resolve_left hsame
    obtain ⟨unjammed, hreports⟩ := Bool.and_eq_true_iff.mp hobeys
    obtain ⟨aspect, haspect⟩ := Option.isSome_iff_exists.mp hreports
    have hopen : il.isOpen q = true := by
      refine isOpen_iff.mpr ⟨aspect, haspect, ?_⟩
      rintro rfl
      exact hsame (hstop.trans haspect.symm)
    obtain ⟨i, r, k, hopened⟩ := exists_openedBy (isOpen_start started q) spared hopen
      (Bool.not_eq_true' _ |>.mp unjammed)
    obtain ⟨ka, hka⟩ := exists_lastGrantedAt ha (free_of_start started a) heldA
    obtain ⟨kb, hkb⟩ := exists_lastGrantedAt hb (free_of_start started b) heldB
    exact .inr ⟨hqa, hstop, i, r, k, ka, kb, hopened, hka, hkb,
      hopened.since.le_of_granted ha hqa hka.granted,
      hopened.since.le_of_granted hb hqb hkb.granted⟩
  · intro ka kb hka _ horder hsince
    rcases hcloses.aspect q with hsame | ⟨hqa, -, -⟩
    · exact hsame
    · have hle := hsince.le_of_granted ha hqa hka.granted
      omega

/-- Two blocks in a row. The destination of the first route is the source of the second one. -/
def twoBlocks : Table where
  topology := {
    segments := ["a", "b", "c", "d"]
    signals := [("s", .main), ("t", .main), ("u", .main)]
    points := []
    sections := [] }
  routes := [
    { id := "first", source := "s", destination := "t", orientation := .clockwise
      length := .zero, sections := [], points := []
      signals := ["s", "t"], conflicts := []
      path := [.segment "a", .segment "b"] },
    { id := "second", source := "t", destination := "u", orientation := .clockwise
      length := .zero, sections := [], points := []
      signals := ["t", "u"], conflicts := []
      path := [.segment "c", .segment "d"] }]

def twoBlocksRoutes : Registry := ⟨twoBlocks.topology, twoBlocks.routes, by decide, by decide⟩

theorem twoBlocks_accepted : Registry.ofTable twoBlocks = .ok twoBlocksRoutes := rfl

def twoBlocksSession : Session where
  interlocking := .initial twoBlocks.topology
  policy := .sectional
  config := .standard
  grabs := .empty 32
  drives := []
  running := true
  outsideCount := 0

theorem twoBlocks_started : start twoBlocksRoutes .standard = .ok twoBlocksSession := rfl

/-- The train that has arrived in the first block is granted the second one before its drive
releases the first one. The release closes the signal between the two. -/
theorem twoBlocks_arrival_closes_next :
    let run : List Operation := [.command (.directGrant "T1" "first"),
      .launchOutside "T1" "first" .automatic, .command (.place "T1" ["b"]),
      .command (.directGrant "T1" "second")]
    let last := twoBlocksSession.operateAll twoBlocksRoutes run
    last.interlocking.track.aspect "t" = some .go ∧
      ((last.operate twoBlocksRoutes (.pass 0)).interlocking.track.aspect "t" = some .stop) ∧
      ∃ i r k, OpenedBy twoBlocksRoutes twoBlocksSession run "t" i r k := by
  intro run last
  obtain ⟨hshared, hfreed, -⟩ := release_closes_no_earlier twoBlocks_started
    run (by decide) (a := 0) (b := 1) rfl rfl (by decide) (by decide) (q := "t") (by decide)
    (@Releasing.byDrive last _ 0 _ rfl rfl)
  refine ⟨by decide, hfreed (by decide) (by decide) (by decide), ?_⟩
  rcases hshared with hsame | ⟨-, -, i, r, k, -, -, hopened, -⟩
  · exact absurd hsame (by decide)
  · exact ⟨i, r, k, hopened⟩

/-- Releasing the first route by its id closes the source of the second one, which stays held. -/
theorem twoBlocks_release_closes_next :
    let run : List Operation :=
      [.command (.directGrant "T1" "first"), .command (.directGrant "T1" "second")]
    let last := twoBlocksSession.operateAll twoBlocksRoutes run
    let after := last.operate twoBlocksRoutes (.command (.release "first"))
    Registry.ofTable twoBlocks = .ok twoBlocksRoutes ∧
      start twoBlocksRoutes .standard = .ok twoBlocksSession ∧
      last.interlocking.heldRoutes twoBlocksRoutes = [("first", "T1"), ("second", "T1")] ∧
      after.interlocking.heldRoutes twoBlocksRoutes = [("second", "T1")] ∧
      (twoBlocksRoutes.find? "second").map (·.passedSignals) = some ["t"] ∧
      last.interlocking.track.aspect "t" = some .go ∧
      after.interlocking.track.aspect "t" = some .stop := by
  refine ⟨twoBlocks_accepted, twoBlocks_started, ?_⟩
  decide

end Session

end Signalbox
