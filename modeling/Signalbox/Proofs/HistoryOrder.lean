import Mathlib.Data.List.Chain
import Signalbox.Proofs.SessionGrabs
import Signalbox.Proofs.SessionTraffic

/-!
The order of events. In the history of every run the grants and releases of a route take turns, and
so do the grabs of a train. A refusal stands for an attempt that has done nothing else, and the
events of each drive are those of its course.
-/
namespace Signalbox

namespace Event

def holding? (id : RouteId) : Event → Option Bool
  | .route r (.granted _) => if r = id then some true else none
  | .route r .released => if r = id then some false else none
  | _ => none

def grabbing? (train : TrainId) : Event → Option Bool
  | .grab t held => if t = train then some held else none
  | _ => none

end Event

/-- No mark is like the one before it, and the first one is `true`. -/
def Alternates (marks : List Bool) : Prop := (false :: marks).IsChain (· ≠ ·)

/-- The marks alternate and have come to the given one. -/
structure Switches (marks : List Bool) (value : Bool) : Prop where
  alternates : Alternates marks
  last : (false :: marks).getLast? = some value

section Switches

variable {log : List Event} {view : Event → Option Bool} {value next : Bool} {e : Event}

theorem switches_nil : Switches [] false := ⟨.singleton _, rfl⟩

theorem Switches.push {marks : List Bool} (h : Switches marks value) (changes : value ≠ next) :
    Switches (marks ++ [next]) next where
  alternates := by
    refine List.IsChain.append h.alternates (.singleton next) ?_
    intro before hbefore after hafter
    cases h.last.symm.trans hbefore
    cases hafter
    exact changes
  last := by rw [← List.cons_append, List.getLast?_concat]

theorem Switches.mark (h : Switches (log.filterMap view) value) (he : view e = some next)
    (changes : value ≠ next) : Switches ((log ++ [e]).filterMap view) next := by
  rw [List.filterMap_append, List.filterMap_cons_some he]
  exact h.push changes

theorem Switches.skip (h : Switches (log.filterMap view) value) (he : view e = none) :
    Switches ((log ++ [e]).filterMap view) value := by
  rw [List.filterMap_append, List.filterMap_cons_none he]
  simpa using h

end Switches

namespace Interlocking

/-! ### Grants and releases -/

/-- The grants and releases of each route have come to whether it is held now. -/
structure TakesTurns (reg : Registry) (il : Interlocking) : Prop where
  routes : ∀ i r, reg.route? i = some r →
    Switches (il.log.filterMap (Event.holding? r.id)) (il.isHeld i)
  unknown : ∀ id, reg.index? id = none → il.log.filterMap (Event.holding? id) = []

namespace TakesTurns

variable {reg : Registry} {il il' : Interlocking}

theorem of_same (h : TakesTurns reg il) (holder : il'.holder = il.holder)
    (adds : il.Adds (∀ id, ·.holding? id = none) il') : TakesTurns reg il' where
  routes i r hr := by
    rw [adds.filterMap_eq fun e he => he r.id, isHeld, holder]
    exact h.routes i r hr
  unknown id hid := by
    rw [adds.filterMap_eq fun e he => he id]
    exact h.unknown id hid

theorem assign (h : TakesTurns reg il) {i : RouteIndex} {r : Route}
    (hr : reg.route? i = some r) (train : Option TrainId) {e : Event}
    (he : ∀ id, e.holding? id = if r.id = id then some train.isSome else none)
    (changes : il.isHeld i ≠ train.isSome) :
    TakesTurns reg ((il.setHolder i train).record e) where
  routes j other hother := by
    by_cases hj : j = i
    · subst hj
      cases hr.symm.trans hother
      have hheld : ((il.setHolder j train).record e).isHeld j = train.isSome := by
        simp [isHeld]
      rw [hheld]
      exact (h.routes j r hr).mark ((he r.id).trans (if_pos rfl)) changes
    · have hheld : ((il.setHolder i train).record e).isHeld j = il.isHeld j := by
        simp [isHeld, setHolder, hj]
      have hids : r.id ≠ other.id := fun hid =>
        hj (Registry.place_eq_of_id_eq hother hr hid.symm)
      rw [hheld]
      exact (h.routes j other hother).skip ((he other.id).trans (if_neg hids))
  unknown id hid := by
    have hne : r.id ≠ id := by
      rintro rfl
      rw [Registry.index?_of_route? hr] at hid
      cases hid
    rw [log_record, List.filterMap_append, List.filterMap_cons_none ((he id).trans (if_neg hne)),
      List.filterMap_nil, List.append_nil]
    exact h.unknown id hid

theorem commit (h : TakesTurns reg il) (train : TrainId)
    {i : RouteIndex} {r : Route} (hr : reg.route? i = some r) (free : il.isHeld i = false) :
    TakesTurns reg (il.commit reg train i r).1 := by
  have htaken : TakesTurns reg
      ((il.setHolder i (some train)).record (.route r.id (.granted train))) :=
    h.assign hr (some train) (fun _ => rfl) (by simp [free])
  refine htaken.of_same ?_
    (adds_after_granted il reg train i r (fun _ _ _ => rfl) fun _ _ _ => rfl)
  simp [Interlocking.commit]

theorem release (h : TakesTurns reg il) (i : RouteIndex) :
    TakesTurns reg (il.release reg i).1 := by
  cases hr : reg.route? i with
  | none => rwa [release_of_unknown il reg i hr]
  | some r =>
    cases held : il.isHeld i with
    | false => rwa [release_of_free il reg i held]
    | true =>
      rw [release_of_held il reg i hr held]
      have hstopped : TakesTurns reg (il.commandSignals (r.signals.map (·, .stop))).1 :=
        h.of_same (holder_commandSignals il _) (adds_commandSignals il (fun _ _ _ => rfl) _)
      refine hstopped.assign hr none (fun _ => rfl) ?_
      have hstill : (il.commandSignals (r.signals.map (·, .stop))).1.isHeld i = true := by
        rw [isHeld, holder_commandSignals]
        exact held
      simp [hstill]

theorem record (h : TakesTurns reg il) {e : Event} (he : ∀ id, e.holding? id = none) :
    TakesTurns reg (il.record e) :=
  h.of_same rfl (adds_record il he)

theorem withdraws (h : TakesTurns reg il)
    (hw : Withdraws reg Event.isDrive il il') : TakesTurns reg il' := by
  apply hw.keeps (P := TakesTurns reg) ?_ h
  intro a b hstep ha
  cases hstep with
  | stop s =>
    exact ha.of_same (holder_commandSignal a s .stop) (adds_commandSignal a s .stop fun _ => rfl)
  | release i => exact ha.release i
  | note e he =>
    have hsilent : ∀ e : Event, e.isDrive = true → ∀ id, e.holding? id = none :=
      Event.of_isDrive fun _ _ _ _ => rfl
    exact ha.record (hsilent e he)

theorem attempt (h : TakesTurns reg il) {policy : ConflictPolicy}
    (hattempt : Attempt reg policy il il') : TakesTurns reg il' := by
  cases hattempt with
  | granted hr hadmits => exact h.commit _ hr (isHeld_of_isGrantable hadmits.grantable)
  | refused hrefused =>
    rcases hrefused with rfl | ⟨id, status, hstatus, rfl⟩
    · exact h
    · rcases hstatus with rfl | rfl
      · exact h.record fun _ => rfl
      · exact h.record fun _ => rfl

theorem besides (h : TakesTurns reg il) {op : Operation}
    (hbesides : op.Besides reg il il') : TakesTurns reg il' := by
  cases hbesides with
  | attempt _ hattempt => exact h.attempt hattempt
  | release _ i => exact h.release i
  | grab _ train held => exact h.record fun _ => rfl
  | outside s houtside =>
    exact h.of_same (s.holder_operate_of_outside reg houtside)
      (s.adds_operate_of_outside reg houtside (fun _ _ _ => rfl) (fun _ _ _ => rfl)
        (fun _ _ _ => rfl) fun _ _ _ => rfl)

end TakesTurns

/-! ### Grabs -/

/-- The grabs of each train have come to whether it is grabbed now. -/
structure GrabsTakeTurns (g : GrabTable) (il : Interlocking) : Prop where
  distinct : g.Distinct
  trains : ∀ train, Switches (il.log.filterMap (Event.grabbing? train)) (g.isGrabbed train)

theorem GrabsTakeTurns.of_adds {g : GrabTable} {il il' : Interlocking} (h : GrabsTakeTurns g il)
    (adds : il.Adds (·.isGrab = false) il') : GrabsTakeTurns g il' where
  distinct := h.distinct
  trains train := by
    rw [adds.filterMap_eq]
    · exact h.trains train
    · intro e he
      cases e with
      | grab => cases he
      | _ => rfl

theorem GrabsTakeTurns.record {g g' : GrabTable} {il : Interlocking} (h : GrabsTakeTurns g il)
    {train : TrainId} {held : Bool} (distinct : g'.Distinct)
    (hg' : ∀ t, g'.isGrabbed t = if t = train then held else g.isGrabbed t)
    (changes : g.isGrabbed train ≠ held) : GrabsTakeTurns g' (il.record (.grab train held)) where
  distinct := distinct
  trains t := by
    rw [hg' t]
    split
    · rename_i ht
      subst ht
      exact (h.trains t).mark (if_pos rfl) changes
    · rename_i ht
      exact (h.trains t).skip (if_neg (Ne.symm ht))

theorem kept_grabsTakeTurns (reg : Registry) : GrabTable.Kept reg GrabsTakeTurns where
  withdraws hw h := h.of_adds
    (hw.adds (fun _ _ => rfl) (fun _ => rfl) (Event.of_isDrive fun _ _ _ => rfl))
  grab {g g' il train slot} hgrab h := by
    obtain ⟨hfree, -, -⟩ := GrabTable.grab_eq_ok hgrab
    exact h.record (h.distinct.grab hgrab) (GrabTable.isGrabbed_grab hgrab) (by simp [hfree])
  release {g il train slot} htrain h := by
    have hgrabbed : g.isGrabbed train = true :=
      GrabTable.isGrabbed_iff.mpr ⟨slot, (lookup_eq_some_iff_mem h.distinct.slots).mp htrain⟩
    exact h.record (h.distinct.release slot) (h.distinct.isGrabbed_release htrain)
      (by simp [hgrabbed])

/-! ### Refusals -/

theorem grantRoute_refusal (il : Interlocking) (reg : Registry) (policy : ConflictPolicy)
    (train : TrainId) (id : RouteId) :
    (∃ status, (il.grantRoute reg policy train id).1 = il.record (.route id status)) ∨
      il.Adds (·.isRefusal = false) (il.grantRoute reg policy train id).1 := by
  unfold grantRoute indexOf
  cases hid : reg.index? id with
  | none => exact .inr (.refl il)
  | some i =>
    obtain ⟨r, hr, rfl⟩ := Registry.route?_of_index? hid
    dsimp only
    unfold grant
    rw [hr]
    dsimp only
    split
    · exact .inr (.refl il)
    · split
      · exact .inl ⟨.notGrantable, rfl⟩
      · split
        · exact .inl ⟨.notClear, rfl⟩
        · exact .inr (adds_commit il reg train i r (fun _ _ => rfl) (fun _ _ => rfl) rfl)

theorem requestRoute_adds (il : Interlocking) (reg : Registry) (policy : ConflictPolicy)
    (request : RouteRequest) :
    il.Adds (·.isRefusal = false) (il.requestRoute reg policy request).1 := by
  rcases requestRoute_cases request with h | ⟨i, r, -, -, h⟩
  · rw [h]
    exact .refl il
  · rw [h]
    exact adds_commit il reg request.train i r (fun _ _ => rfl) (fun _ _ => rfl) rfl

end Interlocking

/-- The operation is an attempt to be granted this route, by its id. -/
def Operation.AsksFor (op : Operation) (id : RouteId) : Prop :=
  ∃ train, op = .command (.grant train id) ∨ op = .command (.directGrant train id)

namespace Session

open Interlocking

variable {reg : Registry} {s : Session}

theorem takesTurns_of_reachable {allowed : Operation → Prop}
    (h : Reachable reg allowed s) : s.interlocking.TakesTurns reg := by
  refine h.of_turns (P := fun t => t.interlocking.TakesTurns reg) ?_ ?_
  · exact ⟨fun _ _ _ => switches_nil, fun _ _ => rfl⟩
  · intro op t t' _ hturn hbefore
    cases hturn with
    | begin il before after d => exact hbefore.withdraws (Drive.begin_withdraws reg d il)
    | pass il before after d => exact hbefore.withdraws (Drive.pass_withdraws reg d il)
    | launch | cancel | drop => exact hbefore
    | other drives hbesides => exact hbefore.besides hbesides

theorem grabsTakeTurns_operate (h : GrabsTakeTurns s.grabs s.interlocking) (op : Operation) :
    GrabsTakeTurns (s.operate reg op).grabs (s.operate reg op).interlocking := by
  cases hgrabbing : op.isGrabbing with
  | true => exact kept_operate_of_grabbing (kept_grabsTakeTurns reg) h hgrabbing
  | false =>
    rw [grabs_operate_of_not_grabbing reg s hgrabbing]
    apply h.of_adds
    cases houtside : op.isOutside with
    | true =>
      exact adds_operate_of_outside reg s houtside (fun _ _ => rfl) (fun _ _ => rfl)
        (fun _ _ => rfl) fun _ _ => rfl
    | false =>
      exact (operate_effect_of_not_grabbing reg s houtside hgrabbing).adds (fun _ _ => rfl)
        (fun _ _ => rfl) (fun _ _ => rfl) (Event.of_isDrive fun _ _ _ => rfl)

theorem grabsTakeTurns_start {config : SessionConfig} (h : start reg config = .ok s) :
    GrabsTakeTurns s.grabs s.interlocking := by
  obtain ⟨policy, rfl⟩ := eq_of_start h
  exact ⟨GrabTable.distinct_empty config.maxTrains, fun _ => switches_nil⟩

theorem grabsTakeTurns_of_reachable {allowed : Operation → Prop} (h : Reachable reg allowed s) :
    GrabsTakeTurns s.grabs s.interlocking := by
  induction h with
  | start hstart => exact grabsTakeTurns_start hstart
  | step _ _ ih => exact grabsTakeTurns_operate ih _

/-! ### Refusals -/

theorem refusal_of_asking {op : Operation} {id : RouteId} (train : TrainId)
    (hasks : op.AsksFor id)
    (hop : s.operate reg op = (s.interlock (·.grantRoute reg s.policy train id)).1) :
    (∃ id status, op.AsksFor id ∧ s.operate reg op = s.record (.route id status)) ∨
      s.interlocking.Adds (·.isRefusal = false) (s.operate reg op).interlocking := by
  rw [hop]
  rcases grantRoute_refusal s.interlocking reg s.policy train id with
    ⟨status, hrefused⟩ | hadds
  · refine .inl ⟨id, status, hasks, ?_⟩
    simp only [interlock, hrefused]
    rfl
  · exact .inr hadds

theorem refusal_of_attempt {op : Operation} (h : op.isGrantAttempt = true) :
    (∃ id status, op.AsksFor id ∧ s.operate reg op = s.record (.route id status)) ∨
      s.interlocking.Adds (·.isRefusal = false) (s.operate reg op).interlocking := by
  cases op with
  | command c =>
    cases c with
    | grant train id =>
      cases hrunning : s.requireRunning with
      | error e =>
        simp only [operate, perform, answer_fst, grantRoute, hrunning]
        exact .inr (.refl _)
      | ok u =>
        apply refusal_of_asking train ⟨train, .inl rfl⟩
        simp only [operate, perform, answer_fst, grantRoute, hrunning]
    | directGrant train id =>
      apply refusal_of_asking train ⟨train, .inr rfl⟩
      simp only [operate, perform, answer_fst]
    | request r =>
      simp only [operate, perform, answer_fst, requestRoute]
      cases s.requireRunning.bind fun _ => s.requireGrabbed r.train with
      | error e => exact .inr (.refl _)
      | ok u => exact .inr (requestRoute_adds s.interlocking reg s.policy r)
    | directRequest r =>
      simp only [operate, perform, answer_fst]
      exact .inr (requestRoute_adds s.interlocking reg s.policy r)
    | _ => cases h
  | _ => cases h

theorem adds_of_not_attempt (reg : Registry) (s : Session) {op : Operation}
    (h : op.isGrantAttempt = false) :
    s.interlocking.Adds (·.isRefusal = false) (s.operate reg op).interlocking := by
  refine (turns_operate reg s op).adds ?_ (fun _ _ => rfl) (fun _ => rfl)
    (Event.of_isDrive fun _ _ _ => rfl)
  intro il il' hbesides
  cases hbesides with
  | attempt hasked _ =>
    rw [hasked] at h
    cases h
  | release _ i => exact adds_release il reg i (fun _ _ => rfl) fun _ => rfl
  | grab _ train held => exact adds_record il rfl
  | outside s houtside =>
    exact adds_operate_of_outside reg s houtside (fun _ _ => rfl) (fun _ _ => rfl)
      (fun _ _ => rfl) fun _ _ => rfl

theorem refusal_of_operate (reg : Registry) (s : Session) (op : Operation) :
    (∃ id status, op.AsksFor id ∧ s.operate reg op = s.record (.route id status)) ∨
      s.interlocking.Adds (·.isRefusal = false) (s.operate reg op).interlocking := by
  cases hasked : op.isGrantAttempt with
  | true => exact refusal_of_attempt hasked
  | false => exact .inr (adds_of_not_attempt reg s hasked)

theorem append_eq_cases {log events before after : List Event} {e : Event}
    (h : log ++ events = before ++ e :: after) :
    (∃ later, log = before ++ e :: later) ∨
      ∃ earlier, before = log ++ earlier ∧ events = earlier ++ e :: after := by
  rcases List.append_eq_append_iff.mp h with ⟨earlier, hbefore, hevents⟩ | ⟨later, hlog, hlater⟩
  · exact .inr ⟨earlier, hbefore, hevents⟩
  · rcases List.cons_eq_append_iff.mp hlater with ⟨rfl, hevents⟩ | ⟨rest, rfl, -⟩
    · exact .inr ⟨[], by simpa using hlog.symm, hevents⟩
    · exact .inl ⟨rest, hlog⟩

/-- Every refusal goes back to an operation that has recorded it and has done nothing else. -/
theorem exists_attempt (hstart : s.log = []) {operations : List Operation}
    {before after : List Event} {id : RouteId} {status : RouteStatus}
    (refused : status = .notGrantable ∨ status = .notClear)
    (h : (s.operateAll reg operations).log = before ++ .route id status :: after) :
    ∃ earlier op later, operations = earlier ++ op :: later ∧ op.AsksFor id ∧
      (s.operateAll reg earlier).log = before ∧
      (s.operateAll reg earlier).operate reg op =
        (s.operateAll reg earlier).record (.route id status) := by
  induction operations using List.reverseRecOn generalizing after with
  | nil => simp [operateAll, hstart] at h
  | append_singleton operations op ih =>
    rw [operateAll_append] at h
    have hearlier {later : List Event}
        (hlog : (s.operateAll reg operations).log = before ++ .route id status :: later) :
        ∃ earlier o later, operations ++ [op] = earlier ++ o :: later ∧ o.AsksFor id ∧
          (s.operateAll reg earlier).log = before ∧
          (s.operateAll reg earlier).operate reg o =
            (s.operateAll reg earlier).record (.route id status) := by
      obtain ⟨earlier, o, later, rfl, hrefusal⟩ := ih hlog
      exact ⟨earlier, o, later ++ [op], by simp, hrefusal⟩
    rcases refusal_of_operate reg (s.operateAll reg operations) op with
      ⟨other, status', hasks, hrecord⟩ | ⟨events, hevents, hkind⟩
    · have hlog : (s.operateAll reg operations).log ++ [.route other status'] =
          before ++ .route id status :: after := by
        rw [← h]
        exact (congrArg log hrecord).symm
      rcases append_eq_cases hlog with ⟨later, hlater⟩ | ⟨between, rfl, hnew⟩
      · exact hearlier hlater
      · cases between with
        | cons first rest => simp at hnew
        | nil =>
          cases hnew
          exact ⟨operations, op, [], rfl, hasks, (List.append_nil _).symm, hrecord⟩
    · rcases append_eq_cases (hevents.symm.trans h) with ⟨later, hlater⟩ | ⟨between, -, rfl⟩
      · exact hearlier hlater
      · have hnone := hkind (.route id status) (by simp)
        rcases refused with rfl | rfl <;> cases hnone

theorem alternates_holding (h : s.interlocking.TakesTurns reg) (id : RouteId) :
    Alternates (s.log.filterMap (Event.holding? id)) := by
  cases hid : reg.index? id with
  | none =>
    rw [log, h.unknown id hid]
    exact switches_nil.alternates
  | some i =>
    obtain ⟨r, hr, rfl⟩ := Registry.route?_of_index? hid
    exact (h.routes i r hr).alternates

/-- The history of every run is in order. Grants and releases of a route alternate, beginning with
a grant and up to whether it is held now, and so do the grabs of a train. A refusal stands for an
attempt that has changed nothing else. Drives record their courses: in every traffic each of them
goes from its beginning on to one end at most, and what a history says of drives is what is written
in the course of such traffic. -/
theorem events_in_order {config : SessionConfig} {s₀ : Session}
    (started : start reg config = .ok s₀) (operations : List Operation) :
    let s := s₀.operateAll reg operations
    (∀ id, Alternates (s.log.filterMap (Event.holding? id))) ∧
    (∀ i r, reg.route? i = some r →
      Switches (s.log.filterMap (Event.holding? r.id)) (s.interlocking.isHeld i)) ∧
    (∀ train, Switches (s.log.filterMap (Event.grabbing? train)) (s.grabs.isGrabbed train)) ∧
    (∀ before id status after, (status = .notGrantable ∨ status = .notClear) →
      s.log = before ++ .route id status :: after →
      ∃ earlier op later, operations = earlier ++ op :: later ∧ op.AsksFor id ∧
        (s₀.operateAll reg earlier).log = before ∧
        (s₀.operateAll reg earlier).operate reg op =
          (s₀.operateAll reg earlier).record (.route id status)) ∧
    (∀ (il : Interlocking) (moves : List Move) (n : Nat) (d : Drive),
      (Traffic.run reg ⟨il, []⟩ moves).drives[n]? = some d →
        d.Recorded (Traffic.ofDrive n (Traffic.written reg ⟨il, []⟩ moves))) ∧
    ∃ moves, let drives := Traffic.run reg ⟨.initial reg.topology, []⟩ moves
      let notes := Traffic.written reg ⟨.initial reg.topology, []⟩ moves
      drives.Carries s.interlocking (s.drives.map (·.drive)) ∧
        s.log.filter Event.isDrive = notes.map (·.2) ∧
        ∀ p ∈ notes, p.1 < drives.drives.length := by
  intro s
  have hreachable : Reachable reg (fun _ => True) s :=
    (Reachable.start started).operateAll fun _ _ => trivial
  have hstart : s₀.log = [] := by
    rw [log, interlocking_of_start started]
    rfl
  have hroutes := takesTurns_of_reachable hreachable
  refine ⟨alternates_holding hroutes, hroutes.routes,
    (grabsTakeTurns_of_reachable hreachable).trains, ?_, ?_, ?_⟩
  · exact fun before id status after => exists_attempt hstart
  · exact fun il moves n d hd => Traffic.recorded_run rfl hd
  · obtain ⟨moves, hcarries, hwritten⟩ := hreachable.exists_moves
    refine ⟨moves, hcarries, hwritten, ?_⟩
    exact fun p => Traffic.lt_length_of_mem_written reg _ moves

/-- A train is granted a route, asks for it again and is refused, starts to drive on it and is let
go of before it has got anywhere. -/
theorem junction_history :
    let run : List Operation := [.command (.grab "T1"), .command (.grant "T1" "left"),
      .command (.directGrant "T1" "left"), .command (.drive "T1" "left" .manual),
      .command (.ungrab 0), .command .poll, .command (.release "left")]
    let s := junctionSession.operateAll junctionRoutes run
    s.log.filterMap (Event.holding? "left") = [true, false] ∧
      s.log.filterMap (Event.grabbing? "T1") = [true, false] ∧
      Alternates (s.log.filterMap (Event.holding? "left")) ∧
      Alternates (s.log.filterMap (Event.grabbing? "T1")) ∧
      s.log.filter Event.isDrive = [.drive "T1" "left" .initializing,
        .drive "T1" "left" .progressing, .drive "T1" "left" .aborted] ∧
      ∃ earlier op later, run = earlier ++ op :: later ∧ op.AsksFor "left" ∧
        (junctionSession.operateAll junctionRoutes earlier).operate junctionRoutes op =
          (junctionSession.operateAll junctionRoutes earlier).record
            (.route "left" .notGrantable) := by
  intro run s
  obtain ⟨hroutes, -, htrains, hrefusals, -, -⟩ :=
    events_in_order junction_started run
  have hsplit : s.log = s.log.take 5 ++ .route "left" .notGrantable :: s.log.drop 6 := by decide
  obtain ⟨earlier, op, later, hrun, hasks, -, hrefused⟩ := hrefusals _ _ _ _ (.inl rfl) hsplit
  exact ⟨by decide, by decide, hroutes "left", (htrains "T1").alternates, by decide,
    earlier, op, later, hrun, hasks, hrefused⟩

end Session

end Signalbox
