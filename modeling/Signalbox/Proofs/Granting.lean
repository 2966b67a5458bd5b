import Mathlib.Data.List.Basic
import Signalbox.Interlocking.Grant

/-!
What granting and releasing a route do to the holders and to the signals. A series of commands
is described by what each signal shows after it, so that nothing later opens a series.
-/
namespace Signalbox.Interlocking

/-! ### Commands -/

@[simp] theorem track_setHolder (il : Interlocking) (i : RouteIndex) (train : Option TrainId) :
    (il.setHolder i train).track = il.track := rfl

@[simp] theorem jammed_commandSignal (il : Interlocking) (s : SignalId) (a : Aspect) :
    (il.commandSignal s a).1.track.jammed = il.track.jammed := by
  unfold commandSignal
  split
  · rename_i track h
    obtain ⟨-, -, rfl⟩ := Track.setAspect_eq_ok_iff.mp h
    rfl
  · rfl

theorem track_commandPoint (il : Interlocking) (p : PointId) (position : PointPosition) :
    (il.commandPoint p position).1.track.aspect = il.track.aspect ∧
      (il.commandPoint p position).1.track.jammed = il.track.jammed := by
  unfold commandPoint
  split
  · rename_i track h
    obtain ⟨-, -, rfl⟩ := Track.setPoint_eq_ok_iff.mp h
    exact ⟨rfl, rfl⟩
  · exact ⟨rfl, rfl⟩

@[simp] theorem aspect_commandPoints (il : Interlocking)
    (commands : List (PointId × PointPosition)) :
    (il.commandPoints commands).1.track.aspect = il.track.aspect := by
  apply commandAll_invariant (·.track.aspect)
  intro il c
  exact (track_commandPoint il c.1 c.2).1

@[simp] theorem jammed_commandPoints (il : Interlocking)
    (commands : List (PointId × PointPosition)) :
    (il.commandPoints commands).1.track.jammed = il.track.jammed := by
  apply commandAll_invariant (·.track.jammed)
  intro il c
  exact (track_commandPoint il c.1 c.2).2

@[simp] theorem jammed_commandSignals (il : Interlocking)
    (commands : List (SignalId × Aspect)) :
    (il.commandSignals commands).1.track.jammed = il.track.jammed := by
  apply commandAll_invariant (·.track.jammed)
  intro il c
  exact jammed_commandSignal il c.1 c.2

def obeys (il : Interlocking) (s : SignalId) : Bool :=
  !il.track.jammed s && (il.track.aspect s).isSome

theorem aspect_commandSignal (il : Interlocking) (s q : SignalId) (a : Aspect) :
    (il.commandSignal s a).1.track.aspect q =
      if q = s ∧ il.obeys q then some a else il.track.aspect q := by
  unfold commandSignal obeys
  cases h : il.track.setAspect s a with
  | ok track =>
    obtain ⟨hjam, hsome, rfl⟩ := Track.setAspect_eq_ok_iff.mp h
    by_cases hq : q = s
    · subst hq
      simp [hjam, hsome]
    · simp [hq]
  | error f =>
    rw [if_neg]
    rintro ⟨rfl, hobeys⟩
    rw [Bool.and_eq_true, Bool.not_eq_true'] at hobeys
    have hok : il.track.setAspect q a = .ok _ :=
      Track.setAspect_eq_ok_iff.mpr ⟨hobeys.1, hobeys.2, rfl⟩
    simp [hok] at h

@[simp] theorem obeys_commandSignal (il : Interlocking) (s q : SignalId) (a : Aspect) :
    (il.commandSignal s a).1.obeys q = il.obeys q := by
  have haspect := aspect_commandSignal il s q a
  unfold obeys at haspect ⊢
  rw [jammed_commandSignal, haspect]
  split
  · rename_i h
    have hobeys := h.2
    rw [Bool.and_eq_true] at hobeys
    rw [hobeys.1, hobeys.2]
    rfl
  · rfl

theorem aspect_commandSignals (il : Interlocking) (aspectOf : SignalId → Aspect)
    (signals : List SignalId) (q : SignalId) :
    (il.commandSignals (signals.map fun s => (s, aspectOf s))).1.track.aspect q =
      if q ∈ signals ∧ il.obeys q then some (aspectOf q) else il.track.aspect q := by
  unfold commandSignals
  induction signals generalizing il with
  | nil => simp [commandAll]
  | cons s rest ih =>
    rw [List.map_cons, commandAll]
    simp only [ih, obeys_commandSignal, aspect_commandSignal, List.mem_cons]
    by_cases hq : q = s
    · subst hq
      by_cases hobeys : il.obeys q <;> simp [hobeys]
    · simp [hq]

/-! ### Grants -/

section Commit

variable (il : Interlocking) (reg : Registry) (train : TrainId) (i : RouteIndex) (r : Route)

theorem holder_commit (j : RouteIndex) :
    (il.commit reg train i r).1.holder j = if j = i then some train else il.holder j := by
  simp [commit, setHolder]

theorem jammed_commit : (il.commit reg train i r).1.track.jammed = il.track.jammed := by
  simp [commit]

theorem aspect_commit (q : SignalId) :
    (il.commit reg train i r).1.track.aspect q =
      if q ∈ r.passedSignals ∧ il.obeys q then some (proceedAspect reg.topology q)
      else il.track.aspect q := by
  unfold commit
  rw [aspect_commandSignals]
  simp [obeys]

end Commit

section Grant

structure Admits (il : Interlocking) (reg : Registry) (policy : ConflictPolicy)
    (train : TrainId) (i : RouteIndex) : Prop where
  named : train.isEmpty = false
  grantable : il.isGrantable reg policy i = true
  clear : il.isClear reg i = true

/-- What a refusal leaves: nothing has changed, but the reason may have been recorded. -/
def Refused (il il' : Interlocking) : Prop :=
  il' = il ∨ ∃ id status, (status = RouteStatus.notGrantable ∨ status = RouteStatus.notClear) ∧
    il' = il.record (.route id status)

theorem Refused.track_eq {il il' : Interlocking} (h : il.Refused il') : il'.track = il.track := by
  rcases h with rfl | ⟨id, status, -, rfl⟩ <;> rfl

theorem Refused.holder_eq {il il' : Interlocking} (h : il.Refused il') :
    il'.holder = il.holder := by
  rcases h with rfl | ⟨id, status, -, rfl⟩ <;> rfl

variable {il : Interlocking} {reg : Registry} {policy : ConflictPolicy} {train : TrainId}
  {i : RouteIndex}

theorem isHeld_of_isGrantable (h : il.isGrantable reg policy i = true) : il.isHeld i = false := by
  simpa using (Bool.and_eq_true_iff.mp h).1

theorem exists_route_of_isClear (h : il.isClear reg i = true) : ∃ r, reg.route? i = some r := by
  cases hr : reg.route? i with
  | none => simp [isClear, hr] at h
  | some r => exact ⟨r, rfl⟩

theorem grant_of_admits {r : Route} (hr : reg.route? i = some r)
    (h : il.Admits reg policy train i) :
    il.grant reg policy train i =
      ((il.commit reg train i r).1, .ok (il.commit reg train i r).2) := by
  unfold grant
  simp [hr, h.named, h.grantable, h.clear]

theorem grant_of_not_admits (h : ¬ il.Admits reg policy train i) :
    ∃ e, (il.grant reg policy train i).2 = .error e ∧
      il.Refused (il.grant reg policy train i).1 := by
  unfold grant
  cases reg.route? i with
  | none => exact ⟨_, rfl, .inl rfl⟩
  | some r =>
    cases hnamed : train.isEmpty with
    | true => exact ⟨_, rfl, .inl rfl⟩
    | false =>
      cases hgrantable : il.isGrantable reg policy i with
      | false => exact ⟨_, rfl, .inr ⟨r.id, .notGrantable, .inl rfl, rfl⟩⟩
      | true =>
        cases hclear : il.isClear reg i with
        | false => exact ⟨_, rfl, .inr ⟨r.id, .notClear, .inr rfl, rfl⟩⟩
        | true => exact absurd ⟨hnamed, hgrantable, hclear⟩ h

theorem grant_isOk_iff :
    (il.grant reg policy train i).2.isOk = true ↔ il.Admits reg policy train i := by
  constructor
  · intro hok
    by_contra hnot
    obtain ⟨e, he, -⟩ := grant_of_not_admits hnot
    rw [he] at hok
    cases hok
  · intro h
    obtain ⟨r, hr⟩ := exists_route_of_isClear h.clear
    rw [grant_of_admits hr h]
    rfl

end Grant

/-! ### Releases -/

section Release

variable (il : Interlocking) (reg : Registry) (i : RouteIndex)

theorem release_of_unknown (h : reg.route? i = none) : (il.release reg i).1 = il := by
  simp [release, h]

theorem release_of_free (h : il.isHeld i = false) : (il.release reg i).1 = il := by
  unfold release
  cases reg.route? i <;> simp [h]

theorem release_of_held {r : Route} (hr : reg.route? i = some r) (h : il.isHeld i = true) :
    (il.release reg i).1 =
      ((il.commandSignals (r.signals.map (·, .stop))).1.setHolder i none).record
        (.route r.id .released) := by
  unfold release
  simp [hr, h]

theorem holder_release (j : RouteIndex) :
    (il.release reg i).1.holder j =
      if j = i ∧ (reg.route? i).isSome then none else il.holder j := by
  cases hr : reg.route? i with
  | none => simp [release_of_unknown il reg i hr]
  | some r =>
    cases hheld : il.isHeld i with
    | true =>
      rw [release_of_held il reg i hr hheld]
      simp [setHolder]
    | false =>
      rw [release_of_free il reg i hheld]
      have hfree : il.holder i = none := by simpa [isHeld] using hheld
      split
      · rename_i h
        rw [h.1, hfree]
      · rfl

theorem jammed_release : (il.release reg i).1.track.jammed = il.track.jammed := by
  cases hr : reg.route? i with
  | none => rw [release_of_unknown il reg i hr]
  | some r =>
    cases hheld : il.isHeld i with
    | true =>
      rw [release_of_held il reg i hr hheld]
      simp
    | false => rw [release_of_free il reg i hheld]

theorem aspect_release {r : Route} (hr : reg.route? i = some r) (h : il.isHeld i = true)
    (q : SignalId) :
    (il.release reg i).1.track.aspect q =
      if q ∈ r.signals ∧ il.obeys q then some .stop else il.track.aspect q := by
  rw [release_of_held il reg i hr h]
  exact aspect_commandSignals il (fun _ => .stop) r.signals q

end Release

end Signalbox.Interlocking
