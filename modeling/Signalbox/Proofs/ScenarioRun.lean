import Signalbox.Proofs.Operation
import Signalbox.Scenario.Play

/-!
Plays as runs. Every action of a scenario that goes through comes to some operations of a
session. They jam and lose nothing and speak of what the action speaks of. So what holds of all
runs holds of every play, up to each of its actions.
-/
namespace Signalbox

/-- Whether a play can come to the operation: no scenario jams or loses a signal or point, and all
drives of a scenario are the controller's. -/
def Operation.isPlayed : Operation → Bool
  | .command (.jam _) | .command (.lose _) | .disturb _ => false
  | .command (.outsideDrive ..) | .launchOutside .. => false
  | _ => true

/-- The names that an operation can bring into the history. -/
def Operation.names : Operation → List String
  | .command (.place train segments) => train :: segments
  | .command (.mark segment _) => [segment]
  | .command (.removeTrain train) | .command (.grab train) | .command (.grant train _)
  | .command (.directGrant train _) => [train]
  | .command (.request r) | .command (.directRequest r) => [r.train]
  | .command (.drive train route _) | .command (.outsideDrive train route _)
  | .enlist train route _ | .launchOutside train route _ => [train, route]
  | _ => []

namespace Session

variable {reg : Registry} {s s' : Session} {known : String → Prop}

/-- Played operations that bring in known names only lead from the one session to the other. -/
def PlaysTo (reg : Registry) (known : String → Prop) (s s' : Session) : Prop :=
  ∃ operations, (∀ op ∈ operations, op.isPlayed = true ∧ ∀ n ∈ op.names, known n) ∧
    s' = s.operateAll reg operations

theorem PlaysTo.refl (reg : Registry) (s : Session) : PlaysTo reg known s s := ⟨[], by simp, rfl⟩

theorem PlaysTo.trans {s'' : Session} (h : PlaysTo reg known s s')
    (h' : PlaysTo reg known s' s'') : PlaysTo reg known s s'' := by
  obtain ⟨first, hfirst, rfl⟩ := h
  obtain ⟨second, hsecond, rfl⟩ := h'
  exact ⟨first ++ second, List.forall_mem_append.mpr ⟨hfirst, hsecond⟩,
    (operateAll_append reg s first second).symm⟩

theorem playsTo_of_operate (op : Operation) (h : op.isPlayed = true)
    (hnames : ∀ n ∈ op.names, known n) (hs : s' = s.operate reg op) : PlaysTo reg known s s' :=
  ⟨[op], List.forall_mem_singleton.mpr ⟨h, hnames⟩, hs⟩

theorem playsTo_settle (reg : Registry) (s : Session) : PlaysTo reg known s (s.settle reg) :=
  ⟨[.command .poll, .command .poll], by simp [Operation.isPlayed, Operation.names], rfl⟩

theorem playsTo_pause (reg : Registry) (s : Session) (seconds : Binary64) :
    PlaysTo reg known s (s.pause reg seconds) := by
  unfold pause
  split
  · exact playsTo_settle reg s
  · exact .refl reg s

theorem eq_of_require {ε α : Type} {wrap : ε → PlayError} {result : Session × Except ε α}
    (h : require wrap result = .ok s') : s' = result.1 := by
  obtain ⟨next, answer⟩ := result
  cases answer with
  | ok a =>
    cases h
    rfl
  | error e => cases h

theorem error_of_require {ε α : Type} {wrap : ε → PlayError} {result : Session × Except ε α}
    {e : PlayError} (h : require wrap result = .error e) :
    ∃ e', result.2 = .error e' ∧ e = wrap e' := by
  obtain ⟨next, answer⟩ := result
  cases answer with
  | ok a => cases h
  | error e' => exact ⟨e', rfl, (Except.error.inj h).symm⟩

theorem error_of_attemptGrant {train : TrainId} {route : RouteId} {e : PlayError}
    (h : s.attemptGrant reg train route = .error e) :
    ∃ e', (s.grantRoute reg train route).2 = .error e' ∧ e = .session e' := by
  unfold attemptGrant at h
  split at h <;> rename_i hgrant
  · cases h
  · cases h
  · cases h
  · exact ⟨_, by rw [hgrant], (Except.error.inj h).symm⟩

theorem eq_of_attemptGrant {train : TrainId} {route : RouteId}
    (h : s.attemptGrant reg train route = .ok s') : s' = (s.grantRoute reg train route).1 := by
  unfold attemptGrant at h
  split at h <;> rename_i hgrant
  · cases h
    rw [hgrant]
  · cases h
    rw [hgrant]
  · cases h
    rw [hgrant]
  · cases h

theorem playsTo_of_act {a : Action} (ha : ∀ n ∈ a.names, known n) (h : act reg s a = .ok s') :
    PlaysTo reg known s s' := by
  have hrequired {ε α : Type} {wrap : ε → PlayError} {result : Session × Except ε α}
      (op : Operation) (hplayed : op.isPlayed = true) (hnames : ∀ n ∈ op.names, known n)
      (hop : s.operate reg op = result.1) (hresult : require wrap result = .ok s') :
      PlaysTo reg known s s' :=
    playsTo_of_operate op hplayed hnames ((eq_of_require hresult).trans hop.symm)
  cases a with
  | wait seconds =>
    obtain rfl : s.pause reg seconds = s' := Except.ok.inj h
    exact playsTo_pause reg s seconds
  | grab train => exact hrequired (.command (.grab train)) rfl ha (answer_fst ..) h
  | ungrab train =>
    rw [act] at h
    cases hslot : s.grabs.slotOf? train with
    | some slot =>
      rw [hslot] at h
      exact playsTo_of_operate (.command (.ungrab slot)) rfl nofun (Except.ok.inj h).symm
    | none =>
      rw [hslot] at h
      rw [← Except.ok.inj h]
      exact .refl reg s
  | place train segments =>
    cases segments with
    | nil => exact playsTo_of_operate (.command (.removeTrain train)) rfl ha (Except.ok.inj h).symm
    | cons segment rest =>
      exact playsTo_of_operate (.command (.place train (segment :: rest))) rfl ha
        (Except.ok.inj h).symm
  | occupy segment occupied =>
    exact playsTo_of_operate (.command (.mark segment occupied)) rfl ha (Except.ok.inj h).symm
  | setAspect signal aspect =>
    exact hrequired (.command (.setAspect signal aspect)) rfl nofun (answer_fst ..) h
  | grant train route =>
    simp only [Action.names, List.forall_mem_cons] at ha
    refine playsTo_of_operate (.command (.grant train route)) rfl
      (List.forall_mem_singleton.mpr ha.1) ?_
    rw [eq_of_attemptGrant h]
    exact (answer_fst ..).symm
  | request train source destination =>
    simp only [Action.names, List.forall_mem_cons] at ha
    exact hrequired (.command (.request ⟨train, source, destination⟩)) rfl
      (List.forall_mem_singleton.mpr ha.1) (answer_fst ..) h
  | release route => exact hrequired (.command (.release route)) rfl nofun (answer_fst ..) h
  | drive train route mode => exact hrequired (.enlist train route mode) rfl ha rfl h
  | await train timeout =>
    rw [← Except.ok.inj h]
    have hcollected (next : Session) : PlaysTo reg known next (next.collectTrain reg train).1 :=
      playsTo_of_operate (.collectTrain train) rfl nofun rfl
    cases timeout with
    | none => exact (playsTo_settle reg s).trans (hcollected _)
    | some seconds => exact (playsTo_pause reg s seconds).trans (hcollected _)

theorem playsTo_of_actions {actions : List Action}
    (hactions : ∀ a ∈ actions, ∀ n ∈ a.names, known n)
    (h : actions.foldlM (act reg) s = .ok s') : PlaysTo reg known s s' := by
  induction actions generalizing s with
  | nil =>
    rw [← Except.ok.inj h]
    exact .refl reg _
  | cons a rest ih =>
    rw [List.forall_mem_cons] at hactions
    rw [List.foldlM_cons] at h
    cases hact : act reg s a with
    | error e =>
      rw [hact] at h
      cases h
    | ok next =>
      rw [hact] at h
      exact (playsTo_of_act hactions.1 hact).trans (ih hactions.2 h)

theorem exists_failing_action {actions : List Action} {e : PlayError}
    (h : actions.foldlM (act reg) s = .error e) :
    ∃ earlier a later reached, actions = earlier ++ a :: later ∧
      earlier.foldlM (act reg) s = .ok reached ∧ act reg reached a = .error e := by
  induction actions generalizing s with
  | nil => cases h
  | cons a rest ih =>
    rw [List.foldlM_cons] at h
    cases hact : act reg s a with
    | error e' =>
      rw [hact] at h
      exact ⟨[], a, rest, s, rfl, rfl, hact.trans h⟩
    | ok next =>
      rw [hact] at h
      obtain ⟨earlier, a', later, reached, rfl, hearlier, hfails⟩ := ih h
      refine ⟨a :: earlier, a', later, reached, rfl, ?_, hfails⟩
      rw [List.foldlM_cons, hact]
      exact hearlier

/-- A play that goes through comes to some operations and the close after them. -/
theorem playsTo_of_playAll {actions : List Action}
    (hactions : ∀ a ∈ actions, ∀ n ∈ a.names, known n) (h : s.playAll reg actions = .ok s') :
    ∃ last, PlaysTo reg known s last ∧ s' = (last.close reg).1 := by
  unfold playAll at h
  cases hrun : actions.foldlM (act reg) s with
  | error e =>
    rw [hrun] at h
    cases h
  | ok last =>
    rw [hrun] at h
    exact ⟨last, playsTo_of_actions hactions hrun, eq_of_require h⟩

theorem exists_playAll_of_play {t : Table} {config : SessionConfig} {actions : List Action}
    {log : List Event} (h : Scenario.play t actions config = .ok (reg, log)) :
    Registry.ofTable t = .ok reg ∧
      ∃ s₀ s, start reg config = .ok s₀ ∧ s₀.playAll reg actions = .ok s ∧ s.log = log := by
  simp only [Scenario.play, bind, Except.bind] at h
  cases haccepted : Registry.ofTable t with
  | error e => simp [haccepted, Except.mapError] at h
  | ok routes =>
    cases hstarted : start routes config with
    | error e => simp [haccepted, hstarted, Except.mapError] at h
    | ok s₀ =>
      simp only [haccepted, hstarted, Except.mapError] at h
      split at h
      · cases h
      · simp only [pure, Except.pure] at h
        cases hplayed : s₀.playAll routes actions with
        | error e => simp [hplayed] at h
        | ok s =>
          rw [hplayed] at h
          cases h
          exact ⟨rfl, s₀, s, hstarted, hplayed, rfl⟩

theorem error_of_play {t : Table} (accepted : Registry.ofTable t = .ok reg)
    {config : SessionConfig} (started : start reg config = .ok s) {actions : List Action}
    {e : PlayError} (h : Scenario.play t actions config = .error e) :
    e = .noRoom config.maxTrains ∨ s.playAll reg actions = .error e := by
  simp only [Scenario.play, accepted, Except.mapError, bind, Except.bind, started] at h
  split at h
  · exact .inl (Except.error.inj h).symm
  · simp only [pure, Except.pure] at h
    split at h
    · rename_i hall
      rw [← Except.error.inj h]
      exact .inr hall
    · cases h

end Session

end Signalbox
