import Signalbox.Proofs.Operation
import Signalbox.Proofs.Traffic

/-!
Outcomes and grants of drives. What a drive reports at its end is what its own passes have done,
and a drive whose train does not hold the route any more ends with its next pass.
-/
namespace Signalbox.Traffic

variable {reg : Registry} {start : Traffic} {moves : List Move} {n : Nat} {d : Drive}

theorem quiet_of_aborted (hstart : start.drives = []) {earlier : List Move} {m : Move}
    (hbefore : ∀ before, (start.run reg earlier).drives[n]? = some before →
      before.isFinished = false)
    (hafter : (start.run reg (earlier ++ [m])).drives[n]? = some d)
    (haborted : d.state = .aborted) : Quiet reg (start.run reg earlier) m := by
  rw [run_append_singleton] at hafter
  cases stepped hafter with
  | launched hn => cases haborted
  | cancelled hb => exact (Drive.state_ne_aborted (hbefore _ hb) haborted).elim
  | kept hb hm => exact (Drive.state_ne_aborted (hbefore _ hb) haborted).elim
  | begun hb => exact quiet_begin reg _ n
  | passed hb =>
    have honRoute := (sound_run hstart hb).onRoute
    obtain ⟨reason, cause⟩ := Drive.cause_of_aborted honRoute (hbefore _ hb) haborted
    exact quiet_pass_of_cause hb honRoute (hbefore _ hb) cause

theorem holder_kept_by_pass (hstart : start.drives = []) {before : Drive} {il : Interlocking}
    (h : Passes reg start moves n before il) {i : RouteIndex} {train : TrainId}
    (held : il.holder i = some train) (hne : train ≠ before.train) :
    (before.pass reg il).2.holder i = some train := by
  obtain ⟨earlier, later, -, hd, -⟩ := h
  rcases Drive.holder_pass il (sound_run hstart hd).onRoute with
    ⟨hholder, -⟩ | ⟨j, -, hheld, -, -, hafter⟩
  · rw [hholder, held]
  · rw [hafter, if_neg, held]
    rintro rfl
    exact hne (Option.some.inj (held.symm.trans hheld))

/-- The outcome of a drive is true. It says that the route was released exactly if a pass of this
drive has taken the route from its own train, which a manual drive never does. An automatic drive
completes exactly if it has released. A drive that completes has stopped all signals that the
train passes, by its own commands. The move after which a drive has aborted gives no command, and
no pass takes a route from another train. -/
theorem outcome_truthful (reg : Registry) (il : Interlocking) (moves : List Move) {n : Nat}
    {d : Drive} (hd : (run reg ⟨il, []⟩ moves).drives[n]? = some d) :
    (d.hasReleased = true ↔ ∃ before now i, Passes reg ⟨il, []⟩ moves n before now ∧
      reg.index? d.route = some i ∧ now.holder i = some d.train ∧
      (before.pass reg now).2.holder i = none) ∧
    (d.mode = .manual → d.hasReleased = false) ∧
    (∀ o, d.outcome? = some o →
      (d.mode = .automatic → (o.state = .completed ↔ o.released = true)) ∧
      (o.state = .completed → ∃ r, reg.find? d.route = some r ∧
        ∀ q ∈ r.passedSignals, q ∈ o.stopped ∧
          ∃ before now, Passes reg ⟨il, []⟩ moves n before now ∧
            now.Records (before.pass reg now).2 (.signal q .stop)) ∧
      (o.state = .aborted → o.released = false)) ∧
    (∀ earlier m later after, moves = earlier ++ m :: later →
      (∀ before, (run reg ⟨il, []⟩ earlier).drives[n]? = some before →
        before.isFinished = false) →
      (run reg ⟨il, []⟩ (earlier ++ [m])).drives[n]? = some after → after.state = .aborted →
      Quiet reg (run reg ⟨il, []⟩ earlier) m) ∧
    (∀ before now, Passes reg ⟨il, []⟩ moves n before now → ∀ i train,
      now.holder i = some train → train ≠ d.train →
      (before.pass reg now).2.holder i = some train) := by
  have hsound := sound_run rfl hd
  refine ⟨?_, ?_, ?_, ?_, ?_⟩
  · rw [hasReleased_iff rfl hd]
    constructor
    · rintro ⟨before, now, hpasses, i, hi, held, hnone⟩
      obtain ⟨htrain, hroute⟩ := hpasses.train_route rfl hd
      exact ⟨before, now, i, hpasses, hroute ▸ hi, htrain ▸ held, hnone⟩
    · rintro ⟨before, now, i, hpasses, hi, held, hnone⟩
      obtain ⟨htrain, hroute⟩ := hpasses.train_route rfl hd
      exact ⟨before, now, hpasses, i, hroute ▸ hi, htrain ▸ held, hnone⟩
  · intro hmanual
    unfold Drive.hasReleased
    cases ho : d.outcome? with
    | none => rfl
    | some o => exact (hsound.ended o ho).manual hmanual
  · intro o ho
    have hends := hsound.ended o ho
    refine ⟨hends.automatic, ?_, ?_⟩
    · intro hcompleted
      obtain ⟨r, hr, hstopped⟩ := hends.completed hcompleted
      refine ⟨r, hr, fun q hq => ⟨hstopped q hq, stopped_run rfl hd ?_⟩⟩
      rw [Drive.stopped_of_outcome? ho]
      exact hstopped q hq
    · intro haborted
      cases o with
      | completed => cases haborted
      | aborted => rfl
  · intro earlier m later after _ hbefore hafter haborted
    exact quiet_of_aborted rfl hbefore hafter haborted
  · intro before now hpasses i train held hne
    rw [← (hpasses.train_route rfl hd).1] at hne
    exact holder_kept_by_pass rfl hpasses held hne

def junctionGranted (train : TrainId) (il : Interlocking) : Interlocking :=
  (il.grantRoute junctionRoutes .sectional train "left").1

/-- The train on the first route of the junction enters the throat, where its drive ends. -/
theorem junction_outcome :
    let granted := junctionGranted "T1" (.initial junction.topology)
    let moves := [.launch "T1" "left" .automatic, .pass 0,
      .other { granted with track := granted.track.place "T1" ["c"] }, .pass 0]
    (run junctionRoutes ⟨granted, []⟩ moves).drives[0]? =
        some ⟨"T1", "left", .automatic, false, .ended (.completed ["s", "m"] true [])⟩ ∧
      ∃ before now i, Passes junctionRoutes ⟨granted, []⟩ moves 0 before now ∧
        junctionRoutes.index? "left" = some i ∧ now.holder i = some "T1" ∧
        (before.pass junctionRoutes now).2.holder i = none := by
  intro granted moves
  have hd : (run junctionRoutes ⟨granted, []⟩ moves).drives[0]? =
      some ⟨"T1", "left", .automatic, false, .ended (.completed ["s", "m"] true [])⟩ := by decide
  obtain ⟨hreleased, -⟩ := outcome_truthful junctionRoutes granted moves hd
  exact ⟨hd, hreleased.mp rfl⟩

theorem quiet_pass_after_end {t : Traffic} {o : Outcome} (reg : Registry) (moves : List Move)
    (hd : t.drives[n]? = some d) (ho : d.outcome? = some o) :
    Quiet reg (t.run reg moves) (.pass n) := by
  obtain ⟨last, hlast, holast⟩ := run_of_ended reg moves hd ho
  exact quiet_pass_of_finished hlast (by simp [Drive.isFinished, holast])

theorem eq_or_exists_of_first {m : Move} {waiting rest earlier later : List Move}
    (hfirst : m ∉ waiting) (h : waiting ++ m :: rest = earlier ++ m :: later) :
    earlier = waiting ∨ ∃ between, earlier = waiting ++ m :: between := by
  rcases List.append_eq_append_iff.mp h with ⟨between, hearlier, hrest⟩ | ⟨between, hwaiting, hrest⟩
  · cases between with
    | nil => exact .inl (by rw [hearlier, List.append_nil])
    | cons m' between =>
      obtain ⟨rfl, -⟩ := List.cons.inj hrest
      exact .inr ⟨between, hearlier⟩
  · cases between with
    | nil => exact .inl (by rw [hwaiting, List.append_nil])
    | cons m' between =>
      obtain ⟨rfl, -⟩ := List.cons.inj hrest
      exact absurd (by simp [hwaiting]) hfirst

/-- A drive whose train does not hold the route at its next pass ends with this pass. Neither before
nor after it does the drive give a command, whoever is granted the route later. One that has not
begun and cannot start out on its route may end for that reason. -/
theorem lost_route_ends_drive (reg : Registry) (il : Interlocking)
    (past waiting future : List Move) {n : Nat} {d : Drive}
    (hd : (run reg ⟨il, []⟩ past).drives[n]? = some d) (hunfinished : d.isFinished = false)
    (hwaiting : .pass n ∉ waiting)
    (hlost : (run reg ⟨il, []⟩ (past ++ waiting)).interlocking.isHeldBy reg d.route d.train =
      false) :
    (∃ ended reason faults,
      (run reg ⟨il, []⟩ (past ++ waiting ++ [.pass n])).drives[n]? = some ended ∧
      (reason = .cancelled ∨ reason = .notGranted d.route ∨
        d.phase = .initializing ∧ Drive.outset reg d.route = .error reason) ∧
      ended.outcome? = some (.aborted reason d.stopped faults)) ∧
    ∀ earlier m later, m.actor? = some n → waiting ++ .pass n :: future = earlier ++ m :: later →
      Quiet reg (run reg ⟨il, []⟩ (past ++ earlier)) m := by
  obtain ⟨d', hd', hwaits⟩ := run_of_waiting reg hd hwaiting
  rw [← run_append] at hd'
  have honRoute := (sound_run rfl hd').onRoute
  obtain ⟨htrain, hroute⟩ := hwaits.names
  -- The drive ends with the pass, or has ended as it began.
  obtain ⟨hquiet, ended, reason, faults, hended, hreason, ho⟩ :
      Quiet reg (run reg ⟨il, []⟩ (past ++ waiting)) (.pass n) ∧
      ∃ ended reason faults,
        (run reg ⟨il, []⟩ (past ++ waiting ++ [.pass n])).drives[n]? = some ended ∧
        (reason = .cancelled ∨ reason = .notGranted d.route ∨
          d.phase = .initializing ∧ Drive.outset reg d.route = .error reason) ∧
        ended.outcome? = some (.aborted reason d.stopped faults) := by
    rw [run_append_singleton, ← hwaits.stopped]
    obtain ⟨ended, hended, ⟨hm, -⟩ | ⟨-, rfl⟩⟩ := step_of_drive reg (.pass n) hd'
    · exact absurd rfl hm
    rcases hwaits.unfinished hunfinished with ⟨hgoes, hfresh⟩ | ⟨reason, hphase, hrefused, ho⟩
    · have cause : d'.Cause reg (run reg ⟨il, []⟩ (past ++ waiting)).interlocking _ :=
        .lost (by rwa [hroute, htrain])
      obtain ⟨reason, faults, hcause, ho⟩ := (Drive.pass_of_cause honRoute hgoes cause).1
      refine ⟨quiet_pass_of_cause hd' honRoute hgoes cause, _, reason, faults, hended, ?_, ho⟩
      cases hcause with
      | cancelled => exact .inl rfl
      | lost => exact .inr (.inl (congrArg _ hroute))
      | refused hphase hrefused => exact .inr (.inr ⟨hfresh hphase, hroute ▸ hrefused⟩)
    · have hfinished : d'.isFinished = true := by simp [Drive.isFinished, ho]
      refine ⟨quiet_pass_of_finished hd' hfinished, _, reason, [], hended,
        .inr (.inr ⟨hphase, hrefused⟩), ?_⟩
      rw [Drive.pass_of_finished reg _ hfinished, ho, Drive.stopped_of_outcome? ho]
      rfl
  refine ⟨⟨ended, reason, faults, hended, hreason, ho⟩, ?_⟩
  intro earlier m later hactor hmoves
  cases m with
  | launch | cancel | other => cases hactor
  | begin k => exact quiet_begin reg _ k
  | pass k =>
    cases hactor
    rcases eq_or_exists_of_first hwaiting hmoves with rfl | ⟨between, rfl⟩
    · exact hquiet
    · have hafter := quiet_pass_after_end reg between hended ho
      rw [← run_append] at hafter
      simpa using hafter

/-- The route is released and granted to another train before the next pass, and to the first
train again after it. -/
theorem junction_lost_route :
    let granted := junctionGranted "T1" (.initial junction.topology)
    let lost := junctionGranted "T2" (granted.releaseRoute junctionRoutes "left").1
    let again := junctionGranted "T1" (lost.releaseRoute junctionRoutes "left").1
    let past := [.launch "T1" "left" .automatic, .pass 0]
    (∃ ended reason faults, (run junctionRoutes ⟨granted, []⟩
        (past ++ [.other lost] ++ [.pass 0])).drives[0]? = some ended ∧
      (reason = .cancelled ∨ reason = .notGranted "left") ∧
      ended.outcome? = some (.aborted reason [] faults)) ∧
    Quiet junctionRoutes (run junctionRoutes ⟨granted, []⟩
      (past ++ [.other lost, .pass 0, .other again])) (.pass 0) := by
  intro granted lost again past
  obtain ⟨d, hd, hunfinished, hbegun, hstopped, hroute, htrain⟩ :
      ∃ d, (run junctionRoutes ⟨granted, []⟩ past).drives[0]? = some d ∧ d.isFinished = false ∧
        d.phase ≠ .initializing ∧ d.stopped = [] ∧ d.route = "left" ∧ d.train = "T1" :=
    ⟨_, rfl, rfl, nofun, rfl, rfl, rfl⟩
  have hlost : (run junctionRoutes ⟨granted, []⟩ (past ++ [.other lost])).interlocking.isHeldBy
      junctionRoutes d.route d.train = false := by
    rw [hroute, htrain]
    decide
  obtain ⟨hended, hquiet⟩ := lost_route_ends_drive junctionRoutes granted past [.other lost]
    [.other again, .pass 0] hd hunfinished (by simp) hlost
  simp only [hstopped, hroute, hbegun, false_and, or_false] at hended
  exact ⟨hended, hquiet [.other lost, .pass 0, .other again] (.pass 0) [] rfl rfl⟩

end Signalbox.Traffic

namespace Signalbox.Session

/-- When the same train is granted the route again before the next pass, the drive goes on. It
stops the signals of the new grant and releases the route. -/
theorem junction_regranted_to_same_train :
    let granted := junctionSession.operateAll junctionRoutes
      [.command (.directGrant "T1" "left"), .command (.outsideDrive "T1" "left" .automatic)]
    let released := granted.operateAll junctionRoutes [.command (.release "left")]
    let again := released.operateAll junctionRoutes
      [.command (.directGrant "T1" "left"), .command (.place "T1" ["c"])]
    let polled := again.operateAll junctionRoutes [.command .poll]
    granted.interlocking.isHeldBy junctionRoutes "left" "T1" = true ∧
      (granted.outsideDrive? 0).map (·.isFinished) = some false ∧
      released.interlocking.isHeldBy junctionRoutes "left" "T1" = false ∧
      again.interlocking.track.aspect "s" = some .go ∧
      polled.interlocking.track.aspect "s" = some .stop ∧
      polled.interlocking.isHeldBy junctionRoutes "left" "T1" = false ∧
      (polled.outsideDrive? 0).bind (·.outcome?) = some (.completed ["s", "m"] true []) := by
  decide

end Signalbox.Session
