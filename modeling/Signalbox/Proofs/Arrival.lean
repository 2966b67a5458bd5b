import Signalbox.Proofs.DriveOutcomes
import Signalbox.Proofs.PassOrder

/-!
When an automatic drive releases its route. It waits until the last segment of the path is
reported occupied, by whatever train or mark. Where its own train stands decides which signals
it has passed, but not when it has arrived.
-/
namespace Signalbox

namespace Drive

open Interlocking

variable {reg : Registry} {d : Drive} {il : Interlocking} {p : Progress}

/-! ### A vacant last segment -/

section Vacant

variable {last : SegmentId} (hlast : (reg.find? d.route).bind Route.lastSegment? = some last)
include hlast

theorem holder_arrive_of_vacant (vacant : il.track.isOccupied last = false) :
    (arrive reg d il p).2.holder = il.holder := by
  unfold arrive
  rw [hlast]
  dsimp only
  split
  · rfl
  · rw [vacant]
    rfl

theorem holder_proceed_of_vacant (vacant : il.track.isOccupied last = false) :
    (proceed reg d il p).2.holder = il.holder := by
  unfold proceed
  split
  · rfl
  · cases d.mode with
    | manual => rfl
    | automatic => exact holder_arrive_of_vacant hlast vacant

theorem holder_watch_of_vacant (vacant : il.track.isOccupied last = false) :
    (d.watch reg il).2.holder = il.holder := by
  unfold watch
  cases d.phase with
  | initializing | ended => rfl
  | arriving p =>
    dsimp only
    split
    · rfl
    · exact holder_arrive_of_vacant hlast vacant
  | progressing p =>
    dsimp only
    split
    · rfl
    · split
      · rfl
      · have hstops := stopSignals_stops il
          { p with progression := (p.progression.advance (il.track.position d.train)).1 }
          (p.progression.advance (il.track.position d.train)).2
        have hresembles := stopSignals_resembles il
          { p with progression := (p.progression.advance (il.track.position d.train)).1 }
          (p.progression.advance (il.track.position d.train)).2
        rw [← hstops.holder]
        apply holder_proceed_of_vacant hlast
        rw [hresembles.isOccupied_eq]
        exact vacant

theorem holder_pass_of_vacant (vacant : il.track.isOccupied last = false) :
    (d.pass reg il).2.holder = il.holder := by
  rw [← (train_route_begin reg d il).2] at hlast
  rw [← (onlyNotes_begin reg d il).track] at vacant
  rw [← holder_begin reg d il]
  exact holder_watch_of_vacant hlast vacant

end Vacant

/-! ### A path without segments -/

/-- The path of the route has no segment, and the drive has not come anywhere on it. -/
structure Stalled (reg : Registry) (d : Drive) : Prop where
  nowhere : (reg.find? d.route).bind Route.lastSegment? = none
  fresh : ∀ p, d.progress? = some p → outset reg d.route = .ok p ∧ d.phase = .progressing p

theorem unmaskedPlaces_of_no_segment {r : Route} (h : r.lastSegment? = none) (mask : List Bool) :
    Progression.unmaskedPlaces r.path mask = [] := by
  have none_of_mem : ∀ e ∈ r.path, e.segment? = none := by
    simpa [Route.lastSegment?] using h
  apply List.filterMap_eq_nil_iff.mpr
  intro ⟨e, i⟩ hmem
  have he := none_of_mem e (List.fst_mem_of_mem_zipIdx hmem)
  simp [he]

section Start

variable {r : Route} {mask : List Bool} {p : Progression} (h : Progression.start r mask = .ok p)
include h

theorem isComplete_of_start : p.isComplete = false := by
  unfold Progression.start at h
  split at h
  · cases h
  · rename_i hlong
    cases h
    obtain ⟨s, q, rest, hsignals⟩ : ∃ s q rest, r.signals = s :: q :: rest := by
      match hr : r.signals with
      | [] | [_] => simp [hr] at hlong
      | s :: q :: rest => exact ⟨s, q, rest, rfl⟩
    simp [Progression.isComplete, Progression.eligible, hsignals]

theorem advance_of_no_segment (hlast : r.lastSegment? = none) (reported : List SegmentId) :
    p.advance reported = (p, []) := by
  obtain ⟨hplaces, hposition⟩ : p.places = [] ∧ p.position = none := by
    unfold Progression.start at h
    split at h
    · cases h
    · cases h
      exact ⟨unmaskedPlaces_of_no_segment hlast mask, rfl⟩
  have nowhere : p.positionOf reported = none := by
    simp [Progression.positionOf, Progression.place?, hplaces]
  simp [Progression.advance, Progression.moved, nowhere, Progression.due, hposition]

end Start

theorem Stalled.cancel (h : d.Stalled reg) : d.cancel.Stalled reg := ⟨h.nowhere, h.fresh⟩

theorem Stalled.finish (h : d.Stalled reg) (il : Interlocking) (o : Outcome) :
    (d.finish il o).1.Stalled reg := ⟨h.nowhere, nofun⟩

theorem Stalled.begin (h : d.Stalled reg) (il : Interlocking) : (d.begin reg il).1.Stalled reg := by
  have hbegun := begin_begun reg d il
  generalize d.begin reg il = result at hbegun ⊢
  cases hbegun with
  | already => exact h
  | refused => exact h.finish _ _
  | started hfresh houtset =>
    refine ⟨h.nowhere, ?_⟩
    rintro q ⟨⟩
    exact ⟨houtset, rfl⟩

theorem Stalled.watch (h : d.Stalled reg) (il : Interlocking) :
    (d.watch reg il).1.Stalled reg ∧ (d.watch reg il).2.holder = il.holder := by
  unfold Drive.watch
  cases hphase : d.phase with
  | initializing | ended => exact ⟨h, rfl⟩
  | arriving p =>
    obtain ⟨-, hprogressing⟩ := h.fresh p (by simp [progress?, hphase])
    rw [hphase] at hprogressing
    cases hprogressing
  | progressing p =>
    dsimp only
    split
    · exact ⟨h.finish il _, rfl⟩
    · split
      · exact ⟨h.finish il _, rfl⟩
      · obtain ⟨houtset, -⟩ := h.fresh p (by simp [progress?, hphase])
        obtain ⟨r, q, hr, hstart, rfl⟩ := start_of_outset houtset
        have hlast : r.lastSegment? = none := by simpa [hr] using h.nowhere
        rw [advance_of_no_segment hstart hlast]
        simp only [stopSignals, proceed, isComplete_of_start hstart, Bool.not_false, if_true,
          and_true]
        refine ⟨h.nowhere, ?_⟩
        rintro q ⟨⟩
        exact ⟨houtset, rfl⟩

theorem Stalled.pass (h : d.Stalled reg) (il : Interlocking) :
    (d.pass reg il).1.Stalled reg ∧ (d.pass reg il).2.holder = il.holder := by
  rw [← holder_begin reg d il]
  exact (h.begin il).watch _

theorem stalled_launch (train : TrainId) {route : RouteId} (mode : DriveMode)
    (hlast : (reg.find? route).bind Route.lastSegment? = none) :
    (launch train route mode).Stalled reg := ⟨hlast, nofun⟩

end Drive

namespace Traffic

variable {reg : Registry} {start : Traffic} {moves : List Move} {n : Nat} {d : Drive}

theorem stalled_run (hstart : start.drives = []) (hd : (start.run reg moves).drives[n]? = some d)
    (hlast : (reg.find? d.route).bind Route.lastSegment? = none) : d.Stalled reg := by
  induction moves using List.reverseRecOn generalizing d with
  | nil => simp [run, hstart] at hd
  | append_singleton moves m ih =>
    rw [run_append_singleton] at hd
    cases stepped hd with
    | launched => exact Drive.stalled_launch _ _ hlast
    | cancelled hbefore => exact (ih hbefore hlast).cancel
    | begun hbefore =>
      rw [(Drive.train_route_begin reg _ _).2] at hlast
      exact (ih hbefore hlast).begin _
    | passed hbefore =>
      rw [(Drive.train_route_pass _ (sound_run hstart hbefore).onRoute).2] at hlast
      exact ((ih hbefore hlast).pass _).1
    | kept hbefore hm => exact ih hbefore hlast

/-- A pass that takes the route from its train is one of an automatic drive that has not been
cancelled. Its drive has stopped all signals that the train passes, and the last segment of the
path is occupied, by this or any other train or by a mark. -/
theorem releases_at_occupied_end (reg : Registry) (il : Interlocking) (moves : List Move)
    {n : Nat} {d : Drive} {now : Interlocking}
    (hpasses : Passes reg ⟨il, []⟩ moves n d now) (hclears : Clears reg d now) :
    d.mode = .automatic ∧ d.cancelled = false ∧
      ∃ r last, reg.find? d.route = some r ∧ r.lastSegment? = some last ∧
        now.track.isOccupied last = true ∧
        ∀ q ∈ r.passedSignals, q ∈ (d.pass reg now).1.stopped := by
  obtain ⟨earlier, later, -, hd, -⟩ := hpasses
  obtain ⟨i, hi, held, taken⟩ := hclears
  have hchanged : (d.pass reg now).2.holder ≠ now.holder := by
    intro hsame
    rw [hsame, held] at taken
    cases taken
  have hstalled := stalled_run rfl hd
  obtain ⟨automatic, active, r, hr, hstopped⟩ : d.mode = .automatic ∧ d.cancelled = false ∧
      ∃ r, reg.find? d.route = some r ∧ ∀ q ∈ r.passedSignals, q ∈ (d.pass reg now).1.stopped := by
    have hlastPass := Drive.lastPass_of_holder_ne (sound_run rfl hd).onRoute hchanged
    generalize d.pass reg now = result at hlastPass ⊢
    cases hlastPass with
    | intro hr hi automatic active holder signals complete =>
      refine ⟨automatic, active, _, hr, fun q hq => ?_⟩
      apply Progression.mem_stopped_of_isComplete complete
      rwa [signals]
  refine ⟨automatic, active, r, ?_⟩
  cases hlast : r.lastSegment? with
  | none => exact absurd ((hstalled (by rw [hr]; exact hlast)).pass now).2 hchanged
  | some last =>
    refine ⟨last, hr, rfl, ?_, hstopped⟩
    by_contra hvacant
    have hvacant : now.track.isOccupied last = false := by simpa using hvacant
    exact hchanged (Drive.holder_pass_of_vacant (by rw [hr]; exact hlast) hvacant)

/-- The train stands on the first segment of its route and another one on the last. -/
theorem junction_release_at_occupied_end :
    let granted := ((Interlocking.initial junction.topology).grantRoute junctionRoutes .sectional
      "T1" "bypass").1
    let now := { granted with track := (granted.track.place "T1" ["a"]).place "T2" ["b"] }
    let d : Drive := .launch "T1" "bypass" .automatic
    let moves := [.launch "T1" "bypass" .automatic, .other now, .pass 0]
    Passes junctionRoutes ⟨granted, []⟩ moves 0 d now ∧ Clears junctionRoutes d now ∧
      ∃ r last, junctionRoutes.find? "bypass" = some r ∧ r.lastSegment? = some last ∧
        now.track.isOccupied last = true := by
  intro granted now d moves
  have hpasses : Passes junctionRoutes ⟨granted, []⟩ moves 0 d now :=
    ⟨[.launch "T1" "bypass" .automatic, .other now], [], rfl, rfl, rfl⟩
  have hclears : Clears junctionRoutes d now := ⟨2, by decide, by decide, by decide⟩
  obtain ⟨-, -, r, last, hr, hlast, hoccupied, -⟩ :=
    releases_at_occupied_end junctionRoutes granted moves hpasses hclears
  exact ⟨hpasses, hclears, r, last, hr, hlast, hoccupied⟩

end Traffic

namespace Session

/-- An automatic drive releases its route while its own train is short of the last segment, on
which another train stands. -/
theorem junction_released_short_of_end :
    let driving := junctionSession.operateAll junctionRoutes
      [.command (.directGrant "T1" "bypass"), .command (.outsideDrive "T1" "bypass" .automatic),
        .command (.place "T1" ["a"]), .command (.place "T2" ["b"])]
    let polled := driving.operateAll junctionRoutes [.command .poll]
    (junctionRoutes.find? "bypass").bind Route.lastSegment? = some "b" ∧
      driving.interlocking.track.position "T1" = ["a"] ∧
      driving.interlocking.isHeldBy junctionRoutes "bypass" "T1" = true ∧
      polled.interlocking.isHeldBy junctionRoutes "bypass" "T1" = false ∧
      (polled.outsideDrive? 0).bind (·.outcome?) = some (.completed ["s"] true []) := by
  decide

end Session

end Signalbox
