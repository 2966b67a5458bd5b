import Signalbox.Proofs.GrantAccount

/-!
The forms of a release: of a route by its id, of a route as long as a given train holds it, and of
all routes. They differ in when they release and in what they answer. What they make of a held
route is the same, however many of its signals refuse to be stopped.
-/
namespace Signalbox.Interlocking

/-- What the release of a held route makes of the state before it. -/
structure Releases (i : RouteIndex) (r : Route) (il il' : Interlocking) : Prop where
  holder : ∀ j, il'.holder j = if j = i then none else il.holder j
  /-- the stops, so far as they are not refused, and then the release -/
  log : il'.log = il.log ++ ((r.signals.filter fun s => (il.refusal? s).isNone).map
    fun s => .signal s .stop) ++ [.route r.id .released]
  track : il'.track = { il.track with
    aspect := fun q =>
      if q ∈ r.signals ∧ il.refusal? q = none then some .stop else il.track.aspect q }

/-- A way to release a route that does so exactly while the route is held, in whichever sense of
the word. It answers `done` when it has released the route, and `idle` when it had not to. -/
structure ReleaseForm {α : Type} (i : RouteIndex) (r : Route) (il : Interlocking)
    (held : Prop) (release : Interlocking → Interlocking × Except InterlockingError α)
    (done idle : α) : Prop where
  releases : held → Releases i r il (release il).1
  /-- the first refusal is reported -/
  answer : held → (release il).2 = match r.signals.findSome? il.refusal? with
    | none => .ok done
    | some f => .error (.track f)
  fails_iff : held → ((∃ e, (release il).2 = .error e) ↔
    ∃ s ∈ r.signals, il.track.jammed s = true ∨ il.track.aspect s = none)
  unheld : ¬ held → release il = (il, .ok idle)
  again : release (release il).1 = ((release il).1, .ok idle)

/-- Releases routes by their ids, each whether or not the ones before it failed. The first
failure is reported. -/
def releaseByIds (il : Interlocking) (reg : Registry) :
    List RouteId → Interlocking × Except InterlockingError Unit
  | [] => (il, .ok ())
  | id :: rest =>
    let (il, first) := il.releaseRoute reg id
    let (il, later) := il.releaseByIds reg rest
    (il, match first with
      | .ok _ => later
      | .error e => .error e)

section Release

variable {il : Interlocking} {reg : Registry} {i : RouteIndex} {r : Route}

theorem release_eq_of_free (hr : reg.route? i = some r) (free : il.isHeld i = false) :
    il.release reg i = (il, .ok false) := by
  simp [release, hr, free]

theorem releases_release (hr : reg.route? i = some r) (held : il.isHeld i = true) :
    Releases i r il (il.release reg i).1 where
  holder j := by
    rw [holder_release, hr]
    simp
  log := by
    rw [release_of_held il reg i hr held, log_record]
    exact congrArg (· ++ _) (log_commandSignals il (fun _ => .stop) r.signals)
  track := by
    have haspect : (il.release reg i).1.track.aspect = fun q =>
        if q ∈ r.signals ∧ il.refusal? q = none then some .stop else il.track.aspect q := by
      funext q
      rw [aspect_release il reg i hr held]
      simp only [refusal?_eq_none_iff]
    rw [← haspect, track_release hr held]
    -- No point is named by the orders of a release.
    simp only [Track.follow, Route.releaseOrders, obeyed_none]

theorem refused_iff {s : SignalId} :
    il.refusal? s ≠ none ↔ il.track.jammed s = true ∨ il.track.aspect s = none := by
  unfold refusal?
  cases il.track.jammed s <;> cases il.track.aspect s <;> simp

theorem fails_iff_refused {α : Type} {done : α} {answer : Except InterlockingError α}
    (h : answer = match r.signals.findSome? il.refusal? with
      | none => .ok done
      | some f => .error (.track f)) :
    (∃ e, answer = .error e) ↔
      ∃ s ∈ r.signals, il.track.jammed s = true ∨ il.track.aspect s = none := by
  simp only [← refused_iff]
  constructor
  · rintro ⟨e, he⟩
    by_contra hnone
    push Not at hnone
    rw [List.findSome?_eq_none_iff.mpr hnone, he] at h
    cases h
  · rintro ⟨s, hs, hrefused⟩
    cases hfirst : r.signals.findSome? il.refusal? with
    | none => exact absurd (List.findSome?_eq_none_iff.mp hfirst s hs) hrefused
    | some f => exact ⟨.track f, by rw [h, hfirst]⟩

theorem ReleaseForm.of_release {α : Type} (held : Interlocking → Prop)
    {release : Interlocking → Interlocking × Except InterlockingError α} {done idle : α}
    (hheld : held il → Releases i r il (release il).1 ∧
      (release il).2 = match r.signals.findSome? il.refusal? with
        | none => .ok done
        | some f => .error (.track f))
    (hunheld : ∀ il, ¬ held il → release il = (il, .ok idle))
    (hfree : ∀ il, held il → il.isHeld i = true) :
    ReleaseForm i r il (held il) release done idle where
  releases h := (hheld h).1
  answer h := (hheld h).2
  fails_iff h := fails_iff_refused (hheld h).2
  unheld := hunheld il
  again := by
    by_cases h : held il
    · -- The release has freed the route, so it is not held in any sense.
      refine hunheld _ fun hagain => ?_
      have hnow := hfree _ hagain
      rw [isHeld, (hheld h).1.holder, if_pos rfl] at hnow
      cases hnow
    · rw [hunheld il h]
      exact hunheld il h

end Release

/-! ### Releases by id -/

section ById

variable {reg : Registry} {i : RouteIndex} {r : Route}

theorem indexOf_of_route? (hr : reg.route? i = some r) :
    indexOf reg r.id = .ok i := by
  simp [indexOf, Registry.index?_of_route? hr]

theorem releaseRoute_eq (hr : reg.route? i = some r)
    (il : Interlocking) :
    il.releaseRoute reg r.id = ((il.release reg i).1, (il.release reg i).2.map fun _ => ()) := by
  simp [releaseRoute, indexOf_of_route? hr]

theorem releaseRoute_form (hr : reg.route? i = some r)
    (il : Interlocking) :
    ReleaseForm i r il (il.isHeld i = true) (·.releaseRoute reg r.id) () () := by
  refine .of_release (fun il => il.isHeld i = true) ?_ ?_ fun _ h => h
  · intro held
    rw [releaseRoute_eq hr]
    refine ⟨releases_release hr held, ?_⟩
    rw [release_snd_of_held hr held]
    cases r.signals.findSome? il.refusal? <;> rfl
  · intro il free
    rw [releaseRoute_eq hr, release_eq_of_free hr (Bool.eq_false_iff.mpr free)]
    rfl

theorem releaseIfHeldBy_form (hr : reg.route? i = some r)
    (il : Interlocking) (train : TrainId) :
    ReleaseForm i r il (il.holder i = some train)
      (·.releaseIfHeldBy reg r.id train) true false := by
  have hindex := Registry.index?_of_route? hr
  have hisHeld {il : Interlocking} (h : il.holder i = some train) : il.isHeld i = true := by
    rw [isHeld, h]
    rfl
  refine .of_release (fun il => il.holder i = some train) ?_ ?_ fun _ => hisHeld
  · intro held
    rw [releaseIfHeldBy_of_held hindex held]
    exact ⟨releases_release hr (hisHeld held), release_snd_of_held hr (hisHeld held)⟩
  · intro il other
    simp [releaseIfHeldBy, indexOf_of_route? hr, other]

end ById

/-! ### The release of all routes -/

section All

variable {reg : Registry}

theorem releaseEach_filter_held (il : Interlocking) {places : List RouteIndex}
    (distinct : places.Nodup) (known : ∀ i ∈ places, (reg.route? i).isSome = true) :
    il.releaseEach reg places = il.releaseEach reg (places.filter il.isHeld) := by
  induction places generalizing il with
  | nil => rfl
  | cons i rest ih =>
    rw [List.nodup_cons] at distinct
    rw [List.forall_mem_cons] at known
    cases hheld : il.isHeld i with
    | false =>
      obtain ⟨r, hr⟩ := Option.isSome_iff_exists.mp known.1
      rw [List.filter_cons_of_neg (by simp [hheld]), releaseEach, release_eq_of_free hr hheld]
      exact ih il distinct.2 known.2
    | true =>
      have hrest : rest.filter (il.release reg i).1.isHeld = rest.filter il.isHeld := by
        refine List.filter_congr fun j hj => ?_
        have hother : ¬ (j = i ∧ (reg.route? i).isSome = true) := by
          rintro ⟨rfl, -⟩
          exact distinct.1 hj
        rw [isHeld, holder_release, if_neg hother, isHeld]
      rw [List.filter_cons_of_pos hheld, releaseEach, releaseEach]
      dsimp only
      rw [ih (il.release reg i).1 distinct.2 known.2, hrest]

theorem releaseEach_eq_releaseByIds (il : Interlocking)
    {listed : List (Route × RouteIndex)} (hlisted : ∀ p ∈ listed, reg.route? p.2 = some p.1) :
    il.releaseEach reg (listed.map (·.2)) = il.releaseByIds reg (listed.map (·.1.id)) := by
  induction listed generalizing il with
  | nil => rfl
  | cons p rest ih =>
    rw [List.forall_mem_cons] at hlisted
    rw [List.map_cons, List.map_cons, releaseEach, releaseByIds,
      releaseRoute_eq hlisted.1]
    dsimp only
    rw [ih _ hlisted.2]
    cases (il.release reg p.2).2 <;> rfl

theorem ids_heldRoutes (il : Interlocking) (reg : Registry) :
    (il.heldRoutes reg).map (·.1) =
      (reg.routes.zipIdx.filter fun p => il.isHeld p.2).map (·.1.id) := by
  unfold heldRoutes
  rw [List.map_filterMap, ← List.filterMap_eq_map, List.filterMap_filter]
  refine List.filterMap_congr fun ⟨r, i⟩ _ => ?_
  cases hholder : il.holder i <;> simp [isHeld, hholder]

theorem releaseAll_eq_releaseByIds (il : Interlocking) :
    il.releaseAll reg = il.releaseByIds reg ((il.heldRoutes reg).map (·.1)) := by
  have hrange : List.range reg.size = reg.routes.zipIdx.map (·.2) := by
    rw [List.zipIdx_map_snd, List.range_eq_range']
    rfl
  have hlisted : ∀ p ∈ reg.routes.zipIdx.filter fun p => il.isHeld p.2,
      reg.route? p.2 = some p.1 := fun p hp =>
    List.mem_zipIdx_iff_getElem?.mp (List.mem_filter.mp hp).1
  rw [releaseAll, releaseEach_filter_held il List.nodup_range
    fun i hi => Registry.isSome_route?_iff.mpr (List.mem_range.mp hi)]
  rw [hrange, List.filter_map, ids_heldRoutes]
  exact releaseEach_eq_releaseByIds il hlisted

end All

/-- A held route is released alike by its id and on behalf of the train that holds it: all its
signals are stopped that can be, it is free, and the first refusal is reported. Otherwise nothing
is done, so that a second release does nothing. To release all routes is to release the held ones
one after the other in table order, and none is held after that. -/
theorem release_forms (reg : Registry) (il : Interlocking) :
    (∀ i r, reg.route? i = some r →
      ReleaseForm i r il (il.isHeld i = true) (·.releaseRoute reg r.id) () () ∧
      ∀ train, ReleaseForm i r il (il.holder i = some train)
        (·.releaseIfHeldBy reg r.id train) true false) ∧
    il.releaseAll reg = il.releaseByIds reg ((il.heldRoutes reg).map (·.1)) ∧
    (il.releaseAll reg).1.heldRoutes reg = [] := by
  refine ⟨fun i r hr => ⟨releaseRoute_form hr il, releaseIfHeldBy_form hr il⟩, ?_⟩
  exact ⟨releaseAll_eq_releaseByIds il, heldRoutes_releaseAll il reg⟩

def junctionFaulty : Interlocking where
  track := ((Track.initial junction.topology).jam "m").lose "t"
  holder i := if i = 0 then some "T1" else if i = 1 then some "T2" else none
  log := []

theorem junction_faulty_released :
    let after := (junctionFaulty.releaseAll junctionRoutes).1
    (∃ r, junctionRoutes.route? 0 = some r ∧
      ReleaseForm 0 r junctionFaulty (junctionFaulty.isHeld 0 = true)
        (·.releaseRoute junctionRoutes r.id) () () ∧
      ReleaseForm 0 r junctionFaulty (junctionFaulty.holder 0 = some "T1")
        (·.releaseIfHeldBy junctionRoutes r.id "T1") true false) ∧
      junctionFaulty.releaseAll junctionRoutes =
        junctionFaulty.releaseByIds junctionRoutes ["left", "right"] ∧
      (junctionFaulty.releaseAll junctionRoutes).2 = .error (.track (.jammedSignal "m")) ∧
      after.heldRoutes junctionRoutes = [] ∧
      after.log = [.signal "s" .stop, .route "left" .released, .signal "u" .stop,
        .route "right" .released] := by
  intro after
  obtain ⟨hforms, hall, hnone⟩ := release_forms junctionRoutes junctionFaulty
  obtain ⟨hbyId, hbyHolder⟩ := hforms 0 _ rfl
  exact ⟨⟨_, rfl, hbyId, hbyHolder "T1"⟩, hall, by decide, hnone, by decide⟩

end Signalbox.Interlocking
