import Mathlib.Order.Bounds.Basic
import Mathlib.Tactic.WLOG
import Signalbox.Proofs.DrivePass

/-!
What polls make of a progression. A poll finds the train on the path and sets the signals behind
it to stop. It does not matter how the polls follow each other: of all that they report, only the
segments that the path holds once count, and the train is at the furthest of these.
-/
namespace Signalbox

namespace Route

/-- Where a signal counts as standing: at its first place on the path, or before the first
element. -/
def standingPlace (r : Route) (s : SignalId) : Nat := (r.pathIndex? s).getD 0

/-- The path holds the segment at this place and at no other. -/
def HoldsOnce (r : Route) (segment : SegmentId) (i : Nat) : Prop :=
  r.path[i]? = some (.segment segment) ∧ r.path.count (.segment segment) = 1

def placesTold (r : Route) (reported : List SegmentId) : Set Nat :=
  {i | ∃ segment ∈ reported, r.HoldsOnce segment i}

theorem HoldsOnce.unique {r : Route} {segment : SegmentId} {i j : Nat}
    (hi : r.HoldsOnce segment i) (hj : r.HoldsOnce segment j) : i = j := by
  by_contra hne
  wlog hlt : i < j generalizing i j
  · exact this hj hi (Ne.symm hne) (by omega)
  have hbefore : 0 < (r.path.take j).count (.segment segment) := by
    rw [List.count_pos_iff]
    exact List.mem_of_getElem? (by rw [List.getElem?_take_of_lt hlt, hi.1])
  have hafter : 0 < (r.path.drop j).count (.segment segment) := by
    rw [List.count_pos_iff]
    exact List.mem_of_getElem? (i := 0) (by rw [List.getElem?_drop, Nat.add_zero, hj.1])
  have hcount := hi.2
  rw [← List.take_append_drop j r.path, List.count_append] at hcount
  omega

theorem placesTold_append (r : Route) (reported later : List SegmentId) :
    r.placesTold (reported ++ later) = r.placesTold reported ∪ r.placesTold later := by
  ext i
  simp only [placesTold, List.mem_append, or_and_right, exists_or]
  rfl

theorem placesTold_congr {r : Route} {reported reported' : List SegmentId}
    (same : ∀ segment, segment ∈ reported' ↔ segment ∈ reported) :
    r.placesTold reported' = r.placesTold reported := by
  ext i
  simp only [placesTold, same]

end Route

/-! ### The furthest of many places -/

/-- The greatest of the places, and nothing if there is none. -/
structure IsFurthest (places : Set Nat) (o : Option Nat) : Prop where
  greatest : ∀ i, o = some i → IsGreatest places i
  empty : o = none → places = ∅

namespace IsFurthest

variable {places places' : Set Nat} {o o' : Option Nat}

theorem none_iff : IsFurthest places none ↔ places = ∅ :=
  ⟨fun h => h.empty rfl, fun h => ⟨fun _ => nofun, fun _ => h⟩⟩

theorem some_iff {i : Nat} : IsFurthest places (some i) ↔ IsGreatest places i :=
  ⟨fun h => h.greatest i rfl,
    fun h => ⟨fun j hj => by rwa [← Option.some.inj hj], nofun⟩⟩

theorem unique (h : IsFurthest places o) (h' : IsFurthest places o') : o = o' := by
  cases o with
  | none =>
    cases o' with
    | none => rfl
    | some j =>
      rw [none_iff] at h
      rw [h, some_iff] at h'
      exact absurd h'.1 (Set.notMem_empty j)
  | some i =>
    rw [some_iff] at h
    cases o' with
    | none =>
      rw [none_iff] at h'
      rw [h'] at h
      exact absurd h.1 (Set.notMem_empty i)
    | some j =>
      rw [some_iff] at h'
      rw [h.unique h']

theorem union (h : IsFurthest places o) (h' : IsFurthest places' o') :
    IsFurthest (places ∪ places') (max o o') := by
  cases o with
  | none =>
    rw [none_iff] at h
    rw [h, Set.empty_union]
    cases o' <;> exact h'
  | some i =>
    cases o' with
    | none =>
      rw [none_iff] at h'
      rw [h', Set.union_empty]
      exact h
    | some j =>
      rw [some_iff] at h h'
      exact some_iff.mpr (h.union h')

theorem any_le_iff (h : IsFurthest places o) (j : Nat) :
    o.any (j ≤ ·) = true ↔ ∃ i ∈ places, j ≤ i := by
  cases o with
  | none =>
    rw [none_iff] at h
    simp [h]
  | some i =>
    rw [some_iff] at h
    rw [Option.any_some, decide_eq_true_iff]
    exact ⟨fun hle => ⟨i, h.1, hle⟩, fun ⟨k, hk, hle⟩ => hle.trans (h.2 hk)⟩

end IsFurthest

namespace Progression

/-! ### Places on the path -/

section Places

variable {r : Route} {segment : SegmentId} {i : Nat}

theorem mem_unmaskedPlaces_iff :
    (segment, i) ∈ unmaskedPlaces r.path r.repeatedMask ↔ r.HoldsOnce segment i := by
  have hmask (h : r.path[i]? = some (.segment segment)) :
      r.repeatedMask[i]?.getD false = decide (1 < r.path.count (.segment segment)) := by
    simp [Route.repeatedMask, h]
  unfold unmaskedPlaces Route.HoldsOnce
  rw [List.mem_filterMap]
  constructor
  · rintro ⟨⟨e, j⟩, hmem, hkept⟩
    rw [List.mem_zipIdx_iff_getElem?] at hmem
    dsimp only at hmem hkept
    split at hkept
    · cases hkept
    · rename_i hunmasked
      cases e with
      | signal s => cases hkept
      | segment c =>
        cases hkept
        rw [hmask hmem, decide_eq_true_iff] at hunmasked
        have hpos := List.count_pos_iff.mpr (List.mem_of_getElem? hmem)
        exact ⟨hmem, by omega⟩
  · rintro ⟨hmem, hcount⟩
    refine ⟨(.segment segment, i), List.mem_zipIdx_iff_getElem?.mpr hmem, ?_⟩
    simp [hmask hmem, hcount, PathElement.segment?]

variable {p : Progression} (hplaces : p.places = unmaskedPlaces r.path r.repeatedMask)
include hplaces

theorem place?_eq_some_iff : p.place? segment = some i ↔ r.HoldsOnce segment i := by
  unfold place?
  rw [Option.map_eq_some_iff, hplaces, ← mem_unmaskedPlaces_iff]
  constructor
  · rintro ⟨⟨c, j⟩, hfound, rfl⟩
    have hmem := List.mem_reverse.mp (List.mem_of_find?_eq_some hfound)
    have hsegment := List.find?_some hfound
    rw [beq_iff_eq] at hsegment
    rwa [← hsegment]
  · intro hmem
    have hsome : ((unmaskedPlaces r.path r.repeatedMask).reverse.find?
        (·.1 == segment)).isSome = true := by
      rw [List.find?_isSome]
      exact ⟨(segment, i), List.mem_reverse.mpr hmem, beq_self_eq_true segment⟩
    obtain ⟨⟨c, j⟩, hfound⟩ := Option.isSome_iff_exists.mp hsome
    have hlisted := List.mem_reverse.mp (List.mem_of_find?_eq_some hfound)
    obtain rfl : c = segment := by simpa using List.find?_some hfound
    refine ⟨(c, j), hfound, ?_⟩
    exact (mem_unmaskedPlaces_iff.mp hlisted).unique (mem_unmaskedPlaces_iff.mp hmem)

theorem isFurthest_positionOf (reported : List SegmentId) :
    IsFurthest (r.placesTold reported) (p.positionOf reported) := by
  have mem_iff (j : Nat) : j ∈ reported.filterMap p.place? ↔ j ∈ r.placesTold reported := by
    simp only [List.mem_filterMap, place?_eq_some_iff hplaces]
    rfl
  unfold positionOf
  cases hmax : (reported.filterMap p.place?).max? with
  | none =>
    rw [List.max?_eq_none_iff] at hmax
    refine IsFurthest.none_iff.mpr (Set.eq_empty_of_forall_notMem fun j hj => ?_)
    rw [← mem_iff, hmax] at hj
    exact List.not_mem_nil hj
  | some j =>
    rw [List.max?_eq_some_iff] at hmax
    exact IsFurthest.some_iff.mpr
      ⟨(mem_iff j).mp hmax.1, fun k hk => hmax.2 k ((mem_iff k).mpr hk)⟩

end Places

theorem isFurthest_untold (r : Route) : IsFurthest (r.placesTold []) none := by
  rw [IsFurthest.none_iff]
  apply Set.eq_empty_of_forall_notMem
  intro i hi
  obtain ⟨segment, hmem, -⟩ := hi
  exact List.not_mem_nil hmem

/-! ### Polls -/

def poll (p : Progression) (reported : List SegmentId) : Progression :=
  (p.advance reported).2.foldl markStopped (p.advance reported).1

def pollAll (p : Progression) (polls : List (List SegmentId)) : Progression := polls.foldl poll p

/-- The signals that each of the polls names. -/
def namedBy (p : Progression) : List (List SegmentId) → List (List SignalId)
  | [] => []
  | reported :: rest => (p.advance reported).2 :: (p.poll reported).namedBy rest

def isReached (position : Option Nat) (place : Nat) : Bool := position.any (place ≤ ·)

theorem position_moved (p : Progression) (reported : List SegmentId) :
    (p.moved reported).position = max p.position (p.positionOf reported) := by
  unfold moved
  cases p.positionOf reported <;> cases p.position <;> rfl

theorem moved_eq (p : Progression) (reported : List SegmentId) :
    p.moved reported = { p with position := (p.moved reported).position } := by
  unfold moved
  split <;> rfl

theorem foldl_markStopped (p : Progression) (signals : List SignalId) :
    signals.foldl markStopped p =
      { p with records := p.records.map fun record =>
          { record with stopped := record.stopped || signals.contains record.signal } } := by
  induction signals generalizing p with
  | nil => simp
  | cons s rest ih =>
    rw [List.foldl_cons, ih]
    simp only [markStopped, List.map_map]
    congr 1
    refine List.map_congr_left fun record _ => ?_
    by_cases hs : record.signal = s <;> simp [hs]

theorem due_eq {r : Route} {p : Progression} {atStop : SignalId → Bool}
    (h : p.records = r.signals.map fun s => ⟨s, r.standingPlace s, atStop s⟩) :
    p.due = r.passedSignals.filter fun s =>
      !atStop s && isReached p.position (r.standingPlace s) := by
  have heligible : p.eligible = r.passedSignals.map fun s => ⟨s, r.standingPlace s, atStop s⟩ := by
    rw [eligible, h, Route.passedSignals, List.map_dropLast]
  unfold due
  cases p.position with
  | none => simp [isReached]
  | some i =>
    dsimp only
    rw [heligible, List.filter_map, List.map_map]
    exact List.map_id _

/-! ### The state that reports lead to -/

def recordAt (r : Route) (position : Option Nat) (s : SignalId) : SignalRecord :=
  ⟨s, r.standingPlace s,
    r.passedSignals.contains s && isReached position (r.standingPlace s)⟩

/-- The progression on a route of which all this has been reported. -/
structure Follows (r : Route) (reported : List SegmentId) (p : Progression) : Prop where
  places : p.places = unmaskedPlaces r.path r.repeatedMask
  position : IsFurthest (r.placesTold reported) p.position
  records : p.records = r.signals.map (recordAt r p.position)

section Follows

variable {r : Route} {reported : List SegmentId} {p : Progression}

theorem exists_start (long : 2 ≤ r.signals.length) :
    ∃ p, start r r.repeatedMask = .ok p ∧ Follows r [] p := by
  refine ⟨_, if_neg (by omega), rfl, isFurthest_untold r, ?_⟩
  simp [recordAt, isReached, Route.standingPlace]

theorem Follows.isReached_iff (h : Follows r reported p) (place : Nat) :
    isReached p.position place = true ↔ ∃ i ∈ r.placesTold reported, place ≤ i :=
  h.position.any_le_iff place

theorem Follows.eligible_eq (h : Follows r reported p) :
    p.eligible = r.passedSignals.map (recordAt r p.position) := by
  rw [eligible, h.records, Route.passedSignals, List.map_dropLast]

theorem Follows.position_moved (h : Follows r reported p) (report : List SegmentId) :
    IsFurthest (r.placesTold (reported ++ report)) (p.moved report).position := by
  rw [Progression.position_moved, Route.placesTold_append]
  exact h.position.union (isFurthest_positionOf h.places report)

theorem isReached_moved (report : List SegmentId) {place : Nat}
    (h : isReached p.position place = true) :
    isReached (p.moved report).position place = true := by
  obtain ⟨i, hi, hle⟩ := (Option.any_eq_true ..).mp h
  rw [decide_eq_true_iff] at hle
  rw [Progression.position_moved, hi]
  cases p.positionOf report with
  | none => exact decide_eq_true hle
  | some j => exact decide_eq_true (Nat.le_trans hle (Nat.le_max_left i j))

theorem Follows.named_eq (h : Follows r reported p) (report : List SegmentId) :
    (p.advance report).2 = r.passedSignals.filter fun s =>
      !isReached p.position (r.standingPlace s) &&
        isReached (p.moved report).position (r.standingPlace s) := by
  have hrecords : (p.moved report).records = r.signals.map (recordAt r p.position) :=
    (records_advance p report).trans h.records
  change (p.moved report).due = _
  rw [due_eq hrecords]
  refine List.filter_congr fun s hs => ?_
  rw [List.contains_iff_mem.mpr hs, Bool.true_and]

theorem position_poll (p : Progression) (report : List SegmentId) :
    (p.poll report).position = (p.moved report).position := by
  rw [poll, foldl_markStopped]
  rfl

theorem Follows.poll (h : Follows r reported p) (report : List SegmentId) :
    Follows r (reported ++ report) (p.poll report) := by
  refine ⟨?_, ?_, ?_⟩
  · rw [← h.places, Progression.poll, foldl_markStopped]
    change (p.moved report).places = _
    rw [moved_eq]
  · rw [position_poll]
    exact h.position_moved report
  · rw [position_poll, Progression.poll, foldl_markStopped]
    dsimp only
    rw [records_advance, h.records, List.map_map]
    refine List.map_congr_left fun s _ => ?_
    have hstays : isReached p.position (r.standingPlace s) = true →
        isReached (p.moved report).position (r.standingPlace s) = true := isReached_moved report
    have hnamed : (p.advance report).2.contains s = (r.passedSignals.contains s &&
        (!isReached p.position (r.standingPlace s) &&
          isReached (p.moved report).position (r.standingPlace s))) := by
      rw [h.named_eq report, Bool.eq_iff_iff]
      simp
    simp only [Function.comp_apply, recordAt, hnamed]
    congr 1
    cases hold : isReached p.position (r.standingPlace s) with
    | false => simp
    | true => simp [hstays hold]

theorem Follows.pollAll (h : Follows r reported p) (polls : List (List SegmentId)) :
    Follows r (reported ++ polls.flatten) (p.pollAll polls) := by
  induction polls generalizing reported p with
  | nil =>
    rw [List.flatten_nil, List.append_nil]
    exact h
  | cons report rest ih =>
    rw [List.flatten_cons, ← List.append_assoc]
    exact ih (h.poll report)

/-- Nothing but the places told decides where a progression stands. -/
theorem Follows.eq {reported' : List SegmentId} {p' : Progression} (h : Follows r reported p)
    (h' : Follows r reported' p') (same : r.placesTold reported = r.placesTold reported') :
    p = p' := by
  have hposition : p.position = p'.position := (same ▸ h.position).unique h'.position
  have hrecords : p.records = p'.records := by rw [h.records, h'.records, hposition]
  have hplaces : p.places = p'.places := by rw [h.places, h'.places]
  cases p
  cases p'
  cases hposition
  cases hrecords
  cases hplaces
  rfl

theorem Follows.mem_stopped_iff (h : Follows r reported p) {s : SignalId} :
    s ∈ p.stopped ↔ s ∈ r.passedSignals ∧ isReached p.position (r.standingPlace s) = true := by
  unfold stopped
  rw [h.records, List.filter_map, List.map_map]
  simp only [List.mem_map, List.mem_filter, Function.comp_apply, recordAt, Bool.and_eq_true,
    List.contains_iff_mem]
  constructor
  · rintro ⟨q, ⟨-, hstopped⟩, rfl⟩
    exact hstopped
  · exact fun hstopped => ⟨s, ⟨List.dropLast_subset _ hstopped.1, hstopped⟩, rfl⟩

theorem Follows.isComplete_iff (h : Follows r reported p) :
    p.isComplete = true ↔
      ∀ s ∈ r.passedSignals, isReached p.position (r.standingPlace s) = true := by
  unfold isComplete
  rw [h.eligible_eq, List.all_map, List.all_eq_true]
  refine forall₂_congr fun s hs => ?_
  simp [recordAt, hs]

theorem Follows.not_reached_of_named (h : Follows r reported p) {polls : List (List SegmentId)}
    {named : List SignalId} (hnamed : named ∈ p.namedBy polls) {s : SignalId} (hs : s ∈ named) :
    isReached p.position (r.standingPlace s) = false := by
  induction polls generalizing reported p with
  | nil => cases hnamed
  | cons report rest ih =>
    rcases List.mem_cons.mp hnamed with rfl | hrest
    · rw [h.named_eq report] at hs
      simpa using (Bool.and_eq_true_iff.mp (List.mem_filter.mp hs).2).1
    · have hlater := ih (h.poll report) hrest
      rw [position_poll] at hlater
      exact Bool.eq_false_iff.mpr fun hreached =>
        Bool.eq_false_iff.mp hlater (isReached_moved report hreached)

theorem Follows.disjoint_namedBy (h : Follows r reported p) (polls : List (List SegmentId)) :
    (p.namedBy polls).Pairwise List.Disjoint := by
  induction polls generalizing reported p with
  | nil => exact .nil
  | cons report rest ih =>
    refine List.pairwise_cons.mpr ⟨?_, ih (h.poll report)⟩
    intro named hnamed s hs hagain
    have hlater := (h.poll report).not_reached_of_named hnamed hagain
    rw [h.named_eq report] at hs
    have hreached := (Bool.and_eq_true_iff.mp (List.mem_filter.mp hs).2).2
    rw [position_poll, hreached] at hlater
    cases hlater

end Follows

theorem isReached_pollAll (p : Progression) (polls : List (List SegmentId)) {place : Nat}
    (h : isReached p.position place = true) :
    isReached (p.pollAll polls).position place = true := by
  induction polls generalizing p with
  | nil => exact h
  | cons report rest ih =>
    apply ih (p.poll report)
    rw [position_poll]
    exact isReached_moved report h

theorem pollAll_append (p : Progression) (polls later : List (List SegmentId)) :
    (p.pollAll polls).pollAll later = p.pollAll (polls ++ later) :=
  List.foldl_append.symm

/-- Polls leave the train at the furthest of all segments reported that the path holds once, and it
never moves backwards. Stopped are the records of the signals that it passes and that stand no
further than it does. No poll names a signal that another one has named. The progression is
complete when all signals that the train passes are stopped. Polls that report the same segments,
in whatever order and grouping and however often, leave the same progression. -/
theorem polls_determine_progress {reg : Registry} {i : RouteIndex} {r : Route}
    (hr : reg.route? i = some r) (long : 2 ≤ r.signals.length) :
    ∃ p₀, start r (reg.repeatedMask i) = .ok p₀ ∧ ∀ polls,
      let p := p₀.pollAll polls
      IsFurthest (r.placesTold polls.flatten) p.position ∧
        (∀ later k, p.position = some k →
          ∃ k', (p₀.pollAll (polls ++ later)).position = some k' ∧ k ≤ k') ∧
        p.records = r.signals.map (fun s => ⟨s, r.standingPlace s,
          r.passedSignals.contains s && isReached p.position (r.standingPlace s)⟩) ∧
        (p₀.namedBy polls).Pairwise List.Disjoint ∧
        (p.isComplete = true ↔ ∀ s ∈ r.passedSignals, s ∈ p.stopped) ∧
        ∀ polls', (∀ segment, segment ∈ polls'.flatten ↔ segment ∈ polls.flatten) →
          p₀.pollAll polls' = p := by
  obtain ⟨p₀, hstart, hfollows⟩ := exists_start long
  have hmask : reg.repeatedMask i = r.repeatedMask := by rw [Registry.repeatedMask, hr]
  refine ⟨p₀, by rw [hmask, hstart], fun polls => ?_⟩
  have hpolled := hfollows.pollAll polls
  rw [List.nil_append] at hpolled
  refine ⟨hpolled.position, ?_, hpolled.records, hfollows.disjoint_namedBy polls, ?_, ?_⟩
  · intro later k hk
    have hreached : isReached (p₀.pollAll polls).position k = true := by
      rw [hk]
      exact decide_eq_true le_rfl
    rw [← pollAll_append]
    obtain ⟨k', hk', hle⟩ := (Option.any_eq_true ..).mp (isReached_pollAll _ later hreached)
    exact ⟨k', hk', of_decide_eq_true hle⟩
  · rw [hpolled.isComplete_iff]
    refine forall₂_congr fun s hs => ?_
    rw [hpolled.mem_stopped_iff, and_iff_right hs]
  · intro polls' same
    exact (hfollows.pollAll polls').eq hpolled (Route.placesTold_congr same)

end Progression

/-- A balloon loop. Both routes enter it over the stem `x` and come back to the stem. On the first
one the signal in the loop stands before the last segment of the loop, on the second one after
it. -/
def balloon : Table where
  topology := {
    segments := ["x", "a", "b"]
    signals := [("s", .main), ("m", .main), ("t", .main)]
    points := []
    sections := [] }
  routes := [
    { id := "turn", source := "s", destination := "s", orientation := .clockwise
      length := .zero, sections := [], points := []
      signals := ["s", "m", "s"], conflicts := []
      path := [.segment "x", .segment "a", .signal "m", .segment "b", .segment "x"] },
    { id := "back", source := "s", destination := "t", orientation := .clockwise
      length := .zero, sections := [], points := []
      signals := ["s", "m", "t"], conflicts := []
      path := [.segment "x", .segment "a", .segment "b", .signal "m", .segment "x"] }]

def balloonRoutes : Registry := ⟨balloon.topology, balloon.routes, by decide, by decide⟩

theorem balloon_accepted : Registry.ofTable balloon = .ok balloonRoutes := rfl

namespace Progression

/-- The stem and a segment off the path tell nothing. The destination is stopped with the source,
as it is the same signal. -/
theorem balloon_polls :
    let turn := balloon.routes[0]
    let polls := [["x"], ["a", "z"], ["x", "b"], ["a"]]
    let p₀ : Progression :=
      ⟨[⟨"s", 0, false⟩, ⟨"m", 2, false⟩, ⟨"s", 0, false⟩], [("a", 1), ("b", 3)], none⟩
    start turn (balloonRoutes.repeatedMask 0) = .ok p₀ ∧
      IsFurthest (turn.placesTold polls.flatten) (some 3) ∧
      (p₀.pollAll polls).stopped = ["s", "m", "s"] ∧ p₀.namedBy polls = [[], ["s"], ["m"], []] ∧
      (p₀.pollAll polls).isComplete = true ∧
      p₀.pollAll [["b"], ["z", "a", "x"]] = p₀.pollAll polls := by
  intro turn polls p₀
  have hstart : start turn (balloonRoutes.repeatedMask 0) = .ok p₀ := by decide
  have hturn : balloonRoutes.route? 0 = some turn := rfl
  obtain ⟨p, hp, hpolled⟩ := polls_determine_progress hturn (by decide)
  rw [hstart, Except.ok.injEq] at hp
  subst hp
  obtain ⟨hposition, -, -, -, -, hsame⟩ := hpolled polls
  rw [show (p₀.pollAll polls).position = some 3 by decide] at hposition
  refine ⟨hstart, hposition, by decide, by decide, by decide, hsame _ fun segment => ?_⟩
  simp only [polls, List.flatten_cons, List.flatten_nil, List.cons_append, List.nil_append,
    List.mem_cons]
  tauto

end Progression

end Signalbox
