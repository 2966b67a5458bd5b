import Mathlib.Data.List.Induction
import Signalbox.Sectional

/-!
The sectional check against the check that it abbreviates. The walk asks for the occupancy of
the held path only at the first shared segment after each signal. It answers as if it had asked
at every shared segment, since the first one of a block reaches back over the later ones.
-/
namespace Signalbox.Sectional

/-- The section around a segment is known, and each of its entry signals is known to show an
aspect that admits nobody. -/
def EntryClosed (topology : Topology) (track : Track) (segment : SegmentId) : Prop :=
  ∃ enclosing, topology.section? segment = some enclosing ∧
    ∀ s ∈ enclosing.entry, ∃ a, track.aspect s = some a ∧ a ≠ .go ∧ a ≠ .shunt

/-- No segment of the path is occupied from a place back to the nearest signal before it, or
back to the start. -/
def VacatedBack (path : List PathElement) (track : Track) (i : Nat) : Prop :=
  ∀ j ≤ i, (∀ k, j ≤ k → k ≤ i → ∀ s, path[k]? ≠ some (.signal s)) →
    ∀ s, path[j]? = some (.segment s) → track.isOccupied s = false

theorem entryPermitted_eq_false_iff {topology : Topology} {track : Track}
    {segment : SegmentId} :
    entryPermitted topology track segment = false ↔ EntryClosed topology track segment := by
  unfold entryPermitted EntryClosed Topology.entrySignals?
  cases topology.section? segment with
  | none => simp
  | some enclosing =>
    have aspect_closed (s : SignalId) :
        (track.aspect s).all Aspect.isPermissive = false ↔
          ∃ a, track.aspect s = some a ∧ a ≠ .go ∧ a ≠ .shunt := by
      rcases track.aspect s with _ | _ | _ | _ | _ <;> simp [Aspect.isPermissive]
    simp [aspect_closed]

/-! A path from its end to its start. Taking an element off the end of the path takes it off
the front here, so that the walk follows the path by recursion from the end. -/

def fromEnd (path : List PathElement) : List (PathElement × Nat) := path.zipIdx.reverse

theorem backwards_eq (r : Route) : backwards r = fromEnd r.path := rfl

@[simp] theorem fromEnd_nil : fromEnd [] = [] := rfl

@[simp] theorem fromEnd_append_singleton (path : List PathElement) (e : PathElement) :
    fromEnd (path ++ [e]) = (e, path.length) :: fromEnd path := by
  simp [fromEnd, List.zipIdx_append]

theorem getElem?_append_singleton {path : List PathElement} {e x : PathElement} {k : Nat} :
    (path ++ [e])[k]? = some x ↔ path[k]? = some x ∨ (k = path.length ∧ e = x) := by
  rw [List.getElem?_append]
  split
  · rename_i hlt
    have hne : k ≠ path.length := by omega
    simp [hne]
  · rename_i hge
    rw [List.getElem?_eq_none (by omega : path.length ≤ k), List.getElem?_singleton]
    split
    · rename_i hzero
      have hend : k = path.length := by omega
      simp [hend]
    · rename_i hpos
      have hne : k ≠ path.length := by omega
      simp [hne]

section Walk

variable (topology : Topology) (track : Track) (requested : Route)

theorem vacatedToSignal_append_segment (path : List PathElement) (s : SegmentId) :
    (vacatedToSignal track (fromEnd (path ++ [.segment s]))).safe = true ↔
      track.isOccupied s = false ∧ (vacatedToSignal track (fromEnd path)).safe = true := by
  rw [fromEnd_append_singleton, vacatedToSignal]
  cases track.isOccupied s <;> simp

theorem vacatedToSignal_safe_iff (path : List PathElement) :
    (vacatedToSignal track (fromEnd path)).safe = true ↔
      ∀ j : Nat, (∀ k : Nat, j ≤ k → ∀ q, path[k]? ≠ some (PathElement.signal q)) →
        ∀ s, path[j]? = some (PathElement.segment s) → track.isOccupied s = false := by
  induction path using List.reverseRecOn with
  | nil => simp [vacatedToSignal]
  | append_singleton path e ih =>
    cases e with
    | signal q =>
      -- whatever the place, this signal lies behind it
      simp only [fromEnd_append_singleton, vacatedToSignal, true_iff]
      intro j clear s hs
      have hj : j < path.length + 1 := by
        have hlt := (List.getElem?_eq_some_iff.mp hs).1
        simpa using hlt
      exact absurd List.getElem?_concat_length (clear path.length (by omega) q)
    | segment t =>
      rw [vacatedToSignal_append_segment, ih]
      simp only [ne_eq, getElem?_append_singleton, reduceCtorEq, and_false, or_false,
        PathElement.segment.injEq]
      constructor
      · rintro ⟨ht, hpath⟩ j clear s (hs | ⟨-, rfl⟩)
        · exact hpath j clear s hs
        · exact ht
      · intro h
        refine ⟨h path.length ?_ t (.inr ⟨rfl, rfl⟩), ?_⟩
        · intro k hk q
          simp [hk]
        · intro j clear s hs
          exact h j clear s (.inl hs)

theorem vacatedToSignal_take_iff (path : List PathElement) (i : Nat) :
    (vacatedToSignal track (fromEnd (path.take (i + 1)))).safe = true ↔
      VacatedBack path track i := by
  rw [vacatedToSignal_safe_iff]
  have take_eq_some (k : Nat) (e : PathElement) :
      (path.take (i + 1))[k]? = some e ↔ k ≤ i ∧ path[k]? = some e := by
    rw [List.getElem?_take]
    split
    · rename_i hlt
      simp [Nat.lt_succ_iff.mp hlt]
    · rename_i hge
      have hnle : ¬ k ≤ i := by omega
      simp [hnle]
  simp only [ne_eq, take_eq_some, not_and]
  constructor
  · intro h j hj clear s hs
    exact h j (fun k hjk q hki => clear k hjk hki q) s ⟨hj, hs⟩
  · intro h j clear s hs
    exact h j hs.1 (fun k hjk hki q => clear k hjk q hki) s hs.2

/-- The check of one shared segment, made without regard to the others. -/
def SharedPlaceSafe (path : List PathElement) (i : Nat) (s : SegmentId) : Prop :=
  entryPermitted topology track s = false ∧
    (vacatedToSignal track (fromEnd (path.take (i + 1)))).safe = true

def EverySharedSafe (path : List PathElement) : Prop :=
  ∀ i s, path[i]? = some (.segment s) → requested.containsSegment s = true →
    SharedPlaceSafe topology track path i s

theorem everySharedSafe_nil : EverySharedSafe topology track requested [] := by
  intro i s hs
  simp at hs

theorem everySharedSafe_append_singleton (path : List PathElement) (e : PathElement) :
    EverySharedSafe topology track requested (path ++ [e]) ↔
      EverySharedSafe topology track requested path ∧
        ∀ s, e = .segment s → requested.containsSegment s = true →
          entryPermitted topology track s = false ∧
            (vacatedToSignal track (fromEnd (path ++ [e]))).safe = true := by
  have take_end : (path ++ [e]).take (path.length + 1) = path ++ [e] :=
    List.take_of_length_le (by simp)
  have take_before {i : Nat} (h : i < path.length) :
      (path ++ [e]).take (i + 1) = path.take (i + 1) :=
    List.take_append_of_le_length h
  unfold EverySharedSafe SharedPlaceSafe
  constructor
  · intro h
    refine ⟨?_, ?_⟩
    · intro i s hs hshared
      have hlt := (List.getElem?_eq_some_iff.mp hs).1
      have hplace := h i s (getElem?_append_singleton.mpr (.inl hs)) hshared
      rwa [take_before hlt] at hplace
    · intro s he hshared
      have hplace := h path.length s (getElem?_append_singleton.mpr (.inr ⟨rfl, he⟩)) hshared
      rwa [take_end] at hplace
  · rintro ⟨hpath, hend⟩ i s hs hshared
    rcases getElem?_append_singleton.mp hs with hbefore | ⟨rfl, he⟩
    · rw [take_before (List.getElem?_eq_some_iff.mp hbefore).1]
      exact hpath i s hbefore hshared
    · rw [take_end]
      exact hend s he hshared

/-- The walk answers as the check of every shared segment does. Once disarmed it relies on what
the first shared segment has established: all is vacated back to the next signal. -/
theorem walk_safe_iff (path : List PathElement) (armed : Bool)
    (covered : armed = true ∨ (vacatedToSignal track (fromEnd path)).safe = true) :
    (walk topology track requested armed (fromEnd path)).safe = true ↔
      EverySharedSafe topology track requested path := by
  induction path using List.reverseRecOn generalizing armed with
  | nil => simp [walk, everySharedSafe_nil]
  | append_singleton path e ih =>
    rw [everySharedSafe_append_singleton]
    cases e with
    | signal q =>
      rw [fromEnd_append_singleton, walk, ih true (.inl rfl)]
      simp
    | segment s =>
      have vacated_iff := vacatedToSignal_append_segment track path s
      rw [fromEnd_append_singleton] at covered vacated_iff ⊢
      rw [walk]
      cases hshared : requested.containsSegment s with
      | false =>
        rw [if_pos (by simp), ih armed (covered.imp_right fun h => (vacated_iff.mp h).2)]
        simp [hshared]
      | true =>
        rw [if_neg (by simp)]
        cases hentry : entryPermitted topology track s with
        | true => simp [Check.refused, hshared, hentry]
        | false =>
          rw [if_neg (by simp)]
          cases hvacated :
              (vacatedToSignal track ((.segment s, path.length) :: fromEnd path)).safe with
          | false =>
            have harmed : armed = true := by simpa [hvacated] using covered
            simp [harmed, hvacated, hshared]
          | true =>
            -- the rest of the block is vacated, armed or not
            have hrest := ih false (.inr (vacated_iff.mp hvacated).2)
            cases armed <;> simp [hvacated, hrest, hentry, hshared]

theorem everySharedSafe_iff (path : List PathElement) :
    EverySharedSafe topology track requested path ↔
      ∀ i s, path[i]? = some (.segment s) → .segment s ∈ requested.path →
        EntryClosed topology track s ∧ VacatedBack path track i := by
  unfold EverySharedSafe SharedPlaceSafe Route.containsSegment
  simp only [List.contains_iff_mem, entryPermitted_eq_false_iff, vacatedToSignal_take_iff]

end Walk

theorem check_eq_walk {reg : Registry} {held requested : RouteIndex} {h r : Route}
    (hheld : reg.route? held = some h) (hrequested : reg.route? requested = some r)
    (long : 2 ≤ h.path.length) (full : r.path ≠ []) (track : Track) :
    check reg track held requested = walk reg.topology track r true (fromEnd h.path) := by
  have hcond : ¬ ((decide (h.path.length < 2) || r.path.isEmpty) = true) := by
    rw [decide_eq_false (Nat.not_lt.mpr long), List.isEmpty_eq_false_iff.mpr full]
    decide
  unfold check
  rw [hheld, hrequested]
  dsimp only
  rw [if_neg hcond, backwards_eq]

/-- A conflict is admissible exactly when both routes are in the table with paths that are long
enough, and each place of the held path whose segment the requested path holds as well is closed
to entry and vacated back to the signal before it. -/
theorem check_safe_iff (reg : Registry) (track : Track) (held requested : RouteIndex) :
    (check reg track held requested).safe = true ↔
      ∃ h r, reg.route? held = some h ∧ reg.route? requested = some r ∧
        2 ≤ h.path.length ∧ r.path ≠ [] ∧
        ∀ i s, h.path[i]? = some (.segment s) → .segment s ∈ r.path →
          EntryClosed reg.topology track s ∧ VacatedBack h.path track i := by
  unfold check
  cases hheld : reg.route? held with
  | none => simp [Check.refused]
  | some h =>
    cases hrequested : reg.route? requested with
    | none => simp [Check.refused]
    | some r =>
      simp only [Option.some.injEq, exists_and_left, exists_eq_left']
      by_cases hpaths : 2 ≤ h.path.length ∧ r.path ≠ []
      · obtain ⟨hlong, hfull⟩ := hpaths
        have hcond : ¬ ((decide (h.path.length < 2) || r.path.isEmpty) = true) := by
          rw [decide_eq_false (Nat.not_lt.mpr hlong), List.isEmpty_eq_false_iff.mpr hfull]
          decide
        rw [if_neg hcond, backwards_eq, walk_safe_iff _ _ _ _ _ (.inl rfl), everySharedSafe_iff]
        simp [hlong, hfull]
      · have hcond : (decide (h.path.length < 2) || r.path.isEmpty) = true := by
          rcases not_and_or.mp hpaths with hshort | hempty
          · simp [Nat.lt_of_not_le hshort]
          · simp [not_not.mp hempty]
        rw [if_pos hcond]
        simp only [Check.refused, Bool.false_eq_true, false_iff]
        rintro ⟨hlong, hfull, -⟩
        exact hpaths ⟨hlong, hfull⟩

end Signalbox.Sectional
