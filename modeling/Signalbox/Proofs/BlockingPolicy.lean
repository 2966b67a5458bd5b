import Signalbox.Proofs.HeldConflicts

/-!
Conflicts under the blocking policy. A route is granted only if none of the routes that it lists
itself is held. What the held routes list is not asked, so of two held routes the one granted
later does not list the other, while the one granted earlier may.
-/
namespace Signalbox

/-- Two tracks that cross on the level. Only one of the two routes lists the other. -/
def levelCrossing : Table where
  topology := {
    segments := ["a", "b", "c", "d"]
    signals := [("s", .main), ("t", .main), ("u", .main), ("v", .main)]
    points := []
    sections := [] }
  routes := [
    { id := "across", source := "s", destination := "t", orientation := .clockwise
      length := .zero, sections := [], points := []
      signals := ["s", "t"], conflicts := ["along"]
      path := [.segment "a", .segment "b"] },
    { id := "along", source := "u", destination := "v", orientation := .clockwise
      length := .zero, sections := [], points := []
      signals := ["u", "v"], conflicts := []
      path := [.segment "c", .segment "d"] }]

def crossingRoutes : Registry :=
  ⟨levelCrossing.topology, levelCrossing.routes, by decide, by decide⟩

theorem levelCrossing_accepted : Registry.ofTable levelCrossing = .ok crossingRoutes := rfl

namespace Session

section Blocking

variable {reg : Registry} {s : Session} {operations : List Operation} {a b : RouteIndex}
  {ra rb : Route}

theorem LastGrantedAt.not_listed_later
    (blocking : ∀ k, (before reg s operations k).policy = .blocking)
    (ha : reg.route? a = some ra) (hb : reg.route? b = some rb) (hne : a ≠ b)
    (heldA : (s.operateAll reg operations).interlocking.isHeld a = true) {ka kb : Nat}
    (hka : LastGrantedAt reg s operations ra.id ka)
    (hkb : LastGrantedAt reg s operations rb.id kb) (horder : ka < kb) :
    ra.id ∉ rb.conflicts := by
  intro hlists
  obtain ⟨train, hadmits, -⟩ := hkb.granted.admits hb
  have hconflict := Interlocking.mem_conflicts ha hb hlists
  have hsectional := (Interlocking.sectional_of_grantable hadmits.grantable hne hconflict
    (hka.held_since ha heldA horder)).1
  rw [blocking kb] at hsectional
  cases hsectional

/-- While the blocking policy is selected, two held routes have been granted one after the other,
and the later one does not list the earlier one. So no two routes are held that list each
other. -/
theorem later_lists_no_earlier {config : SessionConfig}
    (started : start reg config = .ok s) (operations : List Operation)
    (blocking : ∀ k, (before reg s operations k).policy = .blocking)
    (ha : reg.route? a = some ra) (hb : reg.route? b = some rb) (hne : a ≠ b)
    (heldA : (s.operateAll reg operations).interlocking.isHeld a = true)
    (heldB : (s.operateAll reg operations).interlocking.isHeld b = true) :
    (∃ ka kb, LastGrantedAt reg s operations ra.id ka ∧ LastGrantedAt reg s operations rb.id kb ∧
        (ka < kb ∧ ra.id ∉ rb.conflicts ∨ kb < ka ∧ rb.id ∉ ra.conflicts)) ∧
      ¬ (ra.id ∈ rb.conflicts ∧ rb.id ∈ ra.conflicts) := by
  obtain ⟨ka, hka⟩ := exists_lastGrantedAt ha (free_of_start started a) heldA
  obtain ⟨kb, hkb⟩ := exists_lastGrantedAt hb (free_of_start started b) heldB
  have hplaces : ka ≠ kb := by
    rintro rfl
    exact hne (hka.granted.eq_of_same_place ha hb hkb.granted)
  have horder : ka < kb ∧ ra.id ∉ rb.conflicts ∨ kb < ka ∧ rb.id ∉ ra.conflicts := by
    rcases Nat.lt_or_gt_of_ne hplaces with hlt | hgt
    · exact .inl ⟨hlt, hka.not_listed_later blocking ha hb hne heldA hkb hlt⟩
    · exact .inr ⟨hgt, hkb.not_listed_later blocking hb ha hne.symm heldB hka hgt⟩
  refine ⟨⟨ka, kb, hka, hkb, horder⟩, ?_⟩
  rintro ⟨hlists, hlists'⟩
  exact horder.elim (fun h => h.2 hlists) (fun h => h.2 hlists')

end Blocking

def crossingSession : Session where
  interlocking := .initial levelCrossing.topology
  policy := .blocking
  config := ⟨"blocking", 32⟩
  grabs := .empty 32
  drives := []
  running := true
  outsideCount := 0

theorem crossing_started : start crossingRoutes ⟨"blocking", 32⟩ = .ok crossingSession := rfl

/-- The route that lists nothing is granted last. -/
def crossingRun : List Operation :=
  [.command (.directGrant "T1" "along"), .command (.directGrant "T2" "across"),
    .command (.release "along"), .command (.directGrant "T2" "across"),
    .command (.directGrant "T1" "along")]

theorem crossing_later_lists_nothing :
    (crossingSession.operateAll crossingRoutes crossingRun).interlocking.heldRoutes
        crossingRoutes = [("across", "T2"), ("along", "T1")] ∧
      (∃ ka kb, LastGrantedAt crossingRoutes crossingSession crossingRun "across" ka ∧
        LastGrantedAt crossingRoutes crossingSession crossingRun "along" kb ∧ ka < kb) := by
  have hblocking : ∀ k, (before crossingRoutes crossingSession crossingRun k).policy =
      .blocking := forall_before (P := (·.policy = .blocking)) (by decide)
  obtain ⟨⟨ka, kb, hka, hkb, horder⟩, -⟩ := later_lists_no_earlier crossing_started
    crossingRun hblocking (a := 0) (b := 1) rfl rfl (by decide) (by decide)
    (by decide)
  refine ⟨by decide, ka, kb, hka, hkb, ?_⟩
  exact horder.elim (fun h => h.1) (fun h => absurd (by decide) h.2)

/-- The route granted earlier does list the other one. -/
theorem crossing_earlier_lists_later :
    let run : List Operation :=
      [.command (.directGrant "T2" "across"), .command (.directGrant "T1" "along")]
    Registry.ofTable levelCrossing = .ok crossingRoutes ∧
      start crossingRoutes ⟨"blocking", 32⟩ = .ok crossingSession ∧
      (∀ k ≤ 2, (before crossingRoutes crossingSession run k).policy = .blocking) ∧
      (crossingSession.operateAll crossingRoutes run).interlocking.heldRoutes crossingRoutes =
        [("across", "T2"), ("along", "T1")] ∧
      (crossingRoutes.find? "across").map (·.conflicts) = some ["along"] := by
  refine ⟨levelCrossing_accepted, crossing_started, ?_⟩
  decide

end Session

end Signalbox
