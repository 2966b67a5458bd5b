import Mathlib.Data.List.Find
import Signalbox.Interlocking.Search
import Signalbox.Proofs.Granting
import Signalbox.Proofs.RegistryLookup

/-!
Requests against grants. A search ends after one tick for the look-up, one for each candidate
and one more. What it answers is what granting the routes between the two signals one after
the other would answer, and it grants the first of them that can be granted.
-/
namespace Signalbox

namespace Search

variable {reg : Registry} {policy : ConflictPolicy} {il : Interlocking}

def accepts (reg : Registry) (policy : ConflictPolicy) (il : Interlocking)
    (i : RouteIndex) : Bool :=
  il.isGrantable reg policy i && il.isClear reg i

theorem admits_of_accepts {train : TrainId} {i : RouteIndex} (named : train.isEmpty = false)
    (h : accepts reg policy il i = true) : il.Admits reg policy train i := by
  obtain ⟨hgrantable, hclear⟩ := Bool.and_eq_true_iff.mp h
  exact ⟨named, hgrantable, hclear⟩

theorem tick_passed_over (request : RouteRequest) {i : RouteIndex} (rest : List RouteIndex)
    (unclear : Bool) (h : accepts reg policy il i = false) :
    tick reg policy il (.examine request (i :: rest) unclear) =
      (.examine request rest (unclear || il.isGrantable reg policy i), il, .pending) := by
  unfold accepts at h
  unfold tick
  cases hgrantable : il.isGrantable reg policy i with
  | false => simp [hgrantable]
  | true =>
    have hclear : il.isClear reg i = false := by simpa [hgrantable] using h
    simp [hgrantable, hclear]

theorem tick_accepted {request : RouteRequest} (named : request.train.isEmpty = false)
    {i : RouteIndex} {r : Route} (hr : reg.route? i = some r) (rest : List RouteIndex)
    (unclear : Bool) (h : accepts reg policy il i = true) :
    tick reg policy il (.examine request (i :: rest) unclear) =
      (.finished (.granted r.id), (il.commit reg request.train i r).1, .granted r.id) := by
  have hadmits := admits_of_accepts named h
  unfold tick
  simp [hadmits.grantable, hadmits.clear, Interlocking.grant_of_admits hr hadmits,
    Interlocking.commit]

theorem run_of_pending {fuel : Nat} {s s' : Search}
    (h : s.tick reg policy il = (s', il, .pending)) :
    run reg policy (fuel + 1) il s = run reg policy fuel il s' := by
  rw [run, h]

theorem run_none_accepted (request : RouteRequest) {candidates : List RouteIndex}
    (unclear : Bool) {fuel : Nat} (enough : candidates.length < fuel)
    (h : ∀ i ∈ candidates, accepts reg policy il i = false) :
    run reg policy fuel il (.examine request candidates unclear) =
      (il, exhausted (unclear || candidates.any (il.isGrantable reg policy))) := by
  induction candidates generalizing unclear fuel with
  | nil =>
    obtain ⟨fuel, rfl⟩ := Nat.exists_eq_succ_of_ne_zero (Nat.ne_zero_of_lt enough)
    cases unclear <;> rfl
  | cons i rest ih =>
    obtain ⟨fuel, rfl⟩ := Nat.exists_eq_succ_of_ne_zero (Nat.ne_zero_of_lt enough)
    rw [run_of_pending (tick_passed_over request rest unclear (h i List.mem_cons_self)),
      ih _ (by simpa using enough) fun j hj => h j (List.mem_cons_of_mem i hj),
      List.any_cons, Bool.or_assoc]

theorem run_accepted {request : RouteRequest} (named : request.train.isEmpty = false)
    {candidates : List RouteIndex} (unclear : Bool) {fuel : Nat}
    (enough : candidates.length < fuel) {i : RouteIndex} {r : Route} (hr : reg.route? i = some r)
    (h : candidates.find? (accepts reg policy il) = some i) :
    run reg policy fuel il (.examine request candidates unclear) =
      ((il.commit reg request.train i r).1, .granted r.id) := by
  induction candidates generalizing unclear fuel with
  | nil => cases h
  | cons j rest ih =>
    obtain ⟨fuel, rfl⟩ := Nat.exists_eq_succ_of_ne_zero (Nat.ne_zero_of_lt enough)
    cases hj : accepts reg policy il j with
    | true =>
      rw [List.find?_cons_of_pos hj] at h
      cases h
      rw [run, tick_accepted named hr rest unclear hj]
    | false =>
      rw [List.find?_cons_of_neg (by simp [hj])] at h
      rw [run_of_pending (tick_passed_over request rest unclear hj)]
      exact ih _ (by simpa using enough) h

theorem run_lookup (request : RouteRequest) (fuel : Nat)
    (h : reg.between request.source request.destination ≠ []) :
    run reg policy (fuel + 1) il (.lookup request) =
      run reg policy fuel il
        (.examine request (reg.between request.source request.destination) false) := by
  apply run_of_pending
  cases hfound : reg.between request.source request.destination with
  | nil => exact absurd hfound h
  | cons i rest => simp [tick, hfound]

theorem run_lookup_none (request : RouteRequest) (fuel : Nat)
    (h : reg.between request.source request.destination = []) :
    run reg policy (fuel + 1) il (.lookup request) = (il, .noRoutes) := by
  simp [run, tick, h]

end Search

namespace Interlocking

variable {reg : Registry} {policy : ConflictPolicy} {il : Interlocking}

def ticks (reg : Registry) (request : RouteRequest) : Nat :=
  (reg.between request.source request.destination).length + 2

theorem requestRoute_of_known {request : RouteRequest} (named : request.train.isEmpty = false)
    (source : reg.topology.isSignal request.source = true)
    (destination : reg.topology.isSignal request.destination = true) :
    il.requestRoute reg policy request =
      ((Search.run reg policy (ticks reg request) il (.lookup request)).1,
        .ok (Search.run reg policy (ticks reg request) il (.lookup request)).2) := by
  unfold requestRoute
  simp [named, source, destination, ticks]

theorem run_of_none_accepted (request : RouteRequest) {fuel : Nat}
    (enough : ticks reg request ≤ fuel)
    (h : ∀ i ∈ reg.between request.source request.destination,
      Search.accepts reg policy il i = false) :
    Search.run reg policy fuel il (.lookup request) =
      (il, if reg.between request.source request.destination = [] then .noRoutes
        else Search.exhausted ((reg.between request.source request.destination).any
          (il.isGrantable reg policy))) := by
  unfold ticks at enough
  obtain ⟨fuel, rfl⟩ : ∃ n, fuel = n + 1 := ⟨fuel - 1, by omega⟩
  split
  · rename_i hnone
    exact Search.run_lookup_none request fuel hnone
  · rename_i hsome
    rw [Search.run_lookup request fuel hsome,
      Search.run_none_accepted request false (by omega) h, Bool.false_or]

theorem run_of_accepted {request : RouteRequest} (named : request.train.isEmpty = false)
    {fuel : Nat} (enough : ticks reg request ≤ fuel) {i : RouteIndex} {r : Route}
    (hr : reg.route? i = some r)
    (h : (reg.between request.source request.destination).find?
      (Search.accepts reg policy il) = some i) :
    Search.run reg policy fuel il (.lookup request) =
      ((il.commit reg request.train i r).1, .granted r.id) := by
  unfold ticks at enough
  obtain ⟨fuel, rfl⟩ : ∃ n, fuel = n + 1 := ⟨fuel - 1, by omega⟩
  have hsome : reg.between request.source request.destination ≠ [] :=
    List.ne_nil_of_mem (List.mem_of_find?_eq_some h)
  rw [Search.run_lookup request fuel hsome]
  exact Search.run_accepted named false (by omega) hr h

theorem requestRoute_cases (request : RouteRequest) :
    (il.requestRoute reg policy request).1 = il ∨
      ∃ i r, reg.route? i = some r ∧ il.Admits reg policy request.train i ∧
        (il.requestRoute reg policy request).1 = (il.commit reg request.train i r).1 := by
  unfold requestRoute
  cases named : request.train.isEmpty with
  | true => exact .inl rfl
  | false =>
    cases [request.source, request.destination].find? (!reg.topology.isSignal ·) with
    | some s => exact .inl rfl
    | none =>
      have enough : ticks reg request ≤
          (reg.between request.source request.destination).length + 2 := Nat.le_refl _
      cases found : (reg.between request.source request.destination).find?
          (Search.accepts reg policy il) with
      | none =>
        left
        have h : ∀ i ∈ reg.between request.source request.destination,
            Search.accepts reg policy il i = false := by
          simpa using List.find?_eq_none.mp found
        simp [run_of_none_accepted request enough h]
      | some i =>
        right
        have hadmits := Search.admits_of_accepts named (List.find?_some found)
        obtain ⟨r, hr⟩ := exists_route_of_isClear hadmits.clear
        exact ⟨i, r, hr, hadmits, by simp [run_of_accepted named enough hr found]⟩

/-- A route of the table that is free and has only admissible held conflicts. -/
def RouteGrantable (il : Interlocking) (reg : Registry) (policy : ConflictPolicy)
    (r : Route) : Prop :=
  ∃ i, reg.route? i = some r ∧ il.isGrantable reg policy i = true

def wouldGrant (il : Interlocking) (reg : Registry) (policy : ConflictPolicy)
    (train : TrainId) (r : Route) : Bool :=
  (il.grantRoute reg policy train r.id).2.isOk

/-- An answer to a request, and what is left of the route set, said through the routes between
the two signals and the grants of them that could be made instead. -/
structure Answers (il : Interlocking) (reg : Registry) (policy : ConflictPolicy)
    (request : RouteRequest) (il' : Interlocking) (status : RequestStatus) : Prop where
  granted_iff : ∀ id, status = .granted id ↔
    ∃ r, (reg.routesBetween request.source request.destination).find?
      (il.wouldGrant reg policy request.train) = some r ∧ r.id = id
  granted_state : ∀ id, status = .granted id →
    il' = (il.grantRoute reg policy request.train id).1
  noRoutes_iff : status = .noRoutes ↔
    reg.routesBetween request.source request.destination = []
  notClear_iff : status = .notClear ↔
    (∃ r ∈ reg.routesBetween request.source request.destination,
      il.RouteGrantable reg policy r) ∧
    ∀ r ∈ reg.routesBetween request.source request.destination,
      ¬ (il.RouteGrantable reg policy r ∧ routeIsClear il.track r = true)
  notGrantable_iff : status = .notGrantable ↔
    reg.routesBetween request.source request.destination ≠ [] ∧
    ∀ r ∈ reg.routesBetween request.source request.destination,
      ¬ il.RouteGrantable reg policy r
  unchanged : (∀ id, status ≠ .granted id) → il' = il

section Routes

variable {i : RouteIndex} {r : Route} (hr : reg.route? i = some r)
include hr

theorem grantRoute_eq (train : TrainId) :
    il.grantRoute reg policy train r.id = il.grant reg policy train i := by
  simp [grantRoute, indexOf, Registry.index?_of_route? hr]

theorem wouldGrant_eq {train : TrainId} (named : train.isEmpty = false) :
    il.wouldGrant reg policy train r = Search.accepts reg policy il i := by
  unfold wouldGrant
  rw [grantRoute_eq hr, Bool.eq_iff_iff, grant_isOk_iff]
  constructor
  · intro h
    exact Bool.and_eq_true_iff.mpr ⟨h.grantable, h.clear⟩
  · exact Search.admits_of_accepts named

theorem routeGrantable_iff :
    il.RouteGrantable reg policy r ↔ il.isGrantable reg policy i = true := by
  constructor
  · rintro ⟨j, hj, hgrantable⟩
    have hi := Registry.index?_of_route? hr
    rw [Registry.index?_of_route? hj] at hi
    cases hi
    exact hgrantable
  · exact fun h => ⟨i, hr, h⟩

theorem isClear_eq : il.isClear reg i = routeIsClear il.track r := by
  simp [isClear, hr]

end Routes

section Answers

variable {request : RouteRequest}
  (named : request.train.isEmpty = false) {found : List (Route × RouteIndex)}
  (hfound : ∀ p ∈ found, reg.route? p.2 = some p.1)
  (hroutes : reg.routesBetween request.source request.destination = found.map (·.1))
include named hfound hroutes

/-- Trying to grant the routes one after the other meets the route that the search accepts. -/
theorem find?_wouldGrant (il : Interlocking) (policy : ConflictPolicy) :
    (reg.routesBetween request.source request.destination).find?
        (il.wouldGrant reg policy request.train) =
      (found.find? fun p => Search.accepts reg policy il p.2).map (·.1) := by
  rw [hroutes, List.find?_map]
  congr 1
  apply List.find?_congr
  intro p hp
  exact wouldGrant_eq (hfound p hp) named

theorem answers_of_accepted {p : Route × RouteIndex}
    (hp : found.find? (fun p => Search.accepts reg policy il p.2) = some p) :
    il.Answers reg policy request (il.commit reg request.train p.2 p.1).1 (.granted p.1.id) := by
  have hfirst := find?_wouldGrant named hfound hroutes il policy
  rw [hp, Option.map_some] at hfirst
  have hmem := List.mem_of_find?_eq_some hp
  have hr := hfound p hmem
  have haccepts : Search.accepts reg policy il p.2 = true := by
    simpa using List.find?_some hp
  have hadmits := Search.admits_of_accepts named haccepts
  have hlisted : p.1 ∈ reg.routesBetween request.source request.destination := by
    rw [hroutes]
    exact List.mem_map_of_mem hmem
  have hgrantable : il.RouteGrantable reg policy p.1 := ⟨p.2, hr, hadmits.grantable⟩
  have hclear : routeIsClear il.track p.1 = true := by
    rw [← isClear_eq hr]
    exact hadmits.clear
  constructor
  case granted_iff =>
    intro id
    rw [hfirst]
    simp
  case granted_state =>
    intro id hid
    cases hid
    rw [grantRoute_eq hr, grant_of_admits hr hadmits]
  case noRoutes_iff =>
    simp only [reduceCtorEq, false_iff]
    exact List.ne_nil_of_mem hlisted
  case notClear_iff =>
    simp only [reduceCtorEq, false_iff]
    rintro ⟨-, hnone⟩
    exact hnone p.1 hlisted ⟨hgrantable, hclear⟩
  case notGrantable_iff =>
    simp only [reduceCtorEq, false_iff]
    rintro ⟨-, hnone⟩
    exact hnone p.1 hlisted hgrantable
  case unchanged =>
    intro h
    exact absurd rfl (h p.1.id)

omit named in
theorem any_isGrantable_iff
    (hbetween : reg.between request.source request.destination = found.map (·.2))
    (il : Interlocking) (policy : ConflictPolicy) :
    (reg.between request.source request.destination).any (il.isGrantable reg policy) = true ↔
      ∃ r ∈ reg.routesBetween request.source request.destination,
        il.RouteGrantable reg policy r := by
  rw [hbetween, hroutes, List.any_map, List.any_eq_true]
  constructor
  · rintro ⟨p, hp, hgrantable⟩
    exact ⟨p.1, List.mem_map_of_mem hp, p.2, hfound p hp, hgrantable⟩
  · rintro ⟨r, hr, hgrantable⟩
    obtain ⟨p, hp, rfl⟩ := List.mem_map.mp hr
    exact ⟨p, hp, (routeGrantable_iff (hfound p hp)).mp hgrantable⟩

omit named in
theorem not_grantable_and_clear
    (hnone : ∀ p ∈ found, Search.accepts reg policy il p.2 = false) :
    ∀ r ∈ reg.routesBetween request.source request.destination,
      ¬ (il.RouteGrantable reg policy r ∧ routeIsClear il.track r = true) := by
  rw [hroutes]
  intro r hr hboth
  obtain ⟨p, hp, rfl⟩ := List.mem_map.mp hr
  have hplace := hnone p hp
  unfold Search.accepts at hplace
  rw [(routeGrantable_iff (hfound p hp)).mp hboth.1, isClear_eq (hfound p hp),
    hboth.2] at hplace
  cases hplace

theorem answers_of_none_accepted
    (hbetween : reg.between request.source request.destination = found.map (·.2))
    (hnone : ∀ p ∈ found, Search.accepts reg policy il p.2 = false) :
    il.Answers reg policy request il
      (if reg.between request.source request.destination = [] then .noRoutes
        else Search.exhausted ((reg.between request.source request.destination).any
          (il.isGrantable reg policy))) := by
  have hfirst := find?_wouldGrant named hfound hroutes il policy
  have hmissed : found.find? (fun p => Search.accepts reg policy il p.2) = none :=
    List.find?_eq_none.mpr fun p hp => by simp [hnone p hp]
  rw [hmissed, Option.map_none] at hfirst
  have hempty : reg.between request.source request.destination = [] ↔
      reg.routesBetween request.source request.destination = [] := by
    rw [hbetween, hroutes, List.map_eq_nil_iff, List.map_eq_nil_iff]
  have hany := any_isGrantable_iff hfound hroutes hbetween il policy
  have hblocked := not_grantable_and_clear hfound hroutes hnone
  by_cases hnil : reg.routesBetween request.source request.destination = []
  · rw [if_pos (hempty.mpr hnil)]
    constructor <;> simp [hnil]
  · rw [if_neg (mt hempty.mp hnil)]
    by_cases hsome : ∃ r ∈ reg.routesBetween request.source request.destination,
        il.RouteGrantable reg policy r
    · rw [hany.mpr hsome]
      refine ⟨by simp [Search.exhausted, hfirst], by simp [Search.exhausted],
        by simp [Search.exhausted, hnil], ?_, ?_, fun _ => rfl⟩
      · simp only [Search.exhausted, if_true, true_iff]
        exact ⟨hsome, hblocked⟩
      · simp only [Search.exhausted, if_true, reduceCtorEq, false_iff]
        rintro ⟨-, hnot⟩
        obtain ⟨r, hr, hgrantable⟩ := hsome
        exact hnot r hr hgrantable
    · rw [Bool.eq_false_iff.mpr (mt hany.mp hsome)]
      refine ⟨by simp [Search.exhausted, hfirst], by simp [Search.exhausted],
        by simp [Search.exhausted, hnil], ?_, ?_, fun _ => rfl⟩
      · simp only [Search.exhausted, Bool.false_eq_true, if_false, reduceCtorEq, false_iff]
        exact fun h => hsome h.1
      · simp only [Search.exhausted, Bool.false_eq_true, if_false, true_iff]
        exact ⟨hnil, fun r hr hgrantable => hsome ⟨r, hr, hgrantable⟩⟩

end Answers

/-- A request for a route between two declared signals is answered, within one tick for the
look-up, one for each route between them and one more, and later ticks would not change the
answer. It is the answer that the grants of these routes give: the first of them that would be
granted is, with all that this grant does and nothing else. -/
theorem requestRoute_answers (reg : Registry) (il : Interlocking) (policy : ConflictPolicy)
    (request : RouteRequest) (named : request.train ≠ "")
    (source : reg.topology.isSignal request.source = true)
    (destination : reg.topology.isSignal request.destination = true) :
    ∃ il' status, il.requestRoute reg policy request = (il', .ok status) ∧
      status ≠ .pending ∧ il.Answers reg policy request il' status ∧
      ∀ fuel, (reg.routesBetween request.source request.destination).length + 2 ≤ fuel →
        Search.run reg policy fuel il (.lookup request) = (il', status) := by
  have hnamed : request.train.isEmpty = false := by simpa using named
  obtain ⟨found, hfound, hbetween, hroutes⟩ :=
    reg.between_eq request.source request.destination
  have hticks : ticks reg request =
      (reg.routesBetween request.source request.destination).length + 2 := by
    rw [ticks, hbetween, hroutes, List.length_map, List.length_map]
  rw [requestRoute_of_known hnamed source destination, ← hticks]
  have hfind : (reg.between request.source request.destination).find?
      (Search.accepts reg policy il) =
        (found.find? fun p => Search.accepts reg policy il p.2).map (·.2) := by
    rw [hbetween, List.find?_map]
    rfl
  cases hp : found.find? fun p => Search.accepts reg policy il p.2 with
  | none =>
    have hnone : ∀ p ∈ found, Search.accepts reg policy il p.2 = false := fun p hmem =>
      Bool.eq_false_iff.mpr (List.find?_eq_none.mp hp p hmem)
    have hpassed : ∀ i ∈ reg.between request.source request.destination,
        Search.accepts reg policy il i = false := by
      rw [hbetween]
      intro i hi
      obtain ⟨p, hmem, rfl⟩ := List.mem_map.mp hi
      exact hnone p hmem
    have hrun (fuel : Nat) (enough : ticks reg request ≤ fuel) :
        Search.run reg policy fuel il (.lookup request) = _ :=
      run_of_none_accepted request enough hpassed
    refine ⟨il, _, ?_, ?_, answers_of_none_accepted hnamed hfound hroutes hbetween hnone,
      hrun⟩
    · rw [hrun _ (Nat.le_refl _)]
    · split
      · simp
      · unfold Search.exhausted
        split <;> simp
  | some p =>
    rw [hp, Option.map_some] at hfind
    have hr := hfound p (List.mem_of_find?_eq_some hp)
    have hrun (fuel : Nat) (enough : ticks reg request ≤ fuel) :=
      run_of_accepted hnamed enough hr hfind
    refine ⟨(il.commit reg request.train p.2 p.1).1, .granted p.1.id, ?_, ?_, ?_, hrun⟩
    · rw [hrun _ (Nat.le_refl _)]
    · simp
    · exact answers_of_accepted hnamed hfound hroutes hp

/-- With the throat occupied, the request gets the route past it. -/
theorem junction_request_past_throat :
    let il : Interlocking :=
      { Interlocking.initial junction.topology with
        track := (Track.initial junction.topology).mark "c" true }
    ∃ il', il.requestRoute junctionRoutes .sectional ⟨"T1", "s", "t"⟩ =
        (il', .ok (.granted "bypass")) ∧
      il' = (il.grantRoute junctionRoutes .sectional "T1" "bypass").1 := by
  intro il
  obtain ⟨il', status, hanswer, -, hanswers, -⟩ :=
    requestRoute_answers junctionRoutes il .sectional ⟨"T1", "s", "t"⟩
      (by decide) rfl rfl
  have hgranted : status = .granted "bypass" :=
    (hanswers.granted_iff "bypass").mpr ⟨_, rfl, rfl⟩
  rw [hgranted] at hanswer
  exact ⟨il', hanswer, hanswers.granted_state "bypass" hgranted⟩

end Interlocking

end Signalbox
