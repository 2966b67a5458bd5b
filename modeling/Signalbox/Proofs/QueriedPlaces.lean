import Signalbox.Proofs.SectionalCheck

/-!
The places that a sectional check asks about. It goes from the end of the held path to its start
and asks about each place at most once. A check that passes has asked about each block of the path
up to the last segment of it that the requested path shares, and about nothing else.
-/
namespace Signalbox.Sectional

variable {path : List PathElement} {requested : Route} {i j k : Nat} {s : SegmentId} {q : SignalId}

/-! ### Blocks -/

def IsSegment (path : List PathElement) (i : Nat) : Prop :=
  ∃ s, path[i]? = some (.segment s)

/-- The place has a segment that the requested path holds as well. -/
def SharedAt (path : List PathElement) (requested : Route) (i : Nat) : Prop :=
  ∃ s, path[i]? = some (.segment s) ∧ .segment s ∈ requested.path

def SameBlock (path : List PathElement) (i j : Nat) : Prop :=
  ∀ k, i ≤ k ∧ k ≤ j ∨ j ≤ k ∧ k ≤ i → IsSegment path k

/-- No place of the block behind this one is shared. -/
structure LastShared (path : List PathElement) (requested : Route) (j : Nat) : Prop where
  shared : SharedAt path requested j
  last : ∀ k, SameBlock path j k → SharedAt path requested k → k ≤ j

/-- The place is the last shared one of its block, or before that. -/
def Guarded (path : List PathElement) (requested : Route) (i : Nat) : Prop :=
  ∃ j, i ≤ j ∧ SameBlock path i j ∧ LastShared path requested j

theorem isSegment_lt (h : IsSegment path i) : i < path.length := by
  obtain ⟨s, hs⟩ := h
  exact (List.getElem?_eq_some_iff.mp hs).1

theorem SharedAt.isSegment (h : SharedAt path requested i) : IsSegment path i := by
  obtain ⟨s, hs, -⟩ := h
  exact ⟨s, hs⟩

theorem SameBlock.trans (hij : SameBlock path i j) (hjk : SameBlock path j k) :
    SameBlock path i k := by
  intro m hm
  by_cases hbefore : i ≤ m ∧ m ≤ j ∨ j ≤ m ∧ m ≤ i
  · exact hij m hbefore
  · exact hjk m (by omega)

theorem guarded_iff :
    Guarded path requested i ↔ ∃ j, i ≤ j ∧ SameBlock path i j ∧ SharedAt path requested j := by
  constructor
  · rintro ⟨j, hij, hblock, hlast⟩
    exact ⟨j, hij, hblock, hlast.shared⟩
  · rintro ⟨j, hij, hblock, hshared⟩
    induction hn : path.length - j using Nat.strongRecOn generalizing j with
    | ind n ih =>
      by_cases hlast : ∀ k, SameBlock path j k → SharedAt path requested k → k ≤ j
      · exact ⟨j, hij, hblock, hshared, hlast⟩
      · simp only [not_forall, Nat.not_le] at hlast
        obtain ⟨k, hjk, hk, hlt⟩ := hlast
        have hend := isSegment_lt hk.isSegment
        exact ih (path.length - k) (by omega) k (by omega) (hblock.trans hjk) hk rfl

/-! ### The block at the end of a path -/

/-- The place is in the path, and only segments follow. -/
def InEndBlock (path : List PathElement) (i : Nat) : Prop :=
  i < path.length ∧ ∀ k, i ≤ k → k < path.length → IsSegment path k

theorem isSegment_append_segment :
    IsSegment (path ++ [.segment s]) i ↔ IsSegment path i ∨ i = path.length := by
  simp [IsSegment, getElem?_append_singleton, exists_or]

theorem isSegment_append_signal : IsSegment (path ++ [.signal q]) i ↔ IsSegment path i := by
  simp [IsSegment, getElem?_append_singleton]

theorem not_inEndBlock_append_signal : ¬ InEndBlock (path ++ [.signal q]) i := by
  rintro ⟨hlt, hblock⟩
  rw [List.length_append, List.length_singleton] at hlt hblock
  have hend := isSegment_append_signal.mp (hblock path.length (by omega) (by omega))
  exact absurd (isSegment_lt hend) (by omega)

theorem inEndBlock_append_segment :
    InEndBlock (path ++ [.segment s]) i ↔ InEndBlock path i ∨ i = path.length := by
  unfold InEndBlock
  simp only [List.length_append, List.length_singleton, isSegment_append_segment]
  constructor
  · rintro ⟨hlt, hblock⟩
    rcases Nat.lt_or_eq_of_le (Nat.lt_succ_iff.mp hlt) with hbefore | hend
    · refine .inl ⟨hbefore, fun k hik hk => ?_⟩
      rcases hblock k hik (by omega) with hsegment | hlast
      · exact hsegment
      · omega
    · exact .inr hend
  · rintro (⟨hlt, hblock⟩ | rfl)
    · refine ⟨by omega, fun k hik hk => ?_⟩
      rcases Nat.lt_or_eq_of_le (Nat.lt_succ_iff.mp hk) with hbefore | hend
      · exact .inl (hblock k hik hbefore)
      · exact .inr hend
    · exact ⟨by omega, fun k hik hk => .inr (by omega)⟩

theorem InEndBlock.lt (hi : InEndBlock path i) (hj : j < path.length) (h : ¬ InEndBlock path j) :
    j < i := by
  by_contra hle
  exact h ⟨hj, fun k hjk hk => hi.2 k (by omega) hk⟩

theorem sameBlock_append_of_lt {e : PathElement} (hi : i < path.length) (hj : j < path.length) :
    SameBlock (path ++ [e]) i j ↔ SameBlock path i j := by
  unfold SameBlock IsSegment
  refine forall_congr' fun k => forall_congr' fun hk => ?_
  rw [List.getElem?_append_left (by omega)]

theorem sameBlock_append_end {e : PathElement} (hi : i ≤ path.length) :
    SameBlock (path ++ [e]) i path.length ↔ InEndBlock (path ++ [e]) i := by
  unfold SameBlock InEndBlock
  rw [List.length_append, List.length_singleton]
  constructor
  · intro hblock
    exact ⟨by omega, fun k hik hk => hblock k (.inl (by omega))⟩
  · rintro ⟨-, hblock⟩ k hk
    exact hblock k (by omega) (by omega)

theorem sharedAt_append_singleton {e : PathElement} :
    SharedAt (path ++ [e]) requested i ↔ SharedAt path requested i ∨
      i = path.length ∧ ∃ s, e = .segment s ∧ .segment s ∈ requested.path := by
  simp [SharedAt, getElem?_append_singleton, or_and_right, exists_or, and_assoc]

theorem guarded_append_singleton {e : PathElement} :
    Guarded (path ++ [e]) requested i ↔ Guarded path requested i ∨
      InEndBlock (path ++ [e]) i ∧ ∃ s, e = .segment s ∧ .segment s ∈ requested.path := by
  simp only [guarded_iff, sharedAt_append_singleton]
  constructor
  · rintro ⟨j, hij, hblock, hshared | ⟨rfl, hshared⟩⟩
    · have hj := isSegment_lt hshared.isSegment
      exact .inl ⟨j, hij, (sameBlock_append_of_lt (by omega) hj).mp hblock, hshared⟩
    · exact .inr ⟨(sameBlock_append_end hij).mp hblock, hshared⟩
  · rintro (⟨j, hij, hblock, hshared⟩ | ⟨hend, hshared⟩)
    · have hj := isSegment_lt hshared.isSegment
      exact ⟨j, hij, (sameBlock_append_of_lt (by omega) hj).mpr hblock, .inl hshared⟩
    · have hi : i ≤ path.length := by
        have hlt := hend.1
        rw [List.length_append, List.length_singleton] at hlt
        omega
      exact ⟨path.length, hi, (sameBlock_append_end hi).mpr hend, .inr ⟨rfl, hshared⟩⟩

theorem Guarded.lt (h : Guarded path requested i) : i < path.length := by
  obtain ⟨j, hij, -, hlast⟩ := h
  have hj := isSegment_lt hlast.shared.isSegment
  omega

/-! ### One check after another -/

def Check.andThen (c d : Check) : Check :=
  if c.safe then ⟨d.safe, c.queried ++ d.queried⟩ else c

section AndThen

variable {c d d' : Check}

theorem Check.andThen_congr (h : c.safe = true → d' = d) : c.andThen d' = c.andThen d := by
  unfold andThen
  split
  · rename_i hsafe
    rw [h hsafe]
  · rfl

theorem Check.queried_subset_andThen : c.queried ⊆ (c.andThen d).queried := by
  unfold andThen
  split
  · exact List.subset_append_left _ _
  · exact List.Subset.refl _

theorem Check.next_queried_subset_andThen (h : c.safe = true) :
    d.queried ⊆ (c.andThen d).queried := by
  rw [andThen, if_pos h]
  exact List.subset_append_right _ _

end AndThen

section Steps

variable (topology : Topology) (track : Track) (s : SegmentId) (i : Nat)
  (rest : List (PathElement × Nat))

theorem vacatedToSignal_segment :
    vacatedToSignal track ((.segment s, i) :: rest) =
      Check.andThen ⟨!track.isOccupied s, [i]⟩ (vacatedToSignal track rest) := by
  rw [vacatedToSignal]
  cases track.isOccupied s <;> rfl

variable {s}

theorem walk_of_unshared {armed : Bool} (h : .segment s ∉ requested.path) :
    walk topology track requested armed ((.segment s, i) :: rest) =
      walk topology track requested armed rest := by
  rw [walk, if_pos (by simpa [Route.containsSegment] using h)]

theorem walk_of_permitted {armed : Bool} (h : .segment s ∈ requested.path)
    (permitted : entryPermitted topology track s = true) :
    walk topology track requested armed ((.segment s, i) :: rest) = .refused := by
  rw [walk, if_neg (by simpa [Route.containsSegment] using h), if_pos permitted]

theorem walk_of_closed {armed : Bool} (h : .segment s ∈ requested.path)
    (closed : entryPermitted topology track s = false) :
    walk topology track requested armed ((.segment s, i) :: rest) =
      if armed then (vacatedToSignal track ((.segment s, i) :: rest)).andThen
        (walk topology track requested false rest)
      else walk topology track requested false rest := by
  rw [walk, if_neg (by simpa [Route.containsSegment] using h), closed]
  rfl

end Steps

/-! ### Queries -/

/-- The check asks about due places only, from the last one down. If it passes it has asked about
all of them. -/
structure Asks (c : Check) (due : Nat → Prop) : Prop where
  descends : c.queried.Pairwise (· > ·)
  within : ∀ i ∈ c.queried, due i
  all : c.safe = true → ∀ i, due i → i ∈ c.queried

namespace Asks

variable {c d : Check} {due due' : Nat → Prop}

theorem none {safe : Bool} (h : safe = true → ∀ i, ¬ due i) : Asks ⟨safe, []⟩ due :=
  ⟨.nil, List.forall_mem_nil _, fun hsafe i hi => absurd hi (h hsafe i)⟩

theorem one (safe : Bool) (i : Nat) : Asks ⟨safe, [i]⟩ (· = i) :=
  ⟨List.pairwise_singleton _ _, by simp, by simp⟩

theorem congr (h : Asks c due) (heq : ∀ i, due' i ↔ due i) : Asks c due' :=
  ⟨h.descends, fun i hi => (heq i).mpr (h.within i hi), fun hsafe i hi =>
    h.all hsafe i ((heq i).mp hi)⟩

theorem andThen (hc : Asks c due) (hd : Asks d due') (hbefore : ∀ i j, due i → due' j → j < i) :
    Asks (c.andThen d) fun i => due i ∨ due' i := by
  unfold Check.andThen
  split
  · rename_i hsafe
    refine ⟨List.pairwise_append.mpr ⟨hc.descends, hd.descends, fun i hi j hj => ?_⟩, ?_, ?_⟩
    · exact hbefore i j (hc.within i hi) (hd.within j hj)
    · exact List.forall_mem_append.mpr
        ⟨fun i hi => .inl (hc.within i hi), fun i hi => .inr (hd.within i hi)⟩
    · intro hpassed i hi
      exact List.mem_append.mpr (hi.imp (hc.all hsafe i) (hd.all hpassed i))
  · rename_i hunsafe
    exact ⟨hc.descends, fun i hi => .inl (hc.within i hi), fun hsafe => absurd hsafe hunsafe⟩

end Asks

section Walk

variable (topology : Topology) (track : Track)

theorem asks_vacatedToSignal (path : List PathElement) :
    Asks (vacatedToSignal track (fromEnd path)) (InEndBlock path) := by
  induction path using List.reverseRecOn with
  | nil => exact .none fun _ i hi => Nat.not_lt_zero i hi.1
  | append_singleton path e ih =>
    rw [fromEnd_append_singleton]
    cases e with
    | signal q => exact .none fun _ i => not_inEndBlock_append_signal
    | segment s =>
      rw [vacatedToSignal_segment]
      refine ((Asks.one _ path.length).andThen ih fun i j hi hj => hi ▸ hj.1).congr fun i => ?_
      exact inEndBlock_append_segment.trans or_comm

/-- The guarded places that a walk has still to ask about. Once it is disarmed, those of the block
that it stands in have been asked about. -/
def Due (armed : Bool) (path : List PathElement) (requested : Route) (i : Nat) : Prop :=
  Guarded path requested i ∧ (armed = true ∨ ¬ InEndBlock path i)

variable {armed : Bool}

theorem due_append_signal :
    Due armed (path ++ [.signal q]) requested i ↔ Due true path requested i := by
  simp [Due, guarded_append_singleton, not_inEndBlock_append_signal]

theorem inEndBlock_append_of_guarded (h : Guarded path requested i) :
    InEndBlock (path ++ [.segment s]) i ↔ InEndBlock path i := by
  rw [inEndBlock_append_segment]
  exact or_iff_left (Nat.ne_of_lt h.lt)

theorem due_append_unshared (h : .segment s ∉ requested.path) :
    Due armed (path ++ [.segment s]) requested i ↔ Due armed path requested i := by
  unfold Due
  rw [guarded_append_singleton]
  simp only [PathElement.segment.injEq, exists_eq_left', h, and_false, or_false]
  exact and_congr_right fun hguarded => by rw [inEndBlock_append_of_guarded hguarded]

theorem due_append_shared (h : .segment s ∈ requested.path) :
    Due armed (path ++ [.segment s]) requested i ↔
      armed = true ∧ InEndBlock (path ++ [.segment s]) i ∨ Due false path requested i := by
  unfold Due
  rw [guarded_append_singleton]
  simp only [PathElement.segment.injEq, exists_eq_left', h, and_true, Bool.false_eq_true,
    false_or]
  by_cases hguarded : Guarded path requested i
  · rw [inEndBlock_append_of_guarded hguarded]
    by_cases hend : InEndBlock path i <;> simp [hguarded, hend]
  · by_cases hend : InEndBlock (path ++ [.segment s]) i <;> simp [hguarded, hend]

theorem asks_walk (path : List PathElement) (armed : Bool) :
    Asks (walk topology track requested armed (fromEnd path)) (Due armed path requested) := by
  induction path using List.reverseRecOn generalizing armed with
  | nil => exact .none fun _ i hi => Nat.not_lt_zero i hi.1.lt
  | append_singleton path e ih =>
    rw [fromEnd_append_singleton]
    cases e with
    | signal q => exact (ih true).congr fun i => due_append_signal
    | segment s =>
      by_cases hshared : .segment s ∈ requested.path
      · have hdue (i : Nat) : Due armed (path ++ [.segment s]) requested i ↔
            armed = true ∧ InEndBlock (path ++ [.segment s]) i ∨ Due false path requested i :=
          due_append_shared hshared
        cases hentry : entryPermitted topology track s with
        | true =>
          rw [walk_of_permitted topology track _ _ hshared hentry]
          exact .none fun hsafe => by cases hsafe
        | false =>
          rw [walk_of_closed topology track _ _ hshared hentry]
          cases armed with
          | false => exact (ih false).congr fun i => by simp [hdue]
          | true =>
            have hhere := asks_vacatedToSignal track (path ++ [.segment s])
            rw [fromEnd_append_singleton] at hhere
            simp only [true_and] at hdue
            -- what the disarmed walk still asks about lies before this block
            refine (hhere.andThen (ih false) fun i j hi hj => ?_).congr hdue
            have hj' : ¬ InEndBlock (path ++ [.segment s]) j := by
              rw [inEndBlock_append_of_guarded hj.1]
              exact hj.2.resolve_left (by decide)
            refine hi.lt ?_ hj'
            have hlt := hj.1.lt
            rw [List.length_append]
            omega
      · rw [walk_of_unshared topology track _ _ hshared]
        exact (ih armed).congr fun i => due_append_unshared hshared

end Walk

/-! ### Tracks that agree where a check asks -/

theorem mem_fromEnd_iff {e : PathElement} : (e, i) ∈ fromEnd path ↔ path[i]? = some e := by
  rw [fromEnd, List.mem_reverse, List.mem_zipIdx_iff_getElem?]

section Agreement

variable {track other : Track} {steps : List (PathElement × Nat)}

/-- At the places of the path that are in the list, both tracks have the same occupancy. -/
def AgreeAt (track other : Track) (steps : List (PathElement × Nat)) (places : List Nat) : Prop :=
  ∀ s i, (.segment s, i) ∈ steps → i ∈ places → other.isOccupied s = track.isOccupied s

theorem AgreeAt.mono {steps' : List (PathElement × Nat)} {places places' : List Nat}
    (h : AgreeAt track other steps places) (hsteps : steps' ⊆ steps) (hplaces : places' ⊆ places) :
    AgreeAt track other steps' places' :=
  fun s i hmem hi => h s i (hsteps hmem) (hplaces hi)

theorem vacatedToSignal_congr
    (h : AgreeAt track other steps (vacatedToSignal track steps).queried) :
    vacatedToSignal other steps = vacatedToSignal track steps := by
  induction steps with
  | nil => rfl
  | cons step rest ih =>
    obtain ⟨e, i⟩ := step
    cases e with
    | signal q => rfl
    | segment s =>
      rw [vacatedToSignal_segment] at h ⊢
      have hhere : other.isOccupied s = track.isOccupied s :=
        h s i List.mem_cons_self (Check.queried_subset_andThen List.mem_cons_self)
      rw [vacatedToSignal_segment, hhere]
      refine Check.andThen_congr fun hsafe => ih (h.mono (List.subset_cons_self _ _) ?_)
      exact Check.next_queried_subset_andThen hsafe

/-- Besides the aspects of the signals, nothing counts but the occupancy that is asked for. -/
theorem walk_congr (topology : Topology) {armed : Bool} (haspect : other.aspect = track.aspect)
    (h : AgreeAt track other steps (walk topology track requested armed steps).queried) :
    walk topology other requested armed steps = walk topology track requested armed steps := by
  have hentry (s : SegmentId) :
      entryPermitted topology other s = entryPermitted topology track s := by
    rw [entryPermitted, haspect, entryPermitted]
  induction steps generalizing armed with
  | nil => rfl
  | cons step rest ih =>
    obtain ⟨e, i⟩ := step
    have hrest {places : List Nat} (hagree : AgreeAt track other ((e, i) :: rest) places) :
        AgreeAt track other rest places :=
      hagree.mono (List.subset_cons_self _ _) (List.Subset.refl _)
    cases e with
    | signal q => exact ih (hrest h)
    | segment s =>
      by_cases hshared : .segment s ∈ requested.path
      · cases hpermitted : entryPermitted topology track s with
        | true =>
          rw [walk_of_permitted topology track _ _ hshared hpermitted]
          exact walk_of_permitted topology other _ _ hshared ((hentry s).trans hpermitted)
        | false =>
          rw [walk_of_closed topology track _ _ hshared hpermitted] at h ⊢
          rw [walk_of_closed topology other _ _ hshared ((hentry s).trans hpermitted)]
          cases armed with
          | false => exact ih (hrest h)
          | true =>
            rw [if_pos rfl] at h ⊢
            have hhere := vacatedToSignal_congr
              (h.mono (List.Subset.refl _) Check.queried_subset_andThen)
            rw [if_pos rfl, hhere]
            refine Check.andThen_congr fun hsafe => ih (hrest (h.mono (List.Subset.refl _) ?_))
            exact Check.next_queried_subset_andThen hsafe
      · rw [walk_of_unshared topology track _ _ hshared] at h ⊢
        rw [walk_of_unshared topology other _ _ hshared]
        exact ih (hrest h)

end Agreement

theorem check_congr {reg : Registry} {track other : Track} {held requested : RouteIndex}
    {h r : Route} (hheld : reg.route? held = some h) (hrequested : reg.route? requested = some r)
    (long : 2 ≤ h.path.length) (full : r.path ≠ []) (haspect : other.aspect = track.aspect)
    (hoccupied : ∀ i ∈ (check reg track held requested).queried, ∀ s,
      h.path[i]? = some (.segment s) → other.isOccupied s = track.isOccupied s) :
    check reg other held requested = check reg track held requested := by
  rw [check_eq_walk hheld hrequested long full] at hoccupied ⊢
  rw [check_eq_walk hheld hrequested long full]
  exact walk_congr _ haspect fun s i hmem hi => hoccupied i hi s (mem_fromEnd_iff.mp hmem)

/-- No place is asked about twice, and none that is not guarded. A check that passes has asked about
every guarded place. The answer depends on the occupancy of these places alone. -/
theorem guarded_places_queried (reg : Registry) (track : Track) {held requested : RouteIndex}
    {h r : Route} (hheld : reg.route? held = some h) (hrequested : reg.route? requested = some r)
    (long : 2 ≤ h.path.length) (full : r.path ≠ []) :
    let c := check reg track held requested
    c.queried.Nodup ∧ (∀ i ∈ c.queried, Guarded h.path r i) ∧
      (c.safe = true → ∀ i, i ∈ c.queried ↔ Guarded h.path r i) ∧
      ∀ other : Track, other.aspect = track.aspect →
        (∀ i ∈ c.queried, ∀ s, h.path[i]? = some (.segment s) →
          other.isOccupied s = track.isOccupied s) →
        check reg other held requested = c := by
  have hasks : Asks (check reg track held requested) (Guarded h.path r) := by
    rw [check_eq_walk hheld hrequested long full]
    exact (asks_walk reg.topology track h.path true).congr fun i => by simp [Due]
  refine ⟨hasks.descends.imp Nat.ne_of_gt, hasks.within, fun hsafe i => ?_, ?_⟩
  · exact ⟨hasks.within i, hasks.all hsafe i⟩
  · intro other haspect hsame
    exact check_congr hheld hrequested long full haspect hsame

def blockRoutes : Registry where
  topology := {
    segments := ["a", "b", "c", "d"]
    signals := [("m", .main), ("n", .main), ("x", .main), ("y", .main), ("z", .main)]
    points := []
    sections := [⟨"first", ["a"], ["m"]⟩, ⟨"middle", ["b"], ["x"]⟩, ⟨"last", ["c", "d"], ["y"]⟩] }
  routes := [
    { id := "through", source := "m", destination := "n", orientation := .clockwise
      length := .zero, sections := [], points := [], signals := ["m", "x", "y", "n"]
      conflicts := ["back"]
      path := [.segment "a", .signal "x", .segment "b", .signal "y", .segment "c", .segment "d"] },
    { id := "back", source := "z", destination := "m", orientation := .anticlockwise
      length := .zero, sections := [], points := [], signals := ["z", "m"]
      conflicts := ["through"]
      path := [.segment "d", .segment "c", .segment "a"] }]
  distinct := by decide
  fit := by decide

/-- The middle block is passed over, and the last one asked about as a whole. -/
theorem blocks_queried :
    ∃ h r, blockRoutes.route? 0 = some h ∧ blockRoutes.route? 1 = some r ∧
      (check blockRoutes (.initial blockRoutes.topology) 0 1).safe = true ∧
      ∀ i, i ∈ [5, 4, 0] ↔ Guarded h.path r i := by
  have hheld : blockRoutes.route? 0 = some _ := rfl
  have hrequested : blockRoutes.route? 1 = some _ := rfl
  obtain ⟨-, -, hall, -⟩ := guarded_places_queried blockRoutes (.initial blockRoutes.topology)
    hheld hrequested (by decide) (by decide)
  exact ⟨_, _, hheld, hrequested, rfl, hall rfl⟩

end Signalbox.Sectional
