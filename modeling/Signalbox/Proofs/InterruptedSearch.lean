import Signalbox.Proofs.RouteRequest

/-!
A search among other operations. Between two ticks anything may be done to the route set:
the search keeps only its request, the candidates still to be examined and whether one was
blocked, and reads everything else afresh at each tick.
-/
namespace Signalbox.Search

def examined? : Search → Option RouteIndex
  | .examine _ (i :: _) _ => some i
  | _ => none

/-- A tick of the search, or whatever else is done to the route set: grants, releases, marks,
placements, aspects, jams, lost signals. -/
inductive Happening where
  | tick
  | other (change : Interlocking → Interlocking)

/-- A tick as it was made: the search and the route set before it, the route set after it and
the answer. -/
structure Tick where
  search : Search
  before : Interlocking
  after : Interlocking
  status : RequestStatus

/-- The ticks of a search among whatever else happens. -/
def ticksAmong (reg : Registry) (policy : ConflictPolicy) :
    List Happening → Search → Interlocking → List Tick
  | [], _, _ => []
  | .other change :: rest, s, il => ticksAmong reg policy rest s (change il)
  | .tick :: rest, s, il =>
    let (s', il', status) := s.tick reg policy il
    ⟨s, il, il', status⟩ :: ticksAmong reg policy rest s' il'

/-- The tick gives the route that it examines to the train. At this very tick the route is
free, every held conflict is admissible, and its signals and its path are clear. -/
structure Tick.Gives (t : Tick) (reg : Registry) (policy : ConflictPolicy) (train : TrainId)
    (i : RouteIndex) (r : Route) : Prop where
  examined : t.search.examined? = some i
  route : reg.route? i = some r
  free : t.before.isHeld i = false
  grantable : t.before.isGrantable reg policy i = true
  clear : t.before.isClear reg i = true
  after : t.after = (t.before.commit reg train i r).1
  status : t.status = .granted r.id

/-- A tick that says again what has been answered. -/
structure Tick.Repeats (t : Tick) (status : RequestStatus) : Prop where
  examined : t.search.examined? = none
  unchanged : t.after = t.before
  status : t.status = status

variable {reg : Registry} {policy : ConflictPolicy} {il : Interlocking} {request : RouteRequest}

theorem ticksAmong_tick {s s' : Search} {il' : Interlocking} {status : RequestStatus}
    (h : s.tick reg policy il = (s', il', status)) (rest : List Happening) :
    ticksAmong reg policy (.tick :: rest) s il =
      ⟨s, il, il', status⟩ :: ticksAmong reg policy rest s' il' := by
  rw [ticksAmong, h]

theorem tick_nameless (nameless : request.train.isEmpty = true) {i : RouteIndex}
    (rest : List RouteIndex) (unclear : Bool) (h : accepts reg policy il i = true) :
    tick reg policy il (.examine request (i :: rest) unclear) =
      (.examine request rest unclear, il, .pending) := by
  obtain ⟨hgrantable, hclear⟩ := Bool.and_eq_true_iff.mp h
  obtain ⟨r, hr⟩ := Interlocking.exists_route_of_isClear hclear
  unfold tick
  simp [hgrantable, hclear, Interlocking.grant, hr, nameless]

theorem gives_of_accepts {i : RouteIndex} {r : Route} (hr : reg.route? i = some r)
    (rest : List RouteIndex) (unclear : Bool) (h : accepts reg policy il i = true) :
    Tick.Gives ⟨.examine request (i :: rest) unclear, il,
      (il.commit reg request.train i r).1, .granted r.id⟩ reg policy request.train i r := by
  obtain ⟨hgrantable, hclear⟩ := Bool.and_eq_true_iff.mp h
  exact ⟨rfl, hr, Interlocking.isHeld_of_isGrantable hgrantable, hgrantable, hclear, rfl, rfl⟩

theorem repeats_of_finished (happenings : List Happening) (status : RequestStatus)
    (il : Interlocking) :
    ∀ t ∈ ticksAmong reg policy happenings (.finished status) il, t.Repeats status := by
  induction happenings generalizing il with
  | nil => simp [ticksAmong]
  | cons happening rest ih =>
    cases happening with
    | other change => exact ih (change il)
    | tick =>
      rw [ticksAmong_tick rfl, List.forall_mem_cons]
      exact ⟨⟨rfl, rfl, rfl⟩, ih il⟩

/-- The ticks that are made with these candidates left, the search ending within so many of
them: some that change nothing and answer nothing, then the one that ends the search, then
those that repeat its answer. -/
inductive Course (reg : Registry) (policy : ConflictPolicy) (train : TrainId) :
    List RouteIndex → Nat → List Tick → Prop
  | cut {left : List RouteIndex} {bound : Nat} : Course reg policy train left (bound + 1) []
  | waits {t : Tick} {left left' : List RouteIndex} {bound : Nat} {later : List Tick}
      (unchanged : t.after = t.before) (pending : t.status = .pending)
      (left_eq : left = t.search.examined?.toList ++ left')
      (goesOn : Course reg policy train left' bound later) :
      Course reg policy train left (bound + 1) (t :: later)
  | gives {t : Tick} {i : RouteIndex} {r : Route} {left : List RouteIndex} {bound : Nat}
      {later : List Tick} (gives : t.Gives reg policy train i r)
      (repeats : ∀ u ∈ later, u.Repeats (.granted r.id)) :
      Course reg policy train (i :: left) (bound + 1) (t :: later)
  | ends {t : Tick} {left : List RouteIndex} {bound : Nat} {later : List Tick}
      (final : t.Repeats t.status) (answered : t.status ≠ .pending)
      (refused : ∀ id, t.status ≠ .granted id) (repeats : ∀ u ∈ later, u.Repeats t.status) :
      Course reg policy train left (bound + 1) (t :: later)

theorem course_examine (happenings : List Happening) (candidates : List RouteIndex)
    (unclear : Bool) (il : Interlocking) :
    Course reg policy request.train candidates (candidates.length + 1)
      (ticksAmong reg policy happenings (.examine request candidates unclear) il) := by
  induction happenings generalizing candidates unclear il with
  | nil => exact .cut
  | cons happening rest ih =>
    cases happening with
    | other change => exact ih candidates unclear (change il)
    | tick =>
      cases candidates with
      | nil =>
        rw [ticksAmong_tick rfl]
        refine .ends ⟨rfl, rfl, rfl⟩ ?_ ?_ (repeats_of_finished rest _ il)
        · cases unclear <;> simp [exhausted]
        · cases unclear <;> simp [exhausted]
      | cons i left =>
        cases haccepts : accepts reg policy il i with
        | false =>
          rw [ticksAmong_tick (tick_passed_over request left unclear haccepts)]
          exact .waits rfl rfl rfl (ih left _ il)
        | true =>
          cases named : request.train.isEmpty with
          | true =>
            rw [ticksAmong_tick (tick_nameless named left unclear haccepts)]
            exact .waits rfl rfl rfl (ih left unclear il)
          | false =>
            obtain ⟨r, hr⟩ := Interlocking.exists_route_of_isClear
              (admits_of_accepts named haccepts).clear
            rw [ticksAmong_tick (tick_accepted named hr left unclear haccepts)]
            exact .gives (gives_of_accepts hr left unclear haccepts)
              (repeats_of_finished rest _ _)

theorem course_lookup (happenings : List Happening) (il : Interlocking) :
    Course reg policy request.train (reg.between request.source request.destination)
      ((reg.between request.source request.destination).length + 2)
      (ticksAmong reg policy happenings (.lookup request) il) := by
  induction happenings generalizing il with
  | nil => exact .cut
  | cons happening rest ih =>
    cases happening with
    | other change => exact ih (change il)
    | tick =>
      cases hfound : reg.between request.source request.destination with
      | nil =>
        rw [ticksAmong_tick (show tick reg policy il (.lookup request) =
          (.finished .noRoutes, il, .noRoutes) by simp [tick, hfound])]
        exact .ends ⟨rfl, rfl, rfl⟩ (by simp) (by simp) (repeats_of_finished rest _ il)
      | cons i left =>
        rw [ticksAmong_tick (show tick reg policy il (.lookup request) =
          (.examine request (i :: left) false, il, .pending) by simp [tick, hfound])]
        exact .waits rfl rfl rfl (course_examine rest (i :: left) false il)

namespace Course

variable {train : TrainId} {left : List RouteIndex} {bound : Nat} {made : List Tick}

theorem examined_of_repeats {status : RequestStatus} (h : ∀ t ∈ made, t.Repeats status) :
    made.filterMap (·.search.examined?) = [] :=
  List.filterMap_eq_nil_iff.mpr fun t ht => (h t ht).examined

/-- The candidates are examined in their order, each by one tick at most. -/
theorem examined_prefix (h : Course reg policy train left bound made) :
    made.filterMap (·.search.examined?) <+: left := by
  induction h with
  | cut => exact List.nil_prefix
  | @waits t _ _ _ _ _ _ left_eq _ ih =>
    subst left_eq
    cases hexamined : t.search.examined? with
    | none => simpa [hexamined] using ih
    | some i => simpa [hexamined] using ih
  | gives gives repeats =>
    rw [List.filterMap_cons, gives.examined, examined_of_repeats repeats]
    exact ⟨_, rfl⟩
  | ends final _ _ repeats =>
    rw [List.filterMap_cons, final.examined, examined_of_repeats repeats]
    exact List.nil_prefix

theorem unchanged_or_gives (h : Course reg policy train left bound made) :
    ∀ t ∈ made, t.after = t.before ∨ ∃ i r, t.Gives reg policy train i r := by
  induction h with
  | cut => simp
  | waits unchanged _ _ _ ih => exact List.forall_mem_cons.mpr ⟨.inl unchanged, ih⟩
  | gives gives repeats =>
    exact List.forall_mem_cons.mpr
      ⟨.inr ⟨_, _, gives⟩, fun u hu => .inl (repeats u hu).unchanged⟩
  | ends final _ _ repeats =>
    exact List.forall_mem_cons.mpr
      ⟨.inl final.unchanged, fun u hu => .inl (repeats u hu).unchanged⟩

theorem settled (h : Course reg policy train left bound made) :
    made.Pairwise fun t u => t.status ≠ .pending → u.status = t.status ∧ u.after = u.before := by
  have settled_of_repeats {later : List Tick} {status : RequestStatus}
      (repeats : ∀ u ∈ later, u.Repeats status) :
      later.Pairwise fun t u =>
        t.status ≠ .pending → u.status = t.status ∧ u.after = u.before := by
    rw [List.pairwise_iff_forall_sublist]
    intro t u hsub _
    have ht := repeats t (hsub.subset (by simp))
    have hu := repeats u (hsub.subset (by simp))
    exact ⟨hu.status.trans ht.status.symm, hu.unchanged⟩
  induction h with
  | cut => exact .nil
  | waits _ pending _ _ ih => exact .cons (fun u _ answered => absurd pending answered) ih
  | gives gives repeats =>
    refine .cons (fun u hu _ => ?_) (settled_of_repeats repeats)
    exact ⟨(repeats u hu).status.trans gives.status.symm, (repeats u hu).unchanged⟩
  | ends _ _ _ repeats =>
    refine .cons (fun u hu _ => ?_) (settled_of_repeats repeats)
    exact ⟨(repeats u hu).status, (repeats u hu).unchanged⟩

theorem once (h : Course reg policy train left bound made) :
    made.Pairwise fun t u => t.after ≠ t.before → u.after = u.before := by
  refine h.settled.imp_of_mem fun {t u} ht _ hsettled changed => ?_
  rcases h.unchanged_or_gives t ht with unchanged | ⟨i, r, gives⟩
  · exact absurd unchanged changed
  · exact (hsettled (by simp [gives.status])).2

theorem gives_of_granted (h : Course reg policy train left bound made) {t : Tick} (ht : t ∈ made)
    {id : RouteId} (granted : t.status = .granted id) :
    ∃ u ∈ made, ∃ i r, u.Gives reg policy train i r ∧ r.id = id := by
  induction h with
  | cut => cases ht
  | waits _ pending _ _ ih =>
    rcases List.mem_cons.mp ht with rfl | hlater
    · simp [pending] at granted
    · obtain ⟨u, hu, hgives⟩ := ih hlater
      exact ⟨u, List.mem_cons_of_mem _ hu, hgives⟩
  | @gives first i r _ _ _ gives repeats =>
    have hstatus : t.status = .granted r.id := by
      rcases List.mem_cons.mp ht with rfl | hlater
      · exact gives.status
      · exact (repeats t hlater).status
    rw [hstatus, RequestStatus.granted.injEq] at granted
    exact ⟨first, List.mem_cons_self, i, r, gives, granted⟩
  | @ends last _ _ _ _ _ refused repeats =>
    have hstatus : t.status = last.status := by
      rcases List.mem_cons.mp ht with rfl | hlater
      · rfl
      · exact (repeats t hlater).status
    exact absurd (hstatus.symm.trans granted) (refused id)

theorem answered (h : Course reg policy train left bound made) (enough : bound ≤ made.length) :
    ∃ t ∈ made.take bound, t.status ≠ .pending := by
  induction h with
  | cut => simp at enough
  | @waits t _ _ _ _ _ _ _ _ ih =>
    obtain ⟨u, hu, answered⟩ := ih (by simpa using enough)
    exact ⟨u, List.mem_cons_of_mem t hu, answered⟩
  | @gives t i r _ _ _ gives _ => exact ⟨t, by simp, by simp [gives.status]⟩
  | @ends t _ _ _ _ answered _ _ => exact ⟨t, by simp, answered⟩

end Course

/-- A search for a request among whatever else happens. The candidates are the places of the
routes between the two signals, and the ticks examine them in table order, each once at most.
At most one tick changes anything, and it gives the route that it examines to the train, that
route being free, grantable and clear at this very tick. With `k` candidates the tick `k + 2`
answers at the latest, and once there is an answer it stays and nothing is changed any more. -/
theorem interrupted_search (reg : Registry) (policy : ConflictPolicy) (request : RouteRequest)
    (happenings : List Happening) (il : Interlocking) :
    let candidates := reg.between request.source request.destination
    let made := ticksAmong reg policy happenings (reset (some request)) il
    (candidates.Pairwise (· < ·) ∧ ∀ i, i ∈ candidates ↔
      ∃ r, reg.route? i = some r ∧ r.source = request.source ∧
        r.destination = request.destination) ∧
    made.filterMap (·.search.examined?) <+: candidates ∧
    (∀ t ∈ made, t.after = t.before ∨ ∃ i r, t.Gives reg policy request.train i r) ∧
    (made.Pairwise fun t u => t.after ≠ t.before → u.after = u.before) ∧
    (∀ t ∈ made, ∀ id, t.status = .granted id →
      ∃ u ∈ made, ∃ i r, u.Gives reg policy request.train i r ∧ r.id = id) ∧
    (candidates.length + 2 ≤ made.length →
      ∃ t ∈ made.take (candidates.length + 2), t.status ≠ .pending) ∧
    (made.Pairwise fun t u =>
      t.status ≠ .pending → u.status = t.status ∧ u.after = u.before) := by
  intro candidates made
  have h : Course reg policy request.train candidates (candidates.length + 2) made :=
    course_lookup happenings il
  exact ⟨⟨reg.pairwise_between _ _, fun _ => Registry.mem_between_iff⟩, h.examined_prefix,
    h.unchanged_or_gives, h.once, fun t ht id granted => h.gives_of_granted ht granted,
    h.answered, h.settled⟩

/-- The throat becomes occupied after the look-up, and free again when the answer is there. -/
example :
    (ticksAmong junctionRoutes .sectional
      [.tick, .other fun il => { il with track := il.track.mark "c" true }, .tick, .tick,
        .other fun il => { il with track := il.track.mark "c" false }, .tick]
      (reset (some ⟨"T1", "s", "t"⟩)) (.initial junction.topology)).map (·.status) =
      [.pending, .pending, .granted "bypass", .granted "bypass"] := by
  decide

end Signalbox.Search
