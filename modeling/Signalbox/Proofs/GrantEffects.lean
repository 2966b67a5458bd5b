import Signalbox.Proofs.RefusedCommands

/-!
Grants and releases as orders to the track. Of a series of commands only the last one to each
signal and point counts, and a signal or point follows unless it is jammed or unknown. So the
track after a grant is the one before it with some entries overwritten, and which these are does
not depend on the track.
-/
namespace Signalbox

/-- What a series of commands asks for: of the signals and points that it names, the last aspect
and the last position. -/
structure Orders where
  aspect : SignalId → Option Aspect
  point : PointId → Option PointPosition

namespace Orders

def idle : Orders := ⟨fun _ => none, fun _ => none⟩

def toSignal (s : SignalId) (a : Aspect) : Orders :=
  ⟨fun q => if q = s then some a else none, fun _ => none⟩

def toPoint (p : PointId) (position : PointPosition) : Orders :=
  ⟨fun _ => none, fun q => if q = p then some position else none⟩

/-- Later orders overrule earlier ones. -/
def andThen (o o' : Orders) : Orders where
  aspect q := (o'.aspect q).or (o.aspect q)
  point p := (o'.point p).or (o.point p)

structure Disjoint (o o' : Orders) : Prop where
  aspect : ∀ q, o.aspect q = none ∨ o'.aspect q = none
  point : ∀ p, o.point p = none ∨ o'.point p = none

theorem Disjoint.andThen_comm {o o' : Orders} (h : o.Disjoint o') :
    o.andThen o' = o'.andThen o := by
  have or_comm {α : Type} {x y : Option α} (hnone : x = none ∨ y = none) : y.or x = x.or y := by
    rcases hnone with rfl | rfl <;> simp
  unfold andThen
  congr 1
  · exact funext fun q => or_comm (h.aspect q)
  · exact funext fun p => or_comm (h.point p)

end Orders

/-- What a signal or point reports after an order to it, if there is one. -/
def obeyed {α : Type} (jammed : Bool) (report order : Option α) : Option α :=
  if jammed then report else report.map fun a => order.getD a

section Obeyed

variable {α : Type} (jammed : Bool) (report : Option α)

@[simp] theorem obeyed_none : obeyed jammed report none = report := by
  simp [obeyed]

@[simp] theorem isSome_obeyed (order : Option α) :
    (obeyed jammed report order).isSome = report.isSome := by
  unfold obeyed
  split <;> simp

theorem obeyed_obeyed (order order' : Option α) :
    obeyed jammed (obeyed jammed report order) order' = obeyed jammed report (order'.or order) := by
  cases jammed <;> cases report <;> cases order' <;> rfl

end Obeyed

theorem obeyed_if_eq {α : Type} (jammed : String → Bool) (report : String → Option α)
    (id q : String) (a : α) :
    obeyed (jammed q) (report q) (if q = id then some a else none) =
      if q = id ∧ jammed id = false ∧ (report id).isSome = true then some a else report q := by
  by_cases hq : q = id
  · subst hq
    cases hjammed : jammed q <;> cases hreport : report q <;> simp [obeyed]
  · simp [hq]

namespace Track

variable {t : Track} {o o' : Orders}

/-- The track after the orders. What is jammed or unknown does not follow them. -/
def follow (t : Track) (o : Orders) : Track :=
  { t with
    aspect := fun q => obeyed (t.jammed q) (t.aspect q) (o.aspect q)
    point := fun p => obeyed (t.jammed p) (t.point p) (o.point p) }

@[simp] theorem follow_idle (t : Track) : t.follow .idle = t := by
  simp [follow, Orders.idle]

theorem isOccupied_follow (t : Track) (o : Orders) : (t.follow o).isOccupied = t.isOccupied := rfl

theorem aspect_follow_of_none {q : SignalId} (h : o.aspect q = none) :
    (t.follow o).aspect q = t.aspect q := by
  simp [follow, h]

theorem follow_follow (t : Track) (o o' : Orders) :
    (t.follow o).follow o' = t.follow (o.andThen o') := by
  simp only [follow, Orders.andThen, obeyed_obeyed]

theorem follow_comm (t : Track) (h : o.Disjoint o') :
    (t.follow o).follow o' = (t.follow o').follow o := by
  rw [follow_follow, follow_follow, h.andThen_comm]

theorem follow_toSignal (t : Track) (s : SignalId) (a : Aspect) :
    t.follow (.toSignal s a) =
      { t with
        aspect := fun q =>
          if q = s ∧ t.jammed s = false ∧ (t.aspect s).isSome = true then some a
          else t.aspect q } := by
  simp only [follow, Orders.toSignal, obeyed_none, obeyed_if_eq]

theorem follow_toPoint (t : Track) (p : PointId) (position : PointPosition) :
    t.follow (.toPoint p position) =
      { t with
        point := fun q =>
          if q = p ∧ t.jammed p = false ∧ (t.point p).isSome = true then some position
          else t.point q } := by
  simp only [follow, Orders.toPoint, obeyed_none, obeyed_if_eq]

end Track

namespace Route

/-- The position that the route requires of a point. The last mention of the point counts. -/
def lastPosition? (r : Route) (p : PointId) : Option PointPosition := r.points.reverse.lookup p

def grantOrders (topology : Topology) (r : Route) : Orders where
  aspect q := if q ∈ r.passedSignals then some (Interlocking.proceedAspect topology q) else none
  point := r.lastPosition?

def releaseOrders (r : Route) : Orders where
  aspect q := if q ∈ r.signals then some .stop else none
  point _ := none

def attemptOrders (topology : Topology) (r : Route) (answer : Except InterlockingError Grant) :
    Orders :=
  if answer.isOk then r.grantOrders topology else .idle

section NotListed

variable (topology : Topology) {r : Route} (answer : Except InterlockingError Grant)

theorem aspect_attemptOrders_of_not_mem {q : SignalId} (h : q ∉ r.signals) :
    (r.attemptOrders topology answer).aspect q = none := by
  unfold attemptOrders
  split
  · exact if_neg fun hpassed => h (List.dropLast_subset _ hpassed)
  · rfl

theorem point_attemptOrders_of_not_mem {p : PointId} (h : p ∉ r.pointIds) :
    (r.attemptOrders topology answer).point p = none := by
  unfold attemptOrders
  split
  · refine List.lookup_eq_none_iff.mpr fun c hc => ?_
    rw [bne_iff_ne]
    rintro rfl
    exact h (List.mem_map_of_mem (List.mem_reverse.mp hc))
  · rfl

end NotListed

end Route

namespace Interlocking

/-! ### The orders of a series of commands -/

section Commands

variable (il : Interlocking)

theorem follow_commandSignal (s : SignalId) (a : Aspect) :
    (il.commandSignal s a).1.track = il.track.follow (.toSignal s a) := by
  rw [Track.follow_toSignal]
  unfold commandSignal Track.setAspect
  by_cases hjammed : il.track.jammed s = true
  · simp [hjammed]
  · cases haspect : il.track.aspect s <;> simp [hjammed]

theorem follow_commandPoint (p : PointId) (position : PointPosition) :
    (il.commandPoint p position).1.track = il.track.follow (.toPoint p position) := by
  rw [Track.follow_toPoint]
  unfold commandPoint Track.setPoint
  by_cases hjammed : il.track.jammed p = true
  · simp [hjammed]
  · cases hpoint : il.track.point p <;> simp [hjammed]

theorem follow_commandSignals (aspectOf : SignalId → Aspect) (signals : List SignalId) :
    (il.commandSignals (signals.map fun s => (s, aspectOf s))).1.track =
      il.track.follow
        ⟨fun q => if q ∈ signals then some (aspectOf q) else none, fun _ => none⟩ := by
  unfold commandSignals
  induction signals generalizing il with
  | nil => simp [commandAll, Track.follow]
  | cons s rest ih =>
    rw [List.map_cons, commandAll]
    dsimp only
    rw [ih, follow_commandSignal, Track.follow_follow]
    congr 1
    simp only [Orders.andThen, Orders.toSignal, Option.or_none, List.mem_cons]
    congr 1
    funext q
    by_cases hs : q = s
    · subst hs
      by_cases hrest : q ∈ rest <;> simp [hrest]
    · simp [hs]

theorem follow_commandPoints (commands : List (PointId × PointPosition)) :
    (il.commandPoints commands).1.track =
      il.track.follow ⟨fun _ => none, fun p => commands.reverse.lookup p⟩ := by
  unfold commandPoints
  induction commands generalizing il with
  | nil => simp [commandAll, Track.follow]
  | cons c rest ih =>
    rw [commandAll]
    dsimp only
    rw [ih, follow_commandPoint, Track.follow_follow]
    congr 1
    simp only [Orders.andThen, Orders.toPoint, Option.or_none]
    congr 1
    funext p
    have hfirst : [c].lookup p = if p = c.1 then some c.2 else none := by
      obtain ⟨q, position⟩ := c
      rw [List.lookup_cons]
      by_cases hp : p = q
      · simp [hp]
      · simp [hp, beq_eq_false_iff_ne.mpr hp]
    rw [List.reverse_cons, List.lookup_append, hfirst]

end Commands

/-! ### Grants and releases -/

section Grant

variable {il : Interlocking} {reg : Registry} {policy : ConflictPolicy} {train : TrainId}
  {i : RouteIndex} {r : Route}

theorem track_commit (il : Interlocking) (reg : Registry) (train : TrainId) (i : RouteIndex)
    (r : Route) :
    (il.commit reg train i r).1.track = il.track.follow (r.grantOrders reg.topology) := by
  unfold commit
  rw [follow_commandSignals, follow_commandPoints, Track.follow_follow]
  simp only [Orders.andThen, Option.or_none, Option.none_or]
  rfl

theorem track_release (hr : reg.route? i = some r) (held : il.isHeld i = true) :
    (il.release reg i).1.track = il.track.follow r.releaseOrders := by
  rw [release_of_held il reg i hr held]
  exact follow_commandSignals il (fun _ => .stop) r.signals

theorem refusal?_of_follow {il' : Interlocking} {o : Orders} (h : il'.track = il.track.follow o) :
    il'.refusal? = il.refusal? := by
  funext q
  unfold refusal?
  rw [h, ← Option.not_isSome, ← Option.not_isSome]
  simp only [Track.follow, isSome_obeyed]

theorem pointRefusal?_of_follow {il' : Interlocking} {o : Orders}
    (h : il'.track = il.track.follow o) : il'.pointRefusal? = il.pointRefusal? := by
  funext p
  unfold pointRefusal?
  rw [h, ← Option.not_isSome, ← Option.not_isSome]
  simp only [Track.follow, isSome_obeyed]

theorem commit_snd (il : Interlocking) (reg : Registry) (train : TrainId) (i : RouteIndex)
    (r : Route) : (il.commit reg train i r).2 =
      ⟨r.id, r.pointIds.filterMap il.pointRefusal? ++ r.passedSignals.filterMap il.refusal?⟩ := by
  rw [← commit_faults il reg train i r]
  rfl

theorem track_grant (hr : reg.route? i = some r) :
    (il.grant reg policy train i).1.track =
      il.track.follow (r.attemptOrders reg.topology (il.grant reg policy train i).2) := by
  unfold Route.attemptOrders
  by_cases hadmits : il.Admits reg policy train i
  · rw [if_pos (grant_isOk_iff.mpr hadmits), grant_of_admits hr hadmits, track_commit]
  · obtain ⟨e, -, hrefused⟩ := grant_of_not_admits hadmits
    rw [if_neg fun hok => hadmits (grant_isOk_iff.mp hok), hrefused.track_eq, Track.follow_idle]

theorem holder_grant (j : RouteIndex) :
    (il.grant reg policy train i).1.holder j =
      if j = i ∧ (il.grant reg policy train i).2.isOk then some train else il.holder j := by
  by_cases hadmits : il.Admits reg policy train i
  · obtain ⟨r, hr⟩ := exists_route_of_isClear hadmits.clear
    rw [grant_isOk_iff.mpr hadmits, grant_of_admits hr hadmits, holder_commit]
    simp
  · obtain ⟨e, -, hrefused⟩ := grant_of_not_admits hadmits
    rw [if_neg fun h => hadmits (grant_isOk_iff.mp h.2), hrefused.holder_eq]

end Grant

end Interlocking

end Signalbox
