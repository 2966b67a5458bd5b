import Mathlib.Data.List.Sort
import Signalbox.Proofs.GrabSlots

/-!
Slots in turn. Whatever is grabbed and released, the slots in use stand in ascending order within
the capacity, and the search for a free one goes once around all slots, from the one after the slot
taken last. Laid out in a row, the slots can be used without ever reaching past the end of the row
or dividing by its length when it is empty.
-/
namespace Signalbox

/-- A call on a grab table. -/
inductive GrabCall where
  | grab (train : TrainId)
  | release (slot : Slot)
deriving DecidableEq, Repr

namespace GrabTable

def call (g : GrabTable) : GrabCall → GrabTable
  | .grab train => (g.grab train).1
  | .release slot => (g.release slot).1

def callAll (g : GrabTable) (calls : List GrabCall) : GrabTable := calls.foldl call g

def taken? (g : GrabTable) : GrabCall → Option Slot
  | .grab train => (g.grab train).2.toOption
  | .release _ => none

def lastTaken? (g : GrabTable) : List GrabCall → Option Slot
  | [] => none
  | c :: rest => ((g.call c).lastTaken? rest).or (g.taken? c)

def slotAfter (capacity : Nat) : Option Slot → Slot
  | none => 0
  | some slot => (slot + 1) % capacity

/-- Going round from the start, this is the first slot that is free. -/
def IsFirstFree (g : GrabTable) (start slot : Slot) : Prop :=
  ∃ k < g.capacity, slot = (start + k) % g.capacity ∧ g.isFree slot = true ∧
    ∀ j < k, g.isFree ((start + j) % g.capacity) = false

/-! ### The slots in use -/

structure InOrder (g : GrabTable) : Prop where
  ascending : g.taken.Pairwise (·.1 < ·.1)
  trains : (g.taken.map (·.2)).Nodup
  within : ∀ pair ∈ g.taken, pair.1 < g.capacity
  next : 0 < g.capacity → g.next < g.capacity

variable {g : GrabTable} {slot : Slot} {train : TrainId}

theorem inOrder_empty (capacity : Nat) : (empty capacity).InOrder where
  ascending := .nil
  trains := .nil
  within := by simp [empty]
  next h := h

theorem InOrder.distinct (h : g.InOrder) : g.Distinct where
  slots := List.pairwise_map.mpr (h.ascending.imp Nat.ne_of_lt)
  trains := h.trains

theorem insertSlot_ascending {taken : List (Slot × TrainId)} (h : taken.Pairwise (·.1 < ·.1))
    (free : ∀ t, (slot, t) ∉ taken) : (insertSlot slot train taken).Pairwise (·.1 < ·.1) := by
  induction taken with
  | nil => exact List.pairwise_singleton _ _
  | cons first rest ih =>
    rw [List.pairwise_cons] at h
    rw [insertSlot]
    split
    · rename_i hlt
      refine List.pairwise_cons.mpr ⟨?_, List.pairwise_cons.mpr h⟩
      intro pair hpair
      rcases List.mem_cons.mp hpair with rfl | hrest
      · exact hlt
      · exact Nat.lt_trans hlt (h.1 pair hrest)
    · rename_i hge
      have hne : slot ≠ first.1 := by
        rintro rfl
        exact free first.2 List.mem_cons_self
      refine List.pairwise_cons.mpr ⟨?_, ih h.2 fun t ht => free t (List.mem_cons_of_mem _ ht)⟩
      intro pair hpair
      rcases List.mem_cons.mp ((insertSlot_perm slot train rest).mem_iff.mp hpair) with rfl | hrest
      · exact Nat.lt_of_le_of_ne (Nat.le_of_not_lt hge) hne.symm
      · exact h.1 pair hrest

theorem InOrder.trainOf?_eq_some_iff (h : g.InOrder) :
    g.trainOf? slot = some train ↔ (slot, train) ∈ g.taken :=
  lookup_eq_some_iff_mem h.distinct.slots

theorem InOrder.slotOf?_eq_some_iff (h : g.InOrder) :
    g.slotOf? train = some slot ↔ (slot, train) ∈ g.taken := by
  rw [slotOf?, Option.map_eq_some_iff]
  constructor
  · rintro ⟨pair, hfound, rfl⟩
    have htrain := List.find?_some hfound
    rw [beq_iff_eq] at htrain
    rw [← htrain]
    exact List.mem_of_find?_eq_some hfound
  · intro hmem
    have hsome : (g.taken.find? (·.2 == train)).isSome = true := by
      rw [List.find?_isSome]
      exact ⟨(slot, train), hmem, by simp⟩
    obtain ⟨pair, hfound⟩ := Option.isSome_iff_exists.mp hsome
    have htrain : pair.2 = train := by simpa using List.find?_some hfound
    have hsame := List.inj_on_of_nodup_map h.trains (List.mem_of_find?_eq_some hfound) hmem htrain
    exact ⟨pair, hfound, by rw [hsame]⟩

theorem InOrder.taken_eq (h : g.InOrder) :
    g.taken = (List.range g.capacity).filterMap fun slot => (g.trainOf? slot).map (slot, ·) := by
  have hslots : ((List.range g.capacity).filterMap fun slot =>
      (g.trainOf? slot).map (slot, ·)).Pairwise (·.1 < ·.1) := by
    refine List.pairwise_lt_range.filterMap _ fun slot slot' hlt pair hpair pair' hpair' => ?_
    obtain ⟨train, -, rfl⟩ := Option.map_eq_some_iff.mp hpair
    obtain ⟨train', -, rfl⟩ := Option.map_eq_some_iff.mp hpair'
    exact hlt
  have hnodup {pairs : List (Slot × TrainId)} (hpairs : pairs.Pairwise (·.1 < ·.1)) :
      pairs.Nodup := hpairs.imp fun {pair pair'} hlt heq => by
    rw [heq] at hlt
    exact Nat.lt_irrefl _ hlt
  refine List.Perm.eq_of_pairwise (fun _ _ _ _ hlt hgt => absurd hlt (Nat.lt_asymm hgt))
    h.ascending hslots ((List.perm_ext_iff_of_nodup (hnodup h.ascending) (hnodup hslots)).mpr ?_)
  rintro ⟨slot, train⟩
  rw [← h.trainOf?_eq_some_iff, List.mem_filterMap]
  constructor
  · intro htrain
    have hwithin := h.within _ (h.trainOf?_eq_some_iff.mp htrain)
    exact ⟨slot, List.mem_range.mpr hwithin, by rw [htrain, Option.map_some]⟩
  · rintro ⟨slot', -, hpair⟩
    obtain ⟨train', htrain, heq⟩ := Option.map_eq_some_iff.mp hpair
    cases heq
    exact htrain

/-! ### The search for a free slot -/

theorem firstFree?_eq (tries : Nat) {start : Slot} (h : start < g.capacity) :
    g.firstFree? tries start =
      ((List.range tries).map fun k => (start + k) % g.capacity).find? g.isFree := by
  induction tries generalizing start with
  | zero => rfl
  | succ n ih =>
    have hstep (k : Nat) : ((start + 1) % g.capacity + k) % g.capacity =
        (start + (k + 1)) % g.capacity := by
      rw [Nat.mod_add_mod, Nat.add_assoc, Nat.add_comm 1 k]
    have hnext := ih (Nat.mod_lt (start + 1) (Nat.zero_lt_of_lt h))
    simp only [hstep] at hnext
    rw [firstFree?, hnext, List.range_succ_eq_map, List.map_cons, List.map_map, List.find?_cons,
      show (start + 0) % g.capacity = start from Nat.mod_eq_of_lt h]
    cases g.isFree start <;> rfl

theorem exists_distance {capacity start slot : Nat} (hstart : start < capacity)
    (hslot : slot < capacity) : ∃ k < capacity, (start + k) % capacity = slot := by
  by_cases h : start ≤ slot
  · refine ⟨slot - start, by omega, ?_⟩
    rw [Nat.add_sub_cancel' h, Nat.mod_eq_of_lt hslot]
  · refine ⟨slot + capacity - start, by omega, ?_⟩
    rw [Nat.add_sub_cancel' (by omega), Nat.add_mod_right, Nat.mod_eq_of_lt hslot]

theorem distance_of_last {capacity last k : Nat} (hk : k < capacity) (hlast : last < capacity)
    (h : last = ((last + 1) % capacity + k) % capacity) : k = capacity - 1 := by
  rw [Nat.mod_add_mod] at h
  rcases Nat.lt_or_ge (last + 1 + k) capacity with hlt | hge
  · rw [Nat.mod_eq_of_lt hlt] at h
    omega
  · rw [Nat.mod_eq_sub_mod hge, Nat.mod_eq_of_lt (by omega)] at h
    omega

theorem isFirstFree_of_firstFree? {start : Slot} (hstart : start < g.capacity)
    (h : g.firstFree? g.capacity start = some slot) : g.IsFirstFree start slot := by
  rw [firstFree?_eq g.capacity hstart, List.find?_map, Option.map_eq_some_iff] at h
  obtain ⟨k, hk, rfl⟩ := h
  obtain ⟨hfree, hmem, hbefore⟩ := List.find?_range_eq_some.mp hk
  exact ⟨k, List.mem_range.mp hmem, rfl, hfree, fun j hj => by simpa using hbefore j hj⟩

theorem full_of_firstFree? {start : Slot} (hstart : start < g.capacity)
    (h : g.firstFree? g.capacity start = none) (hslot : slot < g.capacity) :
    g.isFree slot = false := by
  rw [firstFree?_eq g.capacity hstart, List.find?_eq_none] at h
  obtain ⟨k, hk, rfl⟩ := exists_distance hstart hslot
  simpa using h _ (List.mem_map_of_mem (List.mem_range.mpr hk))

theorem IsFirstFree.lt {start : Slot} (h : g.IsFirstFree start slot) : slot < g.capacity := by
  obtain ⟨k, hk, rfl, -⟩ := h
  exact Nat.mod_lt _ (Nat.zero_lt_of_lt hk)

theorem IsFirstFree.full_of_last {last other : Slot}
    (h : g.IsFirstFree ((last + 1) % g.capacity) last) (hother : other < g.capacity)
    (hne : other ≠ last) : g.isFree other = false := by
  have hlast := h.lt
  obtain ⟨k, hk, hreached, -, hbefore⟩ := h
  have hround := distance_of_last hk hlast hreached
  obtain ⟨j, hj, rfl⟩ := exists_distance (Nat.mod_lt (last + 1) (Nat.zero_lt_of_lt hlast)) hother
  refine hbefore j (Nat.lt_of_le_of_ne (by omega) ?_)
  rintro rfl
  exact hne hreached.symm

/-! ### Calls -/

/-- What a grab does when the search starts at the given slot. -/
inductive Grabs (g : GrabTable) (start : Slot) (train : TrainId) :
    GrabTable × Except GrabError Slot → Prop
  | nameless (h : train = "") : Grabs g start train (g, .error .emptyTrain)
  | again {slot : Slot} (named : train ≠ "") (h : g.trainOf? slot = some train) :
    Grabs g start train (g, .error (.alreadyGrabbed train))
  | full (named : train ≠ "") (absent : ∀ slot, g.trainOf? slot ≠ some train)
    (h : ∀ slot < g.capacity, g.isFree slot = false) :
    Grabs g start train (g, .error (.full g.capacity))
  | taken {g' : GrabTable} {slot : Slot} (named : train ≠ "")
    (absent : ∀ slot, g.trainOf? slot ≠ some train) (first : g.IsFirstFree start slot)
    (trains : ∀ s, g'.trainOf? s = if s = slot then some train else g.trainOf? s) :
    Grabs g start train (g', .ok slot)

theorem Grabs.of_ok {g' : GrabTable} {start : Slot} (h : g.Grabs start train (g', .ok slot)) :
    g.IsFirstFree start slot ∧
      ∀ s, g'.trainOf? s = if s = slot then some train else g.trainOf? s := by
  cases h with
  | taken named absent first trains => exact ⟨first, trains⟩

section Calls

theorem InOrder.trainOf?_eq_of_mem_iff {g' : GrabTable} (h : g'.InOrder) {s : Slot}
    {t : Option TrainId} (hmem : ∀ train, (s, train) ∈ g'.taken ↔ t = some train) :
    g'.trainOf? s = t :=
  Option.ext fun train => by rw [h.trainOf?_eq_some_iff, hmem]

theorem InOrder.isGrabbed_iff (h : g.InOrder) :
    g.isGrabbed train = true ↔ ∃ slot, g.trainOf? slot = some train := by
  simp only [GrabTable.isGrabbed_iff, h.trainOf?_eq_some_iff]

theorem firstFree?_eq_none_of_no_room (h : ¬ 0 < g.capacity) :
    g.firstFree? g.capacity g.next = none := by
  rw [Nat.eq_zero_of_not_pos h]
  rfl

theorem grab_of_full (named : train ≠ "") (absent : g.isGrabbed train = false)
    (h : g.firstFree? g.capacity g.next = none) :
    g.grab train = (g, .error (.full g.capacity)) := by
  simp [GrabTable.grab, named, absent, h]

theorem grab_of_free (named : train ≠ "") (absent : g.isGrabbed train = false)
    (h : g.firstFree? g.capacity g.next = some slot) :
    g.grab train = ({ g with
      taken := insertSlot slot train g.taken, next := (slot + 1) % g.capacity }, .ok slot) := by
  simp [GrabTable.grab, named, absent, h]

theorem InOrder.insert (h : g.InOrder) (named : train ≠ "") (absent : g.isGrabbed train = false)
    (found : g.firstFree? g.capacity g.next = some slot) (hlt : slot < g.capacity) :
    ({ g with taken := insertSlot slot train g.taken,
              next := (slot + 1) % g.capacity } : GrabTable).InOrder where
  ascending := insertSlot_ascending h.ascending (isFree_iff.mp (isFree_of_firstFree? found))
  trains := (h.distinct.grab (grab_of_free named absent found)).trains
  within pair hpair := by
    rcases List.mem_cons.mp ((insertSlot_perm slot train g.taken).mem_iff.mp hpair) with rfl | hold
    · exact hlt
    · exact h.within pair hold
  next hpos := Nat.mod_lt _ hpos

theorem InOrder.grabs (h : g.InOrder) (train : TrainId) :
    g.Grabs g.next train (g.grab train) ∧ (g.grab train).1.InOrder := by
  by_cases hname : train = ""
  · subst hname
    exact ⟨.nameless rfl, h⟩
  cases hgrabbed : g.isGrabbed train with
  | true =>
    obtain ⟨slot, hslot⟩ := h.isGrabbed_iff.mp hgrabbed
    have hgrab : g.grab train = (g, .error (.alreadyGrabbed train)) := by
      simp [GrabTable.grab, hname, hgrabbed]
    rw [hgrab]
    exact ⟨.again hname hslot, h⟩
  | false =>
    have habsent (slot : Slot) : g.trainOf? slot ≠ some train := by
      intro hslot
      rw [h.isGrabbed_iff.mpr ⟨slot, hslot⟩] at hgrabbed
      cases hgrabbed
    cases hfound : g.firstFree? g.capacity g.next with
    | none =>
      rw [grab_of_full hname hgrabbed hfound]
      refine ⟨.full hname habsent fun slot hslot => ?_, h⟩
      exact full_of_firstFree? (h.next (Nat.zero_lt_of_lt hslot)) hfound hslot
    | some slot =>
      have hpos : 0 < g.capacity := by
        by_contra hzero
        rw [firstFree?_eq_none_of_no_room hzero] at hfound
        cases hfound
      have hfirst := isFirstFree_of_firstFree? (h.next hpos) hfound
      have hnext := h.insert hname hgrabbed hfound hfirst.lt
      rw [grab_of_free hname hgrabbed hfound]
      refine ⟨.taken hname habsent hfirst fun s => ?_, hnext⟩
      have hfree := isFree_iff.mp (isFree_of_firstFree? hfound)
      refine hnext.trainOf?_eq_of_mem_iff fun t => ?_
      rw [(insertSlot_perm slot train g.taken).mem_iff, List.mem_cons, Prod.mk.injEq]
      split
      · rename_i heq
        subst heq
        simp [hfree, eq_comm]
      · rename_i hne
        simp [hne, h.trainOf?_eq_some_iff]

theorem InOrder.release (h : g.InOrder) (slot : Slot) : (g.release slot).1.InOrder where
  ascending := h.ascending.sublist List.filter_sublist
  trains := h.trains.sublist (List.filter_sublist.map _)
  within pair hpair := h.within pair (List.mem_of_mem_filter hpair)
  next := h.next

theorem InOrder.trainOf?_release (h : g.InOrder) (slot s : Slot) :
    (g.release slot).1.trainOf? s = if s = slot then none else g.trainOf? s := by
  refine (h.release slot).trainOf?_eq_of_mem_iff fun t => ?_
  simp only [GrabTable.release, List.mem_filter, bne_iff_ne, ← h.trainOf?_eq_some_iff]
  split
  · rename_i heq
    simp [heq]
  · rename_i hne
    simp [hne]

theorem InOrder.call (h : g.InOrder) (c : GrabCall) : (g.call c).InOrder := by
  cases c with
  | grab train => exact (h.grabs train).2
  | release slot => exact h.release slot

theorem InOrder.callAll (h : g.InOrder) (calls : List GrabCall) : (g.callAll calls).InOrder := by
  induction calls generalizing g with
  | nil => exact h
  | cons c rest ih => exact ih (h.call c)

theorem grab_cases (g : GrabTable) (train : TrainId) :
    (∃ e, g.grab train = (g, .error e)) ∨ ∃ slot, g.grab train = ({ g with
      taken := insertSlot slot train g.taken, next := (slot + 1) % g.capacity }, .ok slot) := by
  unfold GrabTable.grab
  split
  · exact .inl ⟨_, rfl⟩
  · split
    · exact .inl ⟨_, rfl⟩
    · split
      · exact .inl ⟨_, rfl⟩
      · exact .inr ⟨_, rfl⟩

theorem capacity_call (g : GrabTable) (c : GrabCall) : (g.call c).capacity = g.capacity := by
  cases c with
  | release slot => rfl
  | grab train =>
    rcases g.grab_cases train with ⟨e, h⟩ | ⟨slot, h⟩ <;> rw [GrabTable.call, h]

theorem next_call (g : GrabTable) (c : GrabCall) :
    (g.call c).next = (g.taken? c).elim g.next (slotAfter g.capacity ∘ some) := by
  cases c with
  | release slot => rfl
  | grab train =>
    rcases g.grab_cases train with ⟨e, h⟩ | ⟨slot, h⟩ <;>
      rw [GrabTable.call, GrabTable.taken?, h] <;> rfl

theorem capacity_callAll (g : GrabTable) (calls : List GrabCall) :
    (g.callAll calls).capacity = g.capacity := by
  induction calls generalizing g with
  | nil => rfl
  | cons c rest ih => exact (ih (g.call c)).trans (capacity_call g c)

theorem next_callAll (g : GrabTable) (calls : List GrabCall) :
    (g.callAll calls).next =
      (g.lastTaken? calls).elim g.next (slotAfter g.capacity ∘ some) := by
  induction calls generalizing g with
  | nil => rfl
  | cons c rest ih =>
    refine (ih (g.call c)).trans ?_
    rw [capacity_call, next_call, lastTaken?]
    cases (g.call c).lastTaken? rest <;> rfl

end Calls

end GrabTable

/-! ### Slots in a row -/

inductive SlotFault where
  | pastTheEnd (slot : Slot)
  | dividedByZero
deriving DecidableEq, Repr

/-- All slots one after the other, each with the train in it, and the one to try first. No slot
past the end can be reached, and no remainder taken by zero. -/
structure SlotRow where
  trains : List (Option TrainId)
  next : Slot
deriving DecidableEq, Repr

namespace SlotRow

def empty (capacity : Nat) : SlotRow := ⟨List.replicate capacity none, 0⟩

def remainder (n d : Nat) : Except SlotFault Nat :=
  if d = 0 then .error .dividedByZero else .ok (n % d)

def trainAt (r : SlotRow) (slot : Slot) : Except SlotFault (Option TrainId) :=
  match r.trains[slot]? with
  | some train => .ok train
  | none => .error (.pastTheEnd slot)

def put (r : SlotRow) (slot : Slot) (train : TrainId) : Except SlotFault SlotRow :=
  if slot < r.trains.length then .ok { r with trains := r.trains.set slot (some train) }
  else .error (.pastTheEnd slot)

/-- Tries the slots at the given distances from the first one to try. -/
def firstFree (r : SlotRow) : List Nat → Except SlotFault (Option Slot)
  | [] => .ok none
  | k :: rest =>
    (remainder (r.next + k) r.trains.length).bind fun slot =>
      (r.trainAt slot).bind fun train =>
        if train.isNone then .ok (some slot) else r.firstFree rest

def grab (r : SlotRow) (train : TrainId) : Except SlotFault (SlotRow × Except GrabError Slot) :=
  if train.isEmpty then .ok (r, .error .emptyTrain)
  else if r.trains.contains (some train) then .ok (r, .error (.alreadyGrabbed train))
  else
    (r.firstFree (List.range r.trains.length)).bind fun
      | none => .ok (r, .error (.full r.trains.length))
      | some slot =>
        (r.put slot train).bind fun r' =>
          (remainder (slot + 1) r.trains.length).map fun next => ({ r' with next }, .ok slot)

def release (r : SlotRow) (slot : Slot) : SlotRow × Option TrainId :=
  ({ r with trains := r.trains.set slot none }, r.trains[slot]?.join)

def call (r : SlotRow) : GrabCall → Except SlotFault SlotRow
  | .grab train => (r.grab train).map (·.1)
  | .release slot => .ok (r.release slot).1

def callAll (r : SlotRow) (calls : List GrabCall) : Except SlotFault SlotRow :=
  calls.foldlM call r

end SlotRow

namespace GrabTable

def row (g : GrabTable) : SlotRow := ⟨(List.range g.capacity).map g.trainOf?, g.next⟩

section Row

variable {g : GrabTable} {slot : Slot} {train : TrainId}

theorem row_empty (capacity : Nat) : (empty capacity).row = .empty capacity := by
  have hnone : (empty capacity).trainOf? = fun _ => none := rfl
  rw [row, hnone, List.map_const', List.length_range]
  rfl

@[simp] theorem length_row (g : GrabTable) : g.row.trains.length = g.capacity := by simp [row]

theorem trainAt_row (h : slot < g.capacity) : g.row.trainAt slot = .ok (g.trainOf? slot) := by
  simp [SlotRow.trainAt, row, h]

theorem put_row (h : slot < g.capacity) :
    g.row.put slot train = .ok { g.row with trains := g.row.trains.set slot (some train) } := by
  simp [SlotRow.put, h]

theorem firstFree_row (hpos : 0 < g.capacity) (distances : List Nat) :
    g.row.firstFree distances =
      .ok ((distances.map fun k => (g.next + k) % g.capacity).find? g.isFree) := by
  induction distances with
  | nil => rfl
  | cons k rest ih =>
    have hremainder : SlotRow.remainder (g.row.next + k) g.row.trains.length =
        .ok ((g.next + k) % g.capacity) := by
      rw [length_row, SlotRow.remainder, if_neg (Nat.ne_of_gt hpos)]
      rfl
    rw [SlotRow.firstFree, hremainder, Except.bind, trainAt_row (Nat.mod_lt _ hpos), Except.bind,
      ih, List.map_cons, List.find?_cons]
    change (if g.isFree _ = true then _ else _) = _
    cases g.isFree ((g.next + k) % g.capacity) <;> rfl

theorem search_row (h : g.InOrder) :
    g.row.firstFree (List.range g.row.trains.length) = .ok (g.firstFree? g.capacity g.next) := by
  rw [length_row]
  rcases Nat.eq_zero_or_pos g.capacity with hzero | hpos
  · rw [hzero]
    rfl
  · rw [firstFree_row hpos, firstFree?_eq _ (h.next hpos)]

theorem contains_row (h : g.InOrder) : g.row.trains.contains (some train) = g.isGrabbed train := by
  rw [Bool.eq_iff_iff, List.contains_iff_mem, h.isGrabbed_iff]
  simp only [row, List.mem_map, List.mem_range]
  constructor
  · rintro ⟨slot, -, htrain⟩
    exact ⟨slot, htrain⟩
  · rintro ⟨slot, htrain⟩
    exact ⟨slot, h.within _ (h.trainOf?_eq_some_iff.mp htrain), htrain⟩

theorem row_of_trains {g' : GrabTable} {t : Option TrainId}
    (h : ∀ s, g'.trainOf? s = if s = slot then t else g.trainOf? s)
    (hcapacity : g'.capacity = g.capacity) : g'.row = ⟨g.row.trains.set slot t, g'.next⟩ := by
  unfold row
  rw [hcapacity]
  congr 1
  refine List.ext_getElem (by simp) fun s hs hs' => ?_
  rw [List.getElem_set, List.getElem_map, List.getElem_map, List.getElem_range, h s]
  simp only [eq_comm]

theorem grab_row (h : g.InOrder) (train : TrainId) :
    g.row.grab train = .ok ((g.grab train).1.row, (g.grab train).2) := by
  obtain ⟨hgrabs, -⟩ := h.grabs train
  unfold SlotRow.grab
  rw [contains_row h, search_row h, length_row]
  cases hname : train.isEmpty with
  | true => simp [GrabTable.grab, hname]
  | false =>
    cases hgrabbed : g.isGrabbed train with
    | true => simp [GrabTable.grab, hname, hgrabbed]
    | false =>
      have hnamed : train ≠ "" := by simpa using hname
      cases hfound : g.firstFree? g.capacity g.next with
      | none =>
        rw [grab_of_full hnamed hgrabbed hfound]
        rfl
      | some slot =>
        rw [grab_of_free hnamed hgrabbed hfound] at hgrabs ⊢
        obtain ⟨hfirst, htrains⟩ := hgrabs.of_ok
        have hpos : g.capacity ≠ 0 := Nat.ne_of_gt (Nat.zero_lt_of_lt hfirst.lt)
        rw [row_of_trains htrains rfl]
        simp [Except.bind, Except.map, put_row hfirst.lt, SlotRow.remainder, hpos]

theorem release_row (h : g.InOrder) (slot : Slot) :
    g.row.release slot = ((g.release slot).1.row, (g.release slot).2) := by
  have hanswer : (g.row.trains[slot]?).join = g.trainOf? slot := by
    rcases Nat.lt_or_ge slot g.capacity with hlt | hge
    · simp [row, hlt]
    · have hnone : g.trainOf? slot = none := by
        rw [Option.eq_none_iff_forall_ne_some]
        intro train htrain
        exact Nat.not_lt_of_ge hge (h.within _ (h.trainOf?_eq_some_iff.mp htrain))
      simp [row, hge, hnone]
  rw [row_of_trains (h.trainOf?_release slot) rfl]
  exact Prod.ext rfl hanswer

theorem callAll_row (h : g.InOrder) (calls : List GrabCall) :
    g.row.callAll calls = .ok (g.callAll calls).row := by
  induction calls generalizing g with
  | nil => rfl
  | cons c rest ih =>
    have hcall : g.row.call c = .ok (g.call c).row := by
      cases c with
      | grab train => simp [SlotRow.call, grab_row h, GrabTable.call, Except.map]
      | release slot => rw [SlotRow.call, release_row h, GrabTable.call]
    rw [SlotRow.callAll, List.foldlM_cons, hcall]
    exact ih (h.call c)

end Row

/-- Whatever has been grabbed and released, each train is in one slot at most, look-ups by train
and by slot are inverse to each other, and the pairs are listed in slot order. The next grab is
refused for want of a name, because the train is in a slot, or because no slot is free, and changes
nothing then. Or else it takes the first free slot from the one after the slot taken last, and
that slot itself only when all others are in use. Laid out in a row, the slots are used without
any fault. -/
theorem slots_in_turn (capacity : Nat) (calls : List GrabCall) :
    let g := (empty capacity).callAll calls
    let last := (empty capacity).lastTaken? calls
    (∀ slot slot' train, g.trainOf? slot = some train → g.trainOf? slot' = some train →
      slot = slot') ∧
    (∀ slot train, g.slotOf? train = some slot ↔ g.trainOf? slot = some train) ∧
    (g.taken = (List.range capacity).filterMap fun slot => (g.trainOf? slot).map (slot, ·)) ∧
    (∀ train, g.Grabs (slotAfter capacity last) train (g.grab train)) ∧
    (∀ train slot, last = some slot → (g.grab train).2 = .ok slot →
      ∀ other < capacity, other ≠ slot → g.isFree other = false) ∧
    (SlotRow.empty capacity).callAll calls = .ok g.row ∧
    ∀ train, g.row.grab train = .ok ((g.grab train).1.row, (g.grab train).2) := by
  intro g last
  have horder : g.InOrder := (inOrder_empty capacity).callAll calls
  have hcapacity : g.capacity = capacity := capacity_callAll (empty capacity) calls
  have hnext : g.next = slotAfter capacity last := by
    rw [show g.next = _ from next_callAll (empty capacity) calls]
    change last.elim 0 _ = _
    cases last <;> rfl
  have hgrabs (train : TrainId) : g.Grabs (slotAfter capacity last) train (g.grab train) := by
    rw [← hnext]
    exact (horder.grabs train).1
  refine ⟨?_, ?_, ?_, hgrabs, ?_, ?_, grab_row horder⟩
  · intro slot slot' train hslot hslot'
    rw [← horder.slotOf?_eq_some_iff.trans horder.trainOf?_eq_some_iff.symm] at hslot hslot'
    exact Option.some.inj (hslot.symm.trans hslot')
  · exact fun slot train => horder.slotOf?_eq_some_iff.trans horder.trainOf?_eq_some_iff.symm
  · rw [← hcapacity]
    exact horder.taken_eq
  · intro train slot hlast htaken other hother hne
    have hresult := hgrabs train
    rw [show g.grab train = ((g.grab train).1, .ok slot) from Prod.ext rfl htaken, hlast,
      slotAfter, ← hcapacity] at hresult
    exact hresult.of_ok.1.full_of_last (hcapacity ▸ hother) hne
  · rw [← row_empty]
    exact callAll_row (inOrder_empty capacity) calls

/-- The first slot has been freed again, but the last one is next in turn. -/
theorem three_slots_in_turn :
    let calls := [.grab "cargo", .grab "regional", .release 0]
    let g := (empty 3).callAll calls
    (empty 3).lastTaken? calls = some 1 ∧ g.Grabs 2 "ice" (g.grab "ice") ∧
      (g.grab "ice").2 = .ok 2 ∧ (SlotRow.empty 3).callAll calls = .ok g.row := by
  intro calls g
  obtain ⟨-, -, -, hgrabs, -, hrow, -⟩ := slots_in_turn 3 calls
  exact ⟨rfl, hgrabs "ice", rfl, hrow⟩

end GrabTable

end Signalbox
