import Signalbox.Proofs.SlotTurns

/-!
Slots that are taken again. The search for a free slot starts after the slot taken last, wherever a
slot has been freed since. So a slot that has been freed is the next to be taken when no other free
slot comes before it in turn, whichever free slots come after it.
-/
namespace Signalbox.GrabTable

/-- How many slots are tried before this one, going round from the start. -/
def turns (capacity start slot : Nat) : Nat :=
  if start ≤ slot then slot - start else slot + capacity - start

section Turns

variable {capacity start slot other : Nat}

theorem turns_round {k : Nat} (hstart : start < capacity) (hk : k < capacity) :
    turns capacity start ((start + k) % capacity) = k := by
  unfold turns
  rcases Nat.lt_or_ge (start + k) capacity with hlt | hge
  · rw [Nat.mod_eq_of_lt hlt, if_pos (Nat.le_add_right start k), Nat.add_sub_cancel_left]
  · rw [Nat.mod_eq_sub_mod hge, Nat.mod_eq_of_lt (by omega), if_neg (by omega)]
    omega

theorem eq_of_turns_eq (hstart : start < capacity) (hslot : slot < capacity)
    (hother : other < capacity) (h : turns capacity start slot = turns capacity start other) :
    slot = other := by
  unfold turns at h
  split at h <;> split at h <;> omega

end Turns

variable {g : GrabTable} {start slot other : Slot} {train : TrainId}

theorem IsFirstFree.isFree (h : g.IsFirstFree start slot) : g.isFree slot = true := by
  obtain ⟨-, -, -, hfree, -⟩ := h
  exact hfree

theorem IsFirstFree.turns_le (h : g.IsFirstFree start slot) (hstart : start < g.capacity)
    (hother : other < g.capacity) (free : g.isFree other = true) :
    turns g.capacity start slot ≤ turns g.capacity start other := by
  obtain ⟨k, hk, rfl, -, hbefore⟩ := h
  obtain ⟨j, hj, rfl⟩ := exists_distance hstart hother
  rw [turns_round hstart hk, turns_round hstart hj]
  by_contra hlt
  rw [hbefore j (Nat.lt_of_not_le hlt)] at free
  cases free

theorem IsFirstFree.eq_iff (h : g.IsFirstFree start other) (hstart : start < g.capacity)
    (hslot : slot < g.capacity) (free : g.isFree slot = true) :
    other = slot ↔ ∀ s < g.capacity, s ≠ slot → g.isFree s = true →
      turns g.capacity start slot < turns g.capacity start s := by
  constructor
  · rintro rfl s hs hne hfree
    refine Nat.lt_of_le_of_ne (h.turns_le hstart hs hfree) fun heq => hne ?_
    exact (eq_of_turns_eq hstart hslot hs heq).symm
  · intro hfewest
    by_contra hne
    exact Nat.not_lt_of_ge (h.turns_le hstart hslot free) (hfewest other h.lt hne h.isFree)

theorem isFree_release (h : g.isFree slot = true) (other : Slot) :
    (g.release other).1.isFree slot = true := by
  rw [isFree_iff] at h ⊢
  exact fun train hmem => h train (List.mem_of_mem_filter hmem)

theorem isFree_release_self (g : GrabTable) (slot : Slot) :
    (g.release slot).1.isFree slot = true := by
  rw [isFree_iff]
  intro train hmem
  simp [release] at hmem

/-! ### Calls that take no slot -/

theorem isFree_call {c : GrabCall} (idle : g.taken? c = none) (h : g.isFree slot = true) :
    (g.call c).isFree slot = true := by
  cases c with
  | release other => exact isFree_release h other
  | grab train =>
    rcases g.grab_cases train with ⟨e, hgrab⟩ | ⟨taken, hgrab⟩
    · rw [call, hgrab]
      exact h
    · rw [taken?, hgrab] at idle
      cases idle

theorem isFree_callAll {calls : List GrabCall} (idle : g.lastTaken? calls = none)
    (h : g.isFree slot = true) : (g.callAll calls).isFree slot = true := by
  induction calls generalizing g with
  | nil => exact h
  | cons c rest ih =>
    rw [lastTaken?, Option.or_eq_none_iff] at idle
    exact ih idle.1 (isFree_call idle.2 h)

/-- When a slot has been freed and none has been taken since, the next to be taken is this one
exactly if every other free slot comes after it, going round from the slot after the one taken
last. So a slot that was taken last is not taken again while another one is free, but any other
slot may be. -/
theorem freed_slot_taken_next_iff (capacity : Nat) (calls later : List GrabCall)
    {g g' : GrabTable} {slot next : Slot} {holder train : TrainId}
    (reached : (empty capacity).callAll calls = g) (held : g.trainOf? slot = some holder)
    (idle : (g.release slot).1.lastTaken? later = none)
    (after : (g.release slot).1.callAll later = g') (taken : (g'.grab train).2 = .ok next) :
    let last := (empty capacity).lastTaken? calls
    (next = slot ↔ ∀ other < capacity, other ≠ slot → g'.isFree other = true →
      turns capacity (slotAfter capacity last) slot <
        turns capacity (slotAfter capacity last) other) ∧
    (last = some slot → ∀ other < capacity, other ≠ slot → g'.isFree other = true →
      next ≠ slot) := by
  intro last
  have horder : g.InOrder := reached ▸ (inOrder_empty capacity).callAll calls
  have horder' : g'.InOrder := after ▸ (horder.release slot).callAll later
  have hcapacity : g.capacity = capacity := reached ▸ capacity_callAll (empty capacity) calls
  have hcapacity' : g'.capacity = capacity := by
    rw [← after, capacity_callAll]
    exact hcapacity
  have hslot : slot < capacity :=
    hcapacity ▸ horder.within _ (horder.trainOf?_eq_some_iff.mp held)
  have hfree : g'.isFree slot = true := after ▸ isFree_callAll idle (isFree_release_self g slot)
  -- Neither the release nor the calls after it move the place where the search starts.
  have hnext : g'.next = slotAfter g'.capacity last := by
    rw [hcapacity', ← after, next_callAll, idle]
    change g.next = _
    rw [← reached, next_callAll]
    change last.elim 0 _ = _
    cases last <;> rfl
  have hfirst : g'.IsFirstFree (slotAfter g'.capacity last) next := by
    have hgrabs := (horder'.grabs train).1
    rw [show g'.grab train = ((g'.grab train).1, .ok next) from Prod.ext rfl taken, hnext]
      at hgrabs
    exact hgrabs.of_ok.1
  have hstart : slotAfter g'.capacity last < g'.capacity := by
    rw [← hnext]
    exact horder'.next (hcapacity' ▸ Nat.zero_lt_of_lt hslot)
  rw [← hcapacity'] at hslot ⊢
  refine ⟨hfirst.eq_iff hstart hslot hfree, ?_⟩
  rintro hlast other hother hne hother' rfl
  rw [hlast, slotAfter] at hfirst
  rw [hfirst.full_of_last hother hne] at hother'
  cases hother'

/-- Of three slots, the first is freed when the second was taken last, and the third is taken. -/
theorem freed_slot_of_three_waits :
    let g := (empty 3).callAll [.grab "cargo", .grab "regional"]
    let g' := (g.release 0).1.callAll []
    g.trainOf? 0 = some "cargo" ∧ (g'.grab "ice").2 = .ok 2 ∧
      ((2 : Slot) = 0 ↔ ∀ other < 3, other ≠ 0 → g'.isFree other = true →
        turns 3 2 0 < turns 3 2 other) := by
  intro g g'
  have hheld : g.trainOf? 0 = some "cargo" := rfl
  have htaken : (g'.grab "ice").2 = .ok 2 := rfl
  exact ⟨hheld, htaken, (freed_slot_taken_next_iff 3 _ [] rfl hheld rfl rfl htaken).1⟩

/-- Of two slots, the second is freed and then the first. Both are free, the second was taken
last, and the first is taken again at once. -/
theorem freed_slot_of_two_taken_again :
    let g := (empty 2).callAll [.grab "cargo", .grab "regional", .release 1]
    g.release 0 = ((g.release 0).1, some "cargo") ∧ (g.release 0).1.isFree 1 = true ∧
      ((g.release 0).1.grab "ice").2 = .ok 0 := by
  decide

end Signalbox.GrabTable
