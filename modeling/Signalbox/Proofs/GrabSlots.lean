import Mathlib.Data.List.Nodup
import Mathlib.Data.List.Perm.Basic
import Signalbox.GrabTable
import Signalbox.Proofs.Lists

/-!
The slots of grabbed trains. No slot is taken twice and no train is grabbed twice, so freeing a
slot lets go of the train that it was taken for, and of no other.
-/
namespace Signalbox

namespace GrabTable

structure Distinct (g : GrabTable) : Prop where
  slots : (g.taken.map (·.1)).Nodup
  trains : (g.taken.map (·.2)).Nodup

variable {g : GrabTable} {slot : Slot} {train : TrainId}

theorem distinct_empty (capacity : Nat) : (empty capacity).Distinct := ⟨.nil, .nil⟩

theorem isGrabbed_iff : g.isGrabbed train = true ↔ ∃ slot, (slot, train) ∈ g.taken := by
  simp [isGrabbed]

theorem isFree_iff : g.isFree slot = true ↔ ∀ train, (slot, train) ∉ g.taken := by
  rw [isFree, Option.isNone_iff_eq_none, trainOf?, List.lookup_eq_none_iff]
  constructor
  · intro h train hmem
    simpa using h _ hmem
  · rintro h ⟨s, t⟩ hmem
    rw [bne_iff_ne]
    rintro rfl
    exact h t hmem

theorem isFree_of_firstFree? {tries : Nat} {start : Slot}
    (h : g.firstFree? tries start = some slot) : g.isFree slot = true := by
  induction tries generalizing start with
  | zero => cases h
  | succ n ih =>
    rw [firstFree?] at h
    split at h
    · rename_i hfree
      cases h
      exact hfree
    · exact ih h

theorem insertSlot_perm (slot : Slot) (train : TrainId) (taken : List (Slot × TrainId)) :
    (insertSlot slot train taken).Perm ((slot, train) :: taken) := by
  induction taken with
  | nil => exact .refl _
  | cons first rest ih =>
    rw [insertSlot]
    split
    · exact .refl _
    · exact (ih.cons first).trans (.swap _ _ rest)

theorem grab_eq_ok {g' : GrabTable} (h : g.grab train = (g', .ok slot)) :
    g.isGrabbed train = false ∧ g.isFree slot = true ∧
      g'.taken = insertSlot slot train g.taken := by
  unfold grab at h
  split at h
  · cases h
  · split at h
    · cases h
    · rename_i hgrabbed
      split at h
      · cases h
      · rename_i found hfound
        cases h
        exact ⟨by simpa using hgrabbed, isFree_of_firstFree? hfound, rfl⟩

theorem Distinct.grab {g' : GrabTable} (hg : g.Distinct)
    (h : g.grab train = (g', .ok slot)) : g'.Distinct := by
  obtain ⟨hgrabbed, hfree, htaken⟩ := grab_eq_ok h
  have hperm := insertSlot_perm slot train g.taken
  rw [← htaken] at hperm
  constructor
  · rw [(hperm.map _).nodup_iff, List.map_cons, List.nodup_cons]
    refine ⟨?_, hg.slots⟩
    intro hslot
    obtain ⟨⟨s, t⟩, hmem, rfl⟩ := List.mem_map.mp hslot
    exact isFree_iff.mp hfree t hmem
  · rw [(hperm.map _).nodup_iff, List.map_cons, List.nodup_cons]
    refine ⟨?_, hg.trains⟩
    intro htrain
    obtain ⟨⟨s, t⟩, hmem, rfl⟩ := List.mem_map.mp htrain
    rw [isGrabbed_iff.mpr ⟨s, hmem⟩] at hgrabbed
    cases hgrabbed

theorem isGrabbed_grab {g' : GrabTable} (h : g.grab train = (g', .ok slot)) (t : TrainId) :
    g'.isGrabbed t = if t = train then true else g.isGrabbed t := by
  obtain ⟨-, -, htaken⟩ := grab_eq_ok h
  have hperm := insertSlot_perm slot train g.taken
  rw [← htaken] at hperm
  rw [isGrabbed, hperm.any_eq, List.any_cons]
  split
  · rename_i heq
    simp [heq]
  · rename_i hne
    simp [isGrabbed, Ne.symm hne]

theorem Distinct.release (hg : g.Distinct) (slot : Slot) : (g.release slot).1.Distinct :=
  ⟨hg.slots.sublist (List.filter_sublist.map _), hg.trains.sublist (List.filter_sublist.map _)⟩

theorem Distinct.isGrabbed_release (hg : g.Distinct) (h : g.trainOf? slot = some train)
    (t : TrainId) :
    (g.release slot).1.isGrabbed t = if t = train then false else g.isGrabbed t := by
  have hmem := (lookup_eq_some_iff_mem hg.slots).mp h
  rw [Bool.eq_iff_iff, isGrabbed_iff]
  simp only [GrabTable.release, List.mem_filter, bne_iff_ne]
  split
  · rename_i heq
    subst heq
    refine iff_of_false ?_ (by simp)
    rintro ⟨s, hs, hne⟩
    exact hne (congrArg Prod.fst (List.inj_on_of_nodup_map hg.trains hs hmem rfl))
  · rename_i hne
    rw [isGrabbed_iff]
    constructor
    · rintro ⟨s, hs, -⟩
      exact ⟨s, hs⟩
    · rintro ⟨s, hs⟩
      refine ⟨s, hs, ?_⟩
      rintro rfl
      exact hne (congrArg Prod.snd (List.inj_on_of_nodup_map hg.slots hs hmem rfl))

end GrabTable

end Signalbox
