import Mathlib.Data.List.Forall2

/-!
Facts about lists, and about answers that a series of them has to be `ok` for. None of them is about
signals or trains.
-/
namespace Signalbox

theorem forall₂_trans {α β γ : Type} {R : α → β → Prop} {S : β → γ → Prop} {T : α → γ → Prop}
    (trans : ∀ a b c, R a b → S b c → T a c) {as : List α} {bs : List β} {cs : List γ}
    (h : List.Forall₂ R as bs) (h' : List.Forall₂ S bs cs) : List.Forall₂ T as cs := by
  induction h generalizing cs with
  | nil =>
    cases h'
    exact .nil
  | cons hhead _ ih =>
    cases h' with
    | cons hhead' htail' => exact .cons (trans _ _ _ hhead hhead') (ih htail')

theorem exists_rel_of_mem {α β : Type} {S : α → β → Prop} {xs : List α} {ys : List β}
    (h : List.Forall₂ S xs ys) {x : α} (hx : x ∈ xs) : ∃ y ∈ ys, S x y := by
  obtain ⟨i, hi, rfl⟩ := List.getElem_of_mem hx
  have hi' : i < ys.length := h.length_eq ▸ hi
  exact ⟨ys[i], List.getElem_mem hi', h.get hi hi'⟩

theorem pairwise_of_forall₂ {α β : Type} {S : α → β → Prop} {P : β → β → Prop} {Q : α → α → Prop}
    {xs : List α} {ys : List β} (h : List.Forall₂ S xs ys) (hys : ys.Pairwise P)
    (hQ : ∀ x x' y y', S x y → S x' y' → P y y' → Q x x') : xs.Pairwise Q := by
  rw [List.pairwise_iff_getElem] at hys ⊢
  intro i j hi hj hij
  have hi' : i < ys.length := h.length_eq ▸ hi
  have hj' : j < ys.length := h.length_eq ▸ hj
  exact hQ _ _ _ _ (h.get hi hi') (h.get hj hj') (hys i j hi' hj' hij)

theorem find?_eq_of_perm {α : Type} {p : α → Bool} {xs ys : List α} (h : xs.Perm ys)
    (unique : ∀ x ∈ xs, ∀ y ∈ xs, p x = true → p y = true → x = y) :
    xs.find? p = ys.find? p := by
  cases hx : xs.find? p with
  | none =>
    rw [List.find?_eq_none] at hx
    exact (List.find?_eq_none.mpr fun y hy => hx y (h.mem_iff.mpr hy)).symm
  | some x =>
    have hmem := List.mem_of_find?_eq_some hx
    have hp := List.find?_some hx
    cases hy : ys.find? p with
    | none => exact absurd hp (List.find?_eq_none.mp hy x (h.mem_iff.mp hmem))
    | some y =>
      rw [unique x hmem y (h.mem_iff.mpr (List.mem_of_find?_eq_some hy)) hp (List.find?_some hy)]

/-- In a list of pairs whose keys are distinct, what is listed is what is looked up. -/
theorem lookup_eq_some_iff_mem {α β : Type} [DecidableEq α] {pairs : List (α × β)}
    (distinct : (pairs.map (·.1)).Nodup) {a : α} {b : β} :
    pairs.lookup a = some b ↔ (a, b) ∈ pairs := by
  induction pairs with
  | nil => simp
  | cons first rest ih =>
    rcases first with ⟨a', b'⟩
    rw [List.map_cons, List.nodup_cons] at distinct
    rw [List.lookup_cons, List.mem_cons, Prod.mk.injEq]
    by_cases ha : a = a'
    · subst ha
      have hmissing : (a, b) ∉ rest := fun hmem => distinct.1 (List.mem_map.mpr ⟨_, hmem, rfl⟩)
      simp [hmissing, eq_comm]
    · rw [beq_eq_false_iff_ne.mpr ha]
      simp [ha, ih distinct.2]

theorem lookup_filter_ne {α β : Type} [DecidableEq α] (pairs : List (α × β)) (removed key : α) :
    (pairs.filter (·.1 != removed)).lookup key =
      if key = removed then none else pairs.lookup key := by
  induction pairs with
  | nil => simp
  | cons first rest ih =>
    rcases first with ⟨other, value⟩
    by_cases hother : other = removed
    · rw [List.filter_cons_of_neg (by simpa using hother), ih]
      split
      · rfl
      · rename_i hkey
        rw [List.lookup_cons, beq_eq_false_iff_ne.mpr (hother ▸ hkey)]
    · rw [List.filter_cons_of_pos (by simpa using hother), List.lookup_cons, List.lookup_cons, ih]
      by_cases hkey : key = other
      · rw [hkey, if_neg hother, if_neg hother]
      · rw [beq_eq_false_iff_ne.mpr hkey]

theorem getElem?_filter {α : Type} {p : α → Bool} {l : List α} {place : Nat} {a : α}
    (ha : l[place]? = some a) (hp : p a = true) :
    (l.filter p)[(l.take place).countP p]? = some a := by
  obtain ⟨hlt, rfl⟩ := List.getElem?_eq_some_iff.mp ha
  have hsplit : l = l.take place ++ l[place] :: l.drop (place + 1) := by
    rw [← List.drop_eq_getElem_cons hlt, List.take_append_drop]
  have hfilter : l.filter p =
      (l.take place).filter p ++ l[place] :: (l.drop (place + 1)).filter p := by
    conv_lhs => rw [hsplit]
    rw [List.filter_append, List.filter_cons_of_pos hp]
  rw [hfilter, List.countP_eq_length_filter, List.getElem?_append_right (Nat.le_refl _),
    Nat.sub_self, List.getElem?_cons_zero]

theorem mem_intercalate {α : Type} {sep : List α} {parts : List (List α)} {part : List α} {a : α}
    (hpart : part ∈ parts) (ha : a ∈ part) : a ∈ sep.intercalate parts := by
  induction parts with
  | nil => cases hpart
  | cons first rest ih =>
    cases rest with
    | nil =>
      obtain rfl := List.mem_singleton.mp hpart
      rwa [List.intercalate_singleton]
    | cons second rest =>
      rw [List.intercalate_cons_cons]
      rcases List.mem_cons.mp hpart with rfl | hlater
      · exact List.mem_append_left _ (List.mem_append_left _ ha)
      · exact List.mem_append_right _ (ih hlater)

theorem count_of_alternating {marks : List Bool} {first last : Bool}
    (h : (first :: marks).IsChain (· ≠ ·)) (hlast : (first :: marks).getLast? = some last) :
    marks.count true + first.toNat = marks.count false + last.toNat := by
  induction marks generalizing first with
  | nil =>
    obtain rfl : first = last := by simpa using hlast
    rfl
  | cons next rest ih =>
    rw [List.isChain_cons_cons] at h
    rw [List.getLast?_cons_cons] at hlast
    obtain rfl : first = !next := Bool.eq_not.mpr h.1
    have htrue : (next :: rest).count true = rest.count true + next.toNat := by
      cases next <;> simp
    have hfalse : (next :: rest).count false = rest.count false + (!next).toNat := by
      cases next <;> simp
    have hrest := ih h.2 hlast
    omega

/-! ### Answers -/

theorem eq_ok_of_toOption {ε α : Type} {x : Except ε α} {a : α} (h : x.toOption = some a) :
    x = .ok a := by
  cases x with
  | error e => cases h
  | ok b => rw [Option.some.inj h]

theorem bind_eq_ok_iff {α β ε : Type} {x : Except ε α} {f : α → Except ε β} {b : β} :
    (x >>= f) = .ok b ↔ ∃ a, x = .ok a ∧ f a = .ok b := by
  cases x <;> simp [bind, Except.bind]

theorem pure_eq_ok_iff {α ε : Type} {a b : α} : (pure a : Except ε α) = .ok b ↔ b = a := by
  simp [pure, Except.pure, eq_comm]

theorem of_map_eq_ok {ε α β : Type} {f : α → β} {x : Except ε α} {b : β}
    (h : x.map f = .ok b) : ∃ a, x = .ok a ∧ b = f a := by
  cases x with
  | error e => cases h
  | ok a => exact ⟨a, rfl, (Except.ok.inj h).symm⟩

theorem mapError_eq_error {ε ε' α : Type} {f : ε → ε'} {x : Except ε α} {e' : ε'}
    (h : x.mapError f = .error e') : ∃ e, x = .error e ∧ f e = e' := by
  cases x with
  | ok a => cases h
  | error e =>
    cases h
    exact ⟨e, rfl, rfl⟩

theorem mapM_eq_ok_iff_forall₂ {α β ε : Type} {f : α → Except ε β} {xs : List α} {ys : List β} :
    xs.mapM f = .ok ys ↔ List.Forall₂ (fun x y => f x = .ok y) xs ys := by
  induction xs generalizing ys with
  | nil => simp [pure_eq_ok_iff]
  | cons x xs ih =>
    simp only [List.mapM_cons, bind_eq_ok_iff, pure_eq_ok_iff, ih,
      List.forall₂_cons_left_iff]
    constructor
    · rintro ⟨y, hx, ys, hxs, rfl⟩
      exact ⟨y, ys, hx, hxs, rfl⟩
    · rintro ⟨y, ys, hx, hxs, rfl⟩
      exact ⟨y, hx, ys, hxs, rfl⟩

/-- A series fails with the first of its elements that fails. -/
theorem mapM_eq_error_iff {α β ε : Type} {f : α → Except ε β} {xs : List α} {e : ε} :
    xs.mapM f = .error e ↔ ∃ before x after, xs = before ++ x :: after ∧
      (∀ b ∈ before, ∃ y, f b = .ok y) ∧ f x = .error e := by
  induction xs with
  | nil =>
    constructor
    · nofun
    · rintro ⟨before, x, after, hxs, -⟩
      cases before <;> cases hxs
  | cons x xs ih =>
    rw [List.mapM_cons]
    cases hx : f x with
    | error e' =>
      constructor
      · intro h
        cases h
        exact ⟨[], x, xs, rfl, nofun, hx⟩
      · rintro ⟨before, x', after, hxs, hbefore, hfails⟩
        cases before with
        | nil =>
          cases hxs
          cases hx.symm.trans hfails
          rfl
        | cons b before =>
          cases hxs
          obtain ⟨y, hy⟩ := hbefore x List.mem_cons_self
          cases hx.symm.trans hy
    | ok y =>
      have hrest : (Except.ok y >>= fun y => xs.mapM f >>= fun ys => pure (y :: ys)) = .error e ↔
          xs.mapM f = .error e := by
        cases xs.mapM f <;> simp [bind, Except.bind, pure, Except.pure]
      rw [hrest, ih]
      constructor
      · rintro ⟨before, x', after, rfl, hbefore, hfails⟩
        exact ⟨x :: before, x', after, rfl, List.forall_mem_cons.mpr ⟨⟨y, hx⟩, hbefore⟩, hfails⟩
      · rintro ⟨before, x', after, hxs, hbefore, hfails⟩
        cases before with
        | nil =>
          cases hxs
          cases hx.symm.trans hfails
        | cons b before =>
          cases hxs
          exact ⟨before, x', after, rfl, (List.forall_mem_cons.mp hbefore).2, hfails⟩

theorem mapM_eq_ok_iff {α β ε : Type} {f : α → Except ε β} {P : α → Prop} {g : α → β}
    (h : ∀ a b, f a = .ok b ↔ P a ∧ b = g a) {xs : List α} {ys : List β} :
    xs.mapM f = .ok ys ↔ (∀ a ∈ xs, P a) ∧ ys = xs.map g := by
  induction xs generalizing ys with
  | nil => simp [pure_eq_ok_iff]
  | cons x xs ih =>
    rw [List.mapM_cons, List.forall_mem_cons, List.map_cons]
    simp only [bind_eq_ok_iff, pure_eq_ok_iff, h, ih]
    constructor
    · rintro ⟨-, ⟨hx, rfl⟩, -, ⟨hxs, rfl⟩, rfl⟩
      exact ⟨⟨hx, hxs⟩, rfl⟩
    · rintro ⟨⟨hx, hxs⟩, rfl⟩
      exact ⟨_, ⟨hx, rfl⟩, _, ⟨hxs, rfl⟩, rfl⟩

theorem exists_of_mem_mapM {α β ε : Type} {f : α → Except ε β} {xs : List α} {ys : List β}
    (h : xs.mapM f = .ok ys) {y : β} (hy : y ∈ ys) : ∃ x ∈ xs, f x = .ok y :=
  exists_rel_of_mem (mapM_eq_ok_iff_forall₂.mp h).flip hy

end Signalbox
