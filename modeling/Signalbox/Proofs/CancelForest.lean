import Mathlib.Logic.Relation
import Signalbox.CancelTokens

/-!
Whom a cancellation reaches. Tokens form a forest in which a token and its clones are one place:
all of them share one flag, and what is made below any of them descends from them all. A token is
cancelled when one at its own place or further up has been cancelled, whenever any of them were
made, and nothing else cancels it.
-/
namespace Signalbox

/-- A call on cancel tokens. The tokens are numbered as they are made. -/
inductive TokenCall where
  | new
  | child (token : Nat)
  | clone (token : Nat)
  | cancel (token : Nat)
deriving DecidableEq, Repr

/-- How a token has come to be. -/
inductive Making where
  | root
  | childOf (token : Nat)
  | cloneOf (token : Nat)
deriving DecidableEq, Repr

namespace TokenCall

def making? : TokenCall → Option Making
  | .new => some .root
  | .child token => some (.childOf token)
  | .clone token => some (.cloneOf token)
  | .cancel _ => none

def token? : TokenCall → Option Nat
  | .new => none
  | .child token | .clone token | .cancel token => some token

/-- With so many tokens at the start, each call names a token that is there by then. -/
def Named : Nat → List TokenCall → Prop
  | _, [] => True
  | count, c :: rest =>
    (∀ token, c.token? = some token → token < count) ∧ Named (count + c.making?.toList.length) rest

/-- How all tokens have come to be, the one before all calls first. -/
def makings (calls : List TokenCall) : List Making := .root :: calls.filterMap making?

end TokenCall

namespace Making

variable (made : List Making)

/-- The two are clones of one token, or one of the other. -/
def AreClones : Nat → Nat → Prop :=
  Relation.EqvGen fun source clone => made[clone]? = some (.cloneOf source)

/-- The first, or a clone of it, has been made below the second, or a clone of it. -/
def IsChild (token parent : Nat) : Prop :=
  ∃ first second, AreClones made token first ∧ made[first]? = some (.childOf second) ∧
    AreClones made second parent

def Descends : Nat → Nat → Prop := Relation.TransGen (IsChild made)

/-- Cancelling the first cancels the second. -/
def Reaches (source target : Nat) : Prop :=
  AreClones made source target ∨ Descends made target source

end Making

namespace CancelTokens

open Making

def call (c : CancelTokens) : TokenCall → CancelTokens
  | .new => c.new
  | .child token => c.child token
  | .clone token => c.clone token
  | .cancel token => c.cancel token

def callAll (c : CancelTokens) (calls : List TokenCall) : CancelTokens := calls.foldl call c

/-! ### Flags along the forest -/

/-- The flags of the tokens are those of a forest. Each token but a clone has brought a flag of its
own. -/
structure Grown (c : CancelTokens) (made : List Making) : Prop where
  length : c.tokens.length = made.length
  root : ∀ {t}, made[t]? = some .root → ∃ own, c.flags t = [own]
  child : ∀ {t s}, made[t]? = some (.childOf s) → s < t ∧ ∃ own, c.flags t = own :: c.flags s
  clone : ∀ {t s}, made[t]? = some (.cloneOf s) → s < t ∧ c.flags t = c.flags s
  counted : ∀ {t flag}, flag ∈ c.flags t → flag < c.flagCount
  own : ∀ {s t own}, (∀ u, made[s]? ≠ some (.cloneOf u)) → (∀ u, made[t]? ≠ some (.cloneOf u)) →
    (c.flags s).head? = some own → (c.flags t).head? = some own → s = t

variable {c c' : CancelTokens} {made : List Making} {added : List Nat} {s t : Nat}

theorem flags_of_append_of_lt (h : c'.tokens = c.tokens ++ [added]) (ht : t < c.tokens.length) :
    c'.flags t = c.flags t := by
  rw [flags, h, List.getElem?_append_left ht, flags]

theorem flags_of_append_last (h : c'.tokens = c.tokens ++ [added]) :
    c'.flags c.tokens.length = added := by
  rw [flags, h, List.getElem?_concat_length, Option.getD_some]

theorem lt_of_mem_flags {flag : Nat} (h : flag ∈ c.flags t) : t < c.tokens.length := by
  refine Nat.lt_of_not_le fun hge => ?_
  rw [flags, List.getElem?_eq_none hge] at h
  cases h

theorem grown_initial : Grown initial [.root] where
  length := rfl
  root {t} h := by
    cases t with
    | zero => exact ⟨0, rfl⟩
    | succ n => cases h
  child {t s} h := by cases t <;> cases h
  clone {t s} h := by cases t <;> cases h
  counted {t flag} h := by
    cases t with
    | zero => simpa [flags, initial] using h
    | succ n => simp [flags, initial] at h
  own {s t own} _ _ hs ht := by
    cases s with
    | succ n => simp [flags, initial] at hs
    | zero =>
      cases t with
      | succ n => simp [flags, initial] at ht
      | zero => rfl

def flagsOf (c : CancelTokens) : Making → List Nat
  | .root => [c.flagCount]
  | .childOf token => c.flagCount :: c.flags token
  | .cloneOf token => c.flags token

theorem Grown.append {m : Making} (h : Grown c made)
    (from_made : ∀ s, m = .childOf s ∨ m = .cloneOf s → s < made.length)
    (tokens : c'.tokens = c.tokens ++ [c.flagsOf m]) (more : c.flagCount ≤ c'.flagCount)
    (known : ∀ flag ∈ c.flagsOf m, flag < c'.flagCount) : Grown c' (made ++ [m]) := by
  have hlast : (made ++ [m])[made.length]? = some m := List.getElem?_concat_length
  have hsame {t : Nat} (ht : t < made.length) : (made ++ [m])[t]? = made[t]? :=
    List.getElem?_append_left ht
  have hnew : c'.flags made.length = c.flagsOf m := h.length ▸ flags_of_append_last tokens
  have hold {t : Nat} (ht : t < made.length) : c'.flags t = c.flags t :=
    flags_of_append_of_lt tokens (h.length ▸ ht)
  have hlength : c'.tokens.length = made.length + 1 := by
    rw [tokens, List.length_append, h.length, List.length_singleton]
  have hplace {t : Nat} {m' : Making} (ht : (made ++ [m])[t]? = some m') :
      t < made.length ∨ t = made.length := by
    have hlt := (List.getElem?_eq_some_iff.mp ht).1
    rw [List.length_append, List.length_singleton] at hlt
    exact Nat.lt_succ_iff_lt_or_eq.mp hlt
  have hflagged {t flag : Nat} (hflag : flag ∈ c'.flags t) :
      t < made.length ∨ t = made.length := by
    have hlt := lt_of_mem_flags hflag
    rw [hlength] at hlt
    exact Nat.lt_succ_iff_lt_or_eq.mp hlt
  -- Only the last token can have the new flag for its own, and it has unless it is a clone.
  have hown {t own : Nat} (original : ∀ u, (made ++ [m])[t]? ≠ some (.cloneOf u))
      (ht : (c'.flags t).head? = some own) :
      (t = made.length ∧ own = c.flagCount) ∨
        (t < made.length ∧ own ≠ c.flagCount ∧ (c.flags t).head? = some own) := by
    rcases hflagged (List.mem_of_mem_head? ht) with hlt | rfl
    · rw [hold hlt] at ht
      exact .inr ⟨hlt, Nat.ne_of_lt (h.counted (List.mem_of_mem_head? ht)), ht⟩
    · rw [hnew] at ht
      cases m with
      | cloneOf s => exact absurd hlast (original s)
      | root | childOf s => exact .inl ⟨rfl, (Option.some.inj ht).symm⟩
  constructor
  case length => rw [hlength, List.length_append, List.length_singleton]
  case root =>
    intro t ht
    rcases hplace ht with hlt | rfl
    · rw [hsame hlt] at ht
      rw [hold hlt]
      exact h.root ht
    · cases hlast.symm.trans ht
      exact ⟨_, hnew⟩
  case child =>
    intro t s ht
    rcases hplace ht with hlt | rfl
    · rw [hsame hlt] at ht
      obtain ⟨hs, hown⟩ := h.child ht
      rw [hold hlt, hold (Nat.lt_trans hs hlt)]
      exact ⟨hs, hown⟩
    · cases hlast.symm.trans ht
      have hs := from_made s (.inl rfl)
      rw [hnew, hold hs]
      exact ⟨hs, _, rfl⟩
  case clone =>
    intro t s ht
    rcases hplace ht with hlt | rfl
    · rw [hsame hlt] at ht
      obtain ⟨hs, hflags⟩ := h.clone ht
      rw [hold hlt, hold (Nat.lt_trans hs hlt)]
      exact ⟨hs, hflags⟩
    · cases hlast.symm.trans ht
      have hs := from_made s (.inr rfl)
      rw [hnew, hold hs]
      exact ⟨hs, rfl⟩
  case counted =>
    intro t flag hflag
    rcases hflagged hflag with hlt | rfl
    · rw [hold hlt] at hflag
      exact Nat.lt_of_lt_of_le (h.counted hflag) more
    · rw [hnew] at hflag
      exact known flag hflag
  case own =>
    intro s t own hs ht hsown htown
    rcases hown hs hsown with ⟨rfl, rfl⟩ | ⟨hslt, hne, hsown⟩
    · rcases hown ht htown with ⟨rfl, -⟩ | ⟨-, hne, -⟩
      · rfl
      · exact absurd rfl hne
    · rcases hown ht htown with ⟨-, rfl⟩ | ⟨htlt, -, htown⟩
      · exact absurd rfl hne
      · simp only [hsame hslt] at hs
        simp only [hsame htlt] at ht
        exact h.own hs ht hsown htown

/-! ### Calls -/

theorem Grown.call (h : Grown c made) (x : TokenCall)
    (named : ∀ token, x.token? = some token → token < made.length) :
    Grown (c.call x) (made ++ x.making?.toList) := by
  cases x with
  | new =>
    refine h.append (m := .root) (by simp) rfl (Nat.le_succ _) ?_
    simp [flagsOf, CancelTokens.call, new, addBelow]
  | child token =>
    refine h.append (m := .childOf token) (by simpa using named token rfl) rfl (Nat.le_succ _) ?_
    intro flag hflag
    rcases List.mem_cons.mp hflag with rfl | habove
    · exact Nat.lt_succ_self _
    · exact Nat.lt_succ_of_lt (h.counted habove)
  | clone token =>
    refine h.append (m := .cloneOf token) (by simpa using named token rfl) rfl (Nat.le_refl _) ?_
    exact fun flag hflag => h.counted hflag
  | cancel token =>
    rw [show TokenCall.making? (.cancel token) = none from rfl, Option.toList_none,
      List.append_nil]
    exact ⟨h.length, h.root, h.child, h.clone, h.counted, h.own⟩

theorem Grown.callAll (h : Grown c made) {calls : List TokenCall}
    (named : TokenCall.Named made.length calls) :
    Grown (c.callAll calls) (made ++ calls.filterMap TokenCall.making?) := by
  induction calls generalizing c made with
  | nil => simpa [CancelTokens.callAll] using h
  | cons x rest ih =>
    obtain ⟨hx, hrest⟩ := named
    have hnext := ih (h.call x hx) (by simpa using hrest)
    rw [List.append_assoc] at hnext
    rw [List.filterMap_cons]
    cases hm : x.making? <;> simpa [hm, CancelTokens.callAll] using hnext

/-! ### Flags tell the places -/

theorem Grown.flags_eq_of_clones (h : Grown c made) (hst : AreClones made s t) :
    c.flags s = c.flags t := by
  induction hst with
  | rel s t hmade => exact (h.clone hmade).2.symm
  | refl s => rfl
  | symm s t _ ih => exact ih.symm
  | trans s t u _ _ ih ih' => exact ih.trans ih'

theorem Grown.exists_original (h : Grown c made) (ht : t < made.length) :
    ∃ t' < made.length, AreClones made t' t ∧ ∀ u, made[t']? ≠ some (.cloneOf u) := by
  induction t using Nat.strongRecOn with
  | ind t ih =>
    by_cases hclone : ∃ u, made[t]? = some (.cloneOf u)
    · obtain ⟨u, hu⟩ := hclone
      have hlt := (h.clone hu).1
      obtain ⟨t', ht', hclones, horiginal⟩ := ih u hlt (Nat.lt_trans hlt ht)
      exact ⟨t', ht', hclones.trans _ _ _ (.rel _ _ hu), horiginal⟩
    · exact ⟨t, ht, .refl t, not_exists.mp hclone⟩

theorem Grown.clones_of_head (h : Grown c made) {own : Nat} (hs : s < made.length)
    (ht : t < made.length) (hsown : (c.flags s).head? = some own)
    (htown : (c.flags t).head? = some own) : AreClones made s t := by
  obtain ⟨s', -, hss', hs'⟩ := h.exists_original hs
  obtain ⟨t', -, htt', ht'⟩ := h.exists_original ht
  rw [← h.flags_eq_of_clones hss'] at hsown
  rw [← h.flags_eq_of_clones htt'] at htown
  obtain rfl := h.own hs' ht' hsown htown
  exact (hss'.symm).trans _ _ _ htt'

theorem Grown.exists_flags (h : Grown c made) (ht : t < made.length) :
    ∃ own above, c.flags t = own :: above ∧
      (above = [] ∨ ∃ s < made.length, IsChild made t s ∧ c.flags s = above) := by
  obtain ⟨t', ht', hclones, horiginal⟩ := h.exists_original ht
  rw [← h.flags_eq_of_clones hclones]
  cases hmade : made.get ⟨t', ht'⟩ with
  | root =>
    obtain ⟨own, hown⟩ := h.root (List.getElem?_eq_some_iff.mpr ⟨ht', hmade⟩)
    exact ⟨own, [], hown, .inl rfl⟩
  | childOf s =>
    have hchild := List.getElem?_eq_some_iff.mpr ⟨ht', hmade⟩
    obtain ⟨hs, own, hown⟩ := h.child hchild
    exact ⟨own, c.flags s, hown,
      .inr ⟨s, Nat.lt_trans hs ht', ⟨t', s, hclones.symm, hchild, .refl s⟩, rfl⟩⟩
  | cloneOf s => exact absurd (List.getElem?_eq_some_iff.mpr ⟨ht', hmade⟩) (horiginal s)

theorem Grown.flags_of_isChild (h : Grown c made) (hchild : IsChild made t s) :
    ∃ own, c.flags t = own :: c.flags s := by
  obtain ⟨t', s', ht, hmade, hs⟩ := hchild
  rw [h.flags_eq_of_clones ht, ← h.flags_eq_of_clones hs]
  exact (h.child hmade).2

theorem Grown.flags_of_descends (h : Grown c made) (hdescends : Descends made t s) :
    c.flags s <:+ c.flags t ∧ (c.flags s).length < (c.flags t).length := by
  induction hdescends with
  | single hchild =>
    obtain ⟨own, hown⟩ := h.flags_of_isChild hchild
    rw [hown]
    exact ⟨List.suffix_cons .., Nat.lt_succ_self _⟩
  | tail _ hchild ih =>
    obtain ⟨own, hown⟩ := h.flags_of_isChild hchild
    rw [hown] at ih
    exact ⟨(List.suffix_cons ..).trans ih.1, Nat.lt_trans (Nat.lt_succ_self _) ih.2⟩

theorem Grown.reaches_of_mem (h : Grown c made) {own : Nat} (hs : s < made.length)
    (hown : (c.flags s).head? = some own) (ht : t < made.length) (hmem : own ∈ c.flags t) :
    Reaches made s t := by
  generalize hflags : c.flags t = flags at hmem
  induction flags generalizing t with
  | nil => cases hmem
  | cons first above ih =>
    rcases List.mem_cons.mp hmem with rfl | habove
    · exact .inl (h.clones_of_head hs ht hown (by rw [hflags]; rfl))
    · obtain ⟨own', above', hflags', rfl | ⟨u, hu, hchild, rfl⟩⟩ := h.exists_flags ht
      · cases hflags.symm.trans hflags'
        cases habove
      · cases hflags.symm.trans hflags'
        refine .inr ?_
        rcases ih hu rfl habove with hclones | hdescends
        · obtain ⟨first, second, hfirst, hmade, hsecond⟩ := hchild
          exact .single ⟨first, second, hfirst, hmade, hsecond.trans _ _ _ hclones.symm⟩
        · exact .head hchild hdescends

theorem Grown.reaches_iff (h : Grown c made) {own : Nat} (hs : s < made.length)
    (hown : (c.flags s).head? = some own) (ht : t < made.length) :
    Reaches made s t ↔ own ∈ c.flags t := by
  refine ⟨?_, h.reaches_of_mem hs hown ht⟩
  have hmem := List.mem_of_mem_head? hown
  rintro (hclones | hdescends)
  · rwa [← h.flags_eq_of_clones hclones]
  · exact (h.flags_of_descends hdescends).1.subset hmem

theorem Grown.suffix_of_reaches (h : Grown c made) (hst : Reaches made s t) :
    c.flags s <:+ c.flags t := by
  rcases hst with hclones | hdescends
  · exact h.flags_eq_of_clones hclones ▸ List.suffix_rfl
  · exact (h.flags_of_descends hdescends).1

theorem Grown.not_reaches_of_descends (h : Grown c made) (hdescends : Descends made s t) :
    ¬ Reaches made s t := by
  intro hreaches
  exact Nat.not_le_of_lt (h.flags_of_descends hdescends).2 (h.suffix_of_reaches hreaches).length_le

theorem Grown.not_reaches_of_siblings (h : Grown c made) {p q : Nat}
    (hs : made[s]? = some (.childOf p)) (ht : made[t]? = some (.childOf q))
    (hpq : AreClones made p q) (hne : s ≠ t) : ¬ Reaches made s t := by
  intro hreaches
  have hsuffix := h.suffix_of_reaches hreaches
  obtain ⟨-, own, hown⟩ := h.child hs
  obtain ⟨-, own', hown'⟩ := h.child ht
  have hflags : c.flags s = c.flags t := by
    refine hsuffix.eq_of_length ?_
    rw [hown, hown', List.length_cons, List.length_cons, h.flags_eq_of_clones hpq]
  have hfirst : (c.flags s).head? = some own := by rw [hown, List.head?_cons]
  exact hne (h.own (by simp [hs]) (by simp [ht]) hfirst (hflags ▸ hfirst))

theorem Grown.not_reaches_of_roots (h : Grown c made) {r r' : Nat}
    (hr : made[r]? = some .root) (hr' : made[r']? = some .root) (hne : r ≠ r')
    (hs : Reaches made r s) (ht : Reaches made r' t) : ¬ Reaches made s t := by
  intro hreaches
  obtain ⟨own, hown⟩ := h.root hr
  obtain ⟨own', hown'⟩ := h.root hr'
  have hsuffix := (h.suffix_of_reaches hs).trans (h.suffix_of_reaches hreaches)
  have hsame : c.flags r = c.flags r' := by
    refine (List.suffix_of_suffix_length_le hsuffix (h.suffix_of_reaches ht) ?_).eq_of_length ?_
    · rw [hown, hown']
      exact Nat.le_refl _
    · rw [hown, hown']
      rfl
  have hfirst : (c.flags r).head? = some own := by rw [hown, List.head?_cons]
  exact hne (h.own (by simp [hr]) (by simp [hr']) hfirst (hsame ▸ hfirst))

/-! ### What is set -/

theorem flags_call (c : CancelTokens) (x : TokenCall) (ht : t < c.tokens.length) :
    (c.call x).flags t = c.flags t := by
  cases x with
  | cancel token => rfl
  | new | child | clone =>
    exact flags_of_append_of_lt rfl ht

theorem length_call (c : CancelTokens) (x : TokenCall) :
    c.tokens.length ≤ (c.call x).tokens.length := by
  cases x <;> simp [call, new, child, clone, cancel, addBelow]

theorem flags_callAll (calls : List TokenCall) (ht : t < c.tokens.length) :
    (c.callAll calls).flags t = c.flags t := by
  induction calls generalizing c with
  | nil => rfl
  | cons x rest ih =>
    exact (ih (Nat.lt_of_lt_of_le ht (length_call c x))).trans (flags_call c x ht)

theorem mem_set_call (c : CancelTokens) (x : TokenCall) {flag : Nat} :
    flag ∈ (c.call x).set ↔
      (∃ s, x = .cancel s ∧ (c.flags s).head? = some flag) ∨ flag ∈ c.set := by
  cases x <;> simp [call, new, child, clone, cancel, addBelow]

theorem Grown.mem_set_callAll (h : Grown c made) {calls : List TokenCall}
    (named : TokenCall.Named made.length calls) {flag : Nat} :
    flag ∈ (c.callAll calls).set ↔
      (∃ s, .cancel s ∈ calls ∧ ((c.callAll calls).flags s).head? = some flag) ∨
        flag ∈ c.set := by
  induction calls generalizing c made with
  | nil => simp [CancelTokens.callAll]
  | cons x rest ih =>
    obtain ⟨hx, hrest⟩ := named
    have hnext := ih (h.call x hx) (by simpa using hrest)
    have hflags {s : Nat} (hs : x = .cancel s) :
        ((c.call x).callAll rest).flags s = c.flags s := by
      have hlt : s < c.tokens.length := h.length ▸ hx s (by rw [hs]; rfl)
      rw [flags_callAll rest (Nat.lt_of_lt_of_le hlt (length_call c x)), flags_call c x hlt]
    change flag ∈ ((c.call x).callAll rest).set ↔
      (∃ s, .cancel s ∈ x :: rest ∧
        (((c.call x).callAll rest).flags s).head? = some flag) ∨ flag ∈ c.set
    rw [hnext, mem_set_call, ← or_assoc]
    refine or_congr_left ?_
    constructor
    · rintro (⟨s, hs, hown⟩ | ⟨s, hs, hown⟩)
      · exact ⟨s, List.mem_cons_of_mem x hs, hown⟩
      · exact ⟨s, by rw [hs]; exact List.mem_cons_self, by rw [hflags hs]; exact hown⟩
    · rintro ⟨s, hs, hown⟩
      rcases List.mem_cons.mp hs with hnow | hlater
      · exact .inr ⟨s, hnow.symm, by rw [← hflags hnow.symm]; exact hown⟩
      · exact .inl ⟨s, hlater, hown⟩

theorem wait_zero (t : Nat) (now : Look) (later : List Look) :
    wait t 0 now later = now.tokens.isCancelled t := by
  rw [isCancelled_eq]
  cases later with
  | nil => rfl
  | cons next later =>
    rw [wait]
    cases now.tokens.ownSet t <;> simp

theorem isCancelled_iff : c.isCancelled t = true ↔ ∃ flag ∈ c.flags t, flag ∈ c.set := by
  simp [isCancelled]

theorem isCancelled_call (x : TokenCall) (h : c.isCancelled t = true) :
    (c.call x).isCancelled t = true := by
  rw [isCancelled_iff] at h ⊢
  obtain ⟨flag, hmem, hset⟩ := h
  rw [flags_call c x (lt_of_mem_flags hmem)]
  exact ⟨flag, hmem, (mem_set_call c x).mpr (.inr hset)⟩

theorem isCancelled_callAll (calls : List TokenCall) (h : c.isCancelled t = true) :
    (c.callAll calls).isCancelled t = true := by
  induction calls generalizing c with
  | nil => exact h
  | cons x rest ih => exact ih (isCancelled_call x h)

theorem Grown.exists_own (h : Grown c made) (ht : t < made.length) :
    ∃ own, (c.flags t).head? = some own := by
  obtain ⟨own, above, hflags, -⟩ := h.exists_flags ht
  exact ⟨own, by rw [hflags]; rfl⟩

theorem Grown.isCancelled_cancel_iff (h : Grown c made) (hs : s < made.length)
    (ht : t < made.length) :
    (c.cancel s).isCancelled t = true ↔ Reaches made s t ∨ c.isCancelled t = true := by
  obtain ⟨own, hown⟩ := h.exists_own hs
  rw [h.reaches_iff hs hown ht, isCancelled_iff, isCancelled_iff]
  change (∃ flag ∈ c.flags t, flag ∈ (c.call (.cancel s)).set) ↔ _
  simp only [mem_set_call, TokenCall.cancel.injEq, exists_eq_left', hown, Option.some.injEq,
    and_or_left, exists_or, exists_eq_right']

theorem token_lt_of_named {calls : List TokenCall} {count : Nat}
    (named : TokenCall.Named count calls) (hs : .cancel s ∈ calls) :
    s < count + (calls.filterMap TokenCall.making?).length := by
  induction calls generalizing count with
  | nil => cases hs
  | cons x rest ih =>
    obtain ⟨hx, hrest⟩ := named
    rw [List.filterMap_cons]
    rcases List.mem_cons.mp hs with rfl | hlater
    · exact Nat.lt_add_right _ (hx s rfl)
    · have hlt := ih hrest hlater
      cases hm : x.making? with
      | none => simpa [hm] using hlt
      | some m =>
        rw [hm] at hlt
        simp only [Option.toList_some, List.length_cons, List.length_nil] at hlt ⊢
        omega

/-- A token is cancelled exactly if one at its own place in the forest, or one that it descends
from, has been cancelled. So a cancellation reaches the clones of a token and all that descends
from them, whenever it was made, and none that the token descends from, no other child at the same
place and nothing below another root. It is never undone. A wait without length tells whether the
token is cancelled. -/
theorem isCancelled_iff_reached (calls : List TokenCall) (named : TokenCall.Named 1 calls) :
    let c := initial.callAll calls
    let made := TokenCall.makings calls
    c.tokens.length = made.length ∧
    (∀ t < made.length, c.isCancelled t = true ↔ ∃ s, .cancel s ∈ calls ∧ Reaches made s t) ∧
    (∀ s < made.length, ∀ t < made.length,
      (c.cancel s).isCancelled t = true ↔ Reaches made s t ∨ c.isCancelled t = true) ∧
    (∀ s t, Descends made s t → ¬ Reaches made s t) ∧
    (∀ s t p q, made[s]? = some (.childOf p) → made[t]? = some (.childOf q) →
      AreClones made p q → s ≠ t → ¬ Reaches made s t) ∧
    (∀ r r' s t, made[r]? = some .root → made[r']? = some .root → r ≠ r' → Reaches made r s →
      Reaches made r' t → ¬ Reaches made s t) ∧
    (∀ t more, c.isCancelled t = true → (c.callAll more).isCancelled t = true) ∧
    ∀ t elapsed later, wait t 0 ⟨elapsed, c⟩ later = c.isCancelled t := by
  intro c made
  have h : Grown c made := grown_initial.callAll named
  have hset (flag : Nat) : flag ∈ c.set ↔
      ∃ s, .cancel s ∈ calls ∧ (c.flags s).head? = some flag :=
    (grown_initial.mem_set_callAll named).trans (or_iff_left List.not_mem_nil)
  have hcancelled {s : Nat} (hs : .cancel s ∈ calls) : s < made.length := by
    have hlt := token_lt_of_named named hs
    rwa [Nat.add_comm] at hlt
  refine ⟨h.length, ?_, fun s hs t ht => h.isCancelled_cancel_iff hs ht,
    fun s t => h.not_reaches_of_descends, fun s t p q => h.not_reaches_of_siblings,
    fun r r' s t => h.not_reaches_of_roots, fun t more => isCancelled_callAll more,
    fun t elapsed later => wait_zero t ⟨elapsed, c⟩ later⟩
  intro t ht
  rw [isCancelled_iff]
  constructor
  · rintro ⟨flag, hmem, hflag⟩
    obtain ⟨s, hs, hown⟩ := (hset flag).mp hflag
    exact ⟨s, hs, (h.reaches_iff (hcancelled hs) hown ht).mpr hmem⟩
  · rintro ⟨s, hs, hreaches⟩
    obtain ⟨own, hown⟩ := h.exists_own (hcancelled hs)
    exact ⟨own, (h.reaches_iff (hcancelled hs) hown ht).mp hreaches, (hset own).mpr ⟨s, hs, hown⟩⟩

/-- A clone of a child of the first token is cancelled. That cancels what is made below the child
itself later, but neither the first token nor a new root. -/
theorem later_child_of_clone_cancelled :
    let calls := [.child 0, .clone 1, .new, .cancel 2, .child 1]
    let c := initial.callAll calls
    TokenCall.Named 1 calls ∧ (List.range 5).map c.isCancelled = [false, true, true, false, true] ∧
      ∃ s, .cancel s ∈ calls ∧ Reaches (TokenCall.makings calls) s 4 := by
  intro calls c
  have hnamed : TokenCall.Named 1 calls := by simp [calls, TokenCall.Named, TokenCall.token?,
    TokenCall.making?]
  have hcancelled : (List.range 5).map c.isCancelled = [false, true, true, false, true] := by
    decide
  obtain ⟨-, hiff, -⟩ := isCancelled_iff_reached calls hnamed
  exact ⟨hnamed, hcancelled, (hiff 4 (by decide)).mp (by decide)⟩

end CancelTokens

end Signalbox
