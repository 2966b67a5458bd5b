import Mathlib.Data.List.DropRight
import Signalbox.Decimal.Literal
import Signalbox.Decimal.Style
import Signalbox.Proofs.JsonGrammar

/-!
How numbers without a sign are written out. The shortest digits of a number that is not zero start
with another digit than zero, so that every finite number is written as a number of JSON.
-/
namespace Signalbox

open Json

theorem exists_toDigits_eq_cons {n : Nat} (h : n ≠ 0) :
    ∃ c rest, Nat.toDigits 10 n = c :: rest ∧ c ≠ '0' := by
  induction n using Nat.strong_induction_on with
  | _ n ih =>
    rw [Nat.toDigits_eq_if (by decide)]
    split
    · rename_i hlt
      refine ⟨n.digitChar, [], rfl, fun hzero => ?_⟩
      have hcode := congrArg Char.toNat hzero
      rw [Nat.toNat_digitChar_of_lt_ten hlt] at hcode
      simp at hcode
      omega
    · obtain ⟨c, rest, hdigits, hc⟩ := ih (n / 10) (by omega) (by omega)
      exact ⟨c, rest ++ [(n % 10).digitChar], by rw [hdigits, List.cons_append], hc⟩

theorem two_pow_le_units {a b m n : Nat} (h : a ≤ 3 * b + 3) (hm : 0 < m) (hn : 1 ≤ n) :
    Nat.pow 2 a ≤ 4 * m * Nat.pow 2 n * Nat.pow 10 b := by
  have hgrid : 8 ^ b ≤ 10 ^ b := Nat.pow_le_pow_left (by decide) b
  have hbinade : 2 ^ 1 ≤ 2 ^ n := Nat.pow_le_pow_right (by decide) hn
  have hthree : 2 ^ (3 * b + 3) = 4 * 2 ^ 1 * 8 ^ b := by
    have height : 2 ^ (3 * b) = 8 ^ b := Nat.pow_mul 2 3 b
    rw [Nat.pow_add, height]
    omega
  calc
    2 ^ a ≤ 2 ^ (3 * b + 3) := Nat.pow_le_pow_right (by decide) h
    _ = 4 * 2 ^ 1 * 8 ^ b := hthree
    _ ≤ 4 * m * 2 ^ n * 10 ^ b :=
      Nat.mul_le_mul (Nat.mul_le_mul (Nat.le_mul_of_pos_right 4 hm) hbinade) hgrid

namespace Binary64

/-! ### Codes without a sign -/

theorem ofRatio_code_le (num den : Nat) : (ofRatio num den).code ≤ infinity.code := by
  unfold ofRatio
  split
  · exact Nat.zero_le _
  · exact Nat.min_le_right _ _

theorem code_le_of_ofChars {cs : List Char} {x : Binary64} (h : ofChars? cs = some x) :
    x.code ≤ infinity.code := by
  obtain ⟨literal, -, rfl⟩ := Option.map_eq_some_iff.mp h
  unfold DecimalLiteral.value
  dsimp only
  split
  · exact Nat.zero_le _
  · split
    · exact Nat.le_refl _
    · exact ofRatio_code_le _ _

theorem lt_infinity_of_ne {x : Binary64} (h : x.code ≤ infinity.code) (hne : x ≠ infinity) :
    x.code < infinity.code := by
  refine Nat.lt_of_le_of_ne h fun hcode => hne ?_
  obtain ⟨code, hlt⟩ := x
  subst hcode
  rfl

section Finite

variable {x : Binary64} (h : x.code < infinity.code)
include h

theorem magnitude_of_lt_infinity : x.magnitude = x.code :=
  Nat.mod_eq_of_lt (Nat.lt_trans h (by decide))

theorem isNaN_of_lt_infinity : x.isNaN = false := by
  simpa [isNaN, magnitude_of_lt_infinity h] using h.le

theorem isInfinite_of_lt_infinity : x.isInfinite = false := by
  simpa [isInfinite, magnitude_of_lt_infinity h] using h.ne

theorem isNegative_of_lt_infinity : x.isNegative = false := by
  have hlt : x.code < Nat.pow 2 63 := Nat.lt_trans h (by decide)
  simpa [isNegative] using hlt

end Finite

/-! ### Shortest digits -/

section Shortest

variable {x : Binary64} (h : x.magnitude ≠ 0)
include h

theorem significand_pos : 0 < x.significand := by
  unfold significand
  split
  · exact Nat.pos_of_ne_zero h
  · exact Nat.add_pos_right _ (by decide)

theorem readsBack_zero : x.readsBack 0 = false := by
  have hsignificand := significand_pos h
  have hlow : 0 < x.interval.1 := by
    unfold interval
    generalize 400 = places
    refine Nat.mul_pos (Nat.mul_pos ?_ (Nat.pow_pos (by decide))) (Nat.pow_pos (by decide))
    split <;> omega
  unfold readsBack
  dsimp only
  split
  · simp [Nat.not_le.mpr hlow]
  · simp

theorem pos_of_nearestOnGrid {j d : Nat} (hd : x.nearestOnGrid? j = some d) : 0 < d := by
  unfold nearestOnGrid? at hd
  dsimp only at hd
  split at hd
  · rw [← Option.some.inj hd]
    exact Nat.succ_pos _
  · split at hd
    · rename_i hlower
      rw [Option.some.inj hd] at hlower
      refine Nat.pos_of_ne_zero fun hzero => ?_
      rw [hzero, Nat.zero_mul, readsBack_zero h] at hlower
      cases hlower
    · cases hd

theorem inUnits_div_pos : 0 < x.inUnits / Nat.pow 2 1077 := by
  have hscale : 1 ≤ x.scale := Nat.le_max_right _ _
  unfold inUnits
  generalize hbinades : 1077 = binades
  generalize hplaces : 400 = places
  exact Nat.div_pos (two_pow_le_units (by omega) (significand_pos h) hscale)
    (Nat.pow_pos (by decide))

theorem shortestFrom_pos (j : Nat) : 0 < (x.shortestFrom j).1 := by
  induction j with
  | zero => exact inUnits_div_pos h
  | succ j ih =>
    unfold shortestFrom
    split
    · rename_i d hd
      exact pos_of_nearestOnGrid h hd
    · exact ih

theorem exists_shortest_digits : ∃ c rest, x.shortest.digits = c :: rest ∧ c.isDigit = true ∧
    c ≠ '0' ∧ ∀ d ∈ rest, d.isDigit = true := by
  have hpos := shortestFrom_pos h x.topGrid
  unfold shortest
  generalize x.shortestFrom x.topGrid = found at hpos ⊢
  obtain ⟨c, rest, hdigits, hc⟩ := exists_toDigits_eq_cons hpos.ne'
  have hcut : (DecimalDigits.onGrid found).digits <+: Nat.toDigits 10 found.1 :=
    List.rdropWhile_prefix _ _
  have hdigit : ∀ d ∈ (DecimalDigits.onGrid found).digits, d.isDigit = true := fun d hd =>
    Nat.isDigit_of_mem_toDigits (by decide) (by decide) (hcut.subset hd)
  cases hleft : (DecimalDigits.onGrid found).digits with
  | nil =>
    have hzeros := List.rdropWhile_eq_nil_iff.mp hleft c (by simp [hdigits])
    exact absurd (by simpa using hzeros) hc
  | cons c' rest' =>
    rw [hleft] at hcut hdigit
    rw [hdigits] at hcut
    obtain ⟨rfl, -⟩ := List.cons_prefix_cons.mp hcut
    rw [List.forall_mem_cons] at hdigit
    exact ⟨c', rest', rfl, hdigit.1, hc, hdigit.2⟩

end Shortest

end Binary64

namespace NumberStyle

theorem render_infinity : plain.render .infinity = "inf" := by decide

theorem isNumber_positional {x : DecimalDigits} {c : Char} {rest : List Char}
    (hdigits : x.digits = c :: rest) (hc : c.isDigit = true) (nonzero : c ≠ '0')
    (hrest : ∀ d ∈ rest, d.isDigit = true) : IsNumber (plain.positional x).toList := by
  have hzeros (n : Nat) : ∀ d ∈ List.replicate n '0', d.isDigit = true := by
    intro d hd
    rw [List.eq_of_mem_replicate hd]
    rfl
  unfold positional
  rw [hdigits]
  split
  · -- nothing but zeros stands between the point and the digits
    have hfraction : AreDigits (List.replicate (-x.point).toNat '0' ++ c :: rest) := by
      refine ⟨by simp, ?_⟩
      rw [List.forall_mem_append, List.forall_mem_cons]
      exact ⟨hzeros _, hc, hrest⟩
    simpa using IsWhole.zero.isNumber (.digits hfraction)
  · dsimp only
    split
    · have hfilled : ∀ d ∈ rest ++ List.replicate (x.point.toNat - (c :: rest).length) '0',
          d.isDigit = true := List.forall_mem_append.mpr ⟨hrest, hzeros _⟩
      simpa [plain] using (IsWhole.digits hc nonzero hfilled).isNumber .absent
    · rename_i hpoint hlong
      obtain ⟨places, hplaces⟩ : ∃ places, x.point.toNat = places + 1 :=
        Nat.exists_eq_add_one.mpr (by omega)
      rw [hplaces] at hlong ⊢
      have hbefore : ∀ d ∈ rest.take places, d.isDigit = true :=
        fun d hd => hrest d (List.mem_of_mem_take hd)
      have hbehind : AreDigits (rest.drop places) :=
        ⟨by simpa using hlong, fun d hd => hrest d (List.mem_of_mem_drop hd)⟩
      simpa using (IsWhole.digits hc nonzero hbefore).isNumber (.digits hbehind)

theorem isNumber_render {x : Binary64} (h : x.code < Binary64.infinity.code) :
    IsNumber (plain.render x).toList := by
  have hrender : plain.render x = plain.renderMagnitude x := by
    simp [render, Binary64.isNaN_of_lt_infinity h, Binary64.isNegative_of_lt_infinity h]
  have hfinite := Binary64.isInfinite_of_lt_infinity h
  have hplace (point : Int) : plain.usesExponent point = false := rfl
  rw [hrender]
  by_cases hzero : x.magnitude = 0
  · have hzeroText : plain.renderMagnitude x = "0" := by
      simp only [renderMagnitude, hfinite, hzero, Bool.false_eq_true, if_false, if_true]
      rfl
    rw [hzeroText]
    exact IsWhole.zero.isNumber .absent
  · have hdigitText : plain.renderMagnitude x = plain.positional x.shortest := by
      simp only [renderMagnitude, hfinite, hzero, hplace, Bool.false_eq_true, if_false]
    rw [hdigitText]
    obtain ⟨c, rest, hdigits, hc, nonzero, hrest⟩ := Binary64.exists_shortest_digits hzero
    exact isNumber_positional hdigits hc nonzero hrest

end NumberStyle

end Signalbox
