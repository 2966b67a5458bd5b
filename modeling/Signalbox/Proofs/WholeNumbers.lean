import Mathlib.Data.Nat.Dist
import Signalbox.Proofs.NumberText

/-!
Whole numbers in the binary64 format. Up to 53 binary digits are kept. A longer number is rounded to
the nearest number of the format, a tie to the even one, and from half a step above the greatest
number of the format on it is read as infinity.
-/
namespace Signalbox.Binary64

/-! ### Rounded quotients -/

section Quotients

variable {num den : Nat}

theorem roundRatio_eq_or (num den : Nat) :
    roundRatio num den = num / den ∨ roundRatio num den = num / den + 1 := by
  unfold roundRatio
  dsimp only
  split
  · exact .inl rfl
  · split
    · exact .inr rfl
    · omega

/-- The rounded quotient is at most half a unit away, and even where it is just half a unit. -/
theorem roundRatio_near (num : Nat) (h : 0 < den) :
    2 * num ≤ 2 * (roundRatio num den * den) + den ∧
      2 * (roundRatio num den * den) ≤ 2 * num + den ∧
      (2 * Nat.dist num (roundRatio num den * den) = den → roundRatio num den % 2 = 0) := by
  have hdiv : num / den * den + num % den = num := Nat.div_add_mod' num den
  have hmod : num % den < den := Nat.mod_lt num h
  unfold roundRatio Nat.dist
  dsimp only
  split
  · omega
  · split
    · rw [Nat.add_mul, Nat.one_mul]
      omega
    · rcases Nat.mod_two_eq_zero_or_one (num / den) with heven | hodd
      · rw [heven, Nat.add_zero]
        omega
      · rw [hodd, Nat.add_mul, Nat.one_mul]
        omega

theorem le_roundRatio {low : Nat} (h : 0 < den) (hlow : low * den ≤ num) :
    low ≤ roundRatio num den := by
  have hdiv : low ≤ num / den := (Nat.le_div_iff_mul_le h).mpr hlow
  rcases roundRatio_eq_or num den with heq | heq <;> omega

theorem roundRatio_le {high : Nat} (h : 0 < den) (hhigh : num ≤ high * den) :
    roundRatio num den ≤ high := by
  obtain ⟨-, hnear, -⟩ := roundRatio_near num h
  by_contra hgt
  have hmul : (high + 1) * den ≤ roundRatio num den * den :=
    Nat.mul_le_mul_right den (Nat.lt_of_not_le hgt)
  rw [Nat.add_mul, Nat.one_mul] at hmul
  omega

theorem roundRatio_lt_two_mul_iff (num : Nat) {c : Nat} (h : 0 < den) (hc : 0 < c) :
    roundRatio num den < 2 * c ↔ 2 * num < (4 * c - 1) * den := by
  obtain ⟨hbelow, habove, heven⟩ := roundRatio_near num h
  have hbound : (4 * c - 1) * den + den = 2 * c * den + 2 * c * den := by
    rw [← Nat.succ_mul, ← Nat.add_mul]
    congr 1
    omega
  have hscaled {a b : Nat} (hab : a ≤ b) : a * den ≤ b * den := Nat.mul_le_mul_right den hab
  generalize roundRatio num den = q at hbelow habove heven ⊢
  constructor
  · intro hlt
    by_contra hge
    have hnext : (q + 1) * den = q * den + den := Nat.succ_mul q den
    have hlast : 2 * c = q + 1 := by
      by_contra hne
      have hless := hscaled (show q + 1 + 1 ≤ 2 * c by omega)
      rw [Nat.succ_mul] at hless
      omega
    rw [hlast] at hbound
    have htie : 2 * Nat.dist num (q * den) = den := by
      unfold Nat.dist
      omega
    have heven' := heven htie
    omega
  · intro hlt
    by_contra hge
    have hmore := hscaled (Nat.le_of_not_lt hge)
    omega

theorem roundRatio_mul_right {c : Nat} (h : 0 < c) :
    roundRatio (num * c) (den * c) = roundRatio num den := by
  unfold roundRatio
  simp only [Nat.mul_div_mul_right _ _ h, Nat.mul_mod_mul_right, ← Nat.mul_assoc,
    Nat.mul_lt_mul_right h]

theorem roundRatio_mul_self (n : Nat) (h : 0 < den) : roundRatio (n * den) den = n := by
  simp [roundRatio, Nat.mul_div_cancel n h, h]

end Quotients

/-! ### Numbers of the format -/

/-- The whole numbers of the format: at most 53 binary digits with zeros behind them. -/
def Representable (n : Nat) : Prop := ∃ m e, m < 2 ^ 53 ∧ n = m * 2 ^ e

/-- The number of the format nearest to a whole number. Of two that are as near, it is the one that
is an even multiple of the step from one to the other. -/
structure RoundsTo (n m : Nat) : Prop where
  representable : Representable m
  nearest : ∀ k, Representable k → Nat.dist n m ≤ Nat.dist n k
  even_of_tie : ∀ k, Representable k → k ≠ m → Nat.dist n k = Nat.dist n m →
    2 * Nat.dist k m ∣ m

def gap (n : Nat) : Nat := 2 ^ (n.log2 - 52)

theorem gap_pos (n : Nat) : 0 < gap n := Nat.pow_pos (by decide)

def rounded (n : Nat) : Nat := roundRatio n (gap n) * gap n

theorem representable_of_lt {n : Nat} (h : n < 2 ^ 53) : Representable n := ⟨n, 0, h, by simp⟩

theorem rounded_of_lt {n : Nat} (h : n < 2 ^ 53) : rounded n = n := by
  have hgap : gap n = 1 := by
    by_cases hzero : n = 0
    · rw [hzero, gap, Nat.log2_zero, Nat.zero_sub, Nat.pow_zero]
    · have hlog : n.log2 < 53 := (Nat.log2_lt hzero).mpr h
      rw [gap, show n.log2 - 52 = 0 by omega, Nat.pow_zero]
  have hwhole := roundRatio_mul_self n Nat.zero_lt_one
  rw [Nat.mul_one] at hwhole
  rw [rounded, hgap, hwhole, Nat.mul_one]

theorem gap_dvd {n k : Nat} (hk : Representable k) (hlarge : 2 ^ 52 * gap n ≤ k) : gap n ∣ k := by
  obtain ⟨m, e, hm, rfl⟩ := hk
  unfold gap at hlarge ⊢
  by_cases he : n.log2 - 52 ≤ e
  · exact Nat.dvd_mul_left_of_dvd (Nat.pow_dvd_pow 2 he) m
  · exfalso
    have hsmaller : 2 ^ (e + 1) ≤ 2 ^ (n.log2 - 52) :=
      Nat.pow_le_pow_right (by decide) (by omega)
    have hproduct : m * 2 ^ e < 2 ^ 53 * 2 ^ e :=
      Nat.mul_lt_mul_of_pos_right hm (Nat.pow_pos (by decide))
    rw [Nat.pow_succ] at hsmaller
    omega

theorem dist_rounded_le (n : Nat) : 2 * Nat.dist n (rounded n) ≤ gap n := by
  obtain ⟨hbelow, habove, -⟩ := roundRatio_near n (gap_pos n)
  unfold Nat.dist rounded
  omega

theorem gap_le_dist_rounded {n c : Nat} (hne : c * gap n ≠ rounded n) :
    gap n ≤ Nat.dist (c * gap n) (rounded n) := by
  rw [rounded, Nat.dist_mul_right]
  refine Nat.le_mul_of_pos_left _ (Nat.dist_pos_of_ne fun heq => hne ?_)
  rw [rounded, heq]

section Large

variable {n : Nat} (h : 2 ^ 53 ≤ n)
include h

theorem gap_bounds : 2 ^ 52 * gap n ≤ n ∧ n < 2 ^ 53 * gap n := by
  have hne : n ≠ 0 := by omega
  have hlog : 53 ≤ n.log2 := (Nat.le_log2 hne).mpr h
  have hlow := Nat.log2_self_le hne
  have hhigh := Nat.lt_log2_self (n := n)
  rw [gap, ← Nat.pow_add, ← Nat.pow_add]
  rw [show 52 + (n.log2 - 52) = n.log2 by omega, show 53 + (n.log2 - 52) = n.log2 + 1 by omega]
  exact ⟨hlow, hhigh⟩

theorem quotient_bounds : 2 ^ 52 ≤ roundRatio n (gap n) ∧ roundRatio n (gap n) ≤ 2 ^ 53 :=
  ⟨le_roundRatio (gap_pos n) (gap_bounds h).1, roundRatio_le (gap_pos n) (gap_bounds h).2.le⟩

theorem representable_rounded : Representable (rounded n) := by
  unfold rounded
  rcases Nat.lt_or_eq_of_le (quotient_bounds h).2 with hlt | heq
  · exact ⟨_, _, hlt, rfl⟩
  · refine ⟨2 ^ 52, n.log2 - 52 + 1, by decide, ?_⟩
    rw [heq, gap, Nat.pow_succ]
    omega

theorem dist_rounded_lt {k : Nat} (hk : k < 2 ^ 52 * gap n) :
    Nat.dist n (rounded n) < Nat.dist n k := by
  have hhalf := dist_rounded_le n
  have hlow := (gap_bounds h).1
  have hfloor : 2 ^ 52 * gap n ≤ rounded n := Nat.mul_le_mul_right _ (quotient_bounds h).1
  by_cases hfirst : 2 ^ 52 * gap n = rounded n
  · unfold Nat.dist
    omega
  · have hapart := gap_le_dist_rounded hfirst
    unfold Nat.dist at hhalf hapart ⊢
    omega

theorem roundsTo_rounded_of_le : RoundsTo n (rounded n) := by
  have hhalf := dist_rounded_le n
  refine ⟨representable_rounded h, fun k hk => ?_, fun k hk hne htie => ?_⟩
  · by_cases hsmall : k < 2 ^ 52 * gap n
    · exact (dist_rounded_lt h hsmall).le
    · obtain ⟨c, rfl⟩ := gap_dvd hk (Nat.le_of_not_lt hsmall)
      by_cases heq : gap n * c = rounded n
      · rw [heq]
      · rw [Nat.mul_comm] at heq ⊢
        have hapart := gap_le_dist_rounded heq
        have htriangle := Nat.dist.triangle_inequality (c * gap n) n (rounded n)
        rw [Nat.dist_comm _ n] at htriangle
        omega
  · have hlarge : ¬ k < 2 ^ 52 * gap n := fun hsmall => (dist_rounded_lt h hsmall).ne' htie
    obtain ⟨c, rfl⟩ := gap_dvd hk (Nat.le_of_not_lt hlarge)
    rw [Nat.mul_comm (gap n) c] at hne htie ⊢
    have hapart := gap_le_dist_rounded hne
    have htriangle := Nat.dist.triangle_inequality (c * gap n) n (rounded n)
    rw [Nat.dist_comm _ n, htie] at htriangle
    have hstep : Nat.dist (c * gap n) (rounded n) = gap n := by omega
    have heven := (roundRatio_near n (gap_pos n)).2.2
    have hquotient : 2 ∣ roundRatio n (gap n) :=
      Nat.dvd_of_mod_eq_zero (heven (by change 2 * Nat.dist n (rounded n) = gap n; omega))
    rw [hstep]
    exact Nat.mul_dvd_mul_right hquotient (gap n)

end Large

theorem roundsTo_rounded (n : Nat) : RoundsTo n (rounded n) := by
  by_cases h : n < 2 ^ 53
  · rw [rounded_of_lt h]
    refine ⟨representable_of_lt h, fun k _ => by simp, fun k _ hne htie => ?_⟩
    rw [Nat.dist_self] at htie
    exact absurd (Nat.eq_of_dist_eq_zero htie).symm hne
  · exact roundsTo_rounded_of_le (Nat.le_of_not_lt h)

theorem rounded_eq_self_iff {n : Nat} : rounded n = n ↔ Representable n := by
  constructor
  · intro h
    exact h ▸ (roundsTo_rounded n).representable
  · intro h
    have hnear := (roundsTo_rounded n).nearest n h
    rw [Nat.dist_self] at hnear
    exact (Nat.eq_of_dist_eq_zero (Nat.le_zero.mp hnear)).symm

/-! ### Reading and telling the value -/

/-- A quotient in units of its scale, with the scale chosen for 53 binary digits. -/
def scaledQuotient (n p : Nat) : Nat := roundRatio (n * 2 ^ p) (2 ^ (n.log2 + p - 52))

theorem scaledQuotient_bounds {n p : Nat} (h : n ≠ 0) (hp : 52 ≤ p) :
    2 ^ 52 ≤ scaledQuotient n p ∧ scaledQuotient n p ≤ 2 ^ 53 := by
  have hden : 0 < 2 ^ (n.log2 + p - 52) := Nat.pow_pos (by decide)
  constructor
  · apply le_roundRatio hden
    rw [← Nat.pow_add, show 52 + (n.log2 + p - 52) = n.log2 + p by omega, Nat.pow_add]
    exact Nat.mul_le_mul_right _ (Nat.log2_self_le h)
  · apply roundRatio_le hden
    rw [← Nat.pow_add, show 53 + (n.log2 + p - 52) = n.log2 + 1 + p by omega, Nat.pow_add]
    exact Nat.mul_le_mul_right _ Nat.lt_log2_self.le

theorem scaledQuotient_of_large {n : Nat} (hlog : 52 ≤ n.log2) (p : Nat) :
    scaledQuotient n p = roundRatio n (gap n) := by
  have hden : 2 ^ (n.log2 + p - 52) = gap n * 2 ^ p := by
    rw [gap, ← Nat.pow_add, show n.log2 - 52 + p = n.log2 + p - 52 by omega]
  rw [scaledQuotient, hden, roundRatio_mul_right (Nat.pow_pos (by decide))]

theorem scaledQuotient_mul (n : Nat) {p : Nat} (hp : 52 ≤ p) :
    scaledQuotient n p * 2 ^ (n.log2 + p - 52) = rounded n * 2 ^ p := by
  by_cases hlog : 52 ≤ n.log2
  · rw [scaledQuotient_of_large hlog, rounded, gap, Nat.mul_assoc, ← Nat.pow_add,
      show n.log2 - 52 + p = n.log2 + p - 52 by omega]
  · have hsmall : n < 2 ^ 53 := by
      have hlt := Nat.lt_log2_self (n := n)
      have hpow : 2 ^ (n.log2 + 1) ≤ 2 ^ 53 := Nat.pow_le_pow_right (by decide) (by omega)
      omega
    have hnum : n * 2 ^ p = n * 2 ^ (52 - n.log2) * 2 ^ (n.log2 + p - 52) := by
      rw [Nat.mul_assoc, ← Nat.pow_add, show 52 - n.log2 + (n.log2 + p - 52) = p by omega]
    rw [scaledQuotient, hnum, roundRatio_mul_self _ (Nat.pow_pos (by decide)), ← hnum,
      rounded_of_lt hsmall]

theorem log2_mul_two_pow {n : Nat} (h : n ≠ 0) (p : Nat) : (n * 2 ^ p).log2 = n.log2 + p := by
  induction p with
  | zero => rw [Nat.pow_zero, Nat.mul_one, Nat.add_zero]
  | succ p ih =>
    have hne : n * 2 ^ p ≠ 0 := Nat.mul_ne_zero h (Nat.pow_pos (by decide)).ne'
    rw [Nat.pow_succ, ← Nat.mul_assoc, Nat.mul_comm _ 2, Nat.log2_two_mul hne, ih]
    rfl

theorem code_ofRatio_one {n : Nat} (h : n ≠ 0) :
    (ofRatio n 1).code =
      min ((n.log2 + 1075 - 52 - 1) * 2 ^ 52 + scaledQuotient n 1075) infinity.code := by
  have hlog := log2_mul_two_pow h 1075
  have hscale : max ((n * Nat.pow 2 1075 / 1).log2 - 52) 1 = n.log2 + 1075 - 52 := by
    rw [Nat.div_one]
    generalize hp : 1075 = p at hlog ⊢
    change max ((n * 2 ^ p).log2 - 52) 1 = n.log2 + p - 52
    omega
  unfold ofRatio scaledQuotient
  rw [if_neg h]
  dsimp only
  rw [hscale, Nat.one_mul]
  generalize 1075 = p
  rfl

theorem significand_mul_of_code {x : Binary64} {s q : Nat} (hs : 1 ≤ s) (low : 2 ^ 52 ≤ q)
    (high : q ≤ 2 ^ 53) (hcode : x.code = (s - 1) * 2 ^ 52 + q)
    (finite : x.code < infinity.code) : x.significand * 2 ^ x.scale = q * 2 ^ s := by
  unfold significand scale
  simp only [magnitude_of_lt_infinity finite, Nat.pow_eq]
  rw [if_neg (by omega)]
  rcases Nat.lt_or_eq_of_le high with hlt | rfl
  · rw [show max (x.code / 2 ^ 52) 1 = s by omega,
      show x.code % 2 ^ 52 + 2 ^ 52 = q by omega]
  · rw [show max (x.code / 2 ^ 52) 1 = s + 1 by omega,
      show x.code % 2 ^ 52 + 2 ^ 52 = 2 ^ 52 by omega, Nat.pow_succ]
    omega

theorem toNat?_eq_some {x : Binary64} (finite : x.code < infinity.code) {n : Nat}
    (h : x.significand * 2 ^ x.scale = n * 2 ^ 1075) : x.toNat? = some n := by
  unfold toNat?
  rw [Nat.pow_eq, h]
  generalize 1075 = p
  simp [isNaN_of_lt_infinity finite, isInfinite_of_lt_infinity finite,
    isNegative_of_lt_infinity finite]

/-! ### Numbers beyond the format -/

/-- The least whole number that is rounded to infinity: it lies half a step above the greatest
number of the format. -/
def leastInfinite : Nat := (2 ^ 54 - 1) * 2 ^ 970

theorem leastInfinite_pos : 0 < leastInfinite := by
  unfold leastInfinite
  generalize 970 = t
  exact Nat.mul_pos (by decide) (Nat.two_pow_pos t)

theorem lt_leastInfinite {n : Nat} (h : n < 2 ^ 64) : n < leastInfinite := by
  unfold leastInfinite
  generalize ht : 970 = t
  have hpow : 2 ^ 64 ≤ 2 ^ t := Nat.pow_le_pow_right (by decide) (by omega)
  omega

theorem lt_half_step_iff {n : Nat} (h : n ≠ 0) (t : Nat) :
    n < (2 ^ 54 - 1) * 2 ^ t ↔
      n.log2 < t + 53 ∨ n.log2 = t + 53 ∧ roundRatio n (2 * 2 ^ t) < 2 ^ 53 := by
  have hlow := Nat.log2_self_le h
  have hhigh := Nat.lt_log2_self (n := n)
  have hstart : 2 ^ (t + 53) = 2 ^ 53 * 2 ^ t := by rw [Nat.pow_add, Nat.mul_comm]
  have hend : 2 ^ (t + 53 + 1) = 2 ^ 54 * 2 ^ t := by rw [Nat.pow_succ, hstart]; omega
  have hpos : 0 < 2 ^ t := Nat.pow_pos (by decide)
  rcases Nat.lt_trichotomy n.log2 (t + 53) with hlog | hlog | hlog
  · have hpow : 2 ^ (n.log2 + 1) ≤ 2 ^ (t + 53) := Nat.pow_le_pow_right (by decide) hlog
    refine iff_of_true ?_ (.inl hlog)
    omega
  · have hrounds := roundRatio_lt_two_mul_iff n (Nat.mul_pos Nat.zero_lt_two hpos)
      (Nat.two_pow_pos 52)
    rw [hlog]
    simp only [Nat.lt_irrefl, false_or, true_and]
    omega
  · have hpow : 2 ^ (t + 53 + 1) ≤ 2 ^ n.log2 := Nat.pow_le_pow_right (by decide) hlog
    refine iff_of_false ?_ ?_ <;> omega

theorem code_lt_iff {n : Nat} (h : n ≠ 0) :
    (n.log2 + 1075 - 52 - 1) * 2 ^ 52 + scaledQuotient n 1075 < infinity.code ↔
      n < leastInfinite := by
  obtain ⟨hlow, hhigh⟩ := scaledQuotient_bounds h (p := 1075) (by decide)
  have hcode : infinity.code = 2047 * 2 ^ 52 := rfl
  rw [leastInfinite, lt_half_step_iff h, hcode]
  by_cases hlog : n.log2 = 970 + 53
  · have hgap : gap n = 2 * 2 ^ 970 := by
      rw [gap, hlog, ← Nat.pow_succ']
    rw [← hgap, ← scaledQuotient_of_large (by omega) 1075, hlog]
    omega
  · omega

theorem toNat?_ofRatio_one {n : Nat} (h : n < leastInfinite) :
    (ofRatio n 1).toNat? = some (rounded n) := by
  by_cases hzero : n = 0
  · subst hzero
    rw [rounded_of_lt (by decide)]
    exact toNat?_eq_some (by decide) (by rw [Nat.zero_mul]; rfl)
  · obtain ⟨hlow, hhigh⟩ := scaledQuotient_bounds hzero (p := 1075) (by decide)
    have hbelow := (code_lt_iff hzero).mpr h
    have hcode := code_ofRatio_one hzero
    rw [min_eq_left hbelow.le] at hcode
    have hfinite : (ofRatio n 1).code < infinity.code := hcode ▸ hbelow
    have hvalue := significand_mul_of_code (by omega) hlow hhigh hcode hfinite
    exact toNat?_eq_some hfinite (hvalue.trans (scaledQuotient_mul n (by decide)))

theorem eq_of_code_eq {x y : Binary64} (h : x.code = y.code) : x = y := by
  cases x
  cases y
  subst h
  rfl

theorem ofRatio_one_of_le {n : Nat} (h : leastInfinite ≤ n) : ofRatio n 1 = infinity := by
  have hzero : n ≠ 0 := by
    rintro rfl
    exact Nat.not_lt.mpr h leastInfinite_pos
  have hbeyond := Nat.le_of_not_lt fun hlt => Nat.not_lt.mpr h ((code_lt_iff hzero).mp hlt)
  have hcode := code_ofRatio_one hzero
  rw [min_eq_right hbeyond] at hcode
  exact eq_of_code_eq hcode

end Signalbox.Binary64
