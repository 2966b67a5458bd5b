import Signalbox.Proofs.TokenLayout
import Signalbox.Proofs.TokenReading
import Signalbox.Proofs.WholeNumbers

/-!
Routes that are named by whole numbers. The digits are read as a number of the binary64 format and
that is written out again, so a name is kept only as far as the format and 64 bits reach. Any other
number is taken for the name of a different route, or for no name at all.
-/
namespace Signalbox

open DecimalLiteral Json

/-! ### Digits and their number -/

section Digits

variable {c : Char} {ds : List Char}

theorem toNat_of_isDigit (h : c.isDigit = true) :
    c.toNat - '0'.toNat < 10 ∧ 48 + (c.toNat - '0'.toNat) = c.toNat := by
  have hcode : 48 ≤ c.toNat ∧ c.toNat ≤ 57 := Char.isDigit_iff_toNat.mp h
  change c.toNat - 48 < 10 ∧ 48 + (c.toNat - 48) = c.toNat
  omega

theorem toDigits_of_isDigit (h : c.isDigit = true) :
    Nat.toDigits 10 (c.toNat - '0'.toNat) = [c] := by
  obtain ⟨hlt, hcode⟩ := toNat_of_isDigit h
  rw [Nat.toDigits_of_lt_base hlt, List.singleton_inj, ← Char.toNat_inj,
    Nat.toNat_digitChar_of_lt_ten hlt, hcode]

theorem natOfDigits_append_singleton (ds : List Char) (c : Char) :
    natOfDigits (ds ++ [c]) = 10 * natOfDigits ds + (c.toNat - '0'.toNat) := by
  simp [natOfDigits]

theorem toDigits_natOfDigits_cons (hc : c.isDigit = true) (nonzero : c ≠ '0')
    (others : ∀ d ∈ ds, d.isDigit = true) :
    0 < natOfDigits (c :: ds) ∧ Nat.toDigits 10 (natOfDigits (c :: ds)) = c :: ds := by
  induction ds using List.reverseRecOn with
  | nil =>
    have hvalue : natOfDigits [c] = c.toNat - '0'.toNat := by simp [natOfDigits]
    have hdigits := toDigits_of_isDigit hc
    rw [hvalue]
    refine ⟨Nat.pos_of_ne_zero fun hzero => nonzero ?_, hdigits⟩
    rw [hzero] at hdigits
    exact (List.singleton_inj.mp hdigits).symm
  | append_singleton ds d ih =>
    rw [List.forall_mem_append, List.forall_mem_singleton] at others
    obtain ⟨hpos, hdigits⟩ := ih others.1
    have hlt := (toNat_of_isDigit others.2).1
    rw [← List.cons_append, natOfDigits_append_singleton]
    refine ⟨by omega, ?_⟩
    rw [← Nat.toDigits_append_toDigits (by decide) hpos hlt, hdigits, toDigits_of_isDigit others.2]

namespace Json.IsWhole

theorem toDigits_natOfDigits (h : IsWhole ds) : Nat.toDigits 10 (natOfDigits ds) = ds := by
  cases h with
  | zero => rfl
  | digits hc nonzero others => exact (toDigits_natOfDigits_cons hc nonzero others).2

theorem toString_natOfDigits (h : IsWhole ds) : toString (natOfDigits ds) = String.ofList ds := by
  rw [Nat.toString_eq_ofList_toDigits, h.toDigits_natOfDigits]

theorem areDigits (h : IsWhole ds) : AreDigits ds := by
  cases h with
  | zero => exact ⟨by simp, by simp⟩
  | digits hc _ others => exact ⟨by simp, List.forall_mem_cons.mpr ⟨hc, others⟩⟩

end Json.IsWhole

theorem isWhole_toString (n : Nat) : IsWhole (toString n).toList := by
  rw [Nat.toString_eq_ofList_toDigits, String.toList_ofList]
  by_cases hzero : n = 0
  · subst hzero
    exact .zero
  · have hdigit : ∀ d ∈ Nat.toDigits 10 n, d.isDigit = true := fun d hd =>
      Nat.isDigit_of_mem_toDigits (by decide) (by decide) hd
    obtain ⟨c, rest, hdigits, hc⟩ := exists_toDigits_eq_cons hzero
    rw [hdigits, List.forall_mem_cons] at hdigit
    rw [hdigits]
    exact .digits hdigit.1 hc hdigit.2

theorem natOfDigits_toString (n : Nat) : natOfDigits (toString n).toList = n := by
  rw [Nat.toString_eq_ofList_toDigits, String.toList_ofList]
  exact Nat.ofDigitChars_ten_toDigits

/-! ### Digits as a token -/

theorem Binary64.ofChars?_of_areDigits (h : AreDigits ds) :
    Binary64.ofChars? ds = some (.ofRatio (natOfDigits ds) 1) := by
  have hliteral : DecimalLiteral.ofChars? ds = some ⟨ds, [], 0⟩ := by
    have htake : ds.takeWhile Char.isDigit = ds := List.takeWhile_eq_self_iff.mpr h.2
    have hdrop : ds.dropWhile Char.isDigit = [] := List.dropWhile_eq_nil_iff.mpr h.2
    simp [DecimalLiteral.ofChars?, htake, hdrop, splitFraction, exponent?, h.1]
  rw [Binary64.ofChars?, hliteral, Option.map_some, value]
  by_cases hzero : natOfDigits ds = 0
  · simp [hzero, ofRatio]
  · simp [hzero]

end Digits

namespace Table

open Binary64 TokenReader

variable {ds : List Char}

theorem isNumeral_of_isDigit {c : Char} (h : c.isDigit = true) : Text.isNumeral c = true := by
  have hdigits : ∀ d < 10, Text.inRanges Text.numeralRanges (48 + d) = true := by decide
  obtain ⟨hlt, hcode⟩ := toNat_of_isDigit h
  rw [Text.isNumeral, ← hcode]
  exact hdigits _ hlt

theorem spelled_of_areDigits (h : AreDigits ds) :
    Token.Spelled (.number (.ofRatio (natOfDigits ds) 1)) ds := by
  have hread := ofChars?_of_areDigits h
  obtain ⟨hne, hdigits⟩ := h
  cases ds with
  | nil => exact absurd rfl hne
  | cons c rest =>
    rw [List.forall_mem_cons] at hdigits
    exact .number (isNumeral_of_isDigit hdigits.1)
      (fun d hd => .inl (isNumeral_of_isDigit (hdigits.2 d hd))) hread

theorem scan_of_spelled {t : Token} (h : t.Spelled ds) : Token.scan ds = .ok [t, .endOfText] := by
  obtain ⟨s, hrun, hreads⟩ := Scan.run_spelled 1 [] h
  have hwhole : Scan.whole ds = .ok (Scan.between 1 [t]) := by
    rw [Scan.whole, show Scan.initial = Scan.between 1 [] from rfl, hrun]
    exact hreads.flush
  rw [Scan.scan_eq, hwhole]
  rfl

/-! ### Numbers of routes -/

/-- The text is one token, which is read as the id of a route wherever it stands. -/
def NamesRoute (text : List Char) (id : RouteId) : Prop :=
  ∃ t, Token.scan text = .ok [t, .endOfText] ∧ Reads routeId [t] id

theorem NamesRoute.eq {id id' : RouteId} (h : NamesRoute ds id) (h' : NamesRoute ds id') :
    id = id' := by
  obtain ⟨t, hscan, hread⟩ := h
  obtain ⟨t', hscan', hread'⟩ := h'
  rw [hscan] at hscan'
  cases hscan'
  have hid := (hread 0 []).symm.trans (hread' 0 [])
  cases hid
  rfl

/-- The number that a written number has as a route. -/
def routeNumber (n : Nat) : Nat := min (rounded n) (2 ^ 64 - 1)

theorem namesRoute_of_lt (h : AreDigits ds) (finite : natOfDigits ds < leastInfinite) :
    NamesRoute ds (toString (routeNumber (natOfDigits ds))) := by
  have haccepted : numberedRoute? (.ofRatio (natOfDigits ds) 1) =
      some (toString (routeNumber (natOfDigits ds))) := by
    rw [numberedRoute?, toNat?_ofRatio_one finite]
    rfl
  exact ⟨_, scan_of_spelled (spelled_of_areDigits h), reads_take haccepted⟩

theorem scan_of_le (h : AreDigits ds) (large : leastInfinite ≤ natOfDigits ds) :
    Token.scan ds = .ok [.number .infinity, .endOfText] := by
  have hscan := scan_of_spelled (spelled_of_areDigits h)
  rwa [ofRatio_one_of_le large] at hscan

theorem routeNumber_eq_self_iff {n : Nat} :
    routeNumber n = n ↔ n < 2 ^ 64 ∧ Representable n ∨ n = 2 ^ 64 - 1 := by
  have hlast : rounded (2 ^ 64 - 1) = 2 ^ 64 := by decide
  unfold routeNumber
  constructor
  · intro h
    rcases Nat.le_total (rounded n) (2 ^ 64 - 1) with hle | hle
    · rw [min_eq_left hle] at h
      exact .inl ⟨by omega, rounded_eq_self_iff.mp h⟩
    · rw [min_eq_right hle] at h
      exact .inr h.symm
  · rintro (⟨hlt, hrepresentable⟩ | rfl)
    · rw [rounded_eq_self_iff.mpr hrepresentable, min_eq_left (by omega)]
    · rw [hlast]
      rfl

theorem routeNumber_routeNumber (n : Nat) : routeNumber (routeNumber n) = routeNumber n := by
  rw [routeNumber_eq_self_iff]
  rcases Nat.lt_or_ge (rounded n) (2 ^ 64 - 1) with hlt | hle
  · have hself : routeNumber n = rounded n := min_eq_left hlt.le
    rw [hself]
    exact .inl ⟨by omega, (roundsTo_rounded n).representable⟩
  · exact .inr (min_eq_right hle)

theorem routeNumber_lt (n : Nat) : routeNumber n < leastInfinite := by
  have hle : routeNumber n ≤ 2 ^ 64 - 1 := Nat.min_le_right _ _
  exact lt_leastInfinite (by omega)

/-- A written number names the route whose number is the nearest one of the format, or the greatest
one of 64 bits, and that route has a written number of its own. So the number is kept exactly if
the format has it within 64 bits, or if it is that greatest one. Beyond the format there is no
route. -/
theorem numbered_route_kept_iff (h : IsWhole ds) :
    (natOfDigits ds < leastInfinite → ∃ m, RoundsTo (natOfDigits ds) m ∧
      let own := toString (min m (2 ^ 64 - 1))
      NamesRoute ds own ∧ IsWhole own.toList ∧ NamesRoute own.toList own) ∧
    (leastInfinite ≤ natOfDigits ds → Token.scan ds = .ok [.number .infinity, .endOfText] ∧
      ∀ position rest, routeId ⟨position, .number .infinity :: rest⟩ =
        (.error (.unexpectedToken position (.number .infinity)),
          ⟨position, .number .infinity :: rest⟩)) ∧
    (NamesRoute ds (String.ofList ds) ↔
      natOfDigits ds < 2 ^ 64 ∧ Representable (natOfDigits ds) ∨ natOfDigits ds = 2 ^ 64 - 1) := by
  refine ⟨fun finite => ⟨_, roundsTo_rounded _, ?_⟩, fun large => ?_, ?_⟩
  · refine ⟨namesRoute_of_lt h.areDigits finite, isWhole_toString _, ?_⟩
    have hown := namesRoute_of_lt (isWhole_toString (routeNumber (natOfDigits ds))).areDigits
    rw [natOfDigits_toString, routeNumber_routeNumber] at hown
    exact hown (routeNumber_lt _)
  · exact ⟨scan_of_le h.areDigits large, fun _ _ => rfl⟩
  · rw [← routeNumber_eq_self_iff]
    by_cases finite : natOfDigits ds < leastInfinite
    · have hnames := namesRoute_of_lt h.areDigits finite
      rw [← h.toString_natOfDigits]
      constructor
      · intro hkept
        rw [← natOfDigits_toString (routeNumber (natOfDigits ds)), hnames.eq hkept,
          natOfDigits_toString]
      · intro hkept
        rwa [hkept] at hnames
    · have hlarge := Nat.le_of_not_lt finite
      refine iff_of_false ?_ fun hkept => finite (hkept ▸ routeNumber_lt _)
      rintro ⟨t, hscan, hread⟩
      rw [scan_of_le h.areDigits hlarge] at hscan
      cases hscan
      cases hread 0 []

/-- A number of more than 53 binary digits that is kept. -/
theorem long_number_kept : IsWhole "9007199254740994".toList ∧
    NamesRoute "9007199254740994".toList "9007199254740994" := by
  have hwhole : IsWhole "9007199254740994".toList := isWhole_toString 9007199254740994
  have hnumber : natOfDigits "9007199254740994".toList = 9007199254740994 :=
    natOfDigits_toString 9007199254740994
  obtain ⟨-, -, hkept⟩ := numbered_route_kept_iff hwhole
  rw [hnumber] at hkept
  exact ⟨hwhole, hkept.mpr (.inl ⟨by decide, 2 ^ 52 + 1, 1, by decide, by decide⟩)⟩

/-- Two written numbers that differ in their last digit name one route. -/
theorem numbers_share_route :
    IsWhole "9007199254740992".toList ∧ IsWhole "9007199254740993".toList ∧
      NamesRoute "9007199254740992".toList "9007199254740992" ∧
      NamesRoute "9007199254740993".toList "9007199254740992" := by
  have names (n m : Nat) (hlt : n < 2 ^ 64) (hm : routeNumber n = m) :
      NamesRoute (toString n).toList (toString m) := by
    have hnames := namesRoute_of_lt (isWhole_toString n).areDigits
    rw [natOfDigits_toString, hm] at hnames
    exact hnames (lt_leastInfinite hlt)
  refine ⟨isWhole_toString 9007199254740992, isWhole_toString 9007199254740993, ?_, ?_⟩
  · exact names 9007199254740992 9007199254740992 (by decide) (by decide)
  · exact names 9007199254740993 9007199254740992 (by decide) (by decide)

end Table

end Signalbox
