import Mathlib.Data.List.Forall2

/-!
The grammar of JSON texts. A text spells a value, and parts of it spell the members of an object or
the items between two brackets. Blanks may stand before and after each of these.
-/
namespace Signalbox.Json

inductive Value where
  | null
  | bool (b : Bool)
  /-- a number, as it is written -/
  | number (text : List Char)
  /-- the codes that a string is made of. An escape by a code may stand for half a character. -/
  | string (codes : List Nat)
  | array (elements : List Value)
  | object (members : List (List Nat × Value))

/-! ### Numbers -/

def AreDigits (text : List Char) : Prop := text ≠ [] ∧ ∀ c ∈ text, c.isDigit = true

/-- Digits without a zero in front of others. -/
inductive IsWhole : List Char → Prop
  | zero : IsWhole ['0']
  | digits {c : Char} {rest : List Char} (digit : c.isDigit = true) (nonzero : c ≠ '0')
    (others : ∀ d ∈ rest, d.isDigit = true) : IsWhole (c :: rest)

inductive IsFraction : List Char → Prop
  | absent : IsFraction []
  | digits {text : List Char} (h : AreDigits text) : IsFraction ('.' :: text)

inductive IsExponent : List Char → Prop
  | absent : IsExponent []
  | digits {e : Char} {sign text : List Char} (he : e ∈ ['e', 'E'])
    (hsign : sign ∈ [[], ['+'], ['-']]) (h : AreDigits text) : IsExponent (e :: (sign ++ text))

inductive IsNumber : List Char → Prop
  | parts {sign whole fraction exponent : List Char} (hsign : sign ∈ [[], ['-']])
    (hwhole : IsWhole whole) (hfraction : IsFraction fraction) (hexponent : IsExponent exponent) :
    IsNumber (sign ++ (whole ++ (fraction ++ exponent)))

theorem IsWhole.isNumber {whole fraction : List Char} (h : IsWhole whole)
    (hfraction : IsFraction fraction) : IsNumber (whole ++ fraction) := by
  have hparts : IsNumber ([] ++ (whole ++ (fraction ++ []))) :=
    .parts List.mem_cons_self h hfraction .absent
  rwa [List.nil_append, List.append_nil] at hparts

/-! ### Strings -/

def escapes : List (Char × Char) :=
  [('"', '"'), ('\\', '\\'), ('/', '/'), ('b', '\x08'), ('f', '\x0c'), ('n', '\n'), ('r', '\r'),
    ('t', '\t')]

def hexValue? (c : Char) : Option Nat :=
  if c.isDigit then some (c.toNat - '0'.toNat)
  else if 'a' ≤ c ∧ c ≤ 'f' then some (c.toNat - 'a'.toNat + 10)
  else if 'A' ≤ c ∧ c ≤ 'F' then some (c.toNat - 'A'.toNat + 10)
  else none

/-- What stands between the quotes of a string, with the codes that it stands for. -/
inductive IsContent : List Char → List Nat → Prop
  | nil : IsContent [] []
  | plain {c : Char} {text : List Char} {codes : List Nat} (printing : 0x20 ≤ c.toNat)
    (unquoted : c ≠ '"') (unescaped : c ≠ '\\') (rest : IsContent text codes) :
    IsContent (c :: text) (c.toNat :: codes)
  | escaped {letter c : Char} {text : List Char} {codes : List Nat} (h : (letter, c) ∈ escapes)
    (rest : IsContent text codes) : IsContent ('\\' :: letter :: text) (c.toNat :: codes)
  | coded {a b c d : Char} {i j k l : Nat} {text : List Char} {codes : List Nat}
    (ha : hexValue? a = some i) (hb : hexValue? b = some j) (hc : hexValue? c = some k)
    (hd : hexValue? d = some l) (rest : IsContent text codes) :
    IsContent ('\\' :: 'u' :: a :: b :: c :: d :: text)
      ((((i * 16 + j) * 16 + k) * 16 + l) :: codes)

/-! ### Values -/

def isBlank (c : Char) : Bool := c = ' ' || c = '\t' || c = '\n' || c = '\r'

/-- What a part of a text can spell. -/
inductive Phrase where
  | value (v : Value)
  | member (m : List Nat × Value)
  | items (ps : List Phrase)

inductive Spells : List Char → Phrase → Prop
  | before {c : Char} {text : List Char} {p : Phrase} (blank : isBlank c = true)
    (h : Spells text p) : Spells (c :: text) p
  | after {c : Char} {text : List Char} {p : Phrase} (h : Spells text p)
    (blank : isBlank c = true) : Spells (text ++ [c]) p
  | null : Spells "null".toList (.value .null)
  | bool (b : Bool) : Spells (if b then "true" else "false").toList (.value (.bool b))
  | number {text : List Char} (h : IsNumber text) : Spells text (.value (.number text))
  | string {text : List Char} {codes : List Nat} (h : IsContent text codes) :
    Spells ('"' :: (text ++ ['"'])) (.value (.string codes))
  | member {key text : List Char} {codes : List Nat} {v : Value}
    (hkey : Spells key (.value (.string codes))) (h : Spells text (.value v)) :
    Spells (key ++ ':' :: text) (.member (codes, v))
  | none : Spells [] (.items [])
  | one {text : List Char} {p : Phrase} (h : Spells text p) : Spells text (.items [p])
  | more {first rest : List Char} {p q : Phrase} {ps : List Phrase} (h : Spells first p)
    (hrest : Spells rest (.items (q :: ps))) :
    Spells (first ++ ',' :: rest) (.items (p :: q :: ps))
  | array {text : List Char} {vs : List Value} (h : Spells text (.items (vs.map .value))) :
    Spells ('[' :: (text ++ [']'])) (.value (.array vs))
  | object {text : List Char} {ms : List (List Nat × Value)}
    (h : Spells text (.items (ms.map .member))) :
    Spells ('\x7b' :: (text ++ ['\x7d'])) (.value (.object ms))

/-- The text is one JSON document. -/
def WellFormed (text : List Char) : Prop := ∃ v, Spells text (.value v)

theorem Spells.after_blanks {text blanks : List Char} {p : Phrase} (h : Spells text p)
    (hblanks : ∀ c ∈ blanks, isBlank c = true) : Spells (blanks ++ text) p := by
  induction blanks with
  | nil => exact h
  | cons c rest ih =>
    rw [List.forall_mem_cons] at hblanks
    exact .before hblanks.1 (ih hblanks.2)

theorem spells_intercalate {blanks : List Char} (hblanks : ∀ c ∈ blanks, isBlank c = true)
    {texts : List (List Char)} {ps : List Phrase} (h : List.Forall₂ Spells texts ps) :
    Spells ((',' :: blanks).intercalate texts) (.items ps) := by
  induction h with
  | nil => exact .none
  | @cons text p texts ps hhead htail ih =>
    cases htail with
    | nil =>
      rw [List.intercalate_singleton]
      exact .one hhead
    | cons hnext _ =>
      rw [List.intercalate_cons_cons, List.append_assoc, List.cons_append]
      exact .more hhead (ih.after_blanks hblanks)

/-! ### Scanning -/

/-- Where a character of a text stands: outside of all strings, inside of one, or in one after a
backslash. -/
inductive Place where
  | outside
  | inside
  | escaped
deriving DecidableEq

/-- Outside of strings there is never an `i`. -/
def Place.next? : Place → Char → Option Place
  | .outside, c => if c = '"' then some .inside else if c = 'i' then none else some .outside
  | .inside, c =>
    if c = '"' then some .outside else if c = '\\' then some .escaped else some .inside
  | .escaped, _ => some .inside

def scan (place : Place) (text : List Char) : Option Place := text.foldlM Place.next? place

@[simp] theorem scan_nil (place : Place) : scan place [] = some place := rfl

@[simp] theorem scan_cons (place : Place) (c : Char) (text : List Char) :
    scan place (c :: text) = (place.next? c).bind (scan · text) := rfl

@[simp] theorem scan_append (place : Place) (first rest : List Char) :
    scan place (first ++ rest) = (scan place first).bind (scan · rest) := by
  unfold scan
  rw [List.foldlM_append]
  rfl

theorem scan_outside {text : List Char} (h : ∀ c ∈ text, c ≠ '"' ∧ c ≠ 'i') :
    scan .outside text = some .outside := by
  induction text with
  | nil => rfl
  | cons c rest ih =>
    rw [List.forall_mem_cons] at h
    simp [Place.next?, h.1.1, h.1.2, ih h.2]

theorem scan_intercalate_of_bad {separator : List Char}
    (hseparator : scan .outside separator = some .outside) {texts : List (List Char)}
    (h : ∀ text ∈ texts, scan .outside text = some .outside ∨ scan .outside text = none)
    (hbad : ∃ text ∈ texts, scan .outside text = none) :
    scan .outside (separator.intercalate texts) = none := by
  induction texts with
  | nil => simp at hbad
  | cons first rest ih =>
    rw [List.forall_mem_cons] at h
    rw [List.exists_mem_cons_iff] at hbad
    cases rest with
    | nil =>
      rw [List.intercalate_singleton]
      simpa using hbad
    | cons second rest =>
      rw [List.intercalate_cons_cons, scan_append, scan_append]
      rcases hbad with hfirst | hlater
      · simp [hfirst]
      · rcases h.1 with hfirst | hfirst
        · simp [hfirst, hseparator, ih h.2 hlater]
        · simp [hfirst]

theorem scan_digits {text : List Char} (h : ∀ c ∈ text, c.isDigit = true) :
    scan .outside text = some .outside := by
  refine scan_outside fun c hc => ⟨?_, ?_⟩ <;> rintro rfl <;> exact absurd (h _ hc) (by decide)

theorem IsWhole.scan {text : List Char} (h : IsWhole text) :
    scan .outside text = some .outside := by
  cases h with
  | zero => rfl
  | digits digit nonzero others => exact scan_digits (List.forall_mem_cons.mpr ⟨digit, others⟩)

theorem IsFraction.scan {text : List Char} (h : IsFraction text) :
    scan .outside text = some .outside := by
  cases h with
  | absent => rfl
  | digits h => simp [Place.next?, scan_digits h.2]

theorem IsExponent.scan {text : List Char} (h : IsExponent text) :
    scan .outside text = some .outside := by
  cases h with
  | absent => rfl
  | @digits e sign digits he hsign h =>
    have hletter : Place.next? .outside e = some .outside := by
      simp only [List.mem_cons, List.not_mem_nil, or_false] at he
      rcases he with rfl | rfl <;> rfl
    have hsigned : Json.scan .outside sign = some .outside := by
      simp only [List.mem_cons, List.not_mem_nil, or_false] at hsign
      rcases hsign with rfl | rfl | rfl <;> rfl
    simp [hletter, hsigned, scan_digits h.2]

theorem IsNumber.scan {text : List Char} (h : IsNumber text) :
    scan .outside text = some .outside := by
  obtain @⟨sign, whole, fraction, exponent, hsign, hwhole, hfraction, hexponent⟩ := h
  have hsigned : Json.scan .outside sign = some .outside := by
    simp only [List.mem_cons, List.not_mem_nil, or_false] at hsign
    rcases hsign with rfl | rfl <;> rfl
  simp [hsigned, hwhole.scan, hfraction.scan, hexponent.scan]

theorem next_inside_of_hexValue {c : Char} {n : Nat} (h : hexValue? c = some n) :
    Place.next? .inside c = some .inside := by
  have hquote : c ≠ '"' := by
    rintro rfl
    cases h
  have hbackslash : c ≠ '\\' := by
    rintro rfl
    cases h
  simp [Place.next?, hquote, hbackslash]

theorem IsContent.scan {text : List Char} {codes : List Nat} (h : IsContent text codes) :
    scan .inside text = some .inside := by
  induction h with
  | nil => rfl
  | plain printing unquoted unescaped rest ih => simp [Place.next?, unquoted, unescaped, ih]
  | escaped h rest ih => simpa [Place.next?] using ih
  | coded ha hb hc hd rest ih =>
    have hbackslash : Place.next? .inside '\\' = some .escaped := rfl
    have hletter : Place.next? .escaped 'u' = some .inside := rfl
    simp [hbackslash, hletter, next_inside_of_hexValue ha, next_inside_of_hexValue hb,
      next_inside_of_hexValue hc, next_inside_of_hexValue hd, ih]

/-- A document, or a part of one, is left outside of strings and has nothing there that JSON does
not know. -/
theorem Spells.scan {text : List Char} {p : Phrase} (h : Spells text p) :
    scan .outside text = some .outside := by
  have hblank {c : Char} (hc : isBlank c = true) : Place.next? .outside c = some .outside := by
    have hquote : c ≠ '"' := by
      rintro rfl
      cases hc
    have hi : c ≠ 'i' := by
      rintro rfl
      cases hc
    simp [Place.next?, hquote, hi]
  induction h with
  | before blank h ih => simp [hblank blank, ih]
  | after h blank ih => simp [hblank blank, ih]
  | null => rfl
  | bool b => cases b <;> rfl
  | number h => exact h.scan
  | string h => simp [Place.next?, h.scan]
  | member hkey h ihkey ih => simp [Place.next?, ihkey, ih]
  | none => rfl
  | one h ih => exact ih
  | more h hrest ih ihrest => simp [Place.next?, ih, ihrest]
  | array h ih => simp [Place.next?, ih]
  | object h ih => simp [Place.next?, ih]

end Signalbox.Json
