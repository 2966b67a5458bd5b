import Mathlib.Data.List.Basic
import Signalbox.Proofs.LineWords

/-!
Patterns of lines: regular expressions with groups that capture parts of what they match. A pattern
that begins a line with a word and goes on with gaps and words looks at nothing but the words of the
line, so it can be compared with forms on lists of words.
-/
namespace Signalbox.Scenario

open Text

/-- Regular expressions. Nothing that is repeated has groups in it. -/
inductive Pattern where
  | empty
  | one (test : Char → Bool)
  | seq (p q : Pattern)
  | either (p q : Pattern)
  | many (p : Pattern)
  | group (p : Pattern)

namespace Pattern

/-- The whole text matches, and the groups that take part hold the captures, in the order in which
they open. -/
def Matches : Pattern → List Char → List String → Prop
  | .empty, text, captures => text = [] ∧ captures = []
  | .one test, text, captures => (∃ c, test c = true ∧ text = [c]) ∧ captures = []
  | .seq p q, text, captures => ∃ t t' cs cs',
      text = t ++ t' ∧ captures = cs ++ cs' ∧ p.Matches t cs ∧ q.Matches t' cs'
  | .either p q, text, captures => p.Matches text captures ∨ q.Matches text captures
  | .many p, text, captures =>
    (∃ parts : List (List Char), (∀ part ∈ parts, p.Matches part []) ∧ text = parts.flatten) ∧
      captures = []
  | .group p, text, captures => ∃ cs, captures = String.ofList text :: cs ∧ p.Matches text cs

def sequence (ps : List Pattern) : Pattern := ps.foldr .seq .empty

def literal (s : String) : Pattern := .sequence (s.toList.map fun c => .one (· == c))

def several (p : Pattern) : Pattern := .seq p (.many p)

def optional (p : Pattern) : Pattern := .either p .empty

def blanks : Pattern := .many (.one isBlank)

def gap : Pattern := .several (.one isBlank)

def name : Pattern := .several (.one isWordChar)

def number : Pattern := .several (.one fun c => isDecimalDigit c || c = '.')

def line (keyword rest : Pattern) : Pattern := .sequence [blanks, keyword, rest, blanks]

/-! ### Runs of characters -/

theorem matches_many_one {test : Char → Bool} {text : List Char} {captures : List String} :
    (many (one test)).Matches text captures ↔ (∀ c ∈ text, test c = true) ∧ captures = [] := by
  refine and_congr_left fun _ => ⟨?_, fun h => ?_⟩
  · rintro ⟨parts, hparts, rfl⟩ c hc
    obtain ⟨part, hpart, hmem⟩ := List.mem_flatten.mp hc
    obtain ⟨⟨d, hd, rfl⟩, -⟩ := hparts part hpart
    rwa [List.mem_singleton.mp hmem]
  · refine ⟨text.map ([·]), fun part hpart => ?_, (List.flatMap_singleton' text).symm⟩
    obtain ⟨c, hc, rfl⟩ := List.mem_map.mp hpart
    exact ⟨⟨c, h c hc, rfl⟩, rfl⟩

theorem matches_several_one {test : Char → Bool} {text : List Char} {captures : List String} :
    (several (one test)).Matches text captures ↔
      (text ≠ [] ∧ ∀ c ∈ text, test c = true) ∧ captures = [] := by
  constructor
  · rintro ⟨_, rest, _, _, rfl, rfl, ⟨⟨c, hc, rfl⟩, rfl⟩, hmany⟩
    obtain ⟨hrest, rfl⟩ := matches_many_one.mp hmany
    exact ⟨⟨List.cons_ne_nil c rest, List.forall_mem_cons.mpr ⟨hc, hrest⟩⟩, rfl⟩
  · rintro ⟨⟨hne, htest⟩, rfl⟩
    obtain ⟨c, rest, rfl⟩ := List.exists_cons_of_ne_nil hne
    obtain ⟨hc, hrest⟩ := List.forall_mem_cons.mp htest
    exact ⟨[c], rest, [], [], rfl, rfl, ⟨⟨c, hc, rfl⟩, rfl⟩, matches_many_one.mpr ⟨hrest, rfl⟩⟩

theorem matches_blanks {text : List Char} {captures : List String} :
    blanks.Matches text captures ↔ AllBlank text ∧ captures = [] := matches_many_one

theorem matches_gap {text : List Char} {captures : List String} :
    gap.Matches text captures ↔ (text ≠ [] ∧ AllBlank text) ∧ captures = [] := matches_several_one

theorem matches_literal {s : String} {text : List Char} {captures : List String} :
    (literal s).Matches text captures ↔ text = s.toList ∧ captures = [] := by
  unfold literal
  generalize s.toList = cs
  induction cs generalizing text captures with
  | nil => rfl
  | cons c cs ih =>
    constructor
    · rintro ⟨_, rest, _, _, rfl, rfl, ⟨⟨d, hd, rfl⟩, rfl⟩, hrest⟩
      obtain ⟨rfl, rfl⟩ := ih.mp hrest
      exact ⟨by rw [eq_of_beq hd]; rfl, rfl⟩
    · rintro ⟨rfl, rfl⟩
      exact ⟨[c], cs, [], [], rfl, rfl, ⟨⟨c, beq_self_eq_true c, rfl⟩, rfl⟩, ih.mpr ⟨rfl, rfl⟩⟩

theorem matches_seq_empty {p : Pattern} {text : List Char} {captures : List String} :
    (seq p empty).Matches text captures ↔ p.Matches text captures := by
  constructor
  · rintro ⟨t, _, cs, _, rfl, rfl, hp, rfl, rfl⟩
    simpa using hp
  · exact fun hp => ⟨text, [], captures, [], by simp, by simp, hp, rfl, rfl⟩

theorem matches_gap_seq {p rest : Pattern} {text : List Char} {captures : List String} :
    (seq gap (seq p rest)).Matches text captures ↔ ∃ before word body cs cs',
      text = before ++ (word ++ body) ∧ captures = cs ++ cs' ∧ (before ≠ [] ∧ AllBlank before) ∧
        p.Matches word cs ∧ rest.Matches body cs' := by
  constructor
  · rintro ⟨before, _, _, _, rfl, rfl, hgap, word, body, cs, cs', rfl, rfl, hword, hbody⟩
    obtain ⟨hblank, rfl⟩ := matches_gap.mp hgap
    exact ⟨before, word, body, cs, cs', rfl, rfl, hblank, hword, hbody⟩
  · rintro ⟨before, word, body, cs, cs', rfl, rfl, hblank, hword, hbody⟩
    exact ⟨before, _, [], _, rfl, rfl, matches_gap.mpr ⟨hblank, rfl⟩, word, body, cs, cs', rfl, rfl,
      hword, hbody⟩

theorem matches_line {keyword rest : Pattern} {text : List Char} {captures : List String} :
    (line keyword rest).Matches text captures ↔ ∃ lead word body tail cs cs',
      text = lead ++ (word ++ (body ++ tail)) ∧ captures = cs ++ cs' ∧ AllBlank lead ∧
        keyword.Matches word cs ∧ rest.Matches body cs' ∧ AllBlank tail := by
  constructor
  · rintro ⟨lead, _, _, _, rfl, rfl, hlead, word, _, cs, _, rfl, rfl, hword, body, tail, cs', _,
      rfl, rfl, hbody, htail⟩
    obtain ⟨hleadBlank, rfl⟩ := matches_blanks.mp hlead
    obtain ⟨htailBlank, rfl⟩ := matches_blanks.mp (matches_seq_empty.mp htail)
    exact ⟨lead, word, body, tail, cs, cs', rfl, by simp, hleadBlank, hword, hbody, htailBlank⟩
  · rintro ⟨lead, word, body, tail, cs, cs', rfl, rfl, hlead, hword, hbody, htail⟩
    exact ⟨lead, _, [], _, rfl, rfl, matches_blanks.mpr ⟨hlead, rfl⟩, word, _, cs, _, rfl, rfl,
      hword, body, tail, cs', [], rfl, by simp, hbody,
      matches_seq_empty.mpr (matches_blanks.mpr ⟨htail, rfl⟩)⟩

/-! ### Patterns of one word -/

def TakesWord (p : Pattern) (allowed : String → Prop) (told : String → List String) : Prop :=
  ∀ text captures, p.Matches text captures ↔
    (IsWord (String.ofList text) ∧ allowed (String.ofList text)) ∧
      captures = told (String.ofList text)

theorem TakesWord.matches_toList {p : Pattern} {allowed : String → Prop}
    {told : String → List String} (h : p.TakesWord allowed told) {w : String} (hw : IsWord w)
    (hallowed : allowed w) : p.Matches w.toList (told w) := by
  rw [h, String.ofList_toList]
  exact ⟨⟨hw, hallowed⟩, rfl⟩

theorem takesWord_several {test : Char → Bool} (htest : ∀ c, test c = true → isBlank c = false) :
    (several (one test)).TakesWord (fun w => w.toList.all test = true) fun _ => [] := by
  intro text captures
  dsimp only
  rw [matches_several_one, ← List.all_eq_true]
  refine and_congr_left fun _ => ?_
  rw [String.toList_ofList]
  refine and_congr_left fun h => ⟨fun hne => ?_, fun hw => ?_⟩
  · exact isWord_ofList hne fun c hc => htest c (List.all_eq_true.mp h c hc)
  · simpa only [String.toList_ofList] using hw.nonempty

theorem takesWord_name : name.TakesWord (fun w => isName w = true) fun _ => [] :=
  takesWord_several fun _ => isBlank_eq_false_of_isWordChar

theorem takesWord_number : number.TakesWord (fun w => isTime w = true) fun _ => [] :=
  takesWord_several fun _ => isBlank_eq_false_of_isTimeChar

theorem takesWord_literal {s : String} (h : IsWord s) :
    (literal s).TakesWord (fun w => w = s) fun _ => [] := by
  intro text captures
  rw [matches_literal]
  refine and_congr_left fun _ => ?_
  constructor
  · rintro rfl
    rw [String.ofList_toList]
    exact ⟨h, rfl⟩
  · rintro ⟨-, rfl⟩
    rw [String.toList_ofList]

theorem TakesWord.either {p q : Pattern} {allowed allowed' : String → Prop}
    {told : String → List String} (hp : p.TakesWord allowed told)
    (hq : q.TakesWord allowed' told) :
    (Pattern.either p q).TakesWord (fun w => allowed w ∨ allowed' w) told := by
  intro text captures
  refine (or_congr (hp text captures) (hq text captures)).trans ?_
  rw [← or_and_right, ← and_or_left]

theorem TakesWord.group {p : Pattern} {allowed : String → Prop}
    (h : p.TakesWord allowed fun _ => []) : (Pattern.group p).TakesWord allowed fun w => [w] := by
  intro text captures
  constructor
  · rintro ⟨cs, rfl, hp⟩
    obtain ⟨hw, rfl⟩ := (h text cs).mp hp
    exact ⟨hw, rfl⟩
  · rintro ⟨hw, rfl⟩
    exact ⟨[], rfl, (h text []).mpr ⟨hw, rfl⟩⟩

/-! ### Patterns of several words -/

def Done (ws captures : List String) : Prop := ws = [] ∧ captures = []

/-- An allowed word comes first, and what it tells is captured first. -/
def Next (allowed : String → Prop) (told : String → List String)
    (R : List String → List String → Prop) (ws captures : List String) : Prop :=
  ∃ w ws' cs, ws = w :: ws' ∧ captures = told w ++ cs ∧ allowed w ∧ R ws' cs

/-- The pattern matches texts of words with a gap before each, and the captures are related to the
words. Which texts match depends on the words alone. -/
structure Splits (p : Pattern) (R : List String → List String → Prop) : Prop where
  matched : ∀ text captures, p.Matches text captures → ∃ ws, Spaced ws text ∧ R ws captures
  found : ∀ text ws captures, Spaced ws text → R ws captures →
    ∃ captures', p.Matches text captures' ∧ R ws captures'

theorem splits_empty : Splits .empty Done where
  matched := by
    rintro text captures ⟨rfl, rfl⟩
    exact ⟨[], .nil, rfl, rfl⟩
  found := by
    rintro text ws captures hspaced ⟨rfl, rfl⟩
    cases hspaced
    exact ⟨[], ⟨rfl, rfl⟩, rfl, rfl⟩

section

variable {p rest : Pattern} {allowed : String → Prop} {told : String → List String}
  {R : List String → List String → Prop}

theorem Splits.next (hrest : rest.Splits R) (hp : p.TakesWord allowed told) :
    Splits (.seq gap (.seq p rest)) (Next allowed told R) where
  matched text captures hmatch := by
    obtain ⟨before, word, body, cs, cs', rfl, rfl, ⟨hne, hblank⟩, hword, hbody⟩ :=
      matches_gap_seq.mp hmatch
    obtain ⟨⟨hw, hallowed⟩, rfl⟩ := (hp word cs).mp hword
    obtain ⟨ws, hspaced, hR⟩ := hrest.matched body cs' hbody
    have hcons := Spaced.cons hblank hne hw hspaced
    rw [String.toList_ofList] at hcons
    exact ⟨_, hcons, _, ws, cs', rfl, rfl, hallowed, hR⟩
  found := by
    rintro text _ _ hspaced ⟨w, ws, cs, rfl, rfl, hallowed, hR⟩
    obtain ⟨before, body, rfl, hblank, hne, hw, hmore⟩ := spaced_cons_iff.mp hspaced
    obtain ⟨cs', hbody, hR'⟩ := hrest.found body ws cs hmore hR
    refine ⟨told w ++ cs', matches_gap_seq.mpr ?_, w, ws, cs', rfl, rfl, hallowed, hR'⟩
    exact ⟨before, _, body, _, cs', rfl, rfl, ⟨hne, hblank⟩, hp.matches_toList hw hallowed, hbody⟩

theorem Splits.seq_empty (h : p.Splits R) : Splits (.seq p .empty) R where
  matched text captures hmatch := h.matched text captures (matches_seq_empty.mp hmatch)
  found text ws captures hspaced hR := by
    obtain ⟨cs, hmatch, hR'⟩ := h.found text ws captures hspaced hR
    exact ⟨cs, matches_seq_empty.mpr hmatch, hR'⟩

theorem Splits.optional (h : p.Splits R) :
    Splits (.optional p) fun ws captures => R ws captures ∨ Done ws captures where
  matched text captures hmatch := by
    rcases hmatch with hp | hempty
    · obtain ⟨ws, hspaced, hR⟩ := h.matched text captures hp
      exact ⟨ws, hspaced, .inl hR⟩
    · obtain ⟨ws, hspaced, hdone⟩ := splits_empty.matched text captures hempty
      exact ⟨ws, hspaced, .inr hdone⟩
  found text ws captures hspaced hR := by
    rcases hR with hR | hdone
    · obtain ⟨cs, hp, hR'⟩ := h.found text ws captures hspaced hR
      exact ⟨cs, .inl hp, .inl hR'⟩
    · obtain ⟨cs, hempty, hdone'⟩ := splits_empty.found text ws captures hspaced hdone
      exact ⟨cs, .inr hempty, .inr hdone'⟩

end

/-- So many names with a gap before each, all captured, and what comes behind them. -/
def namesThen : Nat → Pattern → Pattern
  | 0, rest => rest
  | n + 1, rest => .seq gap (.seq (.group name) (namesThen n rest))

def AfterNames (R : List String → List String → Prop) : Nat → List String → List String → Prop
  | 0 => R
  | n + 1 => Next (fun w => isName w = true) (fun w => [w]) (AfterNames R n)

theorem Splits.namesThen {rest : Pattern} {R : List String → List String → Prop} (h : rest.Splits R)
    (n : Nat) : Splits (namesThen n rest) (AfterNames R n) := by
  induction n with
  | zero => exact h
  | succ n ih => exact ih.next takesWord_name.group

theorem afterNames_iff {R : List String → List String → Prop} {n : Nat}
    {ws captures : List String} :
    AfterNames R n ws captures ↔ ∃ names ws' cs, ws = names ++ ws' ∧ captures = names ++ cs ∧
      names.length = n ∧ (∀ w ∈ names, isName w = true) ∧ R ws' cs := by
  induction n generalizing ws captures with
  | zero =>
    constructor
    · exact fun hR => ⟨[], ws, captures, rfl, rfl, rfl, nofun, hR⟩
    · rintro ⟨names, ws', cs, rfl, rfl, hlength, -, hR⟩
      obtain rfl := List.eq_nil_of_length_eq_zero hlength
      exact hR
  | succ n ih =>
    constructor
    · rintro ⟨w, _, _, rfl, rfl, hw, hmore⟩
      obtain ⟨names, ws', cs, rfl, rfl, hlength, hnames, hR⟩ := ih.mp hmore
      exact ⟨w :: names, ws', cs, rfl, rfl, congrArg (· + 1) hlength,
        List.forall_mem_cons.mpr ⟨hw, hnames⟩, hR⟩
    · rintro ⟨names, ws', cs, rfl, rfl, hlength, hnames, hR⟩
      obtain ⟨w, names, rfl⟩ := List.exists_cons_of_length_eq_add_one hlength
      obtain ⟨hw, hmore⟩ := List.forall_mem_cons.mp hnames
      have hlength' : names.length = n := Nat.add_right_cancel hlength
      exact ⟨w, _, _, rfl, rfl, hw, ih.mpr ⟨names, ws', cs, rfl, rfl, hlength', hmore, hR⟩⟩

theorem matches_gap_name {text : List Char} :
    (sequence [gap, name]).Matches text [] ↔ ∃ w, Spaced [w] text ∧ isName w = true := by
  have hsplits := splits_empty.next takesWord_name
  constructor
  · intro hmatch
    obtain ⟨_, hspaced, w, _, _, rfl, -, hname, rfl, -⟩ := hsplits.matched text [] hmatch
    exact ⟨w, hspaced, hname⟩
  · rintro ⟨w, hspaced, hname⟩
    obtain ⟨_, hmatch, _, _, _, _, rfl, _, _, rfl⟩ :=
      hsplits.found text [w] [] hspaced ⟨w, [], [], rfl, rfl, hname, rfl, rfl⟩
    exact hmatch

theorem splits_names :
    Splits (.group (.many (.sequence [gap, name]))) fun ws captures =>
      ∃ text : List Char, namesOf text = ws ∧ captures = [String.ofList text] ∧
        ∀ w ∈ ws, isName w = true where
  matched text captures hmatch := by
    obtain ⟨_, rfl, ⟨parts, hparts, rfl⟩, rfl⟩ := hmatch
    have hspaced : ∃ ws, Spaced ws parts.flatten ∧ ∀ w ∈ ws, isName w = true := by
      induction parts with
      | nil => exact ⟨[], .nil, nofun⟩
      | cons part parts ih =>
        obtain ⟨hpart, hrest⟩ := List.forall_mem_cons.mp hparts
        obtain ⟨ws, hspaced, hnames⟩ := ih hrest
        obtain ⟨w, hword, hname⟩ := matches_gap_name.mp hpart
        exact ⟨w :: ws, hword.append hspaced, List.forall_mem_cons.mpr ⟨hname, hnames⟩⟩
    obtain ⟨ws, hspaced, hnames⟩ := hspaced
    exact ⟨ws, hspaced, parts.flatten, hspaced.namesOf_eq, rfl, hnames⟩
  found text ws captures hspaced hR := by
    obtain ⟨-, -, -, hnames⟩ := hR
    refine ⟨[String.ofList text], ⟨[], rfl, ?_, rfl⟩, text, hspaced.namesOf_eq, rfl, hnames⟩
    induction hspaced with
    | nil => exact ⟨[], nofun, rfl⟩
    | @cons w ws before rest hblank hne hw hmore ih =>
      obtain ⟨hname, hrest⟩ := List.forall_mem_cons.mp hnames
      obtain ⟨parts, hparts, rfl⟩ := ih hrest
      have hpart : (sequence [gap, name]).Matches (before ++ (w.toList ++ [])) [] :=
        matches_gap_name.mpr ⟨w, .cons hblank hne hw .nil, hname⟩
      exact ⟨_ :: parts, List.forall_mem_cons.mpr ⟨hpart, hparts⟩, by simp⟩

/-- A pattern of lines relates the words of a line to the captures. -/
structure Reads (p : Pattern) (R : List String → List String → Prop) : Prop where
  matched : ∀ text captures, p.Matches text captures → R (namesOf text) captures
  found : ∀ text captures, R (namesOf text) captures →
    ∃ captures', p.Matches text captures' ∧ R (namesOf text) captures'

theorem Splits.reads_line {keyword rest : Pattern} {allowed : String → Prop}
    {told : String → List String} {R : List String → List String → Prop} (hrest : rest.Splits R)
    (hkeyword : keyword.TakesWord allowed told) :
    Reads (.line keyword rest) (Next allowed told R) where
  matched text captures hmatch := by
    obtain ⟨lead, word, body, tail, cs, cs', rfl, rfl, hlead, hword, hbody, htail⟩ :=
      matches_line.mp hmatch
    obtain ⟨⟨hw, hallowed⟩, rfl⟩ := (hkeyword word cs).mp hword
    obtain ⟨ws, hspaced, hR⟩ := hrest.matched body cs' hbody
    have hlaid := LaidOut.words hlead hw hspaced htail
    rw [String.toList_ofList] at hlaid
    exact ⟨_, ws, cs', hlaid.namesOf_eq, rfl, hallowed, hR⟩
  found := by
    rintro text _ ⟨w, ws, cs, hwords, rfl, hallowed, hR⟩
    obtain ⟨lead, body, tail, rfl, hlead, hw, hspaced, htail⟩ :=
      laidOut_cons_iff.mp (namesOf_eq_iff.mp hwords)
    obtain ⟨cs', hbody, hR'⟩ := hrest.found body ws cs hspaced hR
    refine ⟨told w ++ cs', matches_line.mpr ?_, w, ws, cs', hwords, rfl, hallowed, hR'⟩
    exact ⟨lead, _, body, tail, _, cs', rfl, rfl, hlead, hkeyword.matches_toList hw hallowed, hbody,
      htail⟩

end Pattern

end Signalbox.Scenario
