import Signalbox.Scenario.Basic

/-!
Lines of a text and words of a line, as a writer lays them out: words with gaps of blanks between
them, lines with a line feed behind each. Neither words nor times have blanks in them, so the words
of a line that is laid out are the ones that were written.
-/
namespace Signalbox.Text

/-! ### Classes of characters -/

def codePoints (ranges : List CodeRange) : List Nat :=
  ranges.flatMap fun (first, last) => (List.range (last + 1 - first)).map (first + ·)

theorem mem_codePoints_of_inRanges {ranges : List CodeRange} {n : Nat}
    (h : inRanges ranges n = true) : n ∈ codePoints ranges := by
  induction ranges with
  | nil => cases h
  | cons range rest ih =>
    obtain ⟨first, last⟩ := range
    rw [inRanges_cons, Bool.and_eq_true, Bool.or_eq_true, decide_eq_true_eq,
      decide_eq_true_eq] at h
    rw [codePoints, List.flatMap_cons, List.mem_append]
    obtain ⟨hfirst, hlast | hrest⟩ := h
    · have hbelow : n - first ∈ List.range (last + 1 - first) := List.mem_range.mpr (by omega)
      exact .inl (List.mem_map.mpr ⟨_, hbelow, Nat.add_sub_of_le hfirst⟩)
    · exact .inr (ih hrest)

theorem isBlank_eq_false_of_inRanges {ranges : List CodeRange} {c : Char}
    (hnone : ∀ n ∈ codePoints blankRanges, inRanges ranges n = false)
    (h : inRanges ranges c.toNat = true) : isBlank c = false := by
  cases hblank : isBlank c with
  | false => rfl
  | true =>
    rw [hnone _ (mem_codePoints_of_inRanges hblank)] at h
    cases h

theorem isBlank_eq_false_of_isWordChar {c : Char} (h : isWordChar c = true) : isBlank c = false :=
  isBlank_eq_false_of_inRanges (by decide +kernel) h

theorem isBlank_eq_false_of_isDecimalDigit {c : Char} (h : isDecimalDigit c = true) :
    isBlank c = false :=
  isBlank_eq_false_of_inRanges (by decide +kernel) h

theorem isBlank_eq_false_of_isTimeChar {c : Char} (h : (isDecimalDigit c || c = '.') = true) :
    isBlank c = false := by
  rw [Bool.or_eq_true, decide_eq_true_eq] at h
  rcases h with hdigit | rfl
  · exact isBlank_eq_false_of_isDecimalDigit hdigit
  · decide

/-! ### Words of a line -/

def AllBlank (gap : List Char) : Prop := ∀ c ∈ gap, isBlank c = true

structure IsWord (w : String) : Prop where
  nonempty : w.toList ≠ []
  noBlank : ∀ c ∈ w.toList, isBlank c = false

instance (w : String) : Decidable (IsWord w) :=
  decidable_of_iff (w.toList.isEmpty = false ∧ w.toList.all (fun c => !isBlank c) = true) <| by
    simp only [List.isEmpty_eq_false_iff, List.all_eq_true, Bool.not_eq_true']
    exact ⟨fun h => ⟨h.1, h.2⟩, fun h => ⟨h.nonempty, h.noBlank⟩⟩

theorem isWord_ofList {w : List Char} (hne : w ≠ []) (h : ∀ c ∈ w, isBlank c = false) :
    IsWord (String.ofList w) := by
  constructor <;> rwa [String.toList_ofList]

theorem isWord_of_all {test : Char → Bool} (htest : ∀ c, test c = true → isBlank c = false)
    {w : String} (hne : w.toList ≠ []) (h : w.toList.all test = true) : IsWord w :=
  ⟨hne, fun c hc => htest c (List.all_eq_true.mp h c hc)⟩

/-- The text has the words one after another, with a gap before each. -/
inductive Spaced : List String → List Char → Prop
  | nil : Spaced [] []
  | cons {w : String} {ws : List String} {gap text : List Char} (blank : AllBlank gap)
    (nonempty : gap ≠ []) (word : IsWord w) (more : Spaced ws text) :
    Spaced (w :: ws) (gap ++ (w.toList ++ text))

/-- The line has the words one after another, with gaps between them and blanks at both ends. -/
inductive LaidOut : List String → List Char → Prop
  | blank {line : List Char} (blank : AllBlank line) : LaidOut [] line
  | words {w : String} {ws : List String} {lead text tail : List Char} (lead_blank : AllBlank lead)
    (word : IsWord w) (more : Spaced ws text) (tail_blank : AllBlank tail) :
    LaidOut (w :: ws) (lead ++ (w.toList ++ (text ++ tail)))

def namesOf (line : List Char) : List String := (words line).map String.ofList

section

variable {w : String} {ws : List String} {gap text tail line : List Char}

theorem spaced_cons_iff :
    Spaced (w :: ws) text ↔ ∃ gap rest, text = gap ++ (w.toList ++ rest) ∧ AllBlank gap ∧
      gap ≠ [] ∧ IsWord w ∧ Spaced ws rest := by
  constructor
  · rintro (_ | ⟨blank, nonempty, word, more⟩)
    exact ⟨_, _, rfl, blank, nonempty, word, more⟩
  · rintro ⟨gap, rest, rfl, blank, nonempty, word, more⟩
    exact .cons blank nonempty word more

theorem laidOut_cons_iff :
    LaidOut (w :: ws) line ↔ ∃ lead text tail, line = lead ++ (w.toList ++ (text ++ tail)) ∧
      AllBlank lead ∧ IsWord w ∧ Spaced ws text ∧ AllBlank tail := by
  constructor
  · rintro (_ | ⟨lead_blank, word, more, tail_blank⟩)
    exact ⟨_, _, _, rfl, lead_blank, word, more, tail_blank⟩
  · rintro ⟨lead, text, tail, rfl, lead_blank, word, more, tail_blank⟩
    exact .words lead_blank word more tail_blank

theorem AllBlank.append {more : List Char} (hgap : AllBlank gap) (hmore : AllBlank more) :
    AllBlank (gap ++ more) :=
  List.forall_mem_append.mpr ⟨hgap, hmore⟩

theorem words_cons_of_isBlank {c : Char} (h : isBlank c = true) (cs : List Char) :
    words (c :: cs) = words cs := by
  simp [words, leadingWord, h, consWord]

theorem exists_words_cons {c : Char} (h : isBlank c = false) (cs : List Char) :
    ∃ w ws, words (c :: cs) = (c :: w) :: ws := by
  refine ⟨(leadingWord cs).1, (leadingWord cs).2, ?_⟩
  simp [words, leadingWord, h, consWord]

theorem words_append_of_allBlank (h : AllBlank gap) (text : List Char) :
    words (gap ++ text) = words text := by
  induction gap with
  | nil => rfl
  | cons c gap ih =>
    obtain ⟨hc, hgap⟩ := List.forall_mem_cons.mp h
    rw [List.cons_append, words_cons_of_isBlank hc, ih hgap]

theorem namesOf_append_of_allBlank (h : AllBlank gap) (text : List Char) :
    namesOf (gap ++ text) = namesOf text := by
  rw [namesOf, words_append_of_allBlank h, namesOf]

theorem namesOf_of_allBlank (h : AllBlank gap) : namesOf gap = [] := by
  simpa [namesOf, words, leadingWord, consWord] using namesOf_append_of_allBlank h []

theorem leadingWord_of_isBlank_head (h : ∀ c ∈ text.head?, isBlank c = true) :
    leadingWord text = ([], words text) := by
  cases text with
  | nil => rfl
  | cons c cs =>
    have hc : isBlank c = true := h c rfl
    simp [words, leadingWord, hc, consWord]

theorem leadingWord_append {w : List Char} (hw : ∀ c ∈ w, isBlank c = false)
    (htext : ∀ c ∈ text.head?, isBlank c = true) : leadingWord (w ++ text) = (w, words text) := by
  induction w with
  | nil => exact leadingWord_of_isBlank_head htext
  | cons c w ih =>
    obtain ⟨hc, hrest⟩ := List.forall_mem_cons.mp hw
    simp [leadingWord, hc, ih hrest]

theorem namesOf_word_append (hw : IsWord w) (htext : ∀ c ∈ text.head?, isBlank c = true) :
    namesOf (w.toList ++ text) = w :: namesOf text := by
  have hne : w.toList.isEmpty = false := List.isEmpty_eq_false_iff.mpr hw.nonempty
  rw [namesOf, words, leadingWord_append hw.noBlank htext]
  simp only [consWord, hne, Bool.false_eq_true, if_false, List.map_cons, String.ofList_toList]
  rfl

theorem Spaced.append {ws' : List String} {text' : List Char} (h : Spaced ws text)
    (h' : Spaced ws' text') : Spaced (ws ++ ws') (text ++ text') := by
  induction h with
  | nil => exact h'
  | cons blank nonempty word more ih =>
    rw [List.append_assoc, List.append_assoc]
    exact .cons blank nonempty word ih

theorem Spaced.isWord (h : Spaced ws text) : ∀ w ∈ ws, IsWord w := by
  induction h with
  | nil => nofun
  | cons _ _ word _ ih => exact List.forall_mem_cons.mpr ⟨word, ih⟩

theorem exists_spaced_of_isWord (h : ∀ w ∈ ws, IsWord w) :
    ∃ text, Spaced ws text ∧ '\n' ∉ text := by
  induction ws with
  | nil => exact ⟨[], .nil, nofun⟩
  | cons w ws ih =>
    obtain ⟨hw, hws⟩ := List.forall_mem_cons.mp h
    obtain ⟨text, hspaced, htext⟩ := ih hws
    have hblank : AllBlank [' '] := List.forall_mem_singleton.mpr (by decide)
    have hword : '\n' ∉ w.toList := fun hmem => absurd (hw.noBlank _ hmem) (by decide)
    refine ⟨_, .cons hblank (List.cons_ne_nil _ _) hw hspaced, ?_⟩
    simp [hword, htext]

theorem Spaced.isBlank_head (h : Spaced ws text) (htail : AllBlank tail) :
    ∀ c ∈ (text ++ tail).head?, isBlank c = true := by
  cases h with
  | nil => exact fun c hc => htail c (List.mem_of_mem_head? hc)
  | @cons w ws gap text blank nonempty word more =>
    cases gap with
    | nil => exact absurd rfl nonempty
    | cons b gap =>
      rintro c ⟨⟩
      exact blank b List.mem_cons_self

theorem Spaced.namesOf_append (h : Spaced ws text) (htail : AllBlank tail) :
    namesOf (text ++ tail) = ws := by
  induction h with
  | nil => exact namesOf_of_allBlank htail
  | cons blank nonempty word more ih =>
    rw [List.append_assoc, List.append_assoc, namesOf_append_of_allBlank blank,
      namesOf_word_append word (more.isBlank_head htail), ih]

theorem Spaced.namesOf_eq (h : Spaced ws text) : namesOf text = ws := by
  have htail : AllBlank [] := nofun
  simpa using h.namesOf_append htail

theorem LaidOut.namesOf_eq (h : LaidOut ws line) : namesOf line = ws := by
  cases h with
  | blank blank => exact namesOf_of_allBlank blank
  | words lead_blank word more tail_blank =>
    rw [namesOf_append_of_allBlank lead_blank,
      namesOf_word_append word (more.isBlank_head tail_blank), more.namesOf_append tail_blank]

theorem Spaced.blank_cons (h : Spaced ws text) (htail : AllBlank tail) {c : Char}
    (hc : isBlank c = true) :
    ∃ text' tail', c :: (text ++ tail) = text' ++ tail' ∧ Spaced ws text' ∧ AllBlank tail' := by
  cases h with
  | nil => exact ⟨[], c :: tail, rfl, .nil, List.forall_mem_cons.mpr ⟨hc, htail⟩⟩
  | @cons w ws gap text blank nonempty word more =>
    have hlonger : AllBlank (c :: gap) := List.forall_mem_cons.mpr ⟨hc, blank⟩
    exact ⟨_, tail, rfl, .cons hlonger (List.cons_ne_nil c gap) word more, htail⟩

theorem exists_spaced (line : List Char) :
    ∃ text tail, line = (leadingWord line).1 ++ (text ++ tail) ∧
      (∀ c ∈ (leadingWord line).1, isBlank c = false) ∧
      Spaced ((leadingWord line).2.map String.ofList) text ∧ AllBlank tail := by
  induction line with
  | nil => exact ⟨[], [], rfl, nofun, .nil, nofun⟩
  | cons c cs ih =>
    rw [leadingWord]
    generalize leadingWord cs = first at ih
    obtain ⟨w, ws⟩ := first
    obtain ⟨text, tail, rfl, hword, hspaced, htail⟩ := ih
    cases hc : isBlank c with
    | false => exact ⟨text, tail, rfl, List.forall_mem_cons.mpr ⟨hc, hword⟩, hspaced, htail⟩
    | true =>
      -- the blank lengthens the first gap, or is the gap before a word that has come to its start
      cases w with
      | nil =>
        obtain ⟨text', tail', hline, hspaced', htail'⟩ := hspaced.blank_cons htail hc
        exact ⟨text', tail', hline, nofun, hspaced', htail'⟩
      | cons d w =>
        have hw := isWord_ofList (List.cons_ne_nil d w) hword
        have hblank : AllBlank [c] := List.forall_mem_singleton.mpr hc
        refine ⟨_, tail, ?_, nofun, .cons hblank (List.cons_ne_nil c []) hw hspaced, htail⟩
        simp

theorem Spaced.laidOut (h : Spaced ws text) (htail : AllBlank tail) :
    LaidOut ws (text ++ tail) := by
  cases h with
  | nil => exact .blank htail
  | cons blank nonempty word more =>
    rw [List.append_assoc, List.append_assoc]
    exact .words blank word more htail

theorem namesOf_eq_iff : namesOf line = ws ↔ LaidOut ws line := by
  refine ⟨?_, LaidOut.namesOf_eq⟩
  rintro rfl
  obtain ⟨text, tail, hline, hword, hspaced, htail⟩ := exists_spaced line
  unfold namesOf words
  generalize leadingWord line = first at hline hword hspaced ⊢
  obtain ⟨w, ws⟩ := first
  cases w with
  | nil =>
    rw [hline]
    exact hspaced.laidOut htail
  | cons d w =>
    have hw := isWord_ofList (List.cons_ne_nil d w) hword
    have hlead : AllBlank [] := nofun
    have hlaid := LaidOut.words hlead hw hspaced htail
    rw [hline]
    simpa [consWord] using hlaid

theorem isWord_of_mem_namesOf : ∀ w ∈ namesOf line, IsWord w := by
  cases hwords : namesOf line with
  | nil => nofun
  | cons w ws =>
    obtain ⟨_, _, _, -, -, hw, hspaced, -⟩ := laidOut_cons_iff.mp (namesOf_eq_iff.mp hwords)
    exact List.forall_mem_cons.mpr ⟨hw, hspaced.isWord⟩

theorem LaidOut.append_blank (h : LaidOut ws line) (hgap : AllBlank gap) :
    LaidOut ws (line ++ gap) := by
  cases h with
  | blank blank => exact .blank (blank.append hgap)
  | words lead_blank word more tail_blank =>
    simpa only [List.append_assoc] using
      LaidOut.words lead_blank word more (tail_blank.append hgap)

theorem namesOf_append_blank (h : AllBlank gap) (line : List Char) :
    namesOf (line ++ gap) = namesOf line :=
  ((namesOf_eq_iff.mp rfl).append_blank h).namesOf_eq

end

/-! ### Lines of a text -/

theorem lines_of_notMem {line : List Char} (h : '\n' ∉ line) : lines line = [line] := by
  simp [lines, List.splitOn_eq_singleton h]

theorem lines_append_newline {line : List Char} (h : '\n' ∉ line) (text : List Char) :
    lines (line ++ '\n' :: text) = chomp line :: lines text := by
  have hne := List.splitOn_ne_nil '\n' text
  rw [lines, List.splitOn_append_cons_self, List.splitOn_eq_singleton h, List.singleton_append,
    List.dropLast_cons_of_ne_nil hne, List.getLast?_cons_of_ne_nil hne]
  rfl

theorem namesOf_chomp (line : List Char) : namesOf (chomp line) = namesOf line := by
  refine iteInduction (motive := fun l => namesOf l = namesOf line) (fun hlast => ?_) fun _ => rfl
  have hreturn : AllBlank ['\r'] := List.forall_mem_singleton.mpr (by decide)
  obtain ⟨before, rfl⟩ := List.getLast?_eq_some_iff.mp hlast
  rw [List.dropLast_concat, namesOf_append_blank hreturn]

end Signalbox.Text
