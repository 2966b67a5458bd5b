import Signalbox.Proofs.LineEnds

/-!
Writing tokens down. Marks stand for themselves, words and numbers are runs of their characters,
and behind each token is a gap of blanks and comments. However the gaps are chosen, the text is
cut into the tokens that were written.
-/
namespace Signalbox.Table

open Text

/-- The text is a way to write the token. The end of a text is not written. -/
inductive Token.Spelled : Token → List Char → Prop
  | braceOpen : Spelled .braceOpen ['\x7b']
  | braceClose : Spelled .braceClose ['\x7d']
  | listOpen : Spelled .listOpen ['[']
  | listClose : Spelled .listClose [']']
  | separator : Spelled .separator [',']
  | number {c : Char} {rest : List Char} {value : Binary64} (start : isNumeral c = true)
    (others : ∀ d ∈ rest, isNumeral d = true ∨ d ∈ ['e', 'E', '.'])
    (reads : Binary64.ofChars? (c :: rest) = some value) : Spelled (.number value) (c :: rest)
  | word {c : Char} {rest : List Char}
    (start : c = '_' ∨ isAlphabetic c = true ∧ isNumeral c = false)
    (others : ∀ d ∈ rest, d = '_' ∨ isAlphabetic d = true ∨ isNumeral d = true) :
    Spelled (.word (String.ofList (c :: rest))) (c :: rest)

/-- Blanks, and comments up to the ends of their lines. -/
inductive IsGap : List Char → Prop
  | nil : IsGap []
  | blank {c : Char} {rest : List Char} (h : c ∈ [' ', '\t', '\r', '\n']) (more : IsGap rest) :
    IsGap (c :: rest)
  | comment {text rest : List Char} (h : '\n' ∉ text) (more : IsGap rest) :
    IsGap ('#' :: (text ++ '\n' :: rest))

/-- The text has the tokens one after another, with a gap behind each. -/
inductive LaidOut : List Token → List Char → Prop
  | nil : LaidOut [] []
  | cons {t : Token} {ts : List Token} {spelling gap text : List Char}
    (spelled : t.Spelled spelling) (isGap : IsGap gap) (nonempty : gap ≠ [])
    (more : LaidOut ts text) : LaidOut (t :: ts) (spelling ++ (gap ++ text))

/-! ### Runs -/

namespace Pending

theorem claims_extend (p : Pending) (c : Char) : (p.extend c).claims = p.claims := by
  cases p <;> rfl

theorem foldl_extend_number (run cs : List Char) :
    cs.foldl extend (.number run) = .number (cs.reverse ++ run) := by
  induction cs generalizing run with
  | nil => rfl
  | cons c cs ih => simp [extend, ih]

theorem foldl_extend_word (run cs : List Char) :
    cs.foldl extend (.word run) = .word (cs.reverse ++ run) := by
  induction cs generalizing run with
  | nil => rfl
  | cons c cs ih => simp [extend, ih]

theorem foldl_extend_comment (cs : List Char) : cs.foldl extend .comment = .comment := by
  induction cs with
  | nil => rfl
  | cons c cs ih => exact ih

end Pending

theorem isNumberChar_iff {c : Char} :
    isNumberChar c = true ↔ isNumeral c = true ∨ c ∈ ['e', 'E', '.'] := by
  simp [isNumberChar, or_assoc]

theorem isWordPart_iff {c : Char} :
    isWordPart c = true ↔ c = '_' ∨ isAlphabetic c = true ∨ isNumeral c = true := by
  simp [isWordPart, or_assoc]

namespace Scan

variable {s : Scan} {c : Char} {cs : List Char}

theorem run_of_claimed (s : Scan) (h : ∀ c ∈ cs, s.pending.claims c = true) :
    s.run cs = .ok { s with pending := cs.foldl Pending.extend s.pending } := by
  induction cs generalizing s with
  | nil => rfl
  | cons c cs ih =>
    rw [List.forall_mem_cons] at h
    rw [run_cons, step_of_claims h.1]
    apply ih
    rw [Pending.claims_extend]
    exact h.2

def between (line : Nat) (tokens : List Token) : Scan := ⟨line, .between, tokens⟩

def Rests (s : Scan) : Prop := ∀ c ∈ [' ', '\t', '\r', '\n', '#'], s.pending.claims c = false

/-- The tokens have been read. The last of them may still be pending, but a gap finishes it. -/
structure Reads (s : Scan) (line : Nat) (tokens : List Token) : Prop where
  flush : s.flush = .ok (between line tokens)
  rests : s.Rests

section Spelling

variable (line : Nat) (tokens : List Token)

theorem run_between_cons (c : Char) (cs : List Char) :
    (between line tokens).run (c :: cs) = ((between line tokens).start c).bind (·.run cs) := rfl

theorem reads_between : (between line tokens).Reads line tokens := ⟨rfl, fun _ _ => rfl⟩

theorem reads_number {run : List Char} {value : Binary64}
    (h : Binary64.ofChars? run.reverse = some value) :
    Scan.Reads ⟨line, .number run, tokens⟩ line (.number value :: tokens) where
  flush := by
    simp only [Scan.flush, h]
    rfl
  rests := by
    simp only [Rests, List.forall_mem_cons]
    exact ⟨rfl, rfl, rfl, rfl, rfl, List.forall_mem_nil _⟩

theorem reads_word (run : List Char) :
    Scan.Reads ⟨line, .word run, tokens⟩ line (.word (String.ofList run.reverse) :: tokens) where
  flush := rfl
  rests := by
    simp only [Rests, List.forall_mem_cons]
    exact ⟨rfl, rfl, rfl, rfl, rfl, List.forall_mem_nil _⟩

theorem start_numeral (h : isNumeral c = true) :
    (between line tokens).start c = .ok ⟨line, .number [c], tokens⟩ := by
  rw [start, if_pos h]
  rfl

theorem start_word (h : c = '_' ∨ isAlphabetic c = true ∧ isNumeral c = false) :
    (between line tokens).start c = .ok ⟨line, .word [c], tokens⟩ := by
  rcases h with rfl | ⟨halphabetic, hnumeral⟩
  · rfl
  · simp [start, isWordStart, halphabetic, hnumeral, between]

theorem run_spelled {t : Token} (h : t.Spelled cs) :
    ∃ s, (between line tokens).run cs = .ok s ∧ s.Reads line (t :: tokens) := by
  cases h with
  | braceOpen => exact ⟨_, rfl, reads_between _ _⟩
  | braceClose => exact ⟨_, rfl, reads_between _ _⟩
  | listOpen => exact ⟨_, rfl, reads_between _ _⟩
  | listClose => exact ⟨_, rfl, reads_between _ _⟩
  | separator => exact ⟨_, rfl, reads_between _ _⟩
  | @number c rest value hstart hothers hreads =>
    have hrest := run_of_claimed ⟨line, .number [c], tokens⟩
      fun d hd => isNumberChar_iff.mpr (hothers d hd)
    rw [Pending.foldl_extend_number] at hrest
    have hspelled : Binary64.ofChars? (rest.reverse ++ [c]).reverse = some value := by
      rwa [List.reverse_concat, List.reverse_reverse]
    refine ⟨_, ?_, reads_number line tokens hspelled⟩
    rw [run_between_cons, start_numeral line tokens hstart]
    exact hrest
  | @word c rest hstart hothers =>
    have hrest := run_of_claimed ⟨line, .word [c], tokens⟩
      fun d hd => isWordPart_iff.mpr (hothers d hd)
    rw [Pending.foldl_extend_word] at hrest
    have hread := reads_word line tokens (rest.reverse ++ [c])
    rw [List.reverse_concat, List.reverse_reverse] at hread
    refine ⟨_, ?_, hread⟩
    rw [run_between_cons, start_word line tokens hstart]
    exact hrest

end Spelling

/-! ### Gaps -/

theorem start_blank (line : Nat) (tokens : List Token) (h : c ∈ [' ', '\t', '\r', '\n']) :
    ∃ line', (between line tokens).start c = .ok (between line' tokens) := by
  simp only [List.mem_cons, List.not_mem_nil, or_false] at h
  rcases h with rfl | rfl | rfl | rfl <;> exact ⟨_, rfl⟩

theorem run_comment (line : Nat) (tokens : List Token) {text : List Char} (h : '\n' ∉ text)
    (cs : List Char) :
    (between line tokens).run ('#' :: (text ++ '\n' :: cs)) =
      (between (line + 1) tokens).run cs := by
  have hclaimed : ∀ c ∈ text, Pending.comment.claims c = true := by
    intro c hc
    simpa [Pending.claims] using ne_of_mem_of_not_mem hc h
  have htext := run_of_claimed ⟨line, .comment, tokens⟩ hclaimed
  rw [Pending.foldl_extend_comment] at htext
  change Scan.run ⟨line, .comment, tokens⟩ (text ++ '\n' :: cs) = _
  rw [run_append, htext]
  rfl

theorem run_gap (line : Nat) (tokens : List Token) (h : IsGap cs) :
    ∃ line', (between line tokens).run cs = .ok (between line' tokens) := by
  induction h generalizing line with
  | nil => exact ⟨line, rfl⟩
  | @blank c rest hc hmore ih =>
    obtain ⟨next, hstart⟩ := start_blank line tokens hc
    rw [run_between_cons, hstart]
    exact ih next
  | comment htext hmore ih =>
    rw [run_comment line tokens htext]
    exact ih (line + 1)

theorem mem_of_isGap (h : IsGap (c :: cs)) : c ∈ [' ', '\t', '\r', '\n', '#'] := by
  cases h with
  | blank hc => exact List.mem_append_left ['#'] hc
  | comment => simp

theorem Reads.run_gap {line : Nat} {tokens : List Token} (hs : s.Reads line tokens)
    (h : IsGap cs) (hne : cs ≠ []) : ∃ line', s.run cs = .ok (between line' tokens) := by
  obtain ⟨c, rest, rfl⟩ := List.exists_cons_of_ne_nil hne
  have hstep : s.run (c :: rest) = (between line tokens).run (c :: rest) := by
    rw [run_cons, step_of_not_claims (hs.rests c (mem_of_isGap h)), hs.flush]
    rfl
  rw [hstep]
  exact Scan.run_gap line tokens h

/-! ### Texts -/

theorem run_laidOut {ts : List Token} (line : Nat) (tokens : List Token) (h : LaidOut ts cs) :
    ∃ line', (between line tokens).run cs = .ok (between line' (ts.reverse ++ tokens)) := by
  induction h generalizing line tokens with
  | nil => exact ⟨line, rfl⟩
  | @cons t ts spelling gap text spelled isGap nonempty more ih =>
    obtain ⟨s, hspelling, hreads⟩ := run_spelled line tokens spelled
    obtain ⟨next, hgap⟩ := hreads.run_gap isGap nonempty
    obtain ⟨last, hmore⟩ := ih next (t :: tokens)
    refine ⟨last, ?_⟩
    rw [run_append, hspelling]
    change s.run (gap ++ text) = _
    rw [run_append, hgap]
    change (between next (t :: tokens)).run text = _
    rw [hmore, List.reverse_cons, List.append_assoc]
    rfl

end Scan

/-- However tokens are laid out, a text is cut into just these tokens and its end. -/
theorem laidOut_text_scanned {ts : List Token} {text : List Char} (h : LaidOut ts text) :
    Token.scan text = .ok (ts ++ [.endOfText]) := by
  obtain ⟨line, hrun⟩ := Scan.run_laidOut 1 [] h
  have hwhole : Scan.whole text = .ok (Scan.between line (ts.reverse ++ [])) :=
    bind_eq_ok_iff.mpr ⟨_, hrun, rfl⟩
  rw [Scan.scan_eq, hwhole]
  simp [Except.map, Scan.listed, Scan.between]

/-- A name with letters of two scripts, a comment that looks like tokens, and a number. -/
theorem commented_length_scanned :
    LaidOut [.word "gleis_β2", .number ⟨4638179850610278400, by decide⟩, .listOpen]
        "gleis_β2 # 1..[\n\t120.5e0\r[ \n".toList ∧
      Token.scan "gleis_β2 # 1..[\n\t120.5e0\r[ \n".toList =
        .ok [.word "gleis_β2", .number ⟨4638179850610278400, by decide⟩, .listOpen,
          .endOfText] := by
  have hletters : "leis_β2".toList.all isWordPart = true := by decide +kernel
  have hword : Token.Spelled (.word "gleis_β2") "gleis_β2".toList :=
    @Token.Spelled.word 'g' "leis_β2".toList (by decide)
      fun d hd => isWordPart_iff.mp (List.all_eq_true.mp hletters d hd)
  have hdigits : "20.5e0".toList.all isNumberChar = true := by decide +kernel
  have hnumber : Token.Spelled (.number ⟨4638179850610278400, by decide⟩) "120.5e0".toList :=
    @Token.Spelled.number '1' "20.5e0".toList _ (by decide)
      (fun d hd => isNumberChar_iff.mp (List.all_eq_true.mp hdigits d hd)) (by decide +kernel)
  have hcomment : IsGap " # 1..[\n\t".toList :=
    .blank (by decide) (@IsGap.comment " 1..[".toList _ (by decide) (.blank (by decide) .nil))
  have hreturn : IsGap ['\r'] := .blank (by decide) .nil
  have hend : IsGap " \n".toList := .blank (by decide) (.blank (by decide) .nil)
  have hlaid : LaidOut [.word "gleis_β2", .number ⟨4638179850610278400, by decide⟩, .listOpen]
      "gleis_β2 # 1..[\n\t120.5e0\r[ \n".toList :=
    .cons hword hcomment (by decide) <| .cons hnumber hreturn (by decide) <|
      .cons .listOpen hend (by decide) .nil
  exact ⟨hlaid, laidOut_text_scanned hlaid⟩

end Signalbox.Table
