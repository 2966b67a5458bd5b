import Mathlib.Data.List.Induction
import Signalbox.Proofs.TableLoading

/-!
Line ends in a table text. A character goes on with what is pending, or else it finishes that and
starts anew. Nothing goes on at a line end, so a text can be cut there: each line gives tokens of
its own, and a fault is reported on the line that it stands on.
-/
namespace Signalbox.Table

open Text

/-! ### Single characters -/

namespace Pending

def claims : Pending → Char → Bool
  | .between, _ => false
  | .comment, c => c ≠ '\n'
  | .number _, c => isNumberChar c
  | .word _, c => isWordPart c

def extend : Pending → Char → Pending
  | .number run, c => .number (c :: run)
  | .word run, c => .word (c :: run)
  | p, _ => p

theorem claims_newline (p : Pending) : p.claims '\n' = false := by
  cases p <;> rfl

end Pending

namespace Scan

variable {s f s' : Scan} {c : Char} {cs : List Char}

theorem step_eq (s : Scan) (c : Char) :
    s.step c =
      if s.pending.claims c then .ok { s with pending := s.pending.extend c }
      else s.flush.bind (·.start c) := by
  rcases s with ⟨line, pending, tokens⟩
  cases pending with
  | between => rfl
  | comment =>
    by_cases h : c = '\n'
    · subst h
      rfl
    · simp [step, Pending.claims, Pending.extend, h]
  | number run => rfl
  | word run => rfl

theorem step_of_claims (h : s.pending.claims c = true) :
    s.step c = .ok { s with pending := s.pending.extend c } := by
  rw [step_eq, if_pos h]

theorem step_of_not_claims (h : s.pending.claims c = false) :
    s.step c = s.flush.bind (·.start c) := by
  rw [step_eq, h]
  rfl

@[simp] theorem run_cons (s : Scan) (c : Char) (cs : List Char) :
    s.run (c :: cs) = (s.step c).bind (·.run cs) := rfl

theorem of_flush_eq_ok (h : s.flush = .ok f) : f.line = s.line ∧ f.pending = .between := by
  unfold flush at h
  split at h
  · cases h
    exact ⟨rfl, ‹_›⟩
  · cases h
    exact ⟨rfl, rfl⟩
  · cases h
    exact ⟨rfl, rfl⟩
  · split at h
    · cases h
      exact ⟨rfl, rfl⟩
    · cases h

/-- What a character can do that goes on with nothing. -/
inductive Starts (s : Scan) (c : Char) : Except ScanError Scan → Prop
  | newline (h : c = '\n') : Starts s c (.ok { s with line := s.line + 1 })
  | blank (h : c ≠ '\n') : Starts s c (.ok s)
  | mark {t : Token} (h : c ≠ '\n')
    (isMark : t ∈ [.listOpen, .listClose, .separator, .braceOpen, .braceClose]) :
    Starts s c (.ok (s.push t))
  | comment (h : c ≠ '\n') : Starts s c (.ok { s with pending := .comment })
  | number (h : c ≠ '\n') (isStart : isNumeral c = true) :
    Starts s c (.ok { s with pending := .number [c] })
  | word (h : c ≠ '\n') (isStart : isWordStart c = true) :
    Starts s c (.ok { s with pending := .word [c] })
  | unexpected (h : c ≠ '\n') : Starts s c (.error (.unexpectedChar s.line c))

theorem starts (s : Scan) (c : Char) : Starts s c (s.start c) := by
  by_cases hc : c = '\n'
  · subst hc
    exact .newline rfl
  · refine iteInduction (fun hstart => .number hc hstart) fun _ => ?_
    refine iteInduction (fun hstart => .word hc hstart) fun _ => ?_
    refine iteInduction (fun _ => .comment hc) fun _ => ?_
    -- five marks that are tokens by themselves
    iterate 5 refine iteInduction (fun _ => .mark hc (by simp)) fun _ => ?_
    refine iteInduction (fun _ => .blank hc) fun _ => ?_
    exact iteInduction (fun h => absurd h hc) fun _ => .unexpected hc

/-! ### Counting lines -/

theorem line_start (h : s.start c = .ok s') :
    s'.line = s.line + if c == '\n' then 1 else 0 := by
  have hstarts := starts s c
  rw [h] at hstarts
  cases hstarts with
  | newline heq => simp [heq]
  | mark hne => simp [hne, push]
  | blank hne | comment hne | number hne | word hne => simp [hne]

theorem line_step (h : s.step c = .ok s') :
    s'.line = s.line + if c == '\n' then 1 else 0 := by
  cases hc : s.pending.claims c with
  | true =>
    have hne : c ≠ '\n' := by
      rintro rfl
      rw [Pending.claims_newline] at hc
      cases hc
    rw [step_of_claims hc] at h
    cases h
    simp [hne]
  | false =>
    rw [step_of_not_claims hc] at h
    obtain ⟨f, hflush, hstart⟩ := bind_eq_ok_iff.mp h
    rw [line_start hstart, (of_flush_eq_ok hflush).1]

theorem line_run (h : s.run cs = .ok s') : s'.line = s.line + cs.count '\n' := by
  induction cs generalizing s with
  | nil =>
    cases h
    rfl
  | cons c cs ih =>
    obtain ⟨next, hstep, hrest⟩ := bind_eq_ok_iff.mp h
    rw [ih hrest, line_step hstep, List.count_cons]
    omega

end Scan

/-! ### A text behind other text -/

namespace ScanError

def line : ScanError → Nat
  | .unexpectedChar line _ => line
  | .malformedNumber line _ => line

def offending : ScanError → List Char
  | .unexpectedChar _ c => [c]
  | .malformedNumber _ text => text.toList

def below (n : Nat) : ScanError → ScanError
  | .unexpectedChar line c => .unexpectedChar (line + n) c
  | .malformedNumber line text => .malformedNumber (line + n) text

theorem below_below (e : ScanError) (m n : Nat) : (e.below m).below n = e.below (m + n) := by
  cases e <;> simp [below, Nat.add_assoc]

theorem below_zero (e : ScanError) : e.below 0 = e := by
  cases e <;> rfl

end ScanError

namespace Scan

variable (n : Nat) (earlier : List Token)

def behind (s : Scan) : Scan := ⟨s.line + n, s.pending, s.tokens ++ earlier⟩

def outcomeBehind : Except ScanError Scan → Except ScanError Scan
  | .error e => .error (e.below n)
  | .ok s => .ok (s.behind n earlier)

theorem outcomeBehind_bind (r : Except ScanError Scan) {g : Scan → Except ScanError Scan}
    (h : ∀ s, g (s.behind n earlier) = outcomeBehind n earlier (g s)) :
    (outcomeBehind n earlier r).bind g = outcomeBehind n earlier (r.bind g) := by
  cases r with
  | error e => rfl
  | ok s => exact h s

theorem flush_behind (s : Scan) :
    (s.behind n earlier).flush = outcomeBehind n earlier s.flush := by
  rcases s with ⟨line, pending, tokens⟩
  cases pending with
  | between => rfl
  | comment => rfl
  | word run => rfl
  | number run =>
    cases hread : Binary64.ofChars? run.reverse <;>
      simp [flush, behind, outcomeBehind, push, ScanError.below, hread]

theorem start_behind (s : Scan) (c : Char) :
    (s.behind n earlier).start c = outcomeBehind n earlier (s.start c) := by
  simp only [start, apply_ite (outcomeBehind n earlier)]
  simp only [outcomeBehind, behind, push, ScanError.below, List.cons_append, Nat.add_right_comm]

theorem step_behind (s : Scan) (c : Char) :
    (s.behind n earlier).step c = outcomeBehind n earlier (s.step c) := by
  cases hc : s.pending.claims c with
  | true =>
    rw [step_of_claims hc, step_of_claims (s := s.behind n earlier) hc]
    rfl
  | false =>
    rw [step_of_not_claims hc, step_of_not_claims (s := s.behind n earlier) hc, flush_behind,
      outcomeBehind_bind n earlier _ (start_behind n earlier · c)]

theorem run_behind (s : Scan) (cs : List Char) :
    (s.behind n earlier).run cs = outcomeBehind n earlier (s.run cs) := by
  induction cs generalizing s with
  | nil => rfl
  | cons c cs ih =>
    rw [run_cons, run_cons, step_behind, outcomeBehind_bind n earlier _ ih]

/-! ### Whole texts -/

def whole (cs : List Char) : Except ScanError Scan := (initial.run cs).bind flush

def listed (s : Scan) : List Token := s.tokens.reverse ++ [.endOfText]

theorem scan_eq (cs : List Char) : Token.scan cs = (whole cs).map listed := by
  unfold Token.scan whole
  cases initial.run cs with
  | error e => rfl
  | ok s =>
    cases hflush : s.flush <;>
      simp [bind, Except.bind, Except.map, hflush, pure, Except.pure, listed]

theorem of_whole_eq_ok {cs : List Char} {f : Scan} (h : whole cs = .ok f) :
    f.line = 1 + cs.count '\n' ∧ f.pending = .between := by
  obtain ⟨s, hrun, hflush⟩ := bind_eq_ok_iff.mp h
  obtain ⟨hline, hpending⟩ := of_flush_eq_ok hflush
  exact ⟨hline.trans (line_run hrun), hpending⟩

/-- Behind a line end the text is cut as one of its own. -/
theorem whole_append_newline (a b : List Char) :
    whole (a ++ '\n' :: b) =
      (whole a).bind fun f => outcomeBehind (1 + a.count '\n') f.tokens (whole b) := by
  have hcut : whole (a ++ '\n' :: b) =
      (whole a).bind fun f => (({ f with line := f.line + 1 } : Scan).run b).bind flush := by
    unfold whole
    rw [run_append]
    cases initial.run a with
    | error e => rfl
    | ok s =>
      change ((s.step '\n').bind (·.run b)).bind flush = _
      rw [step_of_not_claims (Pending.claims_newline _)]
      change _ = s.flush.bind _
      cases s.flush <;> rfl
  rw [hcut]
  cases ha : whole a with
  | error e => rfl
  | ok f =>
    obtain ⟨hline, hpending⟩ := of_whole_eq_ok ha
    have hnext : ({ f with line := f.line + 1 } : Scan) =
        initial.behind (1 + a.count '\n') f.tokens := by
      rw [hline, hpending]
      simp [behind, initial, Nat.add_comm]
    change (Scan.run _ b).bind flush = outcomeBehind _ _ (whole b)
    rw [hnext, run_behind, outcomeBehind_bind _ _ _ (flush_behind _ _)]
    rfl

theorem listed_dropLast (s : Scan) : s.listed.dropLast = s.tokens.reverse :=
  List.dropLast_concat

theorem listed_behind (n : Nat) (earlier : List Token) (s : Scan) :
    (s.behind n earlier).listed = earlier.reverse ++ s.listed := by
  simp [listed, behind]

end Scan

theorem scan_append_newline (a b : List Char) :
    Token.scan (a ++ '\n' :: b) =
      match Token.scan a, Token.scan b with
      | .error e, _ => .error e
      | .ok _, .error e => .error (e.below (1 + a.count '\n'))
      | .ok ts, .ok us => .ok (ts.dropLast ++ us) := by
  simp only [Scan.scan_eq, Scan.whole_append_newline]
  cases Scan.whole a with
  | error e => rfl
  | ok f =>
    cases Scan.whole b with
    | error e => rfl
    | ok g =>
      change Except.ok (Scan.listed (g.behind _ f.tokens)) = .ok (f.listed.dropLast ++ g.listed)
      rw [Scan.listed_behind, f.listed_dropLast]

/-! ### Line by line -/

/-- The tokens of lines that are cut one by one, when so many lines stand above them. -/
def scanLines (above : Nat) : List (List Char) → Except ScanError (List Token)
  | [] => .ok [.endOfText]
  | line :: lines =>
    match Token.scan line with
    | .error e => .error (e.below above)
    | .ok ts => (scanLines (above + 1) lines).map (ts.dropLast ++ ·)

theorem scanLines_singleton (above : Nat) (line : List Char) :
    scanLines above [line] = (Token.scan line).mapError (·.below above) := by
  rw [scanLines, Scan.scan_eq]
  cases Scan.whole line with
  | error e => rfl
  | ok f => simp [Except.map, Except.mapError, scanLines, Scan.listed]

theorem scanLines_splitOn (above : Nat) (text : List Char) :
    scanLines above (text.splitOn '\n') = (Token.scan text).mapError (·.below above) := by
  induction hlength : text.length using Nat.strongRecOn generalizing above text with
  | ind length ih =>
    by_cases h : '\n' ∈ text
    · obtain ⟨line, rest, rfl, hline⟩ := List.eq_append_cons_of_mem h
      have hsplit : (line ++ '\n' :: rest).splitOn '\n' = line :: rest.splitOn '\n' := by
        rw [List.splitOn_append_cons_self, List.splitOn_eq_singleton hline, List.singleton_append]
      have hshorter : rest.length < length := by
        rw [← hlength, List.length_append, List.length_cons]
        omega
      have hrest := ih rest.length hshorter (above + 1) rest rfl
      rw [hsplit, scanLines, hrest, scan_append_newline, List.count_eq_zero_of_not_mem hline]
      cases Token.scan line with
      | error e => rfl
      | ok ts =>
        cases Token.scan rest with
        | error e => simp [Except.map, Except.mapError, ScanError.below_below, Nat.add_comm]
        | ok us => rfl
    · rw [List.splitOn_eq_singleton h, scanLines_singleton]

/-! ### The line of an error -/

namespace Scan

variable {s f s' : Scan} {c : Char} {cs : List Char} {e : ScanError}

theorem of_start_eq_error (h : s.start c = .error e) :
    e = .unexpectedChar s.line c ∧ c ≠ '\n' := by
  have hstarts := starts s c
  rw [h] at hstarts
  cases hstarts with
  | unexpected hne => exact ⟨rfl, hne⟩

theorem of_flush_eq_error (h : s.flush = .error e) :
    ∃ run, s.pending = .number run ∧
      e = .malformedNumber s.line (String.ofList run.reverse) := by
  unfold flush at h
  split at h
  · cases h
  · cases h
  · cases h
  · rename_i run hpending
    split at h
    · cases h
    · cases h
      exact ⟨run, hpending, rfl⟩

theorem of_start_eq_number {run : List Char} (h : s.start c = .ok s')
    (hbetween : s.pending = .between) (hrun : s'.pending = .number run) :
    run = [c] ∧ isNumeral c = true := by
  have hstarts := starts s c
  rw [h] at hstarts
  cases hstarts with
  | newline | blank => cases hbetween.symm.trans hrun
  | mark | comment | word => cases hrun
  | number hne hnumeral =>
    cases hrun
    exact ⟨rfl, hnumeral⟩

theorem exists_before_number {run : List Char} (h : initial.run cs = .ok s)
    (hrun : s.pending = .number run) :
    ∃ before f, cs = before ++ run.reverse ∧ whole before = .ok f ∧
      ∀ c ∈ run, isNumberChar c = true := by
  induction cs using List.reverseRecOn generalizing s run with
  | nil =>
    cases h
    cases hrun
  | append_singleton cs c ih =>
    rw [run_append] at h
    obtain ⟨last, hlast, hsingle⟩ := bind_eq_ok_iff.mp h
    have hstep : last.step c = .ok s := by
      cases hc : last.step c <;> simp_all [Except.bind]
    cases hc : last.pending.claims c with
    | true =>
      rw [step_of_claims hc] at hstep
      cases hstep
      cases hpending : last.pending with
      | number shorter =>
        rw [hpending] at hc hrun
        cases hrun
        obtain ⟨before, f, rfl, hf, hshorter⟩ := ih hlast hpending
        exact ⟨before, f, by simp, hf, List.forall_mem_cons.mpr ⟨hc, hshorter⟩⟩
      | _ =>
        rw [hpending] at hrun
        cases hrun
    | false =>
      rw [step_of_not_claims hc] at hstep
      obtain ⟨f, hflush, hstart⟩ := bind_eq_ok_iff.mp hstep
      obtain ⟨rfl, hnumeral⟩ := of_start_eq_number hstart (of_flush_eq_ok hflush).2 hrun
      refine ⟨cs, f, rfl, bind_eq_ok_iff.mpr ⟨last, hlast, hflush⟩, ?_⟩
      simp [isNumberChar, hnumeral]

theorem exists_failing_step (h : s.run cs = .error e) :
    ∃ before c behind s', cs = before ++ c :: behind ∧ s.run before = .ok s' ∧
      s'.step c = .error e := by
  induction cs generalizing s with
  | nil => cases h
  | cons c cs ih =>
    rw [run_cons] at h
    cases hstep : s.step c with
    | error e' =>
      rw [hstep] at h
      cases h
      exact ⟨[], c, cs, s, rfl, rfl, hstep⟩
    | ok next =>
      rw [hstep] at h
      obtain ⟨before, d, behind, s', rfl, hrun, hfails⟩ := ih h
      refine ⟨c :: before, d, behind, s', rfl, ?_, hfails⟩
      rw [run_cons, hstep]
      exact hrun

end Scan

/-- The error is about a part of the text within a line, up to which all can be cut, and names
this line, counted from one. -/
def ScanError.LocatedIn (e : ScanError) (text : List Char) : Prop :=
  ∃ before behind tokens, text = before ++ (e.offending ++ behind) ∧
    Token.scan before = .ok tokens ∧ '\n' ∉ e.offending ∧ e.line = 1 + before.count '\n'

theorem Scan.locatedIn_of_flush {cs : List Char} {s : Scan} {e : ScanError}
    (hrun : Scan.initial.run cs = .ok s) (h : s.flush = .error e) (behind : List Char) :
    e.LocatedIn (cs ++ behind) := by
  obtain ⟨run, hpending, rfl⟩ := of_flush_eq_error h
  obtain ⟨before, f, rfl, hbefore, hchars⟩ := exists_before_number hrun hpending
  have hnewline : '\n' ∉ run.reverse := fun hmem =>
    absurd (hchars _ (List.mem_reverse.mp hmem)) (by decide)
  refine ⟨before, behind, f.listed, ?_, ?_, ?_, ?_⟩
  · simp [ScanError.offending]
  · rw [scan_eq, hbefore]
    rfl
  · simpa [ScanError.offending] using hnewline
  · rw [ScanError.line, line_run hrun, List.count_append,
      List.count_eq_zero_of_not_mem hnewline]
    rfl

theorem Scan.locatedIn_of_whole {text : List Char} {e : ScanError}
    (h : Scan.whole text = .error e) : e.LocatedIn text := by
  unfold whole at h
  cases hrun : initial.run text with
  | ok s =>
    rw [hrun] at h
    have hlocated := locatedIn_of_flush hrun h []
    rwa [List.append_nil] at hlocated
  | error e' =>
    rw [hrun] at h
    cases h
    obtain ⟨before, c, behind, s, rfl, hbefore, hstep⟩ := exists_failing_step hrun
    cases hc : s.pending.claims c with
    | true =>
      rw [step_of_claims hc] at hstep
      cases hstep
    | false =>
      rw [step_of_not_claims hc] at hstep
      cases hflush : s.flush with
      | error e' =>
        rw [hflush] at hstep
        cases hstep
        exact locatedIn_of_flush hbefore hflush (c :: behind)
      | ok f =>
        rw [hflush] at hstep
        obtain ⟨rfl, hne⟩ := of_start_eq_error hstep
        have hwhole : whole before = .ok f := bind_eq_ok_iff.mpr ⟨s, hbefore, hflush⟩
        refine ⟨before, behind, f.listed, rfl, ?_, ?_, ?_⟩
        · rw [scan_eq, hwhole]
          rfl
        · simpa [ScanError.offending] using hne.symm
        · exact (of_whole_eq_ok hwhole).1

theorem ScanError.locatedIn_of_scan {text : List Char} {e : ScanError}
    (h : Token.scan text = .error e) : e.LocatedIn text := by
  rw [Scan.scan_eq] at h
  cases hwhole : Scan.whole text with
  | error e' =>
    rw [hwhole] at h
    cases h
    exact Scan.locatedIn_of_whole hwhole
  | ok f =>
    rw [hwhole] at h
    cases h

/-- A line end always ends what is before it: behind one, the tokens are those of the rest of the
text, and faults are found on lines that are counted on. So the text is cut line by line, and an
error names the line that the faulty part stands on. -/
theorem text_is_cut_by_lines :
    (∀ a b, Token.scan (a ++ '\n' :: b) =
      match Token.scan a, Token.scan b with
      | .error e, _ => .error e
      | .ok _, .error e => .error (e.below (1 + a.count '\n'))
      | .ok ts, .ok us => .ok (ts.dropLast ++ us)) ∧
    (∀ text, Token.scan text = scanLines 0 (text.splitOn '\n')) ∧
    ∀ text e, Token.scan text = .error e → e.LocatedIn text := by
  refine ⟨scan_append_newline, fun text => ?_, fun text e => ScanError.locatedIn_of_scan⟩
  rw [scanLines_splitOn]
  cases Token.scan text with
  | error e => simp [Except.mapError, ScanError.below_zero]
  | ok tokens => rfl

/-- A comment takes the rest of its line, and a number that is none is found on the next line. -/
theorem faulty_second_line_located :
    Token.scan "segments # 1..\nx 1..2".toList = .error (.malformedNumber 2 "1..2") ∧
      (ScanError.malformedNumber 2 "1..2").LocatedIn "segments # 1..\nx 1..2".toList := by
  have hfails : Token.scan "segments # 1..\nx 1..2".toList =
      .error (.malformedNumber 2 "1..2") := by decide +kernel
  exact ⟨hfails, text_is_cut_by_lines.2.2 _ _ hfails⟩

end Signalbox.Table
