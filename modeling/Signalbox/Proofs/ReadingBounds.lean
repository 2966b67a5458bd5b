import Signalbox.Proofs.DeclarationOrder
import Signalbox.Proofs.ReadNames

/-!
How far a reader of table texts looks. It never looks behind the first end of text and never takes
it, so no reading runs out of tokens, and as each statement takes tokens, all reading ends.
-/
namespace Signalbox.Table

namespace TokenReader

variable {α β : Type} {r : TokenReader α} {f : α → TokenReader β} {ts : List Token}

/-- What the reader answers in front of these tokens and an end of text, and what it takes of
them. Both are the same whatever stands behind the end of text, if anything does, and to look where
nothing stands would be answered by `outOfTokens`. -/
structure Stops (r : TokenReader α) (position : Nat) (ts : List Token)
    (result : Except ParseError α) (taken left : List Token) : Prop where
  split : ts = taken ++ left
  inside : result ≠ .error .outOfTokens
  stops : ∀ rest, r ⟨position, ts ++ .endOfText :: rest⟩ =
    (result, ⟨position + taken.length, left ++ .endOfText :: rest⟩)

def StaysWithin (r : TokenReader α) (ts : List Token) : Prop :=
  ∀ position, ∃ result taken left, Stops r position ts result taken left

/-- The reader neither looks behind the first end of text nor takes it. -/
def WithinText (r : TokenReader α) : Prop := ∀ ts, .endOfText ∉ ts → StaysWithin r ts

theorem inside_of_error {e : ParseError}
    (h : (.error e : Except ParseError α) ≠ .error .outOfTokens) :
    (.error e : Except ParseError β) ≠ .error .outOfTokens := by
  simpa using h

/-! ### Readers of single tokens -/

theorem withinText_pure (a : α) : WithinText (pure a : TokenReader α) :=
  fun ts _ _ => ⟨.ok a, [], ts, rfl, by simp, fun _ => rfl⟩

theorem withinText_take {accept : Token → Option α} (h : accept .endOfText = none) :
    WithinText (take accept) := by
  intro ts _ position
  cases ts with
  | nil =>
    refine ⟨.error (.unexpectedToken position .endOfText), [], [], rfl, by simp, fun rest => ?_⟩
    simp [take, h]
  | cons t ts =>
    cases ht : accept t with
    | none =>
      refine ⟨.error (.unexpectedToken position t), [], t :: ts, rfl, by simp, fun rest => ?_⟩
      simp [take, ht]
    | some a =>
      refine ⟨.ok a, [t], ts, rfl, by simp, fun rest => ?_⟩
      simp [take, ht]

theorem withinText_word : WithinText word := withinText_take rfl

theorem withinText_number : WithinText number := withinText_take rfl

theorem withinText_routeId : WithinText routeId := withinText_take rfl

theorem withinText_token {t : Token} (h : t ≠ .endOfText) : WithinText (token t) :=
  withinText_take (if_neg h.symm)

theorem withinText_tryToken {t : Token} (h : t ≠ .endOfText) : WithinText (tryToken t) := by
  intro ts _ position
  cases ts with
  | nil => exact ⟨.ok false, [], [], rfl, by simp, fun rest => tryToken_of_ne h.symm⟩
  | cons u ts =>
    by_cases hu : u = t
    · subst hu
      exact ⟨.ok true, [u], ts, rfl, by simp, fun rest => tryToken_of_eq⟩
    · exact ⟨.ok false, [], u :: ts, rfl, by simp, fun rest => tryToken_of_ne hu⟩

theorem withinText_keyword (w : String) : WithinText (keyword w) := by
  intro ts hts position
  obtain ⟨result, taken, left, h⟩ := withinText_word ts hts position
  cases result with
  | error e =>
    refine ⟨.error e, taken, left, h.split, inside_of_error h.inside, fun rest => ?_⟩
    rw [keyword, h.stops rest]
  | ok s =>
    by_cases hs : s = w
    · refine ⟨.ok (), taken, left, h.split, by simp, fun rest => ?_⟩
      rw [keyword, h.stops rest]
      simp [hs]
    · refine ⟨.error (.missingWord position w), [], ts, rfl, by simp, fun rest => ?_⟩
      rw [keyword, h.stops rest]
      simp [hs]

/-! ### Readers made of others -/

theorem StaysWithin.bind (hr : StaysWithin r ts)
    (hf : ∀ {position a taken left}, Stops r position ts (.ok a) taken left →
      StaysWithin (f a) left) : StaysWithin (r >>= f) ts := by
  intro position
  obtain ⟨result, taken, left, h⟩ := hr position
  cases result with
  | error e =>
    exact ⟨.error e, taken, left, h.split, inside_of_error h.inside, fun rest =>
      bind_of_error (h.stops rest)⟩
  | ok a =>
    obtain ⟨result, more, left', h'⟩ := hf h (position + taken.length)
    refine ⟨result, taken ++ more, left', ?_, h'.inside, fun rest => ?_⟩
    · rw [h.split, h'.split, List.append_assoc]
    · rw [bind_of_ok (h.stops rest), h'.stops rest, List.length_append, Nat.add_assoc]

theorem Stops.not_mem_left {position : Nat} {result : Except ParseError α}
    {taken left : List Token} (h : Stops r position ts result taken left)
    (hts : .endOfText ∉ ts) : .endOfText ∉ left :=
  fun hmem => hts (h.split ▸ List.mem_append_right taken hmem)

theorem WithinText.bind (hr : WithinText r) (hf : ∀ a, WithinText (f a)) :
    WithinText (r >>= f) :=
  fun ts hts => (hr ts hts).bind fun h => hf _ _ (h.not_mem_left hts)

theorem withinText_firstOf {readers : List (TokenReader α)} (h : ∀ r ∈ readers, WithinText r) :
    WithinText (firstOf readers) := by
  intro ts hts position
  -- A failed alternative leaves its place behind, which the last one reports.
  suffices hgo : ∀ (reasons : List ParseError) (taken left : List Token), ts = taken ++ left →
      ∃ result taken' left', ts = taken' ++ left' ∧ result ≠ .error .outOfTokens ∧
        ∀ rest, firstOf.go ⟨position, ts ++ .endOfText :: rest⟩ readers reasons
            ⟨position + taken.length, left ++ .endOfText :: rest⟩ =
          ((result, ⟨position + taken'.length, left' ++ .endOfText :: rest⟩) :
            Except ParseError α × Cursor) by
    obtain ⟨result, taken, left, hsplit, hinside, hstops⟩ := hgo [] [] ts rfl
    exact ⟨result, taken, left, hsplit, hinside, hstops⟩
  induction readers with
  | nil =>
    intro reasons taken left hsplit
    exact ⟨.error (.noAlternative reasons.reverse), taken, left, hsplit, by simp, fun _ => rfl⟩
  | cons r readers ih =>
    rw [List.forall_mem_cons] at h
    intro reasons _ _ _
    obtain ⟨result, taken, left, hr⟩ := h.1 ts hts position
    cases result with
    | ok a =>
      refine ⟨.ok a, taken, left, hr.split, by simp, fun rest => ?_⟩
      rw [firstOf.go, hr.stops rest]
    | error e =>
      obtain ⟨result, taken', left', hsplit, hinside, hstops⟩ :=
        ih h.2 (e :: reasons) taken left hr.split
      refine ⟨result, taken', left', hsplit, hinside, fun rest => ?_⟩
      rw [firstOf.go, hr.stops rest]
      cases e with
      | outOfTokens => exact absurd rfl hr.inside
      | _ => exact hstops rest

/-! ### Lists -/

theorem length_lt_of_tryToken {t : Token} {position : Nat} {taken left : List Token}
    (h : Stops (tryToken t) position ts (.ok true) taken left) : left.length < ts.length := by
  rcases of_tryToken_eq_ok (h.stops []) with ⟨-, hrest⟩ | ⟨hfalse, -⟩
  · have hlength := congrArg List.length hrest
    simp at hlength
    omega
  · cases hfalse

theorem staysWithin_elements (hr : WithinText r) {n : Nat} (hts : .endOfText ∉ ts)
    (enough : ts.length < n) : StaysWithin (elements r n) ts := by
  induction n generalizing ts with
  | zero => exact absurd enough (Nat.not_lt_zero _)
  | succ n ih =>
    refine (hr ts hts).bind fun {position a taken left} hfirst => ?_
    have hleft := hfirst.not_mem_left hts
    have hfewer : left.length ≤ ts.length := by
      rw [hfirst.split, List.length_append]
      omega
    refine (withinText_tryToken (by simp) left hleft).bind
      fun {position found taken left'} hsep => ?_
    have hleft' := hsep.not_mem_left hleft
    cases found with
    | true =>
      have hshorter := length_lt_of_tryToken hsep
      exact (ih hleft' (by omega)).bind fun h => withinText_pure _ _ (h.not_mem_left hleft')
    | false =>
      exact (withinText_token (by simp)).bind (fun _ => withinText_pure [a]) left' hleft'

/-- The second reader gives each answer of the first that is not to have run out of tokens. -/
def ExtendedBy (r r' : TokenReader α) : Prop :=
  ∀ ⦃c c' : Cursor⦄ ⦃result : Except ParseError α⦄, r c = (result, c') →
    result ≠ .error .outOfTokens → r' c = (result, c')

theorem ExtendedBy.refl (r : TokenReader α) : ExtendedBy r r := fun _ _ _ h _ => h

theorem ExtendedBy.bind {r' : TokenReader α} {f' : α → TokenReader β} (hr : ExtendedBy r r')
    (hf : ∀ a, ExtendedBy (f a) (f' a)) : ExtendedBy (r >>= f) (r' >>= f') := by
  intro c c' result h hinside
  cases hfirst : r c with
  | mk first c₁ =>
    cases first with
    | error e =>
      rw [bind_of_error hfirst] at h
      cases h
      exact bind_of_error (hr hfirst (inside_of_error hinside))
    | ok a =>
      rw [bind_of_ok hfirst] at h
      rw [bind_of_ok (hr hfirst (by simp))]
      exact hf a h hinside

theorem extendedBy_elements (r : TokenReader α) {m n : Nat} (h : m ≤ n) :
    ExtendedBy (elements r m) (elements r n) := by
  induction m generalizing n with
  | zero =>
    rintro c c' result ⟨⟩ hinside
    exact absurd rfl hinside
  | succ m ih =>
    obtain ⟨n, rfl⟩ := Nat.exists_eq_succ_of_ne_zero (Nat.ne_zero_of_lt h)
    refine (ExtendedBy.refl r).bind fun a => (ExtendedBy.refl _).bind fun found => ?_
    cases found with
    | true => exact (ih (Nat.le_of_succ_le_succ h)).bind fun _ => .refl _
    | false => exact .refl _

theorem withinText_listOf (hr : WithinText r) : WithinText (listOf r) := by
  refine (withinText_token (by simp)).bind fun _ => ?_
  refine (withinText_tryToken (by simp)).bind fun found => ?_
  cases found with
  | true => exact withinText_pure []
  | false =>
    intro ts hts position
    obtain ⟨result, taken, left, h⟩ := staysWithin_elements hr hts (Nat.lt_succ_self _) position
    refine ⟨result, taken, left, h.split, h.inside, fun rest => ?_⟩
    exact extendedBy_elements r (by simp) (h.stops rest) h.inside

theorem withinText_optionalList (w : String) (hr : WithinText r) :
    WithinText (Statement.optionalList w r) := by
  refine (withinText_tryToken (by simp)).bind fun found => ?_
  cases found with
  | true => exact withinText_listOf hr
  | false => exact withinText_pure []

end TokenReader

open TokenReader

/-! ### Forms -/

section Forms

variable {α : Type}

theorem withinText_choice (w : String) (a : α) : WithinText (Statement.choice w a) :=
  (withinText_keyword w).bind fun _ => withinText_pure a

theorem withinText_either (w v : String) (a b : α) :
    WithinText (firstOf [Statement.choice w a, Statement.choice v b]) := by
  apply withinText_firstOf
  simp only [List.forall_mem_cons]
  exact ⟨withinText_choice w a, withinText_choice v b, by simp⟩

theorem withinText_orientation : WithinText Statement.orientationReader :=
  withinText_either _ _ _ _

theorem withinText_position : WithinText Statement.positionReader :=
  withinText_either _ _ _ _

theorem withinText_point : WithinText Statement.pointReader :=
  withinText_word.bind fun _ => withinText_position.bind fun _ => withinText_pure _

theorem withinText_names : WithinText (listOf word) := withinText_listOf withinText_word

theorem withinText_listing (w : String) (f : List String → Statement) :
    WithinText (do keyword w; return f (← listOf word)) :=
  (withinText_keyword w).bind fun _ => withinText_names.bind fun _ => withinText_pure _

theorem withinText_section : WithinText Statement.sectionReader := by
  refine (withinText_keyword "section").bind fun _ => withinText_word.bind fun _ => ?_
  refine (withinText_token (by simp)).bind fun _ => ?_
  refine (withinText_keyword "segments").bind fun _ => withinText_names.bind fun _ => ?_
  refine (withinText_keyword "entry").bind fun _ => withinText_names.bind fun _ => ?_
  exact (withinText_token (by simp)).bind fun _ => withinText_pure _

theorem withinText_route : WithinText Statement.routeReader := by
  refine (withinText_keyword "route").bind fun _ => withinText_routeId.bind fun _ => ?_
  refine (withinText_token (by simp)).bind fun _ => ?_
  refine (withinText_keyword "source").bind fun _ => withinText_word.bind fun _ => ?_
  refine (withinText_keyword "destination").bind fun _ => withinText_word.bind fun _ => ?_
  refine (withinText_keyword "orientation").bind fun _ => withinText_orientation.bind fun _ => ?_
  refine (withinText_keyword "length").bind fun _ => withinText_number.bind fun _ => ?_
  refine (withinText_keyword "path").bind fun _ => withinText_names.bind fun _ => ?_
  refine (withinText_optionalList "sections" withinText_word).bind fun _ => ?_
  refine (withinText_optionalList "points" withinText_point).bind fun _ => ?_
  refine (withinText_keyword "signals").bind fun _ => withinText_names.bind fun _ => ?_
  refine (withinText_optionalList "conflicts" withinText_routeId).bind fun _ => ?_
  exact (withinText_token (by simp)).bind fun _ => withinText_pure _

theorem withinText_forms : ∀ r ∈ [Statement.segmentsReader, Statement.signalsReader,
    Statement.shuntingReader, Statement.pointsReader, Statement.sectionReader,
    Statement.routeReader], WithinText r := by
  simp only [List.forall_mem_cons]
  exact ⟨withinText_listing "segments" .segments, withinText_listing "signals" (.signals · .main),
    withinText_listing "shunting" (.signals · .shunting), withinText_listing "points" .points,
    withinText_section, withinText_route, by simp⟩

theorem withinText_statement : WithinText Statement.reader := withinText_firstOf withinText_forms

end Forms

/-! ### Whole texts -/

theorem length_lt_of_statement {ts taken left : List Token} {position : Nat} {st : Statement}
    (h : Stops Statement.reader position ts (.ok st) taken left) : 0 < taken.length := by
  obtain ⟨tree, hrest, -⟩ := exact_statement.written (h.stops [])
  have htaken : taken = tree.flatten := by
    rw [h.split, List.append_assoc] at hrest
    exact List.append_cancel_right hrest
  obtain ⟨w, us, hword⟩ := tree.flatten_eq_cons
  rw [htaken, hword]
  exact Nat.succ_pos _

theorem staysWithin_readAll {ts : List Token} {n : Nat} (hts : .endOfText ∉ ts)
    (enough : ts.length < n) : StaysWithin (Statement.readAll n) ts := by
  induction n generalizing ts with
  | zero => exact absurd enough (Nat.not_lt_zero _)
  | succ n ih =>
    cases ts with
    | nil => exact fun position => ⟨.ok [], [], [], rfl, by simp, fun _ => rfl⟩
    | cons t ts =>
      have hne : t ≠ .endOfText := fun heq => hts (heq ▸ List.mem_cons_self)
      have hread : StaysWithin
          (do return (← Statement.reader) :: (← Statement.readAll n)) (t :: ts) := by
        refine (withinText_statement _ hts).bind fun {position st taken left} h => ?_
        have hleft := h.not_mem_left hts
        have hshorter : left.length < n := by
          have htaken := length_lt_of_statement h
          have hlength := congrArg List.length h.split
          rw [List.length_append] at hlength
          omega
        exact (ih hleft hshorter).bind fun h' => withinText_pure _ _ (h'.not_mem_left hleft)
      intro position
      obtain ⟨result, taken, left, h⟩ := hread position
      refine ⟨result, taken, left, h.split, h.inside, fun rest => ?_⟩
      rw [readAll_of_ne rfl hne]
      exact h.stops rest

theorem extendedBy_readAll {m n : Nat} (h : m ≤ n) :
    ExtendedBy (Statement.readAll m) (Statement.readAll n) := by
  induction m generalizing n with
  | zero =>
    rintro c c' result ⟨⟩ hinside
    exact absurd rfl hinside
  | succ m ih =>
    obtain ⟨n, rfl⟩ := Nat.exists_eq_succ_of_ne_zero (Nat.ne_zero_of_lt h)
    have hmore : ExtendedBy
        (do return (← Statement.reader) :: (← Statement.readAll m))
        (do return (← Statement.reader) :: (← Statement.readAll n)) :=
      (ExtendedBy.refl _).bind fun _ => (ih (Nat.le_of_succ_le_succ h)).bind fun _ => .refl _
    rintro ⟨position, rest⟩ c' result hread hinside
    cases rest with
    | nil =>
      cases hread
      exact absurd rfl hinside
    | cons t rest =>
      by_cases ht : t = .endOfText
      · subst ht
        exact hread
      · rw [readAll_of_ne rfl ht] at hread ⊢
        exact hmore hread hinside

theorem of_ofStatements_eq_error {statements : List Statement} {e : ParseError}
    (h : ofStatements statements = .error e) : ∃ name route, e = .unknownName name route := by
  rw [ofStatements] at h
  cases hresolved : (routeDeclarations statements).mapM
      (resolveRoute (Topology.ofStatements statements)) with
  | ok routes =>
    rw [hresolved] at h
    cases h
  | error e' =>
    rw [hresolved] at h
    cases h
    obtain ⟨_, r, _, -, -, hfails⟩ := mapM_eq_error_iff.mp hresolved
    obtain ⟨name, rfl⟩ := of_resolveRoute_eq_error hfails
    exact ⟨name, r.id, rfl⟩

theorem ofTokens_within_text {ts : List Token} (hts : .endOfText ∉ ts) :
    ∃ result, result ≠ .error .outOfTokens ∧
      ∀ rest, ofTokens (ts ++ .endOfText :: rest) = result := by
  obtain ⟨result, taken, left, h⟩ := staysWithin_readAll hts (Nat.lt_succ_self _) 0
  refine ⟨result.bind ofStatements, fun hout => ?_, fun rest => ?_⟩
  · cases result with
    | error e =>
      cases hout
      exact h.inside rfl
    | ok statements =>
      obtain ⟨name, route, heq⟩ := of_ofStatements_eq_error hout
      cases heq
  · have hread := extendedBy_readAll (n := (ts ++ .endOfText :: rest).length) (by simp)
      (h.stops rest) h.inside
    rw [ofTokens, Statement.ofTokens, Cursor.start, hread]

/-- Every reader that a text is read with stays within the text. -/
structure ReadersWithinText : Prop where
  word : WithinText word
  number : WithinText number
  routeId : WithinText routeId
  token : ∀ t, t ≠ .endOfText → WithinText (token t)
  tryToken : ∀ t, t ≠ .endOfText → WithinText (tryToken t)
  keyword : ∀ w, WithinText (keyword w)
  listOf : ∀ {α : Type} (r : TokenReader α), WithinText r → WithinText (listOf r)
  optionalList : ∀ {α : Type} (w : String) (r : TokenReader α), WithinText r →
    WithinText (Statement.optionalList w r)
  firstOf : ∀ {α : Type} (readers : List (TokenReader α)), (∀ r ∈ readers, WithinText r) →
    WithinText (firstOf readers)
  choice : ∀ {α : Type} (w : String) (a : α), WithinText (Statement.choice w a)
  orientation : WithinText Statement.orientationReader
  position : WithinText Statement.positionReader
  point : WithinText Statement.pointReader
  forms : ∀ r ∈ [Statement.segmentsReader, Statement.signalsReader, Statement.shuntingReader,
    Statement.pointsReader, Statement.sectionReader, Statement.routeReader], WithinText r
  statement : WithinText Statement.reader
  statements : ∀ ts n, .endOfText ∉ ts → ts.length < n → StaysWithin (Statement.readAll n) ts

theorem readersWithinText : ReadersWithinText where
  word := withinText_word
  number := withinText_number
  routeId := withinText_routeId
  token _ := withinText_token
  tryToken _ := withinText_tryToken
  keyword := withinText_keyword
  listOf _ := withinText_listOf
  optionalList w _ := withinText_optionalList w
  firstOf _ := withinText_firstOf
  choice := withinText_choice
  orientation := withinText_orientation
  position := withinText_position
  point := withinText_point
  forms := withinText_forms
  statement := withinText_statement
  statements _ _ := staysWithin_readAll

/-- A text that has been cut has one end of text, its last token. No reader looks behind it or takes
it, every statement takes a token at least, and so every reading ends with a table or with a fault
that lies in the text. -/
theorem reading_stays_within_text :
    (∀ cs tokens, Token.scan cs = .ok tokens →
      ∃ ts, tokens = ts ++ [.endOfText] ∧ .endOfText ∉ ts) ∧
    ReadersWithinText ∧
    (∀ ts position, .endOfText ∉ ts → ∀ rest st c,
      Statement.reader ⟨position, ts ++ .endOfText :: rest⟩ = (.ok st, c) →
        position < c.position) ∧
    ∀ ts, .endOfText ∉ ts → ∃ result, result ≠ .error .outOfTokens ∧
      ∀ rest, ofTokens (ts ++ .endOfText :: rest) = result := by
  refine ⟨?_, readersWithinText, ?_, fun ts => ofTokens_within_text⟩
  · intro cs tokens hscan
    obtain ⟨ts, htokens, hreadable⟩ := readable_of_scan hscan
    exact ⟨ts, htokens, fun hmem => hreadable _ hmem⟩
  · intro ts position hts rest st c hread
    obtain ⟨result, taken, left, h⟩ := withinText_statement ts hts position
    rw [h.stops rest] at hread
    cases hread
    have htaken := length_lt_of_statement h
    exact Nat.lt_add_of_pos_right htaken

def unfinishedRoute : List Token :=
  [.word "points", .listOpen, .word "p", .listClose, .word "route", .word "r", .braceOpen]

theorem unfinishedRoute_within_text :
    (Token.scan "points [p] route r \x7b".toList = .ok (unfinishedRoute ++ [.endOfText]) ∧
        .endOfText ∉ unfinishedRoute ∧
        Statement.reader ⟨0, unfinishedRoute ++ [.endOfText]⟩ =
          (.ok (.points ["p"]), ⟨4, [.word "route", .word "r", .braceOpen, .endOfText]⟩)) ∧
      (∃ ts, unfinishedRoute ++ [.endOfText] = ts ++ [.endOfText] ∧ .endOfText ∉ ts) ∧ 0 < 4 ∧
      ∃ result, result ≠ .error .outOfTokens ∧
        ∀ rest, ofTokens (unfinishedRoute ++ .endOfText :: rest) = result := by
  have hscan : Token.scan "points [p] route r \x7b".toList =
      .ok (unfinishedRoute ++ [.endOfText]) := by decide +kernel
  have hend : .endOfText ∉ unfinishedRoute := by decide
  have hread : Statement.reader ⟨0, unfinishedRoute ++ [.endOfText]⟩ =
      (.ok (.points ["p"]), ⟨4, [.word "route", .word "r", .braceOpen, .endOfText]⟩) := rfl
  obtain ⟨hcut, -, htakes, hends⟩ := reading_stays_within_text
  exact ⟨⟨hscan, hend, hread⟩, hcut _ _ hscan, htakes _ 0 hend [] _ _ hread, hends _ hend⟩

end Signalbox.Table
