import Mathlib.Data.List.Forall2
import Signalbox.Proofs.TableGrammar

/-!
Readers against written forms. A reader is exact for a family of forms if it reads each of them
whatever follows, and reads nothing else. Exactness tells written forms apart.
-/
namespace Signalbox.Table.TokenReader

variable {α β σ : Type}

/-- Started at these tokens the reader takes them and no more, whatever follows. -/
def Reads (r : TokenReader α) (ts : List Token) (a : α) : Prop :=
  ∀ position rest, r ⟨position, ts ++ rest⟩ = (.ok a, ⟨position + ts.length, rest⟩)

/-- The reader reads the written forms of some values, and only these. -/
structure Exact (r : TokenReader α) (write : σ → List Token) (value : σ → α) : Prop where
  reads : ∀ x, Reads r (write x) (value x)
  written : ∀ {c c' : Cursor} {a : α}, r c = (.ok a, c') →
    ∃ x, c.rest = write x ++ c'.rest ∧ a = value x

/-! ### One reader after another -/

theorem Reads.pure (a : α) : Reads (pure a) [] a := fun _ _ => rfl

theorem Reads.bind {r : TokenReader α} {f : α → TokenReader β} {ts us : List Token} {a : α}
    {b : β} (hr : Reads r ts a) (hf : Reads (f a) us b) : Reads (r >>= f) (ts ++ us) b := by
  intro position rest
  rw [List.append_assoc, bind_of_ok (hr position (us ++ rest)), hf, List.length_append,
    Nat.add_assoc]

theorem Reads.cons {r : TokenReader α} {f : α → TokenReader β} {t : Token} {us : List Token}
    {a : α} {b : β} (hr : Reads r [t] a) (hf : Reads (f a) us b) :
    Reads (r >>= f) (t :: us) b :=
  hr.bind hf

theorem Reads.last {r : TokenReader α} {f : α → TokenReader β} {ts : List Token} {a : α} {b : β}
    (hr : Reads r ts a) (hf : Reads (f a) [] b) : Reads (r >>= f) ts b := by
  have h := hr.bind hf
  rwa [List.append_nil] at h

theorem of_bind_eq_ok {r : TokenReader α} {f : α → TokenReader β} {c c' : Cursor} {b : β}
    (h : (r >>= f) c = (.ok b, c')) : ∃ a c₁, r c = (.ok a, c₁) ∧ f a c₁ = (.ok b, c') := by
  cases hr : r c with
  | mk result c₁ =>
    cases result with
    | ok a =>
      rw [bind_of_ok hr] at h
      exact ⟨a, c₁, rfl, h⟩
    | error e =>
      rw [bind_of_error hr] at h
      cases h

theorem Exact.of_bind_eq_ok {r : TokenReader α} {write : σ → List Token} {value : σ → α}
    (h : Exact r write value) {f : α → TokenReader β} {c c' : Cursor} {b : β}
    (hread : (r >>= f) c = (.ok b, c')) :
    ∃ x c₁, c.rest = write x ++ c₁.rest ∧ f (value x) c₁ = (.ok b, c') := by
  obtain ⟨a, c₁, ha, hnext⟩ := TokenReader.of_bind_eq_ok hread
  obtain ⟨x, hrest, rfl⟩ := h.written ha
  exact ⟨x, c₁, hrest, hnext⟩

theorem of_pure_eq_ok {a b : α} {c c' : Cursor}
    (h : (pure a : TokenReader α) c = (.ok b, c')) : b = a ∧ c' = c := by
  rw [pure_apply] at h
  cases h
  exact ⟨rfl, rfl⟩

/-! ### Single tokens -/

theorem reads_take {accept : Token → Option α} {t : Token} {a : α} (h : accept t = some a) :
    Reads (take accept) [t] a := by
  intro position rest
  simp [take, h]

theorem of_take_eq_ok {accept : Token → Option α} {c c' : Cursor} {a : α}
    (h : take accept c = (.ok a, c')) : ∃ t, c.rest = t :: c'.rest ∧ accept t = some a := by
  unfold take at h
  cases hrest : c.rest with
  | nil =>
    rw [hrest] at h
    cases h
  | cons t rest =>
    rw [hrest] at h
    dsimp only at h
    cases ht : accept t with
    | none =>
      rw [ht] at h
      cases h
    | some b =>
      rw [ht] at h
      cases h
      exact ⟨t, rfl, ht⟩

theorem exact_word : Exact word flattenName id where
  reads _ := reads_take rfl
  written := by
    intro c c' a h
    obtain ⟨t, hrest, ht⟩ := of_take_eq_ok h
    cases t with
    | word s =>
      cases ht
      exact ⟨a, hrest, rfl⟩
    | _ => cases ht

theorem exact_number : Exact number (fun x => [.number x]) id where
  reads _ := reads_take rfl
  written := by
    intro c c' a h
    obtain ⟨t, hrest, ht⟩ := of_take_eq_ok h
    cases t with
    | number x =>
      cases ht
      exact ⟨a, hrest, rfl⟩
    | _ => cases ht

theorem reads_routeId (r : RouteName) : Reads routeId [r.token] r.id := by
  apply reads_take
  cases r with
  | name text => rfl
  | number value n whole => simp [RouteName.token, RouteName.id, numberedRoute?, whole]

theorem exact_routeId : Exact routeId flattenRouteName RouteName.id where
  reads := reads_routeId
  written := by
    intro c c' a h
    obtain ⟨t, hrest, ht⟩ := of_take_eq_ok h
    cases t with
    | word s =>
      cases ht
      exact ⟨.name a, hrest, rfl⟩
    | number x =>
      obtain ⟨n, hn, rfl⟩ := Option.map_eq_some_iff.mp ht
      exact ⟨.number x n hn, hrest, rfl⟩
    | _ => cases ht

theorem reads_token (t : Token) : Reads (token t) [t] () := reads_take (by simp)

theorem exact_token (t : Token) : Exact (token t) (fun _ => [t]) id where
  reads _ := reads_token t
  written := by
    intro c c' u h
    obtain ⟨t', hrest, ht⟩ := of_take_eq_ok h
    split at ht
    · rename_i heq
      exact ⟨u, by rw [hrest, heq, List.singleton_append], rfl⟩
    · cases ht

theorem reads_keyword (w : String) : Reads (keyword w) [.word w] () := by
  intro position rest
  simp [keyword, word, take]

theorem exact_keyword (w : String) : Exact (keyword w) (fun _ => [.word w]) id where
  reads _ := reads_keyword w
  written := by
    intro c c' u h
    unfold keyword at h
    cases hw : word c with
    | mk result c₁ =>
      rw [hw] at h
      cases result with
      | error e => cases h
      | ok s =>
        dsimp only at h
        split at h
        · rename_i heq
          cases h
          obtain ⟨x, hrest, rfl⟩ := exact_word.written hw
          exact ⟨(), by rw [hrest, ← heq]; rfl, rfl⟩
        · cases h

theorem tryToken_of_eq {t : Token} {position : Nat} {rest : List Token} :
    tryToken t ⟨position, t :: rest⟩ = (.ok true, ⟨position + 1, rest⟩) := by
  simp [tryToken]

theorem tryToken_of_ne {t u : Token} {position : Nat} {rest : List Token} (h : u ≠ t) :
    tryToken t ⟨position, u :: rest⟩ = (.ok false, ⟨position, u :: rest⟩) := by
  simp [tryToken, h]

theorem of_tryToken_eq_ok {t : Token} {c c' : Cursor} {found : Bool}
    (h : tryToken t c = (.ok found, c')) :
    found = true ∧ c.rest = t :: c'.rest ∨ found = false ∧ c' = c := by
  unfold tryToken at h
  cases hrest : c.rest with
  | nil =>
    rw [hrest] at h
    cases h
  | cons u rest =>
    rw [hrest] at h
    dsimp only at h
    split at h
    · rename_i heq
      cases h
      exact .inl ⟨rfl, by rw [heq]⟩
    · cases h
      exact .inr ⟨rfl, rfl⟩

/-! ### Alternatives -/

/-- The reader fails for a reason that lets the next alternative be tried. -/
def GivesWay (r : TokenReader α) (c : Cursor) : Prop :=
  ∃ e c', r c = (.error e, c') ∧ e ≠ .outOfTokens

theorem firstOf_go_of_givesWay {start c c' : Cursor} {before : List (TokenReader α)}
    {r : TokenReader α} {after : List (TokenReader α)} {a : α}
    (hbefore : ∀ q ∈ before, GivesWay q start) (hr : r start = (.ok a, c'))
    (reasons : List ParseError) :
    firstOf.go start (before ++ r :: after) reasons c = (.ok a, c') := by
  induction before generalizing reasons c with
  | nil => simp [firstOf.go, hr]
  | cons q rest ih =>
    obtain ⟨e, c₁, hq, hne⟩ := hbefore q List.mem_cons_self
    rw [List.cons_append, firstOf.go, hq]
    cases e with
    | outOfTokens => exact absurd rfl hne
    | _ => exact ih (fun q hq => hbefore q (List.mem_cons_of_mem _ hq)) _

theorem firstOf_of_givesWay {c c' : Cursor} {before : List (TokenReader α)}
    {r : TokenReader α} {after : List (TokenReader α)} {a : α}
    (hbefore : ∀ q ∈ before, GivesWay q c) (hr : r c = (.ok a, c')) :
    firstOf (before ++ r :: after) c = (.ok a, c') :=
  firstOf_go_of_givesWay hbefore hr []

theorem of_firstOf_go_eq_ok {start c c' : Cursor} {readers : List (TokenReader α)}
    {reasons : List ParseError} {a : α}
    (h : firstOf.go start readers reasons c = (.ok a, c')) :
    ∃ r ∈ readers, r start = (.ok a, c') := by
  induction readers generalizing reasons c with
  | nil => cases h
  | cons r rest ih =>
    rw [firstOf.go] at h
    cases hr : r start with
    | mk result c₁ =>
      rw [hr] at h
      cases result with
      | ok b =>
        cases h
        exact ⟨r, List.mem_cons_self, hr⟩
      | error e =>
        cases e with
        | outOfTokens => cases h
        | _ =>
          obtain ⟨q, hq, hok⟩ := ih h
          exact ⟨q, List.mem_cons_of_mem _ hq, hok⟩

theorem of_firstOf_eq_ok {c c' : Cursor} {readers : List (TokenReader α)} {a : α}
    (h : firstOf readers c = (.ok a, c')) : ∃ r ∈ readers, r c = (.ok a, c') :=
  of_firstOf_go_eq_ok h

/-- The reader starts with a fixed word. -/
def OpensWith (w : String) (r : TokenReader α) : Prop := ∃ f, r = keyword w >>= f

theorem OpensWith.givesWay {w v : String} {r : TokenReader α} (h : OpensWith w r) (hne : v ≠ w)
    (position : Nat) (rest : List Token) : GivesWay r ⟨position, .word v :: rest⟩ := by
  obtain ⟨f, rfl⟩ := h
  have hkeyword : keyword w ⟨position, .word v :: rest⟩ =
      (.error (.missingWord position w), ⟨position, .word v :: rest⟩) := by
    simp [keyword, word, take, hne]
  exact ⟨_, _, bind_of_error hkeyword, by simp⟩

theorem Reads.alternative {words : List String} {before : List (TokenReader α)}
    (hopen : List.Forall₂ OpensWith words before) {r : TokenReader α}
    (after : List (TokenReader α)) {v : String} {us : List Token} {a : α}
    (hr : Reads r (.word v :: us) a) (hne : v ∉ words) :
    Reads (firstOf (before ++ r :: after)) (.word v :: us) a := by
  intro position rest
  refine firstOf_of_givesWay ?_ (hr position rest)
  induction hopen with
  | nil => simp
  | cons hfirst _ ih =>
    rw [List.mem_cons, not_or] at hne
    exact List.forall_mem_cons.mpr ⟨hfirst.givesWay hne.1 position _, ih hne.2⟩

/-! ### Clauses that may be left out -/

def StartsApart (w : String) (ts : List Token) : Prop := ∃ t us, ts = t :: us ∧ t ≠ .word w

theorem startsApart_cons {w : String} {t : Token} {ts : List Token} (h : t ≠ .word w) :
    StartsApart w (t :: ts) := ⟨t, ts, rfl, h⟩

theorem startsApart_clause {w v : String} (write : σ → List Token) (o : Option (List σ))
    {ts : List Token} (hne : v ≠ w) (h : StartsApart w ts) :
    StartsApart w (flattenClause write v o ++ ts) := by
  cases o with
  | none => exact h
  | some xs => exact startsApart_cons (by simpa using hne)

section Clauses

variable {r : TokenReader α} {write : σ → List Token} {values : List σ → List α}

theorem Reads.clause {w : String} {f : List α → TokenReader β} {us : List Token} {b : β}
    (h : Exact (listOf r) (flattenList write) values) (o : Option (List σ))
    (hf : Reads (f ((o.map values).getD [])) us b) (apart : StartsApart w us) :
    Reads (Statement.optionalList w r >>= f) (flattenClause write w o ++ us) b := by
  cases o with
  | none =>
    obtain ⟨t, ts, rfl, hne⟩ := apart
    intro position rest
    have habsent : Statement.optionalList w r ⟨position, t :: ts ++ rest⟩ =
        (.ok [], ⟨position, t :: ts ++ rest⟩) := by
      rw [List.cons_append]
      exact bind_of_ok (tryToken_of_ne hne)
    rw [flattenClause, List.nil_append, bind_of_ok habsent]
    exact hf position rest
  | some xs =>
    have hclause : Reads (Statement.optionalList w r) (flattenClause write w (some xs))
        (values xs) := by
      refine Reads.cons (a := true) ?_ (h.reads xs)
      intro position rest
      exact tryToken_of_eq
    exact hclause.bind hf

theorem Exact.of_clause_eq_ok (h : Exact (listOf r) (flattenList write) values) {w : String}
    {f : List α → TokenReader β} {c c' : Cursor} {b : β}
    (hread : (Statement.optionalList w r >>= f) c = (.ok b, c')) :
    ∃ o c₁, c.rest = flattenClause write w o ++ c₁.rest ∧
      f ((o.map values).getD []) c₁ = (.ok b, c') := by
  obtain ⟨as, c₁, hclause, hnext⟩ := TokenReader.of_bind_eq_ok hread
  obtain ⟨found, c₂, hfound, hlist⟩ := TokenReader.of_bind_eq_ok hclause
  rcases of_tryToken_eq_ok hfound with ⟨rfl, hword⟩ | ⟨rfl, rfl⟩
  · obtain ⟨xs, hxs, rfl⟩ := h.written hlist
    refine ⟨some xs, c₁, ?_, hnext⟩
    rw [hword, hxs]
    rfl
  · obtain ⟨rfl, rfl⟩ := of_pure_eq_ok hlist
    exact ⟨none, c₁, rfl, hnext⟩

end Clauses

/-! ### Telling written forms apart -/

theorem Reads.unambiguous {r : TokenReader α} {ts us rest rest' : List Token} {a b : α}
    (ht : Reads r ts a) (hu : Reads r us b) (h : ts ++ rest = us ++ rest') :
    a = b ∧ rest = rest' := by
  have hsame := ht 0 rest
  rw [h, hu 0 rest'] at hsame
  simp only [Prod.mk.injEq, Except.ok.injEq, Cursor.mk.injEq] at hsame
  exact ⟨hsame.1.symm, hsame.2.2.symm⟩

end Signalbox.Table.TokenReader
