import Signalbox.Proofs.TokenReading

/-!
Lists with elements of any kind, at any place in a list of tokens. A list is read as it is written
if its elements are, and what is read is a list of runs that the reader of the elements accepts one
after another. So exactness passes from the elements to the list.
-/
namespace Signalbox.Table

/-- The place with so many of the tokens before it. The tokens are fixed here, so that a reader may
depend on all of them. -/
def place (ts : List Token) (i : Nat) : Cursor := ⟨i, ts.drop i⟩

variable {ts xs ys : List Token} {t u : Token} {i j : Nat}

theorem drop_eq_cons (h : ts[i]? = some t) : ts.drop i = t :: ts.drop (i + 1) := by
  obtain ⟨hlt, rfl⟩ := List.getElem?_eq_some_iff.mp h
  exact List.drop_eq_getElem_cons hlt

theorem cons_prefix_drop_iff :
    t :: ys <+: ts.drop i ↔ ts[i]? = some t ∧ ys <+: ts.drop (i + 1) := by
  constructor
  · rintro ⟨rest, hrest⟩
    have hhead : ts[i]? = some t := by
      rw [← List.head?_drop, ← hrest]
      rfl
    rw [drop_eq_cons hhead] at hrest
    exact ⟨hhead, rest, (List.cons.inj hrest).2⟩
  · rintro ⟨hhead, hrest⟩
    rw [drop_eq_cons hhead]
    exact List.cons_prefix_cons.mpr ⟨rfl, hrest⟩

theorem append_prefix_drop_iff :
    xs ++ ys <+: ts.drop i ↔ xs <+: ts.drop i ∧ ys <+: ts.drop (i + xs.length) := by
  rw [← List.drop_drop]
  constructor
  · rintro ⟨rest, hrest⟩
    rw [← hrest, List.append_assoc]
    exact ⟨List.prefix_append _ _, by simp⟩
  · rintro ⟨⟨rest, hrest⟩, hys⟩
    rw [← hrest, List.drop_left] at hys
    rw [← hrest]
    exact List.prefix_append_right_inj _ |>.mpr hys

theorem exists_run (hij : i ≤ j) (hj : j < ts.length) :
    ∃ run, run <+: ts.drop i ∧ j = i + run.length := by
  refine ⟨(ts.drop i).take (j - i), List.take_prefix _ _, ?_⟩
  rw [List.length_take, List.length_drop]
  omega

namespace TokenReader

variable {α σ : Type} {r : TokenReader α} {write : σ → List Token} {value : σ → α} {n : Nat}
  {as : List α} {c' : Cursor}

/-! ### Single tokens at a place -/

theorem token_place (h : ts[i]? = some t) : token t (place ts i) = (.ok (), place ts (i + 1)) := by
  rw [place, drop_eq_cons h]
  exact reads_token t i _

theorem tryToken_place (h : ts[i]? = some t) :
    tryToken t (place ts i) = (.ok true, place ts (i + 1)) := by
  rw [place, drop_eq_cons h]
  exact tryToken_of_eq

theorem tryToken_place_of_ne (hlt : i < ts.length) (h : ts[i]? ≠ some t) :
    tryToken t (place ts i) = (.ok false, place ts i) := by
  obtain ⟨u, hhead⟩ : ∃ u, ts[i]? = some u := ⟨_, List.getElem?_eq_getElem hlt⟩
  have hne : u ≠ t := by
    rintro rfl
    exact h hhead
  rw [place, drop_eq_cons hhead]
  exact tryToken_of_ne hne

theorem of_token_place {a : Unit} (h : token t (place ts i) = (.ok a, c')) :
    ts[i]? = some t ∧ c' = place ts (i + 1) := by
  cases hhead : ts[i]? with
  | none =>
    rw [place, List.drop_eq_nil_of_le (List.getElem?_eq_none_iff.mp hhead)] at h
    cases h
  | some u =>
    by_cases heq : u = t
    · subst heq
      rw [token_place hhead] at h
      cases h
      exact ⟨rfl, rfl⟩
    · rw [place, drop_eq_cons hhead] at h
      simp [token, take, heq] at h

theorem of_tryToken_place {found : Bool} (h : tryToken t (place ts i) = (.ok found, c')) :
    found = true ∧ ts[i]? = some t ∧ c' = place ts (i + 1) ∨
      found = false ∧ ts[i]? ≠ some t ∧ c' = place ts i := by
  by_cases hlt : i < ts.length
  · by_cases hhead : ts[i]? = some t
    · rw [tryToken_place hhead] at h
      cases h
      exact .inl ⟨rfl, hhead, rfl⟩
    · rw [tryToken_place_of_ne hlt hhead] at h
      cases h
      exact .inr ⟨rfl, hhead, rfl⟩
  · rw [place, List.drop_eq_nil_of_le (Nat.le_of_not_lt hlt)] at h
    cases h

/-! ### Elements -/

def flattenRest (write : σ → List Token) (xs : List σ) : List Token :=
  xs.flatMap (fun x => .separator :: write x) ++ [.listClose]

theorem flattenList_cons (write : σ → List Token) (x : σ) (xs : List σ) :
    flattenList write (x :: xs) = .listOpen :: (write x ++ flattenRest write xs) := by
  have hseparated : [Token.separator].intercalate ((x :: xs).map write) =
      write x ++ xs.flatMap fun y => .separator :: write y := by
    induction xs generalizing x with
    | nil => simp [List.intercalate_singleton]
    | cons y ys ih =>
      rw [List.map_cons, List.map_cons, List.intercalate_cons_cons, ← List.map_cons, ih y,
        List.flatMap_cons]
      simp
  rw [flattenList, hseparated, flattenRest, List.append_assoc]

theorem flattenRest_cons (write : σ → List Token) (x : σ) (xs : List σ) :
    flattenRest write (x :: xs) = .separator :: (write x ++ flattenRest write xs) := by
  simp [flattenRest]

theorem length_lt_flattenRest (write : σ → List Token) (xs : List σ) :
    xs.length < (flattenRest write xs).length := by
  induction xs with
  | nil => exact Nat.zero_lt_one
  | cons x xs ih =>
    simp only [flattenRest, List.flatMap_cons, List.length_append, List.length_cons] at ih ⊢
    omega

/-- Wherever the form stands in the tokens, the reader takes it and no more. -/
def ReadsIn (ts : List Token) (r : TokenReader α) (form : List Token) (a : α) : Prop :=
  ∀ i, form <+: ts.drop i → r (place ts i) = (.ok a, place ts (i + form.length))

/-- The reader never goes back in the tokens. -/
def Forward (ts : List Token) (r : TokenReader α) : Prop :=
  ∀ i a c', r (place ts i) = (.ok a, c') → ∃ j, i ≤ j ∧ c' = place ts j

theorem reads_iff_readsIn {form : List Token} {a : α} :
    Reads r form a ↔ ∀ ts, ReadsIn ts r form a := by
  constructor
  · rintro h ts i ⟨rest, hrest⟩
    rw [place, place, ← List.drop_drop, ← hrest, List.drop_left]
    exact h i rest
  · intro h position rest
    have hdrop : (List.replicate position Token.endOfText ++ (form ++ rest)).drop position =
        form ++ rest := List.drop_left' List.length_replicate
    have hread := h _ position ⟨rest, hdrop.symm⟩
    rwa [place, place, ← List.drop_drop, hdrop, List.drop_left] at hread

theorem forward_take (ts : List Token) (accept : Token → Option α) :
    Forward ts (TokenReader.take accept) := by
  intro i a c' h
  unfold TokenReader.take at h
  cases hrest : ts.drop i with
  | nil => simp [place, hrest] at h
  | cons t rest =>
    have hnext : ts.drop (i + 1) = rest := by
      rw [← List.drop_drop, hrest]
      rfl
    simp only [place, hrest] at h
    split at h
    · cases h
      exact ⟨i + 1, Nat.le_succ i, by rw [place, hnext]⟩
    · cases h

/-- From the place on, the reader accepts the runs with their values. Behind each run one token is
passed over. -/
def AcceptsRuns (ts : List Token) (r : TokenReader α) : Nat → List (List Token × α) → Prop
  | _, [] => True
  | i, (run, a) :: runs =>
    r (place ts i) = (.ok a, place ts (i + run.length)) ∧
      AcceptsRuns ts r (i + run.length + 1) runs

theorem elements_of_acceptsRuns {first : List Token × α} {runs : List (List Token × α)}
    (h : AcceptsRuns ts r i (first :: runs))
    (standing : first.1 ++ flattenRest Prod.fst runs <+: ts.drop i) (enough : runs.length < n) :
    elements r n (place ts i) = (.ok ((first :: runs).map Prod.snd),
      place ts (i + (first.1 ++ flattenRest Prod.fst runs).length)) := by
  induction runs generalizing first i n with
  | nil =>
    obtain ⟨n, rfl⟩ := Nat.exists_eq_succ_of_ne_zero (Nat.ne_zero_of_lt enough)
    obtain ⟨hfirst, -⟩ := h
    obtain ⟨hclose, -⟩ := cons_prefix_drop_iff.mp (append_prefix_drop_iff.mp standing).2
    have hlt := (List.getElem?_eq_some_iff.mp hclose).1
    have hmissing := tryToken_place_of_ne (t := .separator) hlt (by simp [hclose])
    rw [elements, bind_of_ok hfirst, bind_of_ok hmissing]
    change (token .listClose >>= _) _ = _
    rw [bind_of_ok (token_place hclose), pure_apply]
    simp [flattenRest, Nat.add_assoc]
  | cons second runs ih =>
    obtain ⟨n, rfl⟩ := Nat.exists_eq_succ_of_ne_zero (Nat.ne_zero_of_lt enough)
    obtain ⟨hfirst, hruns⟩ := h
    rw [flattenRest_cons] at standing
    obtain ⟨hseparator, hrest⟩ := cons_prefix_drop_iff.mp (append_prefix_drop_iff.mp standing).2
    have hread := ih hruns hrest (by simpa using enough)
    rw [elements, bind_of_ok hfirst, bind_of_ok (tryToken_place hseparator)]
    change (elements r n >>= _) _ = _
    rw [bind_of_ok hread, pure_apply, flattenRest_cons]
    simp [Nat.add_assoc, Nat.add_comm, Nat.add_left_comm]

theorem of_elements_eq_ok (forward : Forward ts r)
    (h : elements r n (place ts i) = (.ok as, c')) :
    ∃ first runs, first.1 ++ flattenRest Prod.fst runs <+: ts.drop i ∧
      AcceptsRuns ts r i (first :: runs) ∧ as = (first :: runs).map Prod.snd ∧
      c' = place ts (i + (first.1 ++ flattenRest Prod.fst runs).length) := by
  induction n generalizing i as with
  | zero => cases h
  | succ n ih =>
    obtain ⟨a, c₁, ha, hnext⟩ := of_bind_eq_ok h
    obtain ⟨j, hij, rfl⟩ := forward i a c₁ ha
    obtain ⟨found, c₂, hfound, hrest⟩ := of_bind_eq_ok hnext
    rcases of_tryToken_place hfound with ⟨rfl, hseparator, rfl⟩ | ⟨rfl, -, rfl⟩
    · obtain ⟨bs, c₃, hbs, hend⟩ := of_bind_eq_ok hrest
      obtain ⟨rfl, rfl⟩ := of_pure_eq_ok hend
      obtain ⟨second, runs, hstanding, haccepts, rfl, rfl⟩ := ih hbs
      obtain ⟨run, hrun, rfl⟩ := exists_run hij (List.getElem?_eq_some_iff.mp hseparator).1
      refine ⟨(run, a), second :: runs, ?_, ⟨ha, haccepts⟩, rfl, ?_⟩
      · rw [flattenRest_cons]
        exact append_prefix_drop_iff.mpr ⟨hrun, cons_prefix_drop_iff.mpr ⟨hseparator, hstanding⟩⟩
      · rw [flattenRest_cons]
        simp [Nat.add_assoc, Nat.add_comm, Nat.add_left_comm]
    · obtain ⟨_, c₃, hclose, hend⟩ := of_bind_eq_ok hrest
      obtain ⟨hhead, rfl⟩ := of_token_place hclose
      obtain ⟨rfl, rfl⟩ := of_pure_eq_ok hend
      obtain ⟨run, hrun, rfl⟩ := exists_run hij (List.getElem?_eq_some_iff.mp hhead).1
      refine ⟨(run, a), [], ?_, ⟨ha, trivial⟩, rfl, by simp [flattenRest, Nat.add_assoc]⟩
      exact append_prefix_drop_iff.mpr
        ⟨hrun, cons_prefix_drop_iff.mpr ⟨hhead, List.nil_prefix⟩⟩

theorem acceptsRuns_of_readsIn {xs : List σ}
    (h : ∀ x ∈ xs, ReadsIn ts r (write x) (value x)) {x : σ}
    (hx : ReadsIn ts r (write x) (value x))
    (standing : write x ++ flattenRest write xs <+: ts.drop i) :
    AcceptsRuns ts r i ((x :: xs).map fun y => (write y, value y)) := by
  induction xs generalizing x i with
  | nil => exact ⟨hx i (append_prefix_drop_iff.mp standing).1, trivial⟩
  | cons y ys ih =>
    rw [List.forall_mem_cons] at h
    rw [flattenRest_cons] at standing
    obtain ⟨hfirst, hrest⟩ := append_prefix_drop_iff.mp standing
    exact ⟨hx i hfirst, ih h.2 h.1 (cons_prefix_drop_iff.mp hrest).2⟩

/-! ### Lists -/

/-- A list of written runs is read if the reader of the elements accepts them in turn. The first run
must not be taken for the closing bracket. -/
theorem listOf_of_acceptsRuns {runs : List (List Token × α)}
    (standing : flattenList Prod.fst runs <+: ts.drop i) (h : AcceptsRuns ts r (i + 1) runs)
    (apart : runs ≠ [] → ts[i + 1]? ≠ some .listClose) :
    listOf r (place ts i) =
      (.ok (runs.map Prod.snd), place ts (i + (flattenList Prod.fst runs).length)) := by
  cases runs with
  | nil =>
    obtain ⟨hopen, hrest⟩ := cons_prefix_drop_iff.mp standing
    obtain ⟨hclose, -⟩ := cons_prefix_drop_iff.mp hrest
    rw [listOf, bind_of_ok (token_place hopen), bind_of_ok (tryToken_place hclose)]
    rfl
  | cons first runs =>
    rw [flattenList_cons] at standing ⊢
    obtain ⟨hopen, hrest⟩ := cons_prefix_drop_iff.mp standing
    -- The separators alone bound the number of runs by that of the tokens.
    have enough : runs.length < (ts.drop (i + 1)).length := by
      have hlength := length_lt_flattenRest Prod.fst runs
      have hwithin := hrest.length_le
      rw [List.length_append] at hwithin
      omega
    have hread := elements_of_acceptsRuns h hrest enough
    rw [Nat.add_right_comm i 1] at hread
    have hlt : i + 1 < ts.length := by
      rw [List.length_drop] at enough
      omega
    have hmissing := tryToken_place_of_ne hlt (apart (List.cons_ne_nil _ _))
    rw [listOf, bind_of_ok (token_place hopen), bind_of_ok hmissing]
    exact hread

theorem readsIn_listOf {xs : List σ} (h : ∀ x ∈ xs, ReadsIn ts r (write x) (value x))
    (apart : ∀ x ∈ xs, ∃ t us, write x = t :: us ∧ t ≠ .listClose) :
    ReadsIn ts (listOf r) (flattenList write xs) (xs.map value) := by
  intro i standing
  have hform : flattenList Prod.fst (xs.map fun x => (write x, value x)) =
      flattenList write xs := by
    simp [flattenList, Function.comp_def]
  have hvalues : (xs.map fun x => (write x, value x)).map Prod.snd = xs.map value := by
    simp [Function.comp_def]
  rw [← hform] at standing ⊢
  rw [← hvalues]
  cases xs with
  | nil => exact listOf_of_acceptsRuns standing trivial fun hne => absurd rfl hne
  | cons x xs =>
    rw [List.forall_mem_cons] at h apart
    rw [hform, flattenList_cons] at standing
    have hinner := (cons_prefix_drop_iff.mp standing).2
    refine listOf_of_acceptsRuns ?_ (acceptsRuns_of_readsIn h.2 h.1 hinner) fun _ hclose => ?_
    · rwa [hform, flattenList_cons]
    · obtain ⟨t, us, hwrite, hne⟩ := apart.1
      rw [hwrite] at hinner
      have hhead := (cons_prefix_drop_iff.mp (append_prefix_drop_iff.mp hinner).1).1
      rw [hclose] at hhead
      exact hne (Option.some.inj hhead).symm

/-- Whatever its elements are, a list is read wherever its form stands if they are read and none of
them starts like the closing bracket. If the reader of the elements never goes back, exactly the
lists of runs are read that it accepts in turn, with one separator between each two. -/
theorem listOf_reads_lists (ts : List Token) (r : TokenReader α) :
    (∀ {σ : Type} (write : σ → List Token) (value : σ → α) (xs : List σ),
      (∀ x ∈ xs, ReadsIn ts r (write x) (value x)) →
      (∀ x ∈ xs, ∃ t us, write x = t :: us ∧ t ≠ .listClose) →
        ReadsIn ts (listOf r) (flattenList write xs) (xs.map value)) ∧
    (Forward ts r → ∀ i as c', listOf r (place ts i) = (.ok as, c') ↔
      ∃ runs, flattenList Prod.fst runs <+: ts.drop i ∧ AcceptsRuns ts r (i + 1) runs ∧
        (runs ≠ [] → ts[i + 1]? ≠ some .listClose) ∧ as = runs.map Prod.snd ∧
        c' = place ts (i + (flattenList Prod.fst runs).length)) := by
  refine ⟨fun write value xs hreads hapart i standing => ?_, fun forward i as c' => ⟨?_, ?_⟩⟩
  · exact readsIn_listOf hreads hapart i standing
  · intro h
    obtain ⟨_, c₁, hopen, hnext⟩ := of_bind_eq_ok h
    obtain ⟨hbracket, rfl⟩ := of_token_place hopen
    obtain ⟨found, c₂, hfound, hrest⟩ := of_bind_eq_ok hnext
    rcases of_tryToken_place hfound with ⟨rfl, hclose, rfl⟩ | ⟨rfl, hapart, rfl⟩
    · obtain ⟨rfl, rfl⟩ := of_pure_eq_ok hrest
      refine ⟨[], ?_, trivial, fun hne => absurd rfl hne, rfl, rfl⟩
      exact cons_prefix_drop_iff.mpr ⟨hbracket, cons_prefix_drop_iff.mpr ⟨hclose, List.nil_prefix⟩⟩
    · obtain ⟨first, runs, hstanding, haccepts, rfl, rfl⟩ := of_elements_eq_ok forward hrest
      refine ⟨first :: runs, ?_, haccepts, fun _ => hapart, rfl, ?_⟩
      · rw [flattenList_cons]
        exact cons_prefix_drop_iff.mpr ⟨hbracket, hstanding⟩
      · rw [flattenList_cons]
        exact congrArg (place ts) (Nat.add_right_comm i 1 _)
  · rintro ⟨runs, hstanding, haccepts, hapart, rfl, rfl⟩
    exact listOf_of_acceptsRuns hstanding haccepts hapart

/-- A list of names in the middle of a text. -/
theorem names_list_read :
    let ts := [.word "path", .listOpen, .word "a", .separator, .word "b", .listClose, .endOfText]
    listOf word (place ts 1) = (.ok ["a", "b"], place ts 6) ∧
      ∃ runs, flattenList Prod.fst runs <+: ts.drop 1 ∧ AcceptsRuns ts word 2 runs ∧
        ["a", "b"] = runs.map Prod.snd := by
  intro ts
  obtain ⟨hreads, hread⟩ := listOf_reads_lists ts word
  have hlist : listOf word (place ts 1) = (.ok ["a", "b"], place ts 6) :=
    hreads flattenName id ["a", "b"] (fun x _ => reads_iff_readsIn.mp (exact_word.reads x) ts)
      (fun x _ => ⟨_, _, rfl, by simp⟩) 1 ⟨[.endOfText], rfl⟩
  obtain ⟨runs, hruns, haccepts, -, hvalues, -⟩ := (hread (forward_take ts _) 1 _ _).mp hlist
  exact ⟨hlist, runs, hruns, haccepts, hvalues⟩

/-! ### Exact readers -/

theorem reads_listOf (h : ∀ x, Reads r (write x) (value x))
    (apart : ∀ x, ∃ t us, write x = t :: us ∧ t ≠ .listClose) (xs : List σ) :
    Reads (listOf r) (flattenList write xs) (xs.map value) :=
  reads_iff_readsIn.mpr fun ts =>
    readsIn_listOf (fun x _ => reads_iff_readsIn.mp (h x) ts) fun x _ => apart x

theorem written_elements (h : Exact r write value) {n : Nat} {c c' : Cursor} {as : List α}
    (hread : elements r n c = (.ok as, c')) :
    ∃ x xs, c.rest = write x ++ (flattenRest write xs ++ c'.rest) ∧
      as = (x :: xs).map value := by
  induction n generalizing c as with
  | zero => cases hread
  | succ n ih =>
    obtain ⟨x, c₁, hx, hnext⟩ := h.of_bind_eq_ok hread
    obtain ⟨found, c₂, hfound, hrest⟩ := of_bind_eq_ok hnext
    rcases of_tryToken_eq_ok hfound with ⟨rfl, hsep⟩ | ⟨rfl, rfl⟩
    · obtain ⟨bs, c₃, hbs, hend⟩ := of_bind_eq_ok hrest
      obtain ⟨rfl, rfl⟩ := of_pure_eq_ok hend
      obtain ⟨y, ys, hys, rfl⟩ := ih hbs
      refine ⟨x, y :: ys, ?_, rfl⟩
      rw [hx, hsep, hys]
      simp [flattenRest]
    · obtain ⟨-, c₃, hclose, hend⟩ := (exact_token .listClose).of_bind_eq_ok hrest
      obtain ⟨rfl, rfl⟩ := of_pure_eq_ok hend
      refine ⟨x, [], ?_, rfl⟩
      rw [hx, hclose]
      rfl

theorem Exact.list (h : Exact r write value)
    (apart : ∀ x, ∃ t ts, write x = t :: ts ∧ t ≠ .listClose) :
    Exact (listOf r) (flattenList write) (List.map value) where
  reads := reads_listOf h.reads apart
  written := by
    intro c c' as hread
    obtain ⟨-, c₁, hopen, hnext⟩ := (exact_token .listOpen).of_bind_eq_ok hread
    obtain ⟨found, c₂, hfound, hrest⟩ := TokenReader.of_bind_eq_ok hnext
    rcases of_tryToken_eq_ok hfound with ⟨rfl, hclose⟩ | ⟨rfl, rfl⟩
    · obtain ⟨rfl, rfl⟩ := of_pure_eq_ok hrest
      refine ⟨[], ?_, rfl⟩
      rw [hopen, hclose]
      rfl
    · obtain ⟨x, xs, hxs, rfl⟩ := written_elements h hrest
      refine ⟨x :: xs, ?_, rfl⟩
      rw [hopen, hxs, flattenList_cons]
      simp

end TokenReader

end Signalbox.Table
