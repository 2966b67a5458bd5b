import Signalbox.Proofs.ElementLists

/-!
What the reader of table texts accepts before names are looked up: the flattened parse trees, and
nothing else. The reader of each form is exact for the trees of this form.
-/
namespace Signalbox.Table

open TokenReader

/-! ### Fixed words that stand for values -/

section Choices

variable {α : Type} {w v : String} {a b : α} {c c' : Cursor}

theorem reads_choice (w : String) (a : α) : Reads (Statement.choice w a) [.word w] a :=
  Reads.last (reads_keyword w) (Reads.pure a)

theorem of_choice_eq_ok (h : Statement.choice w a c = (.ok b, c')) :
    c.rest = .word w :: c'.rest ∧ b = a := by
  obtain ⟨-, c₁, hword, hend⟩ := (exact_keyword w).of_bind_eq_ok h
  obtain ⟨rfl, rfl⟩ := of_pure_eq_ok hend
  exact ⟨hword, rfl⟩

theorem exact_either {write : α → List Token} (hne : w ≠ v) (ha : write a = [.word w])
    (hb : write b = [.word v]) (both : ∀ x, x = a ∨ x = b) :
    Exact (firstOf [Statement.choice w a, Statement.choice v b]) write id where
  reads x := by
    rcases both x with rfl | rfl
    · rw [ha]
      exact (reads_choice w x).alternative .nil _ (by simp)
    · rw [hb]
      exact (reads_choice v x).alternative (.cons ⟨_, rfl⟩ .nil) [] (by simpa using hne.symm)
  written := by
    intro c c' x h
    obtain ⟨q, hq, hok⟩ := of_firstOf_eq_ok h
    simp only [List.mem_cons, List.not_mem_nil, or_false] at hq
    rcases hq with rfl | rfl
    · obtain ⟨hrest, rfl⟩ := of_choice_eq_ok hok
      exact ⟨x, by rw [hrest, ha, List.singleton_append], rfl⟩
    · obtain ⟨hrest, rfl⟩ := of_choice_eq_ok hok
      exact ⟨x, by rw [hrest, hb, List.singleton_append], rfl⟩

end Choices

theorem exact_orientation :
    Exact Statement.orientationReader (fun o => [.word o.name]) id :=
  exact_either (by decide) rfl rfl fun o => by cases o <;> simp

theorem exact_position : Exact Statement.positionReader (fun p => [.word p.name]) id :=
  exact_either (by decide) rfl rfl fun p => by cases p <;> simp

/-! ### Lists -/

theorem exact_point : Exact Statement.pointReader flattenPoint id where
  reads p := (exact_word.reads p.1).cons ((exact_position.reads p.2).last (Reads.pure _))
  written := by
    intro c c' p h
    obtain ⟨point, c₁, hpoint, hnext⟩ := exact_word.of_bind_eq_ok h
    obtain ⟨position, c₂, hposition, hend⟩ := exact_position.of_bind_eq_ok hnext
    obtain ⟨rfl, rfl⟩ := of_pure_eq_ok hend
    exact ⟨(point, position), by rw [hpoint, hposition]; rfl, rfl⟩

theorem exact_names : Exact (listOf word) (flattenList flattenName) id := by
  have h := exact_word.list fun _ => ⟨_, _, rfl, by simp⟩
  rwa [List.map_id_fun] at h

theorem exact_points : Exact (listOf Statement.pointReader) (flattenList flattenPoint) id := by
  have h := exact_point.list fun _ => ⟨_, _, rfl, by simp⟩
  rwa [List.map_id_fun] at h

theorem RouteName.token_ne_listClose (r : RouteName) : r.token ≠ .listClose := by
  cases r <;> simp [token]

theorem exact_routeNames :
    Exact (listOf routeId) (flattenList flattenRouteName) (List.map RouteName.id) :=
  exact_routeId.list fun r => ⟨_, _, rfl, r.token_ne_listClose⟩

/-! ### Statements -/

theorem reads_listing (w : String) (f : List String → Statement) (names : List String) :
    Reads (do keyword w; return f (← listOf word)) (.word w :: flattenList flattenName names)
      (f names) :=
  (reads_keyword w).cons ((exact_names.reads names).last (Reads.pure _))

theorem written_listing {w : String} {f : List String → Statement} {c c' : Cursor}
    {st : Statement}
    (h : (do keyword w; return f (← listOf word) : TokenReader Statement) c = (.ok st, c')) :
    ∃ names, st = f names ∧ c.rest = .word w :: flattenList flattenName names ++ c'.rest := by
  obtain ⟨-, c₁, hword, hnext⟩ := (exact_keyword w).of_bind_eq_ok h
  obtain ⟨names, c₂, hnames, hend⟩ := exact_names.of_bind_eq_ok hnext
  obtain ⟨rfl, rfl⟩ := of_pure_eq_ok hend
  exact ⟨names, rfl, by rw [hword, hnames]; rfl⟩

theorem reads_section (name : String) (covered entry : List String) :
    Reads Statement.sectionReader
      (StatementTree.networkSection name covered entry).flatten
      (.networkSection ⟨name, covered, entry⟩) := by
  refine (reads_keyword "section").cons ((exact_word.reads name).cons ?_)
  refine (reads_token .braceOpen).cons ?_
  refine (reads_keyword "segments").cons ((exact_names.reads covered).bind ?_)
  refine (reads_keyword "entry").cons ((exact_names.reads entry).bind ?_)
  exact (reads_token .braceClose).last (Reads.pure _)

theorem written_section {c c' : Cursor} {st : Statement}
    (h : Statement.sectionReader c = (.ok st, c')) :
    ∃ name covered entry, st = .networkSection ⟨name, covered, entry⟩ ∧
      c.rest = (StatementTree.networkSection name covered entry).flatten ++ c'.rest := by
  obtain ⟨-, _, hsection, h⟩ := (exact_keyword "section").of_bind_eq_ok h
  obtain ⟨name, _, hname, h⟩ := exact_word.of_bind_eq_ok h
  obtain ⟨-, _, hopen, h⟩ := (exact_token .braceOpen).of_bind_eq_ok h
  obtain ⟨-, _, hsegments, h⟩ := (exact_keyword "segments").of_bind_eq_ok h
  obtain ⟨covered, _, hcovered, h⟩ := exact_names.of_bind_eq_ok h
  obtain ⟨-, _, hentryWord, h⟩ := (exact_keyword "entry").of_bind_eq_ok h
  obtain ⟨entry, _, hentry, h⟩ := exact_names.of_bind_eq_ok h
  obtain ⟨-, _, hclose, h⟩ := (exact_token .braceClose).of_bind_eq_ok h
  obtain ⟨rfl, rfl⟩ := of_pure_eq_ok h
  refine ⟨name, covered, entry, rfl, ?_⟩
  rw [hsection, hname, hopen, hsegments, hcovered, hentryWord, hentry, hclose]
  simp [StatementTree.flatten, flattenName]

theorem reads_route (r : RouteTree) :
    Reads Statement.routeReader r.flatten (.route r.declaration) := by
  refine (reads_keyword "route").cons ((reads_routeId r.id).cons ((reads_token .braceOpen).cons ?_))
  refine (reads_keyword "source").cons ((exact_word.reads r.source).cons ?_)
  refine (reads_keyword "destination").cons ((exact_word.reads r.destination).cons ?_)
  refine (reads_keyword "orientation").cons ((exact_orientation.reads r.orientation).cons ?_)
  refine (reads_keyword "length").cons ((exact_number.reads r.length).cons ?_)
  refine (reads_keyword "path").cons ((exact_names.reads r.path).bind ?_)
  refine Reads.clause exact_names r.sections ?_
    (startsApart_clause _ _ (by decide) (startsApart_cons (by decide)))
  refine Reads.clause exact_points r.points ?_ (startsApart_cons (by decide))
  refine (reads_keyword "signals").cons ((exact_names.reads r.signals).bind ?_)
  refine Reads.clause exact_routeNames r.conflicts ?_ (startsApart_cons (by decide))
  refine (reads_token .braceClose).last ?_
  cases hconflicts : r.conflicts <;>
    simpa [RouteTree.declaration, hconflicts] using Reads.pure (Statement.route r.declaration)

theorem written_route {c c' : Cursor} {st : Statement}
    (h : Statement.routeReader c = (.ok st, c')) :
    ∃ r : RouteTree, st = .route r.declaration ∧ c.rest = r.flatten ++ c'.rest := by
  obtain ⟨-, _, hroute, h⟩ := (exact_keyword "route").of_bind_eq_ok h
  obtain ⟨id, _, hid, h⟩ := exact_routeId.of_bind_eq_ok h
  obtain ⟨-, _, hopen, h⟩ := (exact_token .braceOpen).of_bind_eq_ok h
  obtain ⟨-, _, hsourceWord, h⟩ := (exact_keyword "source").of_bind_eq_ok h
  obtain ⟨source, _, hsource, h⟩ := exact_word.of_bind_eq_ok h
  obtain ⟨-, _, hdestinationWord, h⟩ := (exact_keyword "destination").of_bind_eq_ok h
  obtain ⟨destination, _, hdestination, h⟩ := exact_word.of_bind_eq_ok h
  obtain ⟨-, _, horientationWord, h⟩ := (exact_keyword "orientation").of_bind_eq_ok h
  obtain ⟨orientation, _, horientation, h⟩ := exact_orientation.of_bind_eq_ok h
  obtain ⟨-, _, hlengthWord, h⟩ := (exact_keyword "length").of_bind_eq_ok h
  obtain ⟨length, _, hlength, h⟩ := exact_number.of_bind_eq_ok h
  obtain ⟨-, _, hpathWord, h⟩ := (exact_keyword "path").of_bind_eq_ok h
  obtain ⟨path, _, hpath, h⟩ := exact_names.of_bind_eq_ok h
  obtain ⟨sections, _, hsections, h⟩ := exact_names.of_clause_eq_ok h
  obtain ⟨points, _, hpoints, h⟩ := exact_points.of_clause_eq_ok h
  obtain ⟨-, _, hsignalsWord, h⟩ := (exact_keyword "signals").of_bind_eq_ok h
  obtain ⟨signals, _, hsignals, h⟩ := exact_names.of_bind_eq_ok h
  obtain ⟨conflicts, _, hconflicts, h⟩ := exact_routeNames.of_clause_eq_ok h
  obtain ⟨-, _, hclose, h⟩ := (exact_token .braceClose).of_bind_eq_ok h
  obtain ⟨rfl, rfl⟩ := of_pure_eq_ok h
  refine ⟨⟨id, source, destination, orientation, length, path, sections, points, signals,
    conflicts⟩, ?_, ?_⟩
  · cases conflicts <;> simp [RouteTree.declaration]
  · rw [hroute, hid, hopen, hsourceWord, hsource, hdestinationWord, hdestination,
      horientationWord, horientation, hlengthWord, hlength, hpathWord, hpath, hsections, hpoints,
      hsignalsWord, hsignals, hconflicts, hclose]
    simp [RouteTree.flatten, flattenName, flattenRouteName]

theorem exact_statement :
    Exact Statement.reader StatementTree.flatten StatementTree.statement where
  reads tree := by
    have opening : List.Forall₂ OpensWith
        ["segments", "signals", "shunting", "points", "section"]
        [Statement.segmentsReader, Statement.signalsReader, Statement.shuntingReader,
          Statement.pointsReader, Statement.sectionReader] :=
      .cons ⟨_, rfl⟩ (.cons ⟨_, rfl⟩ (.cons ⟨_, rfl⟩ (.cons ⟨_, rfl⟩ (.cons ⟨_, rfl⟩ .nil))))
    cases tree with
    | segments names =>
      exact (reads_listing "segments" .segments names).alternative
        (List.forall₂_take 0 opening) _ (by decide)
    | signals names =>
      exact (reads_listing "signals" (.signals · .main) names).alternative
        (List.forall₂_take 1 opening) _ (by decide)
    | shunting names =>
      exact (reads_listing "shunting" (.signals · .shunting) names).alternative
        (List.forall₂_take 2 opening) _ (by decide)
    | points names =>
      exact (reads_listing "points" .points names).alternative
        (List.forall₂_take 3 opening) _ (by decide)
    | networkSection name covered entry =>
      exact (reads_section name covered entry).alternative
        (List.forall₂_take 4 opening) _ (by decide)
    | route value =>
      exact (reads_route value).alternative opening _ (by decide)
  written := by
    intro c c' st h
    obtain ⟨q, hq, hok⟩ := of_firstOf_eq_ok h
    simp only [List.mem_cons, List.not_mem_nil, or_false] at hq
    rcases hq with rfl | rfl | rfl | rfl | rfl | rfl
    · obtain ⟨names, rfl, hrest⟩ := written_listing hok
      exact ⟨.segments names, hrest, rfl⟩
    · obtain ⟨names, rfl, hrest⟩ := written_listing hok
      exact ⟨.signals names, hrest, rfl⟩
    · obtain ⟨names, rfl, hrest⟩ := written_listing hok
      exact ⟨.shunting names, hrest, rfl⟩
    · obtain ⟨names, rfl, hrest⟩ := written_listing hok
      exact ⟨.points names, hrest, rfl⟩
    · obtain ⟨name, covered, entry, rfl, hrest⟩ := written_section hok
      exact ⟨.networkSection name covered entry, hrest, rfl⟩
    · obtain ⟨r, rfl, hrest⟩ := written_route hok
      exact ⟨.route r, hrest, rfl⟩

/-! ### Whole texts -/

theorem StatementTree.flatten_eq_cons (tree : StatementTree) :
    ∃ w ts, tree.flatten = .word w :: ts := by
  cases tree <;> exact ⟨_, _, rfl⟩

theorem TableTree.length_le_length_flatten (tree : TableTree) :
    tree.length ≤ tree.flatten.length := by
  induction tree with
  | nil => exact Nat.le_refl 0
  | cons st rest ih =>
    obtain ⟨w, ts, hflatten⟩ := st.flatten_eq_cons
    rw [TableTree.flatten] at ih ⊢
    rw [List.flatMap_cons, hflatten]
    simp only [List.length_append, List.length_cons]
    omega

theorem readAll_of_ne {n : Nat} {c : Cursor} {t : Token} {ts : List Token}
    (h : c.rest = t :: ts) (hne : t ≠ .endOfText) :
    Statement.readAll (n + 1) c =
      (do return (← Statement.reader) :: (← Statement.readAll n) :
        TokenReader (List Statement)) c := by
  rcases c with ⟨position, rest⟩
  cases h
  cases t <;> first | rfl | exact absurd rfl hne

theorem reads_statements (tree : TableTree) {n : Nat} (enough : tree.length < n)
    (position : Nat) (rest : List Token) :
    Statement.readAll n ⟨position, tree.flatten ++ .endOfText :: rest⟩ =
      (.ok (tree.map StatementTree.statement),
        ⟨position + tree.flatten.length, .endOfText :: rest⟩) := by
  induction tree generalizing n position with
  | nil =>
    obtain ⟨n, rfl⟩ := Nat.exists_eq_succ_of_ne_zero (Nat.ne_zero_of_lt enough)
    rfl
  | cons st trees ih =>
    obtain ⟨n, rfl⟩ := Nat.exists_eq_succ_of_ne_zero (Nat.ne_zero_of_lt enough)
    have hfirst := exact_statement.reads st position
      (TableTree.flatten trees ++ .endOfText :: rest)
    have hrest := ih (n := n) (by simpa using enough) (position + st.flatten.length)
    have hcut : TableTree.flatten (st :: trees) = st.flatten ++ TableTree.flatten trees :=
      List.flatMap_cons
    rw [hcut, List.append_assoc, List.length_append, ← Nat.add_assoc]
    obtain ⟨w, ts, hword⟩ := st.flatten_eq_cons
    rw [readAll_of_ne (by rw [hword, List.cons_append]) (by simp), bind_of_ok hfirst,
      bind_of_ok hrest]
    rfl

theorem written_statements {n : Nat} {c c' : Cursor} {statements : List Statement}
    (h : Statement.readAll n c = (.ok statements, c')) :
    ∃ (tree : TableTree) (rest : List Token), c.rest = tree.flatten ++ .endOfText :: rest ∧
      statements = tree.map StatementTree.statement := by
  induction n generalizing c statements with
  | zero => cases h
  | succ n ih =>
    unfold Statement.readAll at h
    split at h
    · cases h
    · rename_i rest hend
      cases h
      exact ⟨[], rest, hend, rfl⟩
    · obtain ⟨st, c₁, hfirst, hnext⟩ := exact_statement.of_bind_eq_ok h
      obtain ⟨others, c₂, hothers, hlast⟩ := TokenReader.of_bind_eq_ok hnext
      obtain ⟨rfl, rfl⟩ := of_pure_eq_ok hlast
      obtain ⟨tree, rest, htree, rfl⟩ := ih hothers
      refine ⟨st :: tree, rest, ?_, rfl⟩
      rw [hfirst, htree, ← List.append_assoc]
      rfl

theorem eq_of_append_endOfText {ts us rest : List Token} (h : .endOfText ∉ ts)
    (heq : ts ++ [.endOfText] = us ++ .endOfText :: rest) : ts = us := by
  rcases List.append_eq_append_iff.mp heq with ⟨vs, rfl, htail⟩ | ⟨vs, rfl, htail⟩
  · cases vs with
    | nil => exact (List.append_nil ts).symm
    | cons v vs => simp at htail
  · cases vs with
    | nil => exact List.append_nil us
    | cons v vs =>
      rw [List.cons_append, List.cons.injEq] at htail
      exact absurd (by simp [← htail.1]) h

theorem statements_flatten (tree : TableTree) :
    Statement.ofTokens (tree.flatten ++ [.endOfText]) =
      .ok (tree.map StatementTree.statement) := by
  have enough : tree.length < (tree.flatten ++ [Token.endOfText]).length := by
    have hlength := tree.length_le_length_flatten
    rw [List.length_append, List.length_singleton]
    omega
  exact congrArg Prod.fst (reads_statements tree enough 0 [])

theorem statements_eq_ok_iff {ts : List Token} (h : .endOfText ∉ ts)
    {statements : List Statement} :
    Statement.ofTokens (ts ++ [.endOfText]) = .ok statements ↔
      ∃ tree : TableTree, tree.flatten = ts ∧ statements = tree.map StatementTree.statement := by
  constructor
  · intro hread
    unfold Statement.ofTokens at hread
    obtain ⟨tree, rest, htree, hstatements⟩ :=
      written_statements (Prod.ext hread rfl : _ = (Except.ok statements, _))
    exact ⟨tree, (eq_of_append_endOfText h htree).symm, hstatements⟩
  · rintro ⟨tree, rfl, rfl⟩
    exact statements_flatten tree

end Signalbox.Table
