import Signalbox.Proofs.Lists
import Signalbox.Proofs.RegistryLookup
import Signalbox.Proofs.TableDerivation

/-!
From parse trees to tables. A text is accepted if it has a parse tree whose routes use declared
names only, and its table is the one that the tree describes.
-/
namespace Signalbox

namespace Topology

open Table

theorem foldl_declare (t : Topology) (tree : TableTree) :
    (tree.map StatementTree.statement).foldl declare t =
      { segments := t.segments ++ tree.topology.segments
        signals := t.signals ++ tree.topology.signals
        points := t.points ++ tree.topology.points
        sections := t.sections ++ tree.topology.sections } := by
  induction tree generalizing t with
  | nil => simp [TableTree.topology]
  | cons st rest ih =>
    rw [List.map_cons, List.foldl_cons, ih]
    cases st <;>
      simp [declare, TableTree.topology, StatementTree.statement, StatementTree.segmentNames,
        StatementTree.signalKinds, StatementTree.pointNames, StatementTree.section?,
        List.filterMap_cons]

theorem ofStatements_statements (tree : TableTree) :
    ofStatements (tree.map StatementTree.statement) = tree.topology := by
  rw [ofStatements, foldl_declare]
  simp [empty]

end Topology

namespace Table

theorem routeDeclarations_statements (tree : TableTree) :
    routeDeclarations (tree.map StatementTree.statement) =
      tree.routes.map RouteTree.declaration := by
  rw [routeDeclarations, TableTree.routes, List.filterMap_map, List.map_filterMap]
  congr 1
  funext st
  cases st <;> rfl

/-! ### Looking up names -/

section Lookup

variable {t : Topology}

theorem element?_eq_some_iff {name : String} {e : PathElement} :
    t.element? name = some e ↔
      (t.isSegment name = true ∨ t.isSignal name = true) ∧
        e = if t.isSegment name then .segment name else .signal name := by
  unfold Topology.element?
  cases t.isSegment name <;> cases t.isSignal name <;> simp [eq_comm]

theorem resolvePath_eq_ok_iff {names : List String} {path : List PathElement} :
    resolvePath t names = .ok path ↔
      (∀ name ∈ names, t.isSegment name = true ∨ t.isSignal name = true) ∧
        path = names.map fun name =>
          if t.isSegment name then .segment name else .signal name := by
  induction names generalizing path with
  | nil => exact ⟨fun h => ⟨by simp, (Except.ok.inj h).symm⟩, fun h => congrArg _ h.2.symm⟩
  | cons name names ih =>
    rw [resolvePath, List.forall_mem_cons, List.map_cons]
    cases he : t.element? name with
    | none =>
      refine iff_of_false (by simp) ?_
      rintro ⟨⟨hname, -⟩, -⟩
      cases he.symm.trans (element?_eq_some_iff.mpr ⟨hname, rfl⟩)
    | some e =>
      obtain ⟨hname, rfl⟩ := element?_eq_some_iff.mp he
      cases hrest : resolvePath t names with
      | error unknown =>
        refine iff_of_false (by simp [Except.map]) ?_
        rintro ⟨⟨-, hnames⟩, -⟩
        cases hrest.symm.trans (ih.mpr ⟨hnames, rfl⟩)
      | ok rest =>
        obtain ⟨hnames, rfl⟩ := ih.mp hrest
        simp only [Except.map, Except.ok.injEq]
        exact ⟨fun h => ⟨⟨hname, hnames⟩, h.symm⟩, fun h => h.2.symm⟩

theorem resolveRoute_eq_ok_iff {r : RouteTree} {route : Route} :
    resolveRoute t r.declaration = .ok route ↔ r.Declared t ∧ route = r.route t := by
  unfold resolveRoute
  constructor
  · intro h
    split at h
    · cases h
    · rename_i path hpath
      split at h
      · cases h
      · rename_i hsignals
        split at h
        · cases h
        · rename_i hpoints
          obtain ⟨hnames, rfl⟩ := resolvePath_eq_ok_iff.mp hpath
          rw [List.find?_eq_none] at hsignals hpoints
          cases h
          refine ⟨⟨hnames, ?_, ?_, ?_, ?_⟩, rfl⟩
          · intro s hs
            simpa using hsignals s (List.mem_append_left _ hs)
          · simpa [RouteTree.declaration] using hsignals r.source (by simp [RouteTree.declaration])
          · simpa [RouteTree.declaration] using
              hsignals r.destination (by simp [RouteTree.declaration])
          · intro p hp
            simpa using hpoints p.1 (List.mem_map_of_mem hp)
  · rintro ⟨h, rfl⟩
    have hsignals : (r.declaration.signals ++
        [r.declaration.source, r.declaration.destination]).find? (!t.isSignal ·) = none := by
      rw [List.find?_eq_none]
      simp only [List.forall_mem_append, List.forall_mem_cons]
      exact ⟨fun s hs => by simp [h.signals s hs], by simp [RouteTree.declaration, h.source],
        by simp [RouteTree.declaration, h.destination], by simp⟩
    have hpoints : (r.declaration.points.map (·.1)).find? (!t.isPoint ·) = none := by
      rw [List.find?_eq_none]
      intro name hname
      obtain ⟨p, hp, rfl⟩ := List.mem_map.mp hname
      simp [h.points p hp]
    have hpath : resolvePath t r.declaration.path = .ok (r.route t).path :=
      resolvePath_eq_ok_iff.mpr ⟨h.path, rfl⟩
    rw [hpath]
    dsimp only
    rw [hsignals]
    dsimp only
    rw [hpoints]
    rfl

end Lookup

theorem ofStatements_eq_ok_iff {tree : TableTree} {table : Table} :
    ofStatements (tree.map StatementTree.statement) = .ok table ↔
      tree.Declared ∧ table = tree.table := by
  have hroutes (routes : List Route) :
      (tree.routes.map RouteTree.declaration).mapM (resolveRoute tree.topology) = .ok routes ↔
        tree.Declared ∧ routes = tree.routes.map (RouteTree.route tree.topology) := by
    rw [List.mapM_map]
    exact mapM_eq_ok_iff fun r route => resolveRoute_eq_ok_iff
  unfold ofStatements
  rw [Topology.ofStatements_statements, routeDeclarations_statements]
  simp only [bind_eq_ok_iff, pure_eq_ok_iff, hroutes]
  constructor
  · rintro ⟨-, ⟨hdeclared, rfl⟩, rfl⟩
    exact ⟨hdeclared, rfl⟩
  · rintro ⟨hdeclared, rfl⟩
    exact ⟨_, ⟨hdeclared, rfl⟩, rfl⟩

theorem ofTokens_eq_ok_iff {ts : List Token} (h : .endOfText ∉ ts) {table : Table} :
    ofTokens (ts ++ [.endOfText]) = .ok table ↔
      ∃ tree : TableTree, tree.flatten = ts ∧ tree.Declared ∧ table = tree.table := by
  have hread : ofTokens (ts ++ [.endOfText]) = .ok table ↔
      ∃ statements, Statement.ofTokens (ts ++ [.endOfText]) = .ok statements ∧
        ofStatements statements = .ok table := bind_eq_ok_iff
  rw [hread]
  simp only [statements_eq_ok_iff h]
  constructor
  · rintro ⟨-, ⟨tree, htree, rfl⟩, htable⟩
    exact ⟨tree, htree, ofStatements_eq_ok_iff.mp htable⟩
  · rintro ⟨tree, htree, htable⟩
    exact ⟨_, ⟨tree, htree, rfl⟩, ofStatements_eq_ok_iff.mpr htable⟩

/-! ### Names of a table that has been read -/

theorem isSignal_of_resolveRoute {t : Topology} {r : RouteDeclaration} {route : Route}
    (h : resolveRoute t r = .ok route) {q : SignalId} (hq : q ∈ route.signals) :
    t.isSignal q = true := by
  unfold resolveRoute at h
  split at h
  · cases h
  · split at h
    · cases h
    · rename_i hsignals
      split at h
      · cases h
      · cases h
        rw [List.find?_eq_none] at hsignals
        simpa using hsignals q (List.mem_append_left _ hq)

theorem isPoint_of_resolveRoute {t : Topology} {r : RouteDeclaration} {route : Route}
    (h : resolveRoute t r = .ok route) {p : PointId} (hp : p ∈ route.points.map (·.1)) :
    t.isPoint p = true := by
  unfold resolveRoute at h
  split at h
  · cases h
  · split at h
    · cases h
    · split at h
      · cases h
      · rename_i hpoints
        cases h
        rw [List.find?_eq_none] at hpoints
        simpa using hpoints p hp

theorem exists_tokens_of_ofChars {text : List Char} {t : Table} (h : ofChars text = .ok t) :
    ∃ tokens, Token.scan text = .ok tokens ∧ ofTokens tokens = .ok t := by
  unfold ofChars at h
  cases hscan : Token.scan text with
  | error e => simp [hscan] at h
  | ok tokens =>
    rw [hscan] at h
    cases htokens : ofTokens tokens with
    | error e => simp [htokens, Except.mapError] at h
    | ok table =>
      obtain rfl : table = t := by simpa [htokens, Except.mapError] using h
      exact ⟨tokens, rfl, htokens⟩

theorem exists_declaration_of_ofChars {text : List Char} {t : Table} (h : ofChars text = .ok t)
    {r : Route} (hr : r ∈ t.routes) :
    ∃ declaration, resolveRoute t.topology declaration = .ok r := by
  obtain ⟨tokens, -, htokens⟩ := exists_tokens_of_ofChars h
  obtain ⟨statements, -, hstatements⟩ := bind_eq_ok_iff.mp htokens
  unfold ofStatements at hstatements
  simp only [bind_eq_ok_iff, pure_eq_ok_iff] at hstatements
  obtain ⟨routes, hroutes, rfl⟩ := hstatements
  obtain ⟨declaration, -, hresolved⟩ := exists_of_mem_mapM hroutes hr
  exact ⟨declaration, hresolved⟩

theorem isSignal_of_ofChars {text : List Char} {t : Table} (h : ofChars text = .ok t) {r : Route}
    (hr : r ∈ t.routes) {q : SignalId} (hq : q ∈ r.signals) : t.topology.isSignal q = true := by
  obtain ⟨declaration, hresolved⟩ := exists_declaration_of_ofChars h hr
  exact isSignal_of_resolveRoute hresolved hq

theorem isPoint_of_ofChars {text : List Char} {t : Table} (h : ofChars text = .ok t) {r : Route}
    (hr : r ∈ t.routes) {p : PointId} (hp : p ∈ r.points.map (·.1)) :
    t.topology.isPoint p = true := by
  obtain ⟨declaration, hresolved⟩ := exists_declaration_of_ofChars h hr
  exact isPoint_of_resolveRoute hresolved hp

/-- A text is accepted exactly if it derives from the grammar and its routes use declared names
only. Its parse tree is the only one, and the table is the one that this tree describes. -/
theorem ofTokens_reads_grammar (ts : List Token) (h : .endOfText ∉ ts) :
    ((∃ table, ofTokens (ts ++ [.endOfText]) = .ok table) ↔
        ∃ tree : TableTree, tree.flatten = ts ∧ tree.Declared) ∧
      (∀ tree : TableTree, tree.flatten = ts → tree.Declared →
        ofTokens (ts ++ [.endOfText]) = .ok tree.table) ∧
      ∀ tree tree' : TableTree, tree.flatten = ts → tree'.flatten = ts → tree = tree' := by
  refine ⟨⟨?_, ?_⟩, ?_, ?_⟩
  · rintro ⟨table, hread⟩
    obtain ⟨tree, htree, hdeclared, -⟩ := (ofTokens_eq_ok_iff h).mp hread
    exact ⟨tree, htree, hdeclared⟩
  · rintro ⟨tree, htree, hdeclared⟩
    exact ⟨tree.table, (ofTokens_eq_ok_iff h).mpr ⟨tree, htree, hdeclared, rfl⟩⟩
  · intro tree htree hdeclared
    exact (ofTokens_eq_ok_iff h).mpr ⟨tree, htree, hdeclared, rfl⟩
  · intro tree tree' htree htree'
    exact TableTree.flatten_injective (htree.trans htree'.symm)

/-- A text of the junction. Its declarations stand around the routes that use them. -/
def junctionTree : TableTree := [
  .segments ["a", "b"],
  .route {
    id := .name "left", source := "s", destination := "t", orientation := .clockwise
    length := .zero, path := ["a", "m", "c"], sections := some ["throat"]
    points := some [("p", .normal)], signals := ["s", "m", "t"]
    conflicts := some [.name "right"] },
  .signals ["s", "t", "m"],
  .route {
    id := .name "right", source := "u", destination := "t", orientation := .clockwise
    length := .zero, path := ["d", "u", "c"], sections := some ["throat"]
    points := some [("p", .reverse)], signals := ["u", "t"]
    conflicts := some [.name "left"] },
  .shunting ["u"],
  .route {
    id := .name "bypass", source := "s", destination := "t", orientation := .clockwise
    length := .zero, path := ["a", "b"], sections := none, points := none
    signals := ["s", "t"], conflicts := some [] },
  .segments ["c", "d"],
  .points ["p"],
  .networkSection "throat" ["c"] ["m", "u"]]

theorem junctionTree_read :
    .endOfText ∉ junctionTree.flatten ∧ junctionTree.Declared ∧
      ofTokens (junctionTree.flatten ++ [.endOfText]) = .ok junction := by
  have hend : .endOfText ∉ junctionTree.flatten := by decide
  have hdeclared : junctionTree.Declared := by decide
  obtain ⟨-, hread, -⟩ := ofTokens_reads_grammar junctionTree.flatten hend
  exact ⟨hend, hdeclared, hread junctionTree rfl hdeclared⟩

end Table

end Signalbox
