import Mathlib.Data.List.Pairwise
import Signalbox.Proofs.TableLoading

/-!
The order of declarations. Names are looked up when the whole text has been read, so as long as no
name is given two meanings, the declarations may stand in any order between the routes.
-/
namespace Signalbox

def NetworkSection.Apart (x y : NetworkSection) : Prop :=
  ∀ segment ∈ x.segments, segment ∉ y.segments

instance : Std.Symm NetworkSection.Apart :=
  ⟨fun _ _ h segment hy hx => h segment hx hy⟩

instance (x y : NetworkSection) : Decidable (x.Apart y) :=
  inferInstanceAs (Decidable (∀ segment ∈ x.segments, segment ∉ y.segments))

namespace Topology

variable {t u : Topology}

/-- The same is declared, perhaps in another order. -/
structure Reordered (t u : Topology) : Prop where
  segments : t.segments.Perm u.segments
  signals : t.signals.Perm u.signals
  points : t.points.Perm u.points
  sections : t.sections.Perm u.sections

/-- No signal is declared both as a main and as a shunting signal, and no segment is named by two
sections. -/
structure Unambiguous (t : Topology) : Prop where
  signals : ∀ p ∈ t.signals, ∀ q ∈ t.signals, p.1 = q.1 → p.2 = q.2
  sections : t.sections.Pairwise NetworkSection.Apart

/-- Both answer alike whatever is asked about a name. -/
structure Alike (t u : Topology) : Prop where
  segments : ∀ name, t.isSegment name = u.isSegment name
  kinds : ∀ name, t.kind? name = u.kind? name
  points : ∀ name, t.isPoint name = u.isPoint name
  entrySignals : ∀ segment, t.entrySignals? segment = u.entrySignals? segment

theorem Reordered.kind?_eq (h : Reordered t u) (ht : t.Unambiguous) (name : SignalId) :
    t.kind? name = u.kind? name := by
  have hfound : t.signals.reverse.find? (·.1 == name) = u.signals.reverse.find? (·.1 == name) := by
    apply find?_eq_of_perm
      (((List.reverse_perm _).trans h.signals).trans (List.reverse_perm _).symm)
    intro p hp q hq hpname hqname
    rw [List.mem_reverse] at hp hq
    have hnames : p.1 = q.1 := (beq_iff_eq.mp hpname).trans (beq_iff_eq.mp hqname).symm
    exact Prod.ext hnames (ht.signals p hp q hq hnames)
  rw [kind?, kind?, hfound]

theorem Reordered.section?_eq (h : Reordered t u) (ht : t.Unambiguous) (segment : SegmentId) :
    t.section? segment = u.section? segment := by
  apply find?_eq_of_perm (((List.reverse_perm _).trans h.sections).trans (List.reverse_perm _).symm)
  intro x hx y hy hxsegment hysegment
  rw [List.mem_reverse] at hx hy
  by_contra hne
  exact ht.sections.forall hx hy hne segment (List.contains_iff_mem.mp hxsegment)
    (List.contains_iff_mem.mp hysegment)

theorem Reordered.alike (h : Reordered t u) (ht : t.Unambiguous) : Alike t u where
  segments _ := h.segments.contains_eq
  kinds := h.kind?_eq ht
  points _ := h.points.contains_eq
  entrySignals segment := by rw [entrySignals?, entrySignals?, h.section?_eq ht]

theorem Alike.isSignal_eq (h : t.Alike u) (name : SignalId) :
    t.isSignal name = u.isSignal name := by
  rw [← isSome_kind?, ← isSome_kind?, h.kinds]

end Topology

namespace Table

variable {t u : Topology}

/-! ### Looking up names -/

theorem resolvePath_eq (h : t.Alike u) (names : List String) :
    resolvePath t names = resolvePath u names := by
  induction names with
  | nil => rfl
  | cons name names ih =>
    have helement : t.element? name = u.element? name := by
      rw [Topology.element?, Topology.element?, h.segments, h.isSignal_eq]
    rw [resolvePath, resolvePath, helement, ih]

theorem resolveRoute_eq (h : t.Alike u) : resolveRoute t = resolveRoute u := by
  funext r
  unfold resolveRoute
  simp only [resolvePath_eq h, h.isSignal_eq, h.points]

theorem of_resolveRoute_eq_error {r : RouteDeclaration} {e : ParseError}
    (h : resolveRoute t r = .error e) : ∃ name, e = .unknownName name r.id := by
  unfold resolveRoute at h
  split at h
  · cases h
    exact ⟨_, rfl⟩
  · split at h
    · cases h
      exact ⟨_, rfl⟩
    · split at h
      · cases h
        exact ⟨_, rfl⟩
      · cases h

/-! ### Whole texts -/

theorem topology_reordered {tree tree' : TableTree} (h : tree.Perm tree') :
    Topology.Reordered tree.topology tree'.topology where
  segments := h.flatMap_right _
  signals := h.flatMap_right _
  points := h.flatMap_right _
  sections := h.filterMap _

theorem ofTokens_flatten (tree : TableTree) :
    ofTokens (tree.flatten ++ [.endOfText]) =
      ((tree.routes.map RouteTree.declaration).mapM (resolveRoute tree.topology)).map
        (⟨tree.topology, ·⟩) := by
  rw [ofTokens, statements_flatten]
  change ofStatements _ = _
  rw [ofStatements, Topology.ofStatements_statements, routeDeclarations_statements]
  rfl

/-- The tables answer alike about names, and have the same routes in the same order. -/
structure Equivalent (x y : Table) : Prop where
  topology : x.topology.Alike y.topology
  routes : x.routes = y.routes

/-- Both texts are refused for the same unknown name, or both are read and mean the same. -/
inductive SameOutcome : Except ParseError Table → Except ParseError Table → Prop
  | unknownName (name : String) (route : RouteId) :
    SameOutcome (.error (.unknownName name route)) (.error (.unknownName name route))
  | tables {x y : Table} (h : x.Equivalent y) : SameOutcome (.ok x) (.ok y)

/-- Declarations may stand in any order. Only the order of the routes is kept in a table. -/
theorem declarations_in_any_order {tree tree' : TableTree} (hperm : tree.Perm tree')
    (hroutes : tree.routes = tree'.routes) (h : tree.topology.Unambiguous) :
    SameOutcome (ofTokens (tree.flatten ++ [.endOfText]))
      (ofTokens (tree'.flatten ++ [.endOfText])) := by
  have halike := (topology_reordered hperm).alike h
  rw [ofTokens_flatten, ofTokens_flatten, ← hroutes, ← resolveRoute_eq halike]
  cases hresolved : (tree.routes.map RouteTree.declaration).mapM (resolveRoute tree.topology) with
  | error e =>
    obtain ⟨_, r, _, -, -, hfails⟩ := mapM_eq_error_iff.mp hresolved
    obtain ⟨name, rfl⟩ := of_resolveRoute_eq_error hfails
    exact .unknownName name r.id
  | ok routes => exact .tables ⟨halike, rfl⟩

def routesFirst : TableTree :=
  junctionTree.filter (·.route?.isSome) ++ junctionTree.filter (!·.route?.isSome)

theorem routesFirst_read :
    (junctionTree.Perm routesFirst ∧ junctionTree.routes = routesFirst.routes ∧
        junctionTree.topology.Unambiguous) ∧
      SameOutcome (ofTokens (junctionTree.flatten ++ [.endOfText]))
        (ofTokens (routesFirst.flatten ++ [.endOfText])) := by
  have hperm : junctionTree.Perm routesFirst := (List.filter_append_perm _ _).symm
  have hroutes : junctionTree.routes = routesFirst.routes := by decide
  have hclear : junctionTree.topology.Unambiguous := ⟨by decide, by decide⟩
  exact ⟨⟨hperm, hroutes, hclear⟩, declarations_in_any_order hperm hroutes hclear⟩

end Table

end Signalbox
