import Signalbox.Proofs.TableReading

/-!
Each text has one parse tree at most. The forms of each kind delimit themselves: none starts
another, so what is written first tells where it ends and from what it was written.
-/
namespace Signalbox.Table

open TokenReader

/-- No written form starts another one. -/
def SelfDelimiting {σ : Type} (write : σ → List Token) : Prop :=
  ∀ ⦃x y : σ⦄ ⦃rest rest' : List Token⦄, write x ++ rest = write y ++ rest' →
    x = y ∧ rest = rest'

section Forms

variable {α σ : Type} {write : σ → List Token}

theorem SelfDelimiting.of_reads {r : TokenReader α} {value : σ → α}
    (h : ∀ x, Reads r (write x) (value x)) (inj : value.Injective) : SelfDelimiting write := by
  intro x y rest rest' heq
  obtain ⟨hvalue, hrest⟩ := (h x).unambiguous (h y) heq
  exact ⟨inj hvalue, hrest⟩

theorem SelfDelimiting.clause (h : SelfDelimiting (flattenList write)) {w : String}
    {o o' : Option (List σ)} {rest rest' : List Token}
    (heq : flattenClause write w o ++ rest = flattenClause write w o' ++ rest')
    (apart : StartsApart w rest) (apart' : StartsApart w rest') :
    o = o' ∧ rest = rest' := by
  cases o with
  | none =>
    cases o' with
    | none => exact ⟨rfl, heq⟩
    | some ys =>
      obtain ⟨t, us, rfl, hne⟩ := apart
      exact absurd (List.cons.inj heq).1 hne
  | some xs =>
    cases o' with
    | none =>
      obtain ⟨t, us, rfl, hne⟩ := apart'
      exact absurd (List.cons.inj heq).1.symm hne
    | some ys =>
      obtain ⟨rfl, hrest⟩ := h (List.cons.inj heq).2
      exact ⟨rfl, hrest⟩

end Forms

theorem selfDelimiting_names : SelfDelimiting (flattenList flattenName) :=
  .of_reads exact_names.reads Function.injective_id

theorem selfDelimiting_points : SelfDelimiting (flattenList flattenPoint) :=
  .of_reads exact_points.reads Function.injective_id

theorem RouteName.token_injective : Function.Injective RouteName.token := by
  intro r r' h
  cases r with
  | name text =>
    cases r' with
    | name text' => simpa [token] using h
    | number => cases h
  | number value n whole =>
    cases r' with
    | name => cases h
    | number value' n' whole' =>
      cases h
      cases whole.symm.trans whole'
      rfl

/-- Different route names may stand for one id, so the tokens themselves are read. -/
theorem selfDelimiting_routeNames : SelfDelimiting (flattenList flattenRouteName) :=
  .of_reads (reads_listOf (r := take some) (fun _ => reads_take rfl)
    fun r => ⟨_, _, rfl, r.token_ne_listClose⟩) RouteName.token_injective.list_map

theorem selfDelimiting_orientation :
    SelfDelimiting (fun o : Orientation => [.word o.name]) :=
  .of_reads exact_orientation.reads Function.injective_id

theorem selfDelimiting_route : SelfDelimiting RouteTree.flatten := by
  intro r r' rest rest' heq
  rcases r with ⟨id, source, destination, orientation, length, path, sections, points, signals,
    conflicts⟩
  rcases r' with ⟨id', source', destination', orientation', length', path', sections', points',
    signals', conflicts'⟩
  simp only [RouteTree.flatten, List.cons_append, List.append_assoc, List.nil_append,
    List.cons.injEq, true_and, Token.word.injEq, Token.number.injEq] at heq
  obtain ⟨hid, rfl, rfl, horientation, rfl, hrest⟩ := heq
  cases RouteName.token_injective hid
  obtain ⟨rfl, -⟩ := selfDelimiting_orientation
    (congrArg (fun name => [Token.word name] ++ []) horientation)
  obtain ⟨rfl, hsections⟩ := selfDelimiting_names hrest
  obtain ⟨rfl, hpoints⟩ := selfDelimiting_names.clause hsections
    (startsApart_clause _ _ (by decide) (startsApart_cons (by decide)))
    (startsApart_clause _ _ (by decide) (startsApart_cons (by decide)))
  obtain ⟨rfl, hsignals⟩ := selfDelimiting_points.clause hpoints (startsApart_cons (by decide))
    (startsApart_cons (by decide))
  obtain ⟨rfl, hconflicts⟩ := selfDelimiting_names (List.cons.inj hsignals).2
  obtain ⟨rfl, hclose⟩ := selfDelimiting_routeNames.clause hconflicts
    (startsApart_cons (by decide)) (startsApart_cons (by decide))
  exact ⟨rfl, (List.cons.inj hclose).2⟩

theorem selfDelimiting_statement : SelfDelimiting StatementTree.flatten := by
  intro st st' rest rest' heq
  cases st with
  | segments names =>
    cases st' with
    | segments names' =>
      obtain ⟨rfl, hrest⟩ := selfDelimiting_names (List.cons.inj heq).2
      exact ⟨rfl, hrest⟩
    | _ => simp [StatementTree.flatten, RouteTree.flatten] at heq
  | signals names =>
    cases st' with
    | signals names' =>
      obtain ⟨rfl, hrest⟩ := selfDelimiting_names (List.cons.inj heq).2
      exact ⟨rfl, hrest⟩
    | _ => simp [StatementTree.flatten, RouteTree.flatten] at heq
  | shunting names =>
    cases st' with
    | shunting names' =>
      obtain ⟨rfl, hrest⟩ := selfDelimiting_names (List.cons.inj heq).2
      exact ⟨rfl, hrest⟩
    | _ => simp [StatementTree.flatten, RouteTree.flatten] at heq
  | points names =>
    cases st' with
    | points names' =>
      obtain ⟨rfl, hrest⟩ := selfDelimiting_names (List.cons.inj heq).2
      exact ⟨rfl, hrest⟩
    | _ => simp [StatementTree.flatten, RouteTree.flatten] at heq
  | networkSection name covered entry =>
    cases st' with
    | networkSection name' covered' entry' =>
      simp only [StatementTree.flatten, List.cons_append, List.append_assoc, List.nil_append,
        List.cons.injEq, true_and, Token.word.injEq] at heq
      obtain ⟨rfl, hcovered⟩ := heq
      obtain ⟨rfl, hentry⟩ := selfDelimiting_names hcovered
      obtain ⟨rfl, hclose⟩ := selfDelimiting_names (List.cons.inj hentry).2
      exact ⟨rfl, (List.cons.inj hclose).2⟩
    | _ => simp [StatementTree.flatten, RouteTree.flatten] at heq
  | route value =>
    cases st' with
    | route value' =>
      obtain ⟨rfl, hrest⟩ := selfDelimiting_route heq
      exact ⟨rfl, hrest⟩
    | _ => simp [StatementTree.flatten, RouteTree.flatten] at heq

theorem TableTree.flatten_injective : Function.Injective TableTree.flatten := by
  intro tree tree' heq
  induction tree generalizing tree' with
  | nil =>
    cases tree' with
    | nil => rfl
    | cons st' trees' =>
      obtain ⟨w, ts, hword⟩ := st'.flatten_eq_cons
      simp [flatten, hword] at heq
  | cons st trees ih =>
    cases tree' with
    | nil =>
      obtain ⟨w, ts, hword⟩ := st.flatten_eq_cons
      simp [flatten, hword] at heq
    | cons st' trees' =>
      obtain ⟨rfl, hrest⟩ := selfDelimiting_statement heq
      rw [ih hrest]

end Signalbox.Table
