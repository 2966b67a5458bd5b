import Signalbox.Proofs.LinePatterns

/-!
The forms of scenario lines as patterns. A line matches a pattern exactly if its words have the
form, and then the captures say what the form says.
-/
namespace Signalbox.Scenario

open Text

/-- A pattern of lines, and what a line means by the captures of its groups. -/
structure Rule where
  pattern : Pattern
  result : List String → Option (Except ScenarioError Action)

open Pattern

def waitRule : Rule where
  pattern := .line (.literal "wait") (.sequence [gap, .group number])
  result
    | [t] => some ((readTime t).map .wait)
    | _ => none

def grabRule : Rule where
  pattern := .line (.group (.either (.literal "grab") (.literal "ungrab")))
    (.sequence [gap, .group name])
  result
    | [command, t] => some (.ok (if command = "grab" then .grab t else .ungrab t))
    | _ => none

def placeRule : Rule where
  pattern := .line (.literal "place")
    (.sequence [gap, .group name, .group (.many (.sequence [gap, name]))])
  result
    | [t, rest] => some (.ok (.place t (namesOf rest.toList)))
    | _ => none

def occupyRule : Rule where
  pattern := .line (.group (.either (.literal "occupy") (.literal "vacate")))
    (.sequence [gap, .group name])
  result
    | [command, s] => some (.ok (.occupy s (command = "occupy")))
    | _ => none

def aspectRule : Rule where
  pattern := .line (.literal "aspect") (.sequence [gap, .group name, gap, .group name])
  result
    | [s, name] => some <|
      match Aspect.ofName? name with
      | some a => .ok (.setAspect s a)
      | none => .error (.unknownAspect name)
    | _ => none

def grantRule : Rule where
  pattern := .line (.literal "grant") (.sequence [gap, .group name, gap, .group name])
  result
    | [t, r] => some (.ok (.grant t r))
    | _ => none

def requestRule : Rule where
  pattern := .line (.literal "request")
    (.sequence [gap, .group name, gap, .group name, gap, .group name])
  result
    | [t, s, d] => some (.ok (.request t s d))
    | _ => none

def releaseRule : Rule where
  pattern := .line (.literal "release") (.sequence [gap, .group name])
  result
    | [r] => some (.ok (.release r))
    | _ => none

def driveRule : Rule where
  pattern := .line (.literal "drive")
    (.sequence [gap, .group name, gap, .group name,
      .optional (.sequence [gap, .group (.either (.literal "automatic") (.literal "manual"))])])
  result
    | [t, r] => some (.ok (.drive t r .manual))
    | [t, r, mode] =>
      some (.ok (.drive t r (if mode = "automatic" then .automatic else .manual)))
    | _ => none

def awaitRule : Rule where
  pattern := .line (.literal "await")
    (.sequence [gap, .group name, .optional (.sequence [gap, .group number])])
  result
    | [t] => some (.ok (.await t none))
    | [t, time] => some ((readTime time).map fun x => .await t (some x))
    | _ => none

def rules : List Rule :=
  [waitRule, grabRule, placeRule, occupyRule, aspectRule, grantRule, requestRule, releaseRule,
    driveRule, awaitRule]

/-! ### Patterns and forms -/

/-- A line has the form exactly if it matches the pattern, and both say the same of it. -/
structure Rule.Describes (rule : Rule) (form : LineForm) : Prop where
  matched : ∀ line captures, rule.pattern.Matches line captures →
    ∃ result, rule.result captures = some result ∧ form (namesOf line) = some result
  found : ∀ line result, form (namesOf line) = some result →
    ∃ captures, rule.pattern.Matches line captures ∧ rule.result captures = some result

theorem Pattern.Reads.describes {rule : Rule} {form : LineForm}
    {R : List String → List String → Prop} (h : rule.pattern.Reads R)
    (hresult : ∀ ws captures, R ws captures →
      ∃ result, rule.result captures = some result ∧ form ws = some result)
    (hform : ∀ ws result, (∀ w ∈ ws, IsWord w) → form ws = some result →
      ∃ captures, R ws captures) :
    rule.Describes form where
  matched line captures hmatch := hresult _ captures (h.matched line captures hmatch)
  found line result hfound := by
    obtain ⟨captures, hR⟩ := hform _ result isWord_of_mem_namesOf hfound
    obtain ⟨captures', hmatch, hR'⟩ := h.found line captures hR
    obtain ⟨result', hresult', hform'⟩ := hresult _ captures' hR'
    rw [hfound] at hform'
    cases hform'
    exact ⟨captures', hmatch, hresult'⟩

theorem describes_of_names {rule : Rule} {form : LineForm} {keyword rest : Pattern}
    {allowed : String → Prop} {told : String → List String}
    {R : List String → List String → Prop} (n : Nat)
    (hpattern : rule.pattern = .line keyword (.namesThen n rest))
    (hkeyword : keyword.TakesWord allowed told) (hrest : rest.Splits R)
    (hresult : ∀ first names ws captures, allowed first → names.length = n →
      (∀ w ∈ names, isName w = true) → R ws captures →
      ∃ result, rule.result (told first ++ (names ++ captures)) = some result ∧
        form (first :: (names ++ ws)) = some result)
    (hform : ∀ ws result, (∀ w ∈ ws, IsWord w) → form ws = some result →
      ∃ first names ws' captures, ws = first :: (names ++ ws') ∧ allowed first ∧ names.length = n ∧
        (∀ w ∈ names, isName w = true) ∧ R ws' captures) :
    rule.Describes form := by
  have hreads := (hrest.namesThen n).reads_line hkeyword
  rw [← hpattern] at hreads
  refine hreads.describes ?_ ?_
  · rintro _ _ ⟨first, _, _, rfl, rfl, hfirst, hmore⟩
    obtain ⟨names, ws, captures, rfl, rfl, hlength, hnames, hR⟩ := afterNames_iff.mp hmore
    exact hresult first names ws captures hfirst hlength hnames hR
  · intro ws result hwords h
    obtain ⟨first, names, ws', captures, rfl, hfirst, hlength, hnames, hR⟩ :=
      hform ws result hwords h
    exact ⟨_, first, _, _, rfl, rfl, hfirst,
      afterNames_iff.mpr ⟨names, ws', captures, rfl, rfl, hlength, hnames, hR⟩⟩

theorem describes_of_only_names {rule : Rule} {form : LineForm} {keyword : Pattern}
    {allowed : String → Prop} {told : String → List String} (n : Nat)
    (hpattern : rule.pattern = .line keyword (.namesThen n .empty))
    (hkeyword : keyword.TakesWord allowed told)
    (hresult : ∀ first names, allowed first → names.length = n →
      ∃ result, rule.result (told first ++ names) = some result ∧
        form (first :: names) = onNames names result)
    (hform : ∀ ws result, form ws = some result →
      ∃ first names a, ws = first :: names ∧ allowed first ∧ names.length = n ∧
        onNames names a = some result) :
    rule.Describes form := by
  refine describes_of_names n hpattern hkeyword splits_empty ?_ ?_
  · rintro first names _ _ hfirst hlength hnames ⟨rfl, rfl⟩
    obtain ⟨result, hread, heq⟩ := hresult first names hfirst hlength
    refine ⟨result, by rwa [List.append_nil], ?_⟩
    rw [List.append_nil, heq, onNames_eq_some_iff]
    exact ⟨hnames, rfl⟩
  · intro ws result _ h
    obtain ⟨first, names, a, rfl, hfirst, hlength, hnamed⟩ := hform ws result h
    exact ⟨first, names, [], [], by rw [List.append_nil], hfirst, hlength,
      (onNames_eq_some_iff.mp hnamed).1, rfl, rfl⟩

theorem waitRule_describes : waitRule.Describes waitForm := by
  have hwait := takesWord_literal (s := "wait") (by decide)
  have htime := splits_empty.next takesWord_number.group
  refine describes_of_names 0 rfl hwait htime ?_ ?_
  · rintro _ names _ _ rfl hlength - ⟨t, _, _, rfl, rfl, hallowed, rfl, rfl⟩
    obtain rfl := List.eq_nil_of_length_eq_zero hlength
    exact ⟨_, rfl, if_pos hallowed⟩
  · intro ws result hwords h
    unfold waitForm at h
    split at h
    · split at h
      · rename_i hallowed
        exact ⟨_, [], [_], _, rfl, rfl, rfl, nofun, _, [], [], rfl, rfl, hallowed, rfl, rfl⟩
      · cases h
    · cases h

theorem grabRule_describes : grabRule.Describes grabForm := by
  have hgrab := takesWord_literal (s := "grab") (by decide)
  have hungrab := takesWord_literal (s := "ungrab") (by decide)
  refine describes_of_only_names 1 rfl (hgrab.either hungrab).group ?_ ?_
  · intro first names hfirst hlength
    obtain ⟨t, rfl⟩ := List.length_eq_one_iff.mp hlength
    rcases hfirst with rfl | rfl
    · exact ⟨_, rfl, rfl⟩
    · exact ⟨_, rfl, rfl⟩
  · intro ws result h
    unfold grabForm at h
    split at h
    · exact ⟨_, _, _, rfl, .inl rfl, rfl, h⟩
    · exact ⟨_, _, _, rfl, .inr rfl, rfl, h⟩
    · cases h

theorem placeRule_describes : placeRule.Describes placeForm := by
  have hplace := takesWord_literal (s := "place") (by decide)
  refine describes_of_names 1 rfl hplace splits_names.seq_empty ?_ ?_
  · rintro _ names segments _ rfl hlength hnames ⟨text, rfl, rfl, hsegments⟩
    obtain ⟨t, rfl⟩ := List.length_eq_one_iff.mp hlength
    refine ⟨_, rfl, onNames_eq_some_iff.mpr ⟨List.forall_mem_append.mpr ⟨hnames, hsegments⟩, ?_⟩⟩
    rw [String.toList_ofList]
    rfl
  · intro ws result hwords h
    unfold placeForm at h
    split at h
    · rename_i t segments
      obtain ⟨ht, hsegments⟩ := List.forall_mem_cons.mp (onNames_eq_some_iff.mp h).1
      obtain ⟨text, hspaced, -⟩ := exists_spaced_of_isWord fun w hw =>
        hwords w (List.mem_cons_of_mem _ (List.mem_cons_of_mem _ hw))
      exact ⟨_, [t], segments, _, rfl, rfl, rfl, List.forall_mem_singleton.mpr ht, text,
        hspaced.namesOf_eq, rfl, hsegments⟩
    · cases h

theorem occupyRule_describes : occupyRule.Describes occupyForm := by
  have hoccupy := takesWord_literal (s := "occupy") (by decide)
  have hvacate := takesWord_literal (s := "vacate") (by decide)
  refine describes_of_only_names 1 rfl (hoccupy.either hvacate).group ?_ ?_
  · intro first names hfirst hlength
    obtain ⟨t, rfl⟩ := List.length_eq_one_iff.mp hlength
    rcases hfirst with rfl | rfl
    · exact ⟨_, rfl, rfl⟩
    · exact ⟨_, rfl, rfl⟩
  · intro ws result h
    unfold occupyForm at h
    split at h
    · exact ⟨_, _, _, rfl, .inl rfl, rfl, h⟩
    · exact ⟨_, _, _, rfl, .inr rfl, rfl, h⟩
    · cases h

theorem aspectRule_describes : aspectRule.Describes aspectForm := by
  have haspect := takesWord_literal (s := "aspect") (by decide)
  refine describes_of_only_names 2 rfl haspect ?_ ?_
  · rintro _ names rfl hlength
    obtain ⟨s, name, rfl⟩ := List.length_eq_two.mp hlength
    exact ⟨_, rfl, rfl⟩
  · intro ws result h
    unfold aspectForm at h
    split at h
    · exact ⟨_, _, _, rfl, rfl, rfl, h⟩
    · cases h

theorem grantRule_describes : grantRule.Describes grantForm := by
  have hgrant := takesWord_literal (s := "grant") (by decide)
  refine describes_of_only_names 2 rfl hgrant ?_ ?_
  · rintro _ names rfl hlength
    obtain ⟨t, r, rfl⟩ := List.length_eq_two.mp hlength
    exact ⟨_, rfl, rfl⟩
  · intro ws result h
    unfold grantForm at h
    split at h
    · exact ⟨_, _, _, rfl, rfl, rfl, h⟩
    · cases h

theorem requestRule_describes : requestRule.Describes requestForm := by
  have hrequest := takesWord_literal (s := "request") (by decide)
  refine describes_of_only_names 3 rfl hrequest ?_ ?_
  · rintro _ names rfl hlength
    obtain ⟨t, s, d, rfl⟩ := List.length_eq_three.mp hlength
    exact ⟨_, rfl, rfl⟩
  · intro ws result h
    unfold requestForm at h
    split at h
    · exact ⟨_, _, _, rfl, rfl, rfl, h⟩
    · cases h

theorem releaseRule_describes : releaseRule.Describes releaseForm := by
  have hrelease := takesWord_literal (s := "release") (by decide)
  refine describes_of_only_names 1 rfl hrelease ?_ ?_
  · rintro _ names rfl hlength
    obtain ⟨r, rfl⟩ := List.length_eq_one_iff.mp hlength
    exact ⟨_, rfl, rfl⟩
  · intro ws result h
    unfold releaseForm at h
    split at h
    · exact ⟨_, _, _, rfl, rfl, rfl, h⟩
    · cases h

theorem driveRule_describes : driveRule.Describes driveForm := by
  have hdrive := takesWord_literal (s := "drive") (by decide)
  have hautomatic := takesWord_literal (s := "automatic") (by decide)
  have hmanual := takesWord_literal (s := "manual") (by decide)
  have hmode := splits_empty.next (hautomatic.either hmanual).group
  refine describes_of_names 2 rfl hdrive hmode.optional.seq_empty ?_ ?_
  · rintro _ names _ _ rfl hlength hnames hrest
    obtain ⟨t, r, rfl⟩ := List.length_eq_two.mp hlength
    rcases hrest with ⟨_, _, _, rfl, rfl, rfl | rfl, rfl, rfl⟩ | ⟨rfl, rfl⟩
    · exact ⟨_, rfl, onNames_eq_some_iff.mpr ⟨hnames, rfl⟩⟩
    · exact ⟨_, rfl, onNames_eq_some_iff.mpr ⟨hnames, rfl⟩⟩
    · exact ⟨_, rfl, onNames_eq_some_iff.mpr ⟨hnames, rfl⟩⟩
  · intro ws result hwords h
    unfold driveForm at h
    split at h
    · exact ⟨_, _, [], [], rfl, rfl, rfl, (onNames_eq_some_iff.mp h).1, .inr ⟨rfl, rfl⟩⟩
    · exact ⟨_, [_, _], [_], _, rfl, rfl, rfl, (onNames_eq_some_iff.mp h).1,
        .inl ⟨_, [], [], rfl, rfl, .inr rfl, rfl, rfl⟩⟩
    · exact ⟨_, [_, _], [_], _, rfl, rfl, rfl, (onNames_eq_some_iff.mp h).1,
        .inl ⟨_, [], [], rfl, rfl, .inl rfl, rfl, rfl⟩⟩
    · cases h

theorem awaitRule_describes : awaitRule.Describes awaitForm := by
  have hawait := takesWord_literal (s := "await") (by decide)
  have htime := splits_empty.next takesWord_number.group
  refine describes_of_names 1 rfl hawait htime.optional.seq_empty ?_ ?_
  · rintro _ names _ _ rfl hlength hnames hrest
    obtain ⟨t, rfl⟩ := List.length_eq_one_iff.mp hlength
    rcases hrest with ⟨time, _, _, rfl, rfl, hallowed, rfl, rfl⟩ | ⟨rfl, rfl⟩
    · exact ⟨_, rfl, (if_pos hallowed).trans (onNames_eq_some_iff.mpr ⟨hnames, rfl⟩)⟩
    · exact ⟨_, rfl, onNames_eq_some_iff.mpr ⟨hnames, rfl⟩⟩
  · intro ws result hwords h
    unfold awaitForm at h
    split at h
    · exact ⟨_, _, [], [], rfl, rfl, rfl, (onNames_eq_some_iff.mp h).1, .inr ⟨rfl, rfl⟩⟩
    · split at h
      · rename_i hallowed
        exact ⟨_, [_], [_], _, rfl, rfl, rfl, (onNames_eq_some_iff.mp h).1,
          .inl ⟨_, [], [], rfl, rfl, hallowed, rfl, rfl⟩⟩
      · cases h
    · cases h

theorem rules_describe : List.Forall₂ Rule.Describes rules forms :=
  .cons waitRule_describes <| .cons grabRule_describes <| .cons placeRule_describes <|
    .cons occupyRule_describes <| .cons aspectRule_describes <| .cons grantRule_describes <|
    .cons requestRule_describes <| .cons releaseRule_describes <| .cons driveRule_describes <|
    .cons awaitRule_describes .nil

end Signalbox.Scenario
