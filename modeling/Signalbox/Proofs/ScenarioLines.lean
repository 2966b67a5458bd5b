import Mathlib.Data.List.Forall2
import Mathlib.Data.List.Pairwise
import Mathlib.Data.List.ReduceOption
import Signalbox.Proofs.ReadNames
import Signalbox.Proofs.ScenarioForms

/-!
Scenario texts are read line by line. A line says nothing, or it says an action, or it fails, and no
other line has a say in that. Actions that are written down one by one are read back as they were.
-/
namespace Signalbox

namespace Scenario

open Text

/-! ### The order of the forms -/

def Begins (form : LineForm) (keywords : List String) : Prop :=
  ∀ ws result, form ws = some result → ∃ w ∈ keywords, ws.head? = some w

def keywords : List (List String) :=
  [["wait"], ["grab", "ungrab"], ["place"], ["occupy", "vacate"], ["aspect"], ["grant"],
    ["request"], ["release"], ["drive"], ["await"]]

theorem forms_begin : List.Forall₂ Begins forms keywords := by
  refine .cons ?wait <| .cons ?grab <| .cons ?place <| .cons ?occupy <| .cons ?aspect <|
    .cons ?grant <| .cons ?request <| .cons ?release <| .cons ?drive <| .cons ?await .nil
  all_goals intro ws result h
  case wait => unfold waitForm at h; split at h <;> simp_all
  case grab => unfold grabForm at h; split at h <;> simp_all
  case place => unfold placeForm at h; split at h <;> simp_all
  case occupy => unfold occupyForm at h; split at h <;> simp_all
  case aspect => unfold aspectForm at h; split at h <;> simp_all
  case grant => unfold grantForm at h; split at h <;> simp_all
  case request => unfold requestForm at h; split at h <;> simp_all
  case release => unfold releaseForm at h; split at h <;> simp_all
  case drive => unfold driveForm at h; split at h <;> simp_all
  case await => unfold awaitForm at h; split at h <;> simp_all

def Excludes (form form' : LineForm) : Prop :=
  ∀ ws result result', form ws = some result → form' ws ≠ some result'

instance : Std.Symm Excludes :=
  ⟨fun _ _ h ws result result' hform' hform => h ws result' result hform hform'⟩

theorem forms_exclusive : forms.Pairwise Excludes := by
  have hkeywords : keywords.Pairwise fun ks ks' => ∀ w ∈ ks, w ∉ ks' := by decide
  refine pairwise_of_forall₂ forms_begin hkeywords ?_
  intro form form' ks ks' hbegins hbegins' hdisjoint ws result result' hform hform'
  obtain ⟨w, hw, hhead⟩ := hbegins ws result hform
  obtain ⟨w', hw', hhead'⟩ := hbegins' ws result' hform'
  cases hhead.symm.trans hhead'
  exact hdisjoint w hw hw'

theorem rules_exclusive :
    rules.Pairwise fun rule rule' => ∀ line captures captures',
      rule.pattern.Matches line captures → ¬ rule'.pattern.Matches line captures' := by
  refine pairwise_of_forall₂ rules_describe forms_exclusive ?_
  intro rule rule' form form' hdescribes hdescribes' hexcludes line captures captures' h h'
  obtain ⟨result, -, hform⟩ := hdescribes.matched line captures h
  obtain ⟨result', -, hform'⟩ := hdescribes'.matched line captures' h'
  exact hexcludes _ result result' hform hform'

theorem findSome?_eq_some_iff {order : List LineForm} (horder : order.Perm forms)
    {ws : List String} {result : Except ScenarioError Action} :
    order.findSome? (fun form => form ws) = some result ↔
      ∃ form ∈ forms, form ws = some result := by
  constructor
  · intro h
    obtain ⟨form, hform, hresult⟩ := List.exists_of_findSome?_eq_some h
    exact ⟨form, horder.mem_iff.mp hform, hresult⟩
  · rintro ⟨form, hform, hresult⟩
    cases hfound : order.findSome? fun form => form ws with
    | none =>
      rw [List.findSome?_eq_none_iff.mp hfound form (horder.mem_iff.mpr hform)] at hresult
      cases hresult
    | some result' =>
      obtain ⟨form', hform', hresult'⟩ := List.exists_of_findSome?_eq_some hfound
      by_cases heq : form = form'
      · rw [← hresult, ← hresult', heq]
      · exact absurd hresult'
          (forms_exclusive.forall hform (horder.mem_iff.mp hform') heq ws result result' hresult)

/-! ### What a line says -/

/-- Nothing but blanks, or a comment behind them. -/
def Silent (line : List Char) : Prop :=
  ∃ gap rest, line = gap ++ rest ∧ AllBlank gap ∧ (rest = [] ∨ rest.head? = some '#')

/-- What a line means by the patterns. -/
inductive LineMeans (line : List Char) : Except ScenarioError (Option Action) → Prop
  | silent (silent : Silent line) : LineMeans line (.ok none)
  | matched {rule : Rule} {captures : List String} {result : Except ScenarioError Action}
    (isRule : rule ∈ rules) (fits : rule.pattern.Matches line captures)
    (told : rule.result captures = some result) : LineMeans line (result.map some)
  | unrecognized (spoken : ¬ Silent line)
    (unfit : ∀ rule ∈ rules, ∀ captures, ¬ rule.pattern.Matches line captures) :
    LineMeans line (.error (.unrecognized (String.ofList line)))

/-- What is made of a line when the forms are tried in turn. -/
def lineResult (line : List Char) : Except ScenarioError (Option Action) :=
  if isSilent line then .ok none else (readLine line).map some

theorem isSilent_iff_head {line : List Char} :
    isSilent line = true ↔ ∀ w ∈ (namesOf line).head?, w.toList.head? = some '#' := by
  unfold isSilent namesOf
  cases words line with
  | nil => simp
  | cons w ws => simp

theorem isSilent_iff {line : List Char} : isSilent line = true ↔ Silent line := by
  rw [isSilent_iff_head]
  constructor
  · intro h
    cases hwords : namesOf line with
    | nil =>
      obtain ⟨hblank⟩ := namesOf_eq_iff.mp hwords
      exact ⟨line, [], by simp, hblank, .inl rfl⟩
    | cons w ws =>
      obtain ⟨lead, text, tail, rfl, hlead, hw, -, -⟩ :=
        laidOut_cons_iff.mp (namesOf_eq_iff.mp hwords)
      have hhash : w.toList.head? = some '#' := h w (by rw [hwords]; rfl)
      exact ⟨lead, _, rfl, hlead, .inr (by rw [List.head?_append, hhash]; rfl)⟩
  · rintro ⟨gap, rest, rfl, hgap, hrest⟩
    rw [namesOf_append_of_allBlank hgap]
    cases rest with
    | nil => nofun
    | cons c rest =>
      obtain rfl : c = '#' := by simpa using hrest
      obtain ⟨w, ws, hwords⟩ := exists_words_cons (c := '#') (by decide) rest
      simp [namesOf, hwords]

section

variable {line : List Char} {form : LineForm} {rule : Rule} {captures : List String}
  {result : Except ScenarioError Action}

theorem readLine_eq_of_form (hform : form ∈ forms) (h : form (namesOf line) = some result) :
    readLine line = result := by
  have hfound : forms.findSome? (fun form => form (namesOf line)) = some result :=
    (findSome?_eq_some_iff (.refl forms)).mpr ⟨form, hform, h⟩
  unfold namesOf at hfound
  rw [readLine, hfound]

theorem isSilent_eq_false_of_form (hform : form ∈ forms) (h : form (namesOf line) = some result) :
    isSilent line = false := by
  have hkeywords : ∀ ks ∈ keywords, ∀ w ∈ ks, w.toList.head? ≠ some '#' := by decide
  obtain ⟨ks, hks, hbegins⟩ := exists_rel_of_mem forms_begin hform
  obtain ⟨w, hw, hhead⟩ := hbegins _ result h
  rw [← Bool.not_eq_true, isSilent_iff_head]
  exact fun hsilent => hkeywords ks hks w hw (hsilent w hhead)

theorem lineResult_eq_of_form (hform : form ∈ forms) (h : form (namesOf line) = some result) :
    lineResult line = result.map some := by
  rw [lineResult, isSilent_eq_false_of_form hform h, readLine_eq_of_form hform h]
  rfl

theorem lineResult_eq_of_matches (hrule : rule ∈ rules)
    (hmatch : rule.pattern.Matches line captures) (hresult : rule.result captures = some result) :
    lineResult line = result.map some := by
  obtain ⟨form, hform, hdescribes⟩ := exists_rel_of_mem rules_describe hrule
  obtain ⟨result', hresult', h⟩ := hdescribes.matched line captures hmatch
  cases hresult.symm.trans hresult'
  exact lineResult_eq_of_form hform h

end

theorem lineMeans (line : List Char) : LineMeans line (lineResult line) := by
  cases hsilent : isSilent line with
  | true =>
    rw [lineResult, hsilent]
    exact .silent (isSilent_iff.mp hsilent)
  | false =>
    cases hfound : forms.findSome? fun form => form (namesOf line) with
    | some result =>
      obtain ⟨form, hform, h⟩ := List.exists_of_findSome?_eq_some hfound
      obtain ⟨rule, hrule, hdescribes⟩ := exists_rel_of_mem rules_describe.flip hform
      obtain ⟨captures, hmatch, hresult⟩ := hdescribes.found line result h
      rw [lineResult_eq_of_form hform h]
      exact .matched hrule hmatch hresult
    | none =>
      have hresult : lineResult line = .error (.unrecognized (String.ofList line)) := by
        unfold namesOf at hfound
        rw [lineResult, hsilent, readLine, hfound]
        rfl
      rw [hresult]
      refine .unrecognized ?_ fun rule hrule captures hmatch => ?_
      · rw [← isSilent_iff, hsilent]
        exact Bool.false_ne_true
      · obtain ⟨form, hform, hdescribes⟩ := exists_rel_of_mem rules_describe hrule
        obtain ⟨result, -, h⟩ := hdescribes.matched line captures hmatch
        rw [List.findSome?_eq_none_iff.mp hfound form hform] at h
        cases h

theorem lineMeans_iff {line : List Char} {result : Except ScenarioError (Option Action)} :
    LineMeans line result ↔ lineResult line = result := by
  refine ⟨fun h => ?_, fun h => h ▸ lineMeans line⟩
  cases h with
  | silent hsilent => exact if_pos (isSilent_iff.mpr hsilent)
  | matched hrule hmatch hresult => exact lineResult_eq_of_matches hrule hmatch hresult
  | unrecognized hspoken hunfit =>
    have hmeans := lineMeans line
    generalize lineResult line = result at hmeans
    cases hmeans with
    | silent hsilent => exact absurd hsilent hspoken
    | matched hrule hmatch => exact absurd hmatch (hunfit _ hrule _)
    | unrecognized => rfl

/-! ### What a text says -/

theorem mapM_readLine (ls : List (List Char)) :
    (ls.filter (!isSilent ·)).mapM readLine = (ls.mapM lineResult).map List.reduceOption := by
  induction ls with
  | nil => rfl
  | cons l ls ih =>
    rw [List.mapM_cons]
    cases hsilent : isSilent l with
    | true =>
      rw [List.filter_cons_of_neg (by simp [hsilent]), ih, lineResult, hsilent]
      cases ls.mapM lineResult <;> rfl
    | false =>
      rw [List.filter_cons_of_pos (by simp [hsilent]), List.mapM_cons, ih, lineResult, hsilent]
      cases readLine l <;> cases ls.mapM lineResult <;> rfl

theorem ofChars_eq_ok_iff {text : List Char} {actions : List Action} :
    ofChars text = .ok actions ↔
      ∃ said, List.Forall₂ (fun line a => LineMeans line (.ok a)) (lines text) said ∧
        actions = said.reduceOption := by
  simp only [lineMeans_iff, ← mapM_eq_ok_iff_forall₂]
  unfold ofChars
  rw [mapM_readLine]
  constructor
  · exact of_map_eq_ok
  · rintro ⟨said, hsaid, rfl⟩
    rw [hsaid]
    rfl

theorem ofChars_eq_error_iff {text : List Char} {e : ScenarioError} :
    ofChars text = .error e ↔ ∃ before line after, lines text = before ++ line :: after ∧
      (∀ l ∈ before, ∃ a, LineMeans l (.ok a)) ∧ LineMeans line (.error e) := by
  simp only [lineMeans_iff, ← mapM_eq_error_iff]
  unfold ofChars
  rw [mapM_readLine]
  cases (lines text).mapM lineResult with
  | error e' => simp [Except.map]
  | ok said => exact iff_of_false nofun nofun

/-! ### Actions written down -/

end Scenario

namespace Action

def times : Action → List Binary64
  | .wait x | .await _ (some x) => [x]
  | _ => []

/-- The literal is made of digits and points, and it is read as the number. -/
def IsLiteral (literal : String) (x : Binary64) : Prop :=
  Scenario.isTime literal = true ∧ Binary64.ofChars? literal.toList = some x

/-- The words are a way to write the action. -/
inductive Spelled : Action → List String → Prop
  | wait {x literal} (h : IsLiteral literal x) : Spelled (.wait x) ["wait", literal]
  | grab {t} : Spelled (.grab t) ["grab", t]
  | ungrab {t} : Spelled (.ungrab t) ["ungrab", t]
  | place {t segments} : Spelled (.place t segments) ("place" :: t :: segments)
  | occupy {s} : Spelled (.occupy s true) ["occupy", s]
  | vacate {s} : Spelled (.occupy s false) ["vacate", s]
  | aspect {s a} : Spelled (.setAspect s a) ["aspect", s, a.name]
  | grant {t r} : Spelled (.grant t r) ["grant", t, r]
  | request {t s d} : Spelled (.request t s d) ["request", t, s, d]
  | release {r} : Spelled (.release r) ["release", r]
  | drive {t r mode} : Spelled (.drive t r mode) ["drive", t, r, mode.name]
  | driveUnsaid {t r} : Spelled (.drive t r .manual) ["drive", t, r]
  | await {t} : Spelled (.await t none) ["await", t]
  | awaitFor {t x literal} (h : IsLiteral literal x) :
    Spelled (.await t (some x)) ["await", t, literal]

def Named (a : Action) : Prop := ∀ n ∈ a.names, n ≠ "" ∧ Scenario.isName n = true

end Action

namespace Scenario

open Text

theorem isName_aspect (a : Aspect) : isName a.name = true := by
  cases a <;> decide

theorem exists_form_of_spelled {a : Action} {ws : List String} (hnamed : a.Named)
    (h : a.Spelled ws) : ∃ form ∈ forms, form ws = some (.ok a) := by
  have hread {result : Except ScenarioError Action} (hresult : result = .ok a) :
      onNames a.names result = some (.ok a) :=
    onNames_eq_some_iff.mpr ⟨fun n hn => (hnamed n hn).2, hresult⟩
  cases h with
  | wait h =>
    refine ⟨waitForm, by simp [forms], ?_⟩
    rw [waitForm, if_pos h.1, readTime, h.2]
    rfl
  | grab | ungrab => exact ⟨grabForm, by simp [forms], hread rfl⟩
  | place => exact ⟨placeForm, by simp [forms], hread rfl⟩
  | occupy | vacate => exact ⟨occupyForm, by simp [forms], hread rfl⟩
  | aspect =>
    refine ⟨aspectForm, by simp [forms], onNames_eq_some_iff.mpr ⟨?_, ?_⟩⟩
    · exact List.forall_mem_cons.mpr ⟨(hnamed _ List.mem_cons_self).2,
        List.forall_mem_singleton.mpr (isName_aspect _)⟩
    · rw [Aspect.ofName?_name]
  | grant => exact ⟨grantForm, by simp [forms], hread rfl⟩
  | request => exact ⟨requestForm, by simp [forms], hread rfl⟩
  | release => exact ⟨releaseForm, by simp [forms], hread rfl⟩
  | @drive t r mode =>
    cases mode <;> exact ⟨driveForm, by simp [forms], hread rfl⟩
  | driveUnsaid => exact ⟨driveForm, by simp [forms], hread rfl⟩
  | await => exact ⟨awaitForm, by simp [forms], hread rfl⟩
  | awaitFor h =>
    refine ⟨awaitForm, by simp [forms], ?_⟩
    rw [awaitForm, if_pos h.1, readTime, h.2]
    exact hread rfl

/-- The text has one line for each action, with any blanks between the words and around them. The
last line may end without a line feed. -/
inductive Written : List Action → List Char → Prop
  | nil : Written [] []
  | last {a : Action} {ws : List String} {line : List Char} (spelled : a.Spelled ws)
    (laid : LaidOut ws line) (single : '\n' ∉ line) : Written [a] line
  | cons {a : Action} {ws : List String} {line : List Char} {actions : List Action}
    {text : List Char} (spelled : a.Spelled ws) (laid : LaidOut ws line) (single : '\n' ∉ line)
    (more : Written actions text) : Written (a :: actions) (line ++ '\n' :: text)

theorem lineMeans_of_spelled {a : Action} {ws : List String} {line : List Char} (hnamed : a.Named)
    (hspelled : a.Spelled ws) (hline : namesOf line = ws) : LineMeans line (.ok (some a)) := by
  obtain ⟨form, hform, hread⟩ := exists_form_of_spelled hnamed hspelled
  rw [← hline] at hread
  exact lineMeans_iff.mpr (lineResult_eq_of_form hform hread)

theorem exists_said_of_written {actions : List Action} {text : List Char}
    (h : Written actions text) (hnamed : ∀ a ∈ actions, a.Named) :
    ∃ said, List.Forall₂ (fun line a => LineMeans line (.ok a)) (lines text) said ∧
      actions = said.reduceOption := by
  induction h with
  | nil =>
    have hsilent : Silent [] := ⟨[], [], rfl, nofun, .inl rfl⟩
    exact ⟨[none], .cons (.silent hsilent) .nil, rfl⟩
  | last spelled laid single =>
    rw [lines_of_notMem single]
    have hmeans := lineMeans_of_spelled (hnamed _ List.mem_cons_self) spelled laid.namesOf_eq
    exact ⟨[some _], .cons hmeans .nil, rfl⟩
  | cons spelled laid single more ih =>
    obtain ⟨ha, hactions⟩ := List.forall_mem_cons.mp hnamed
    obtain ⟨said, hsaid, rfl⟩ := ih hactions
    rw [lines_append_newline single]
    have hmeans := lineMeans_of_spelled ha spelled ((namesOf_chomp _).trans laid.namesOf_eq)
    exact ⟨some _ :: said, .cons hmeans hsaid, rfl⟩

theorem isWord_of_named {a : Action} (hnamed : a.Named) : ∀ n ∈ a.names, IsWord n := by
  intro n hn
  obtain ⟨hne, hname⟩ := hnamed n hn
  exact isWord_of_all (fun _ => isBlank_eq_false_of_isWordChar)
    (String.toList_eq_nil_iff.not.mpr hne) hname

theorem isWord_of_isLiteral {literal : String} {x : Binary64} (h : Action.IsLiteral literal x) :
    IsWord literal := by
  refine isWord_of_all (fun _ => isBlank_eq_false_of_isTimeChar) (fun hnil => ?_) h.1
  have hread := h.2
  rw [hnil] at hread
  cases hread

theorem exists_spelled {a : Action} (hnamed : a.Named)
    (htimes : ∀ x ∈ a.times, ∃ literal, Action.IsLiteral literal x) :
    ∃ ws, a.Spelled ws ∧ ∀ w ∈ ws, IsWord w := by
  have hnames := isWord_of_named hnamed
  have hwords {keyword : String} (hkeyword : IsWord keyword) : ∀ w ∈ keyword :: a.names, IsWord w :=
    List.forall_mem_cons.mpr ⟨hkeyword, hnames⟩
  have hmore {keyword last : String} (hkeyword : IsWord keyword) (hlast : IsWord last) :
      ∀ w ∈ keyword :: (a.names ++ [last]), IsWord w :=
    List.forall_mem_cons.mpr ⟨hkeyword,
      List.forall_mem_append.mpr ⟨hnames, List.forall_mem_singleton.mpr hlast⟩⟩
  cases a with
  | wait x =>
    obtain ⟨literal, h⟩ := htimes x List.mem_cons_self
    exact ⟨_, .wait h, hmore (by decide) (isWord_of_isLiteral h)⟩
  | grab t => exact ⟨_, .grab, hwords (by decide)⟩
  | ungrab t => exact ⟨_, .ungrab, hwords (by decide)⟩
  | place t segments => exact ⟨_, .place, hwords (by decide)⟩
  | occupy s occupied =>
    cases occupied with
    | true => exact ⟨_, .occupy, hwords (by decide)⟩
    | false => exact ⟨_, .vacate, hwords (by decide)⟩
  | setAspect s aspect =>
    have haspect : IsWord aspect.name := by cases aspect <;> decide
    exact ⟨_, .aspect, hmore (by decide) haspect⟩
  | grant t r => exact ⟨_, .grant, hwords (by decide)⟩
  | request t s d => exact ⟨_, .request, hwords (by decide)⟩
  | release r => exact ⟨_, .release, hwords (by decide)⟩
  | drive t r mode =>
    have hmode : IsWord mode.name := by cases mode <;> decide
    exact ⟨_, .drive, hmore (by decide) hmode⟩
  | await t timeout =>
    cases timeout with
    | none => exact ⟨_, .await, hwords (by decide)⟩
    | some x =>
      obtain ⟨literal, h⟩ := htimes x List.mem_cons_self
      exact ⟨_, .awaitFor h, hmore (by decide) (isWord_of_isLiteral h)⟩

theorem exists_written {actions : List Action} (hnamed : ∀ a ∈ actions, a.Named)
    (htimes : ∀ a ∈ actions, ∀ x ∈ a.times, ∃ literal, Action.IsLiteral literal x) :
    ∃ text, Written actions text := by
  induction actions with
  | nil => exact ⟨[], .nil⟩
  | cons a actions ih =>
    obtain ⟨ha, hactions⟩ := List.forall_mem_cons.mp hnamed
    obtain ⟨htime, hmore⟩ := List.forall_mem_cons.mp htimes
    obtain ⟨text, hwritten⟩ := ih hactions hmore
    obtain ⟨ws, hspelled, hwords⟩ := exists_spelled ha htime
    obtain ⟨line, hspaced, hsingle⟩ := exists_spaced_of_isWord hwords
    have hlaid : LaidOut ws (line ++ []) := hspaced.laidOut nofun
    rw [List.append_nil] at hlaid
    exact ⟨_, .cons hspelled hlaid hsingle hwritten⟩

/-- Each line of a scenario is read by itself. At most one of the patterns matches it, in whatever
order they are tried, and the first line that fails decides the error. Actions that are written one
by one are read back. -/
theorem text_is_read_by_lines :
    (rules.Pairwise fun rule rule' => ∀ line captures captures',
      rule.pattern.Matches line captures → ¬ rule'.pattern.Matches line captures') ∧
    (∀ order : List LineForm, order.Perm forms → ∀ ws,
      order.findSome? (fun form => form ws) = forms.findSome? fun form => form ws) ∧
    (∀ text actions, ofChars text = .ok actions ↔
      ∃ said, List.Forall₂ (fun line a => LineMeans line (.ok a)) (lines text) said ∧
        actions = said.reduceOption) ∧
    (∀ text e, ofChars text = .error e ↔ ∃ before line after, lines text = before ++ line :: after ∧
      (∀ l ∈ before, ∃ a, LineMeans l (.ok a)) ∧ LineMeans line (.error e)) ∧
    ∀ actions : List Action, (∀ a ∈ actions, a.Named) →
      (∀ text, Written actions text → ofChars text = .ok actions) ∧
      ((∀ a ∈ actions, ∀ x ∈ a.times, ∃ literal, Action.IsLiteral literal x) →
        ∃ text, Written actions text) := by
  refine ⟨rules_exclusive, fun order horder ws => ?_, fun _ _ => ofChars_eq_ok_iff,
    fun _ _ => ofChars_eq_error_iff, fun actions hnamed => ⟨fun text hwritten => ?_, ?_⟩⟩
  · ext result
    rw [findSome?_eq_some_iff horder, findSome?_eq_some_iff (.refl forms)]
  · exact ofChars_eq_ok_iff.mpr (exists_said_of_written hwritten hnamed)
  · exact exists_written hnamed

/-- A route can have the name of a mode. Only a third word is the mode. -/
theorem route_called_automatic_read :
    forms.reverse.findSome? (fun form => form ["drive", "t", "automatic"]) =
        some (.ok (.drive "t" "automatic" .manual)) ∧
      ofChars ("\tgrab t\r".toList ++ '\n' :: ("drive t automatic automatic".toList ++
          '\n' :: "await  t 2.5 ".toList)) =
        .ok [.grab "t", .drive "t" "automatic" .automatic, .await "t" (some (.ofRatio 5 2))] := by
  obtain ⟨-, horder, -, -, hwrite⟩ := text_is_read_by_lines
  refine ⟨(horder _ (List.reverse_perm forms) _).trans (by decide +kernel), ?_⟩
  refine (hwrite _ ?named).1 _ ?written
  case named =>
    have ht : "t" ≠ "" ∧ isName "t" = true := by decide
    have hautomatic : "automatic" ≠ "" ∧ isName "automatic" = true := by decide
    simp [Action.Named, Action.names, ht, hautomatic]
  case written =>
    have hliteral : Action.IsLiteral "2.5" (.ofRatio 5 2) := by
      constructor <;> decide +kernel
    refine .cons .grab (namesOf_eq_iff.mp ?_) (by decide) <|
      .cons .drive (namesOf_eq_iff.mp ?_) (by decide) <|
      .last (.awaitFor hliteral) (namesOf_eq_iff.mp ?_) (by decide)
    all_goals decide +kernel

end Scenario

end Signalbox
