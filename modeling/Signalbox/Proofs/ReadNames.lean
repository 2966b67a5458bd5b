import Signalbox.Proofs.LineEnds
import Signalbox.Proofs.NumberText
import Signalbox.Scenario.Basic

/-!
What is read from texts. The names in tables and scenarios are made of characters that print, and
the lengths of routes are numbers without a sign, though they may be infinite.
-/
namespace Signalbox

namespace Text

/-- There are no control characters in the text. -/
def IsPlain (s : String) : Prop := ∀ c ∈ s.toList, 0x20 ≤ c.toNat

instance (s : String) : Decidable (IsPlain s) :=
  List.decidableBAll (fun c : Char => 0x20 ≤ c.toNat) s.toList

theorem first_le_of_inRanges {ranges : List CodeRange} {first last n : Nat}
    (hfirst : ranges.head? = some (first, last)) (h : inRanges ranges n = true) : first ≤ n := by
  cases ranges with
  | nil => cases hfirst
  | cons range rest =>
    obtain rfl : range = (first, last) := Option.some.inj hfirst
    rw [inRanges_cons, Bool.and_eq_true, decide_eq_true_eq] at h
    exact h.1

theorem isPlain_of_isName {word : String} (h : Scenario.isName word = true) : IsPlain word := by
  intro c hc
  have hfirst : 0x30 ≤ c.toNat :=
    first_le_of_inRanges rfl (List.all_eq_true.mp h c hc)
  omega

theorem isPlain_toString (n : Nat) : IsPlain (toString n) := by
  intro c hc
  rw [Nat.toString_eq_ofList_toDigits, String.toList_ofList] at hc
  have hdigit := Nat.isDigit_of_mem_toDigits (by decide) (by decide) hc
  have hcode : '0'.toNat ≤ c.toNat := (Char.isDigit_iff_toNat.mp hdigit).1
  exact Nat.le_trans (by decide) hcode

end Text

namespace Table

open Text

/-! ### Tokens -/

theorem le_toNat_of_isWordPart {c : Char} (h : isWordPart c = true) : 0x20 ≤ c.toNat := by
  simp only [isWordPart, Bool.or_eq_true, decide_eq_true_eq] at h
  rcases h with (rfl | halphabetic) | hnumeral
  · decide
  · have hfirst : 0x41 ≤ c.toNat := first_le_of_inRanges rfl halphabetic
    omega
  · have hfirst : 0x30 ≤ c.toNat := first_le_of_inRanges rfl hnumeral
    omega

theorem isWordPart_of_isWordStart {c : Char} (h : isWordStart c = true) : isWordPart c = true := by
  simp only [isWordStart, isWordPart, Bool.or_eq_true, decide_eq_true_eq] at h ⊢
  exact .inl h.symm

def Token.Readable : Token → Prop
  | .word s => IsPlain s
  | .number x => x.code ≤ Binary64.infinity.code
  | .endOfText => False
  | _ => True

namespace Scan

structure Readable (s : Scan) : Prop where
  tokens : ∀ t ∈ s.tokens, t.Readable
  run : ∀ run, s.pending = .word run → ∀ c ∈ run, isWordPart c = true

variable {s : Scan}

theorem Readable.push (h : s.Readable) {t : Token} (ht : t.Readable) : (s.push t).Readable where
  tokens := List.forall_mem_cons.mpr ⟨ht, h.tokens⟩
  run := nofun

theorem Readable.of_pending (h : s.Readable) {pending : Pending} {line : Nat}
    (hrun : ∀ run, pending = .word run → ∀ c ∈ run, isWordPart c = true) :
    Readable ⟨line, pending, s.tokens⟩ :=
  ⟨h.tokens, hrun⟩

def Yields (result : Except ScanError Scan) : Prop := ∀ s', result = .ok s' → s'.Readable

theorem Readable.yields (h : s.Readable) : Yields (.ok s) := by
  rintro s' ⟨⟩
  exact h

theorem yields_error (e : ScanError) : Yields (.error e) := nofun

theorem Readable.flush (h : s.Readable) : Yields s.flush := by
  unfold Scan.flush
  split
  · exact h.yields
  · exact Readable.yields (h.of_pending nofun)
  · rename_i run hpending
    refine Readable.yields (h.push (t := .word _) fun c hc => ?_)
    rw [String.toList_ofList, List.mem_reverse] at hc
    exact le_toNat_of_isWordPart (h.run run hpending c hc)
  · split
    · rename_i x hx
      exact Readable.yields (h.push (t := .number x) (Binary64.code_le_of_ofChars hx))
    · exact yields_error _

theorem Readable.start (h : s.Readable) (c : Char) : Yields (s.start c) := by
  have hstarts := starts s c
  generalize s.start c = result at hstarts ⊢
  cases hstarts with
  | newline => exact Readable.yields (h.of_pending h.run)
  | blank => exact h.yields
  | @mark t hne hmark =>
    have ht : t.Readable := by
      simp only [List.mem_cons, List.not_mem_nil, or_false] at hmark
      rcases hmark with rfl | rfl | rfl | rfl | rfl <;> trivial
    exact (h.push ht).yields
  | comment => exact Readable.yields (h.of_pending nofun)
  | number => exact Readable.yields (h.of_pending nofun)
  | word hne hstart =>
    refine Readable.yields (h.of_pending fun run hrun => ?_)
    cases hrun
    simpa using isWordPart_of_isWordStart hstart
  | unexpected => exact yields_error _

theorem Readable.flush_start (h : s.Readable) (c : Char) :
    Yields (s.flush.bind fun flushed => flushed.start c) := by
  intro s' hnext
  obtain ⟨flushed, hflush, hstart⟩ := bind_eq_ok_iff.mp hnext
  exact (h.flush flushed hflush).start c s' hstart

theorem Readable.step (h : s.Readable) (c : Char) : Yields (s.step c) := by
  cases hc : s.pending.claims c with
  | false =>
    rw [step_of_not_claims hc]
    exact h.flush_start c
  | true =>
    rw [step_of_claims hc]
    refine Readable.yields (h.of_pending fun longer hlonger => ?_)
    cases hpending : s.pending with
    | word run =>
      rw [hpending] at hc hlonger
      cases hlonger
      exact List.forall_mem_cons.mpr ⟨hc, h.run run hpending⟩
    | _ =>
      rw [hpending] at hlonger
      cases hlonger

theorem Readable.steps (h : s.Readable) (cs : List Char) : Yields (s.run cs) := by
  induction cs generalizing s with
  | nil => exact h.yields
  | cons c rest ih =>
    intro s' hrun
    obtain ⟨next, hstep, hrest⟩ := bind_eq_ok_iff.mp hrun
    exact ih (h.step c next hstep) s' hrest

end Scan

theorem readable_of_scan {cs : List Char} {tokens : List Token} (h : Token.scan cs = .ok tokens) :
    ∃ ts, tokens = ts ++ [.endOfText] ∧ ∀ t ∈ ts, t.Readable := by
  obtain ⟨last, hrun, hrest⟩ := bind_eq_ok_iff.mp h
  obtain ⟨flushed, hflush, hend⟩ := bind_eq_ok_iff.mp hrest
  have hinitial : Scan.initial.Readable := ⟨by simp [Scan.initial], nofun⟩
  have hflushed := (hinitial.steps cs last hrun).flush flushed hflush
  refine ⟨flushed.tokens.reverse, ?_, fun t ht => hflushed.tokens t (List.mem_reverse.mp ht)⟩
  rw [pure_eq_ok_iff.mp hend, List.reverse_cons]

/-! ### Names in a parse tree -/

theorem mem_flattenList {α : Type} {flatten : α → List Token} {xs : List α} {x : α} {t : Token}
    (hx : x ∈ xs) (ht : t ∈ flatten x) : t ∈ flattenList flatten xs :=
  List.mem_cons_of_mem _ <| List.mem_append_left _ <|
    mem_intercalate (List.mem_map_of_mem hx) ht

theorem word_mem_flattenList {names : List String} {name : String} (h : name ∈ names) :
    .word name ∈ flattenList flattenName names :=
  mem_flattenList h (List.mem_singleton_self _)

namespace TableTree

variable {tree : TableTree}

theorem mem_flatten {st : StatementTree} {t : Token} (hst : st ∈ tree) (ht : t ∈ st.flatten) :
    t ∈ tree.flatten :=
  List.mem_flatMap.mpr ⟨st, hst, ht⟩

theorem word_mem_of_isSignal {s : SignalId} (h : tree.topology.isSignal s = true) :
    .word s ∈ tree.flatten := by
  obtain ⟨⟨name, kind⟩, hdeclared, hname⟩ := List.any_eq_true.mp h
  obtain rfl : name = s := by simpa using hname
  obtain ⟨st, hst, hkind⟩ := List.mem_flatMap.mp hdeclared
  refine mem_flatten hst ?_
  cases st with
  | signals names | shunting names =>
    obtain ⟨name', hname', heq⟩ := List.mem_map.mp hkind
    cases heq
    exact List.mem_cons_of_mem _ (word_mem_flattenList hname')
  | _ => cases hkind

theorem word_mem_of_isPoint {p : PointId} (h : tree.topology.isPoint p = true) :
    .word p ∈ tree.flatten := by
  obtain ⟨st, hst, hp⟩ := List.mem_flatMap.mp (List.contains_iff_mem.mp h)
  refine mem_flatten hst ?_
  cases st with
  | points names => exact List.mem_cons_of_mem _ (word_mem_flattenList hp)
  | _ => cases hp

theorem mem_flatten_of_route {r : RouteTree} {t : Token} (hr : r ∈ tree.routes)
    (ht : t ∈ r.flatten) : t ∈ tree.flatten := by
  obtain ⟨st, hst, hroute⟩ := List.mem_filterMap.mp hr
  refine mem_flatten hst ?_
  cases st with
  | route value =>
    cases hroute
    exact ht
  | _ => cases hroute

end TableTree

/-! ### Tables -/

/-- What is said in a table that has been read from a text. -/
structure Readable (t : Table) : Prop where
  signals : ∀ s, t.topology.isSignal s = true → IsPlain s
  points : ∀ p, t.topology.isPoint p = true → IsPlain p
  ids : ∀ r ∈ t.routes, IsPlain r.id
  ends : ∀ r ∈ t.routes, IsPlain r.source ∧ IsPlain r.destination
  routeSignals : ∀ r ∈ t.routes, ∀ s ∈ r.signals, IsPlain s
  lengths : ∀ r ∈ t.routes, r.length.code ≤ Binary64.infinity.code

theorem isPlain_id {r : RouteName} (h : r.token.Readable) : IsPlain r.id := by
  cases r with
  | name text => exact h
  | number value n whole => exact isPlain_toString _

theorem readable_of_ofChars {text : List Char} {t : Table} (h : ofChars text = .ok t) :
    t.Readable := by
  obtain ⟨tokens, hscan, hread⟩ := exists_tokens_of_ofChars h
  obtain ⟨ts, rfl, hreadable⟩ := readable_of_scan hscan
  have hend : .endOfText ∉ ts := fun hmem => hreadable _ hmem
  obtain ⟨tree, rfl, hdeclared, rfl⟩ := (ofTokens_eq_ok_iff hend).mp hread
  have hsignal (s : SignalId) (hs : tree.topology.isSignal s = true) : IsPlain s :=
    hreadable _ (TableTree.word_mem_of_isSignal hs)
  have hroute {P : Route → Prop} (hP : ∀ r ∈ tree.routes, P (r.route tree.topology)) :
      ∀ r ∈ tree.table.routes, P r := List.forall_mem_map.mpr hP
  exact {
    signals := hsignal
    points := fun p hp => hreadable _ (TableTree.word_mem_of_isPoint hp)
    ids := hroute fun r hr => isPlain_id <| hreadable _ <| TableTree.mem_flatten_of_route hr <|
      List.mem_cons_of_mem _ List.mem_cons_self
    ends := hroute fun r hr => ⟨hsignal _ (hdeclared r hr).source,
      hsignal _ (hdeclared r hr).destination⟩
    routeSignals := hroute fun r hr s hs => hsignal s ((hdeclared r hr).signals s hs)
    lengths := hroute fun r hr => hreadable (.number r.length) <|
      TableTree.mem_flatten_of_route hr (by simp [RouteTree.flatten]) }

end Table

/-! ### Scenarios -/

namespace Scenario

open Text

theorem isName_of_form {form : LineForm} (hform : form ∈ forms) {words : List String} {a : Action}
    (h : form words = some (.ok a)) : ∀ n ∈ a.names, isName n = true := by
  have hnamed {names : List String} {b : Action} (hread : onNames names (.ok b) = some (.ok a))
      (hb : ∀ n ∈ b.names, n ∈ names) : ∀ n ∈ a.names, isName n = true := by
    obtain ⟨hnames, hok⟩ := onNames_eq_some_iff.mp hread
    rw [← Except.ok.inj hok]
    exact fun n hn => hnames n (hb n hn)
  simp only [forms, List.mem_cons, List.not_mem_nil, or_false] at hform
  rcases hform with rfl | rfl | rfl | rfl | rfl | rfl | rfl | rfl | rfl | rfl
  · unfold waitForm at h
    split at h
    · split at h
      · obtain ⟨seconds, -, rfl⟩ := of_map_eq_ok (Option.some.inj h)
        nofun
      · cases h
    · cases h
  · unfold grabForm at h
    split at h
    · exact hnamed h fun _ => id
    · exact hnamed h fun _ => id
    · cases h
  · unfold placeForm at h
    split at h
    · exact hnamed h fun _ => id
    · cases h
  · unfold occupyForm at h
    split at h
    · exact hnamed h fun _ => id
    · exact hnamed h fun _ => id
    · cases h
  · unfold aspectForm at h
    split at h
    · rename_i s name
      cases haspect : Aspect.ofName? name with
      | none =>
        rw [haspect] at h
        cases (onNames_eq_some_iff.mp h).2
      | some aspect =>
        rw [haspect] at h
        exact hnamed h fun _ hn => List.mem_cons.mpr (.inl (List.mem_singleton.mp hn))
    · cases h
  · unfold grantForm at h
    split at h
    · exact hnamed h fun _ => id
    · cases h
  · unfold requestForm at h
    split at h
    · exact hnamed h fun _ => id
    · cases h
  · unfold releaseForm at h
    split at h
    · exact hnamed h fun _ => id
    · cases h
  · unfold driveForm at h
    split at h
    · exact hnamed h fun _ => id
    · exact hnamed h fun _ => id
    · exact hnamed h fun _ => id
    · cases h
  · unfold awaitForm at h
    split at h
    · exact hnamed h fun _ => id
    · split at h
      · obtain ⟨hnames, hread⟩ := onNames_eq_some_iff.mp h
        obtain ⟨seconds, -, rfl⟩ := of_map_eq_ok hread
        exact hnames
      · cases h
    · cases h

theorem isPlain_of_ofChars {text : List Char} {actions : List Action}
    (h : ofChars text = .ok actions) : ∀ a ∈ actions, ∀ n ∈ a.names, IsPlain n := by
  intro a ha n hn
  obtain ⟨line, -, hline⟩ := exists_of_mem_mapM h ha
  unfold readLine at hline
  split at hline
  · rename_i result hfound
    subst hline
    obtain ⟨form, hform, hread⟩ := List.exists_of_findSome?_eq_some hfound
    exact isPlain_of_isName (isName_of_form hform hread n hn)
  · cases hline

end Scenario

end Signalbox
