import Signalbox.History.Json
import Signalbox.Proofs.JsonGrammar
import Signalbox.Proofs.RecordedNames
import Signalbox.Proofs.RegistryLookup

/-!
What the JSON text of a history spells. The names in a play have no control characters, so quotes
and backslashes are all that has to be escaped, and the numbers of finite lengths are as JSON has
them. An infinite length is written as a word that no JSON text has.
-/
namespace Signalbox

namespace History

open Json Text

/-! ### Documents -/

def codes (s : String) : List Nat := s.toList.map Char.toNat

def textValue (s : String) : Value := .string (codes s)

def textsValue (texts : List String) : Value := .array (texts.map textValue)

def objectValue (members : List (String × Value)) : Value :=
  .object (members.map fun (key, v) => (codes key, v))

def aboutValue (kind ref : String) (members : List (String × Value)) : Value :=
  objectValue (("event", textValue kind) :: ("ref", textValue ref) :: members)

def eventValue : Event → Value
  | .route id (.granted train) =>
    aboutValue "route" id [("value", textValue "granted"), ("train", textValue train)]
  | .route id status => aboutValue "route" id [("value", textValue status.name)]
  | .signal id aspect => aboutValue "signal" id [("value", textValue aspect.name)]
  | .point id position => aboutValue "point" id [("value", textValue position.name)]
  | .occupied segment value => aboutValue "occupied" segment [("value", .bool value)]
  | .position train segments => aboutValue "position" train [("value", textsValue segments)]
  | .grab train held => aboutValue "grab" train [("value", .bool held)]
  | .drive train id state =>
    aboutValue "drive" train [("route", textValue id), ("value", textValue state.name)]

def routeValue (r : Route) : Value :=
  objectValue [("source", textValue r.source), ("destination", textValue r.destination),
    ("length", .number (NumberStyle.plain.render r.length).toList),
    ("signals", textsValue r.signals)]

/-- One member for each route, and one element for each event, in order. -/
def document (routes : List Route) (events : List Event) : Value :=
  .object [(codes "routes", .object (routes.map fun r => (codes r.id, routeValue r))),
    (codes "events", .array (events.map eventValue))]

/-! ### Texts -/

theorem isContent_escape {cs : List Char} (h : ∀ c ∈ cs, 0x20 ≤ c.toNat) :
    IsContent (escape cs) (cs.map Char.toNat) := by
  induction cs with
  | nil => exact .nil
  | cons c rest ih =>
    rw [List.forall_mem_cons] at h
    rw [escape, List.map_cons]
    split
    · rename_i hquoted
      refine .escaped ?_ (ih h.2)
      rcases hquoted with rfl | rfl <;> decide
    · rename_i hother
      rw [not_or] at hother
      exact .plain h.1 hother.1 hother.2 (ih h.2)

theorem toList_jsonText (s : String) :
    (jsonText s).toList = '"' :: (escape s.toList ++ ['"']) := by
  simp [jsonText]

theorem spells_jsonText {s : String} (h : IsPlain s) :
    Spells (jsonText s).toList (.value (textValue s)) := by
  rw [toList_jsonText]
  exact .string (isContent_escape h)

theorem spells_jsonBool (b : Bool) : Spells (jsonBool b).toList (.value (.bool b)) := by
  have hbool := Spells.bool b
  cases b <;> exact hbool

theorem spells_separated {separator : String} (blanks : List Char)
    (hseparator : separator.toList = ',' :: blanks)
    (hblanks : blanks.all Json.isBlank = true) {texts : List String} {ps : List Phrase}
    (h : List.Forall₂ (fun text p => Spells text.toList p) texts ps) :
    Spells (String.intercalate separator texts).toList (.items ps) := by
  rw [String.toList_intercalate, hseparator]
  exact spells_intercalate (List.all_eq_true.mp hblanks) (List.forall₂_map_left_iff.mpr h)

theorem spells_comma {texts : List String} {ps : List Phrase}
    (h : List.Forall₂ (fun text p => Spells text.toList p) texts ps) :
    Spells (String.intercalate ", " texts).toList (.items ps) :=
  spells_separated [' '] rfl rfl h

theorem spells_jsonTexts {texts : List String} (h : ∀ s ∈ texts, IsPlain s) :
    Spells (jsonTexts texts).toList (.value (textsValue texts)) := by
  have hitems : Spells (String.intercalate ", " (texts.map jsonText)).toList
      (.items ((texts.map textValue).map .value)) := by
    refine spells_comma ?_
    rw [List.map_map, List.forall₂_map_left_iff, List.forall₂_map_right_iff, List.forall₂_same]
    exact fun s hs => spells_jsonText (h s hs)
  simpa [jsonTexts, textsValue] using Spells.array hitems

theorem spells_member {key text : String} {v : Value} (hkey : IsPlain key)
    (h : Spells text.toList (.value v)) :
    Spells (jsonText key ++ ": " ++ text).toList (.member (codes key, v)) := by
  have hmember := Spells.member (spells_jsonText hkey) (.before (c := ' ') rfl h)
  simpa using hmember

structure Writes (text : String × String) (m : String × Value) : Prop where
  key : text.1 = m.1
  plain : IsPlain m.1
  value : Spells text.2.toList (.value m.2)

theorem writes {key text : String} {v : Value} (hkey : IsPlain key)
    (h : Spells text.toList (.value v)) : Writes (key, text) (key, v) :=
  ⟨rfl, hkey, h⟩

theorem writes_text {key s : String} (hkey : IsPlain key) (hs : IsPlain s) :
    Writes (key, jsonText s) (key, textValue s) :=
  writes hkey (spells_jsonText hs)

theorem spells_members {texts : List (String × String)} {members : List (String × Value)}
    (h : List.Forall₂ Writes texts members) :
    Spells (String.intercalate ", " (texts.map fun (key, value) =>
        jsonText key ++ ": " ++ value)).toList
      (.items ((members.map fun (key, v) => (codes key, v)).map .member)) := by
  refine spells_comma ?_
  rw [List.map_map, List.forall₂_map_left_iff, List.forall₂_map_right_iff]
  refine h.imp fun text m hm => ?_
  dsimp only
  rw [hm.key]
  exact spells_member hm.plain hm.value

theorem spells_jsonObject {texts : List (String × String)} {members : List (String × Value)}
    (h : List.Forall₂ Writes texts members) :
    Spells (jsonObject texts).toList (.value (objectValue members)) := by
  have hblanks := Spells.after (c := ' ') (.before (c := ' ') rfl (spells_members h)) rfl
  simpa [jsonObject, objectValue] using Spells.object hblanks

theorem spells_jsonEvent {kind ref : String} (hkind : IsPlain kind) (href : IsPlain ref)
    {texts : List (String × String)} {members : List (String × Value)}
    (h : List.Forall₂ Writes texts members) :
    Spells (jsonEvent kind ref texts).toList (.value (aboutValue kind ref members)) :=
  spells_jsonObject <| .cons (writes_text (by decide) hkind) <|
    .cons (writes_text (by decide) href) h

theorem spells_eventJson {e : Event} (h : ∀ n ∈ e.names, IsPlain n) :
    Spells (eventJson e).toList (.value (eventValue e)) := by
  have hvalue : IsPlain "value" := by decide
  cases e with
  | route id status =>
    have hid : IsPlain id := h id (by cases status <;> simp [Event.names])
    cases status with
    | granted train =>
      have htrain : IsPlain train := h train (by simp [Event.names])
      exact spells_jsonEvent (by decide) hid <| .cons (writes_text hvalue (by decide)) <|
        .cons (writes_text (by decide) htrain) .nil
    | notGrantable | notClear | released =>
      exact spells_jsonEvent (by decide) hid (.cons (writes_text hvalue (by decide)) .nil)
  | signal id aspect =>
    refine spells_jsonEvent (by decide) (h id (by simp [Event.names])) ?_
    exact .cons (writes_text hvalue (by cases aspect <;> decide)) .nil
  | point id position =>
    refine spells_jsonEvent (by decide) (h id (by simp [Event.names])) ?_
    exact .cons (writes_text hvalue (by cases position <;> decide)) .nil
  | occupied segment value =>
    refine spells_jsonEvent (by decide) (h segment (by simp [Event.names])) ?_
    exact .cons (writes hvalue (spells_jsonBool value)) .nil
  | position train segments =>
    rw [Event.names, List.forall_mem_cons] at h
    refine spells_jsonEvent (by decide) h.1 ?_
    exact .cons (writes hvalue (spells_jsonTexts h.2)) .nil
  | grab train held =>
    refine spells_jsonEvent (by decide) (h train (by simp [Event.names])) ?_
    exact .cons (writes hvalue (spells_jsonBool held)) .nil
  | drive train id state =>
    refine spells_jsonEvent (by decide) (h train (by simp [Event.names])) ?_
    exact .cons (writes_text (by decide) (h id (by simp [Event.names]))) <|
      .cons (writes_text hvalue (by cases state <;> decide)) .nil

section Routes

variable {t : Table} {r : Route}

theorem spells_routeJson (ht : t.Readable) (hr : r ∈ t.routes) (hfinite : r.length ≠ .infinity) :
    Spells (routeJson r).toList (.member (codes r.id, routeValue r)) := by
  have hnumber : IsNumber (NumberStyle.plain.render r.length).toList :=
    NumberStyle.isNumber_render (Binary64.lt_infinity_of_ne (ht.lengths r hr) hfinite)
  unfold routeJson routeValue
  generalize NumberStyle.plain.render r.length = number at hnumber ⊢
  refine spells_member (ht.ids r hr) (spells_jsonObject ?_)
  exact .cons (writes_text (by decide) (ht.ends r hr).1) <|
    .cons (writes_text (by decide) (ht.ends r hr).2) <|
    .cons (writes (by decide) (.number hnumber)) <|
    .cons (writes (by decide) (spells_jsonTexts (ht.routeSignals r hr))) .nil

theorem spells_json (ht : t.Readable) (hfinite : ∀ r ∈ t.routes, r.length ≠ .infinity)
    {events : List Event} (hevents : ∀ e ∈ events, ∀ n ∈ e.names, IsPlain n) :
    Spells (json t.routes events).toList (.value (document t.routes events)) := by
  have hroutes : Spells (String.intercalate ", " (t.routes.map routeJson)).toList
      (.items ((t.routes.map fun r => (codes r.id, routeValue r)).map .member)) := by
    refine spells_comma ?_
    rw [List.map_map, List.forall₂_map_left_iff, List.forall₂_map_right_iff, List.forall₂_same]
    exact fun r hr => spells_routeJson ht hr (hfinite r hr)
  have helements : Spells (String.intercalate ",\n  " (events.map eventJson)).toList
      (.items ((events.map eventValue).map .value)) := by
    refine spells_separated ['\n', ' ', ' '] rfl rfl ?_
    rw [List.map_map, List.forall₂_map_left_iff, List.forall₂_map_right_iff, List.forall₂_same]
    exact fun e he => spells_eventJson (hevents e he)
  have hfirst := Spells.member (spells_jsonText (by decide : IsPlain "routes"))
    (.before (c := ' ') rfl (.object hroutes))
  have hsecond := Spells.member (spells_jsonText (by decide : IsPlain "events"))
    (.before (c := ' ') rfl (.array helements))
  have hmembers := Spells.more hfirst (.one (.before (c := '\n') rfl hsecond))
  have hblanks := Spells.after (c := ' ') (.before (c := ' ') rfl hmembers) rfl
  have hdocument := Spells.after (c := '\n') (@Spells.object _ [_, _] hblanks) rfl
  unfold json document
  simpa [toList_jsonText, escape] using hdocument

/-! ### Infinite lengths -/

theorem scan_member {key : String} (hkey : IsPlain key) (text : String) :
    scan .outside (jsonText key ++ ": " ++ text).toList = scan .outside text.toList := by
  have hcolon : scan .outside ": ".toList = some .outside := by decide
  rw [String.toList_append, String.toList_append, scan_append, scan_append,
    (spells_jsonText hkey).scan, Option.bind_some, hcolon, Option.bind_some]

theorem scan_comma_of_bad {texts : List String}
    (h : ∀ s ∈ texts, scan .outside s.toList = some .outside ∨ scan .outside s.toList = none)
    (hbad : ∃ s ∈ texts, scan .outside s.toList = none) :
    scan .outside (String.intercalate ", " texts).toList = none := by
  rw [String.toList_intercalate]
  refine scan_intercalate_of_bad (by decide) (List.forall_mem_map.mpr h) ?_
  obtain ⟨s, hs, hscan⟩ := hbad
  exact ⟨s.toList, List.mem_map_of_mem hs, hscan⟩

theorem scan_jsonObject_of_bad {members : List (String × String)}
    (hkeys : ∀ key ∈ members.map (·.1), IsPlain key)
    (h : ∀ text ∈ members.map (·.2),
      scan .outside text.toList = some .outside ∨ scan .outside text.toList = none)
    (hbad : ∃ text ∈ members.map (·.2), scan .outside text.toList = none) :
    scan .outside (jsonObject members).toList = none := by
  rw [List.forall_mem_map] at hkeys h
  have hopening : scan .outside "\x7b ".toList = some .outside := by decide
  have hmembers : scan .outside (String.intercalate ", " (members.map fun (key, value) =>
      jsonText key ++ ": " ++ value)).toList = none := by
    refine scan_comma_of_bad (List.forall_mem_map.mpr fun m hm => ?_) ?_
    · rw [scan_member (hkeys m hm)]
      exact h m hm
    · obtain ⟨text, htext, hscan⟩ := hbad
      obtain ⟨m, hm, rfl⟩ := List.mem_map.mp htext
      exact ⟨_, List.mem_map_of_mem hm, (scan_member (hkeys m hm) m.2).trans hscan⟩
  rw [jsonObject, String.toList_append, String.toList_append, scan_append, scan_append, hopening,
    Option.bind_some, hmembers, Option.bind_none]

theorem scan_routeJson (ht : t.Readable) (hr : r ∈ t.routes) (hinfinite : r.length = .infinity) :
    scan .outside (routeJson r).toList = none := by
  have hlength : NumberStyle.plain.render r.length = "inf" := by
    rw [hinfinite, NumberStyle.render_infinity]
  have hinf : scan .outside "inf".toList = none := by decide
  have hsource := (spells_jsonText (ht.ends r hr).1).scan
  have hdestination := (spells_jsonText (ht.ends r hr).2).scan
  have hsignals := (spells_jsonTexts (ht.routeSignals r hr)).scan
  have hkeys : ∀ key ∈ ["source", "destination", "length", "signals"], IsPlain key := by decide
  unfold routeJson
  generalize NumberStyle.plain.render r.length = number at hlength ⊢
  subst hlength
  rw [scan_member (ht.ids r hr)]
  refine scan_jsonObject_of_bad hkeys ?_ ⟨"inf", by simp, hinf⟩
  exact List.forall_mem_cons.mpr ⟨.inl hsource, List.forall_mem_cons.mpr ⟨.inl hdestination,
    List.forall_mem_cons.mpr ⟨.inr hinf, List.forall_mem_singleton.mpr (.inl hsignals)⟩⟩⟩

/-- An infinite length is written as `inf`, and the text is none of JSON. -/
theorem not_wellFormed_json (ht : t.Readable) (hinfinite : ∃ r ∈ t.routes, r.length = .infinity)
    (events : List Event) : ¬ WellFormed (json t.routes events).toList := by
  rintro ⟨v, hspells⟩
  have hroutes :
      scan .outside (String.intercalate ", " (t.routes.map routeJson)).toList = none := by
    refine scan_comma_of_bad (List.forall_mem_map.mpr fun r hr => ?_) ?_
    · by_cases hlength : r.length = .infinity
      · exact .inr (scan_routeJson ht hr hlength)
      · exact .inl (spells_routeJson ht hr hlength).scan
    · obtain ⟨r, hr, hlength⟩ := hinfinite
      exact ⟨routeJson r, List.mem_map_of_mem hr, scan_routeJson ht hr hlength⟩
  have hopening : scan .outside "\x7b \"routes\": \x7b".toList = some .outside := by decide
  have hscan := hspells.scan
  unfold json at hscan
  rw [String.toList_append, String.toList_append, String.toList_append, String.toList_append,
    String.toList_append, scan_append, scan_append, scan_append, scan_append, scan_append, hopening,
    Option.bind_some, hroutes] at hscan
  cases hscan

end Routes

/-! ### Plays -/

theorem codes_injective : Function.Injective codes := by
  intro s s' h
  have hchars : s.toList = s'.toList :=
    List.map_injective_iff.mpr (fun _ _ => Char.toNat_inj.mp) h
  exact String.toList_injective hchars

theorem known_of_readable {t : Table} {reg : Registry} (ht : t.Readable)
    (htopology : reg.topology = t.topology) (hroutes : reg.routes = t.routes) :
    reg.Known IsPlain where
  signals s hs := ht.signals s (htopology ▸ hs)
  points p hp := ht.points p (htopology ▸ hp)
  ids r hr := ht.ids r (hroutes ▸ hr)

/-- How a history is told in JSON. Its text is well-formed exactly if no route is infinitely long.
Then it spells the document: one member for each route, under distinct names, and one element for
each event, in order. -/
structure ToldInJson (reg : Registry) (events : List Event) : Prop where
  wellFormed_iff :
    WellFormed (json reg.routes events).toList ↔ ∀ r ∈ reg.routes, r.length ≠ .infinity
  spells : (∀ r ∈ reg.routes, r.length ≠ .infinity) →
    Spells (json reg.routes events).toList (.value (document reg.routes events))
  distinct : (reg.routes.map fun r => codes r.id).Nodup

theorem toldInJson {t : Table} {reg : Registry} {events : List Event} (ht : t.Readable)
    (hroutes : reg.routes = t.routes) (hevents : ∀ e ∈ events, ∀ n ∈ e.names, IsPlain n) :
    ToldInJson reg events where
  wellFormed_iff := by
    rw [hroutes]
    refine ⟨fun hwell r hr hinfinite => ?_, fun hfinite => ⟨_, spells_json ht hfinite hevents⟩⟩
    exact not_wellFormed_json ht ⟨r, hr, hinfinite⟩ events hwell
  spells hfinite := by
    rw [hroutes] at hfinite ⊢
    exact spells_json ht hfinite hevents
  distinct := by
    have hcodes := reg.ids_nodup.map codes_injective
    rwa [Registry.ids, List.map_map] at hcodes

/-- The JSON text of a history on a table that was read from a text. It may be the history of any
undisturbed run whose names have no control characters, in whatever order its drives move, once the
session has been closed. The names of a scenario that was read from a text are such names, and the
history of its play is one of these. -/
theorem wellFormed_json_of_play {text : List Char} {t : Table} (htable : Table.ofChars text = .ok t)
    (config : SessionConfig) :
    (∀ reg s₀, Registry.ofTable t = .ok reg → Session.start reg config = .ok s₀ →
      ∀ operations : List Operation,
        (∀ op ∈ operations, op.isDisturbance = false ∧ ∀ n ∈ op.names, IsPlain n) →
          ToldInJson reg ((s₀.operateAll reg operations).close reg).1.log) ∧
    ∀ lines actions, Scenario.ofChars lines = .ok actions →
      (∀ a ∈ actions, ∀ n ∈ a.names, IsPlain n) ∧
      ∀ reg events, Scenario.play t actions config = .ok (reg, events) → ToldInJson reg events := by
  have ht := Table.readable_of_ofChars htable
  have hrun {reg : Registry} {s₀ : Session} (accepted : Registry.ofTable t = .ok reg)
      (started : Session.start reg config = .ok s₀) {operations : List Operation}
      (hoperations : ∀ op ∈ operations, op.isDisturbance = false ∧ ∀ n ∈ op.names, IsPlain n) :
      ToldInJson reg ((s₀.operateAll reg operations).close reg).1.log := by
    obtain ⟨htopology, hroutes⟩ := Registry.ofTable_eq_ok_iff.mp accepted
    have hreg := known_of_readable ht htopology hroutes
    have hreached := (Session.known_of_start hreg started).operateAll hreg hoperations
    exact toldInJson ht hroutes (hreached.close hreg).site.log
  refine ⟨fun reg s₀ accepted started operations => hrun accepted started, ?_⟩
  intro lines actions hscenario
  have hactions := Scenario.isPlain_of_ofChars hscenario
  refine ⟨hactions, fun reg events played => ?_⟩
  obtain ⟨accepted, s₀, s, started, hplayed, rfl⟩ := Session.exists_playAll_of_play played
  obtain ⟨last, ⟨operations, hoperations, rfl⟩, rfl⟩ :=
    Session.playsTo_of_playAll hactions hplayed
  refine hrun accepted started fun op hop => ?_
  obtain ⟨hop_played, hnames⟩ := hoperations op hop
  exact ⟨Operation.isDisturbance_of_isPlayed hop_played, hnames⟩

def blockLines : List Char :=
  "grab T1\ngrant T1 r\nplace T1 b\ndrive T1 r automatic\nawait T1".toList

def blockPlay : List Action :=
  [.grab "T1", .grant "T1" "r", .place "T1" ["b"], .drive "T1" "r" .automatic, .await "T1" none]

theorem blockLines_read : Scenario.ofChars blockLines = .ok blockPlay :=
  eq_ok_of_toOption (by decide +kernel)

/-- The route of the block has a finite length, and the text of the play is well-formed. -/
theorem block_history_wellFormed : ∃ events,
    Scenario.play Session.block blockPlay .standard = .ok (Session.blockRoutes, events) ∧
      events.length = 12 ∧
      Spells (json Session.block.routes events).toList
        (.value (document Session.block.routes events)) := by
  have hplay : Scenario.play Session.block blockPlay .standard = .ok (Session.blockRoutes, _) := rfl
  obtain ⟨-, hplays⟩ := wellFormed_json_of_play Session.block_read .standard
  obtain ⟨-, htold⟩ := hplays blockLines blockPlay blockLines_read
  exact ⟨_, hplay, by decide, (htold _ _ hplay).spells (by decide)⟩

def endlessText : List Char :=
  "segments [a, b] signals [s, t]
route r { source s destination t orientation clockwise length 1e400 path [a, b] signals [s, t] }"
    |>.toList

def endless : Table :=
  { Session.block with routes := Session.block.routes.map ({ · with length := .infinity }) }

def endlessRoutes : Registry := ⟨endless.topology, endless.routes, by decide, by decide⟩

theorem endless_read : Table.ofChars endlessText = .ok endless :=
  eq_ok_of_toOption (by decide +kernel)

/-- The same play on a route that is read as infinitely long has a text that is no JSON. -/
theorem endless_history_malformed :
    Table.ofChars endlessText = .ok endless ∧ Scenario.ofChars blockLines = .ok blockPlay ∧
      ∃ events, Scenario.play endless blockPlay .standard = .ok (endlessRoutes, events) ∧
        ¬ WellFormed (json endless.routes events).toList := by
  refine ⟨endless_read, blockLines_read, _, rfl, ?_⟩
  exact not_wellFormed_json (Table.readable_of_ofChars endless_read) (by decide) _

end History

end Signalbox
