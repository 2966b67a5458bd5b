import Signalbox.Proofs.JsonHistory

/-!
The text of a history tells its events. Quotes and separators stand where no name can forge them,
so each part of the text shows where it ends, whatever the names are made of. Different histories
of one table are never written alike.
-/
namespace Signalbox

/-! ### Texts that tell where they end -/

/-- No text that is written this way starts another one: what stands first tells where it ends and
what has been written. -/
def TellsEnd {α : Type} (write : α → List Char) : Prop :=
  ∀ ⦃x y : α⦄ ⦃rest rest' : List Char⦄,
    write x ++ rest = write y ++ rest' → x = y ∧ rest = rest'

/-- The parts of a list with a separator between them, and what stands at the end. -/
def separated {α : Type} (separator close : List Char) (write : α → List Char) (xs : List α) :
    List Char :=
  separator.intercalate (xs.map write) ++ close

section TellsEnd

variable {α β : Type} {write : α → List Char} {write' : β → List Char}

theorem TellsEnd.pair (h : TellsEnd write) (h' : TellsEnd write') (between : List Char) :
    TellsEnd fun p : α × β => write p.1 ++ (between ++ write' p.2) := by
  intro p q rest rest' heq
  simp only [List.append_assoc] at heq
  have hfirst := h heq
  have hsecond := h' (List.append_cancel_left hfirst.2)
  exact ⟨Prod.ext hfirst.1 hsecond.1, hsecond.2⟩

theorem separated_cons (separator close : List Char) (write : α → List Char) (x : α)
    (xs : List α) : separated separator close write (x :: xs) =
      write x ++ (xs.flatMap (fun y => separator ++ write y) ++ close) := by
  induction xs generalizing x with
  | nil => simp [separated]
  | cons y ys ih =>
    have hrest := ih y
    unfold separated at hrest ⊢
    rw [List.map_cons, List.map_cons, List.intercalate_cons_cons, ← List.map_cons,
      List.append_assoc, hrest]
    simp

theorem TellsEnd.flatMap (h : TellsEnd write) {a b : Char} (apart : a ≠ b)
    (blanks close : List Char) :
    TellsEnd fun xs : List α => xs.flatMap (fun y => a :: blanks ++ write y) ++ b :: close := by
  intro xs
  induction xs with
  | nil =>
    intro ys rest rest' heq
    cases ys with
    | nil => exact ⟨rfl, by simpa using heq⟩
    | cons y ys => simp [apart.symm] at heq
  | cons x xs ih =>
    intro ys rest rest' heq
    cases ys with
    | nil => simp [apart] at heq
    | cons y ys =>
      simp only [List.flatMap_cons, List.cons_append, List.append_assoc, List.cons.injEq,
        true_and, List.append_cancel_left_eq] at heq
      have hfirst := h heq
      have hlater := @ih ys rest rest' (by simpa using hfirst.2)
      exact ⟨by rw [hfirst.1, hlater.1], hlater.2⟩

theorem TellsEnd.separated (h : TellsEnd write) {a b : Char} (apart : a ≠ b)
    (opens : ∀ x, ∃ c text, write x = c :: text ∧ c ≠ b) (blanks close : List Char) :
    TellsEnd (separated (a :: blanks) (b :: close) write) := by
  have hclose (x : α) (text text' : List Char) : b :: text ≠ write x ++ text' := by
    obtain ⟨c, written, hwrite, hne⟩ := opens x
    simp [hwrite, hne.symm]
  intro xs ys rest rest' heq
  cases xs with
  | nil =>
    cases ys with
    | nil => exact ⟨rfl, by simpa [Signalbox.separated] using heq⟩
    | cons y ys =>
      rw [separated_cons, List.append_assoc] at heq
      exact absurd heq (hclose y _ _)
  | cons x xs =>
    cases ys with
    | nil =>
      rw [separated_cons, List.append_assoc] at heq
      exact absurd heq.symm (hclose x _ _)
    | cons y ys =>
      rw [separated_cons, separated_cons, List.append_assoc, List.append_assoc (write y)] at heq
      have hfirst := h heq
      have hlater := h.flatMap apart blanks close hfirst.2
      exact ⟨by rw [hfirst.1, hlater.1], hlater.2⟩

end TellsEnd

namespace History

/-! ### Values -/

def readEscaped : List Char → Option (List Char × List Char)
  | '\\' :: c :: text => (readEscaped text).map fun p => (c :: p.1, p.2)
  | c :: text =>
    if c = '"' then some ([], text) else (readEscaped text).map fun p => (c :: p.1, p.2)
  | [] => none

theorem readEscaped_escape (cs rest : List Char) :
    readEscaped (escape cs ++ '"' :: rest) = some (cs, rest) := by
  induction cs with
  | nil => simp [escape, readEscaped]
  | cons c cs ih =>
    rw [escape]
    split
    · simp [readEscaped, ih]
    · rename_i hplain
      rw [not_or] at hplain
      simp [readEscaped, hplain.1, hplain.2, ih]

theorem tellsEnd_jsonText : TellsEnd fun s => (jsonText s).toList := by
  intro s s' rest rest' heq
  have hread := congrArg (fun text => readEscaped text.tail) heq
  simp only [toList_jsonText, List.cons_append, List.append_assoc, List.tail_cons, List.nil_append,
    readEscaped_escape, Option.some.injEq, Prod.mk.injEq] at hread
  exact ⟨String.toList_injective hread.1, hread.2⟩

theorem tellsEnd_jsonBool : TellsEnd fun b => (jsonBool b).toList := by
  have htrue : (jsonBool true).toList = ['t', 'r', 'u', 'e'] := rfl
  have hfalse : (jsonBool false).toList = ['f', 'a', 'l', 's', 'e'] := rfl
  intro b b' rest rest' heq
  cases b <;> cases b' <;> simp [htrue, hfalse] at heq <;> exact ⟨rfl, heq⟩

theorem toList_jsonTexts (texts : List String) : (jsonTexts texts).toList =
    '[' :: separated [',', ' '] [']'] (fun s => (jsonText s).toList) texts := by
  have hseparator : ", ".toList = [',', ' '] := rfl
  simp [jsonTexts, separated, String.toList_intercalate, hseparator, Function.comp_def]

theorem tellsEnd_jsonTexts : TellsEnd fun texts => (jsonTexts texts).toList := by
  have hitems := tellsEnd_jsonText.separated (a := ',') (b := ']') (by decide)
    (fun s => ⟨'"', _, toList_jsonText s, by decide⟩) [' '] []
  intro texts texts' rest rest' heq
  simp only [toList_jsonTexts, List.cons_append, List.cons.injEq, true_and] at heq
  exact hitems heq

/-! ### Events -/

inductive Detail where
  | text (s : String)
  | flag (b : Bool)
  | list (texts : List String)

def Detail.json : Detail → String
  | .text s => jsonText s
  | .flag b => jsonBool b
  | .list texts => jsonTexts texts

theorem tellsEnd_detail : TellsEnd fun d => (Detail.json d).toList := by
  have text_flag (s : String) (b : Bool) (rest rest' : List Char) :
      (jsonText s).toList ++ rest ≠ (jsonBool b).toList ++ rest' := by
    cases b <;> simp [toList_jsonText, jsonBool]
  have text_list (s : String) (texts : List String) (rest rest' : List Char) :
      (jsonText s).toList ++ rest ≠ (jsonTexts texts).toList ++ rest' := by
    simp [toList_jsonText, toList_jsonTexts]
  have flag_list (b : Bool) (texts : List String) (rest rest' : List Char) :
      (jsonBool b).toList ++ rest ≠ (jsonTexts texts).toList ++ rest' := by
    cases b <;> simp [toList_jsonTexts, jsonBool]
  intro d d' rest rest' heq
  cases d with
  | text s =>
    cases d' with
    | text s' =>
      have hparts := tellsEnd_jsonText heq
      exact ⟨congrArg Detail.text hparts.1, hparts.2⟩
    | flag b => exact absurd heq (text_flag s b rest rest')
    | list texts => exact absurd heq (text_list s texts rest rest')
  | flag b =>
    cases d' with
    | text s => exact absurd heq.symm (text_flag s b rest' rest)
    | flag b' =>
      have hparts := tellsEnd_jsonBool heq
      exact ⟨congrArg Detail.flag hparts.1, hparts.2⟩
    | list texts => exact absurd heq (flag_list b texts rest rest')
  | list texts =>
    cases d' with
    | text s => exact absurd heq.symm (text_list s texts rest' rest)
    | flag b => exact absurd heq.symm (flag_list b texts rest' rest)
    | list texts' =>
      have hparts := tellsEnd_jsonTexts heq
      exact ⟨congrArg Detail.list hparts.1, hparts.2⟩

def trainOf : RouteStatus → List (String × Detail)
  | .granted train => [("train", .text train)]
  | _ => []

def details : Event → List (String × Detail)
  | .route id status =>
    ("event", .text "route") :: ("ref", .text id) :: ("value", .text status.name) :: trainOf status
  | .signal id aspect =>
    [("event", .text "signal"), ("ref", .text id), ("value", .text aspect.name)]
  | .point id position =>
    [("event", .text "point"), ("ref", .text id), ("value", .text position.name)]
  | .occupied segment value =>
    [("event", .text "occupied"), ("ref", .text segment), ("value", .flag value)]
  | .position train segments =>
    [("event", .text "position"), ("ref", .text train), ("value", .list segments)]
  | .grab train held => [("event", .text "grab"), ("ref", .text train), ("value", .flag held)]
  | .drive train id state =>
    [("event", .text "drive"), ("ref", .text train), ("route", .text id),
      ("value", .text state.name)]

theorem status_eq_of_told {status status' : RouteStatus} (hname : status.name = status'.name)
    (htrain : trainOf status = trainOf status') : status = status' := by
  cases status <;> cases status' <;> simp_all [RouteStatus.name, trainOf]

theorem details_injective : Function.Injective details := by
  intro e e' h
  cases e with
  | route id status =>
    cases e' with
    | route id' status' =>
      simp only [details, List.cons.injEq, Prod.mk.injEq, Detail.text.injEq, true_and] at h
      rw [h.1, status_eq_of_told h.2.1 h.2.2]
    | _ => simp [details] at h
  | signal id aspect =>
    cases e' with
    | signal id' aspect' =>
      simp only [details, List.cons.injEq, Prod.mk.injEq, Detail.text.injEq, true_and] at h
      have haspect := congrArg Aspect.ofName? h.2.1
      simp only [Aspect.ofName?_name, Option.some.injEq] at haspect
      rw [h.1, haspect]
    | _ => simp [details] at h
  | point id position =>
    cases e' with
    | point id' position' =>
      cases position <;> cases position' <;> simp_all [details, PointPosition.name]
    | _ => simp [details] at h
  | occupied segment value =>
    cases e' with
    | occupied segment' value' => simpa [details] using h
    | _ => simp [details] at h
  | position train segments =>
    cases e' with
    | position train' segments' => simpa [details] using h
    | _ => simp [details] at h
  | grab train held =>
    cases e' with
    | grab train' held' => simpa [details] using h
    | _ => simp [details] at h
  | drive train id state =>
    cases e' with
    | drive train' id' state' =>
      cases state <;> cases state' <;> simp_all [details, DriveState.name]
    | _ => simp [details] at h

def objectJson (members : List (String × Detail)) : String :=
  jsonObject (members.map fun (key, d) => (key, d.json))

theorem eventJson_eq (e : Event) : eventJson e = objectJson (details e) := by
  cases e with
  | route id status => cases status <;> rfl
  | _ => rfl

theorem toList_objectJson (members : List (String × Detail)) : (objectJson members).toList =
    '\x7b' :: ' ' :: separated [',', ' '] [' ', '\x7d']
      (fun m => (jsonText m.1).toList ++ ([':', ' '] ++ (Detail.json m.2).toList)) members := by
  have hseparator : ", ".toList = [',', ' '] := rfl
  simp [objectJson, jsonObject, separated, String.toList_intercalate, hseparator,
    Function.comp_def]

theorem tellsEnd_eventJson : TellsEnd fun e => (eventJson e).toList := by
  have hmembers := (tellsEnd_jsonText.pair tellsEnd_detail [':', ' ']).separated
    (a := ',') (b := ' ') (by decide)
    (fun m => ⟨'"', _, by rw [toList_jsonText]; rfl, by decide⟩) [' '] ['\x7d']
  intro e e' rest rest' heq
  simp only [eventJson_eq, toList_objectJson, List.cons_append, List.cons.injEq, true_and] at heq
  have hparts := hmembers heq
  exact ⟨details_injective hparts.1, hparts.2⟩

theorem toList_json (routes : List Route) : ∃ opening, ∀ events, (json routes events).toList =
    opening ++ separated [',', '\n', ' ', ' '] [']', ' ', '\x7d', '\n']
      (fun e => (eventJson e).toList) events := by
  have hseparator : ",\n  ".toList = [',', '\n', ' ', ' '] := rfl
  let opening := "\x7b \"routes\": \x7b" ++ String.intercalate ", " (routes.map routeJson) ++
    "\x7d,\n" ++ "\"events\": ["
  use opening.toList
  intro events
  change (opening ++ String.intercalate ",\n  " (events.map eventJson) ++ "] \x7d\n").toList = _
  simp [separated, String.toList_intercalate, hseparator, Function.comp_def]

/-- The text of a history tells its events: over one table, different histories are never written
alike, whatever characters their names are made of. -/
theorem json_eq_json_iff (reg : Registry) (events events' : List Event) :
    json reg.routes events = json reg.routes events' ↔ events = events' := by
  constructor
  · intro h
    obtain ⟨opening, hjson⟩ := toList_json reg.routes
    have hevents := tellsEnd_eventJson.separated (a := ',') (b := ']') (by decide)
      (fun e => ⟨'\x7b', _, by rw [eventJson_eq, toList_objectJson], by decide⟩)
      ['\n', ' ', ' '] [' ', '\x7d', '\n']
    have htexts := congrArg String.toList h
    rw [hjson, hjson, List.append_cancel_left_eq] at htexts
    exact (@hevents events events' [] [] (by rw [htexts])).1
  · intro h
    rw [h]

end History

end Signalbox
