import Signalbox.CommandLine.Directory
import Signalbox.Proofs.Lists
import Signalbox.Proofs.ScenarioRun

/-!
The files of a run. A run writes the history file and no other, and that one only when the whole
play has gone through. Files that could be read stay as they are, so a run can be repeated.
-/
namespace Signalbox.CommandLine

variable {a : Arguments} {table scenario : Except FileError ByteArray} {reg : Registry}
  {events : List Event}

/-! ### Reports -/

/-- The two files read as a table and a scenario, and the play goes through. -/
def Plays (a : Arguments) (table scenario : Except FileError ByteArray) (reg : Registry)
    (events : List Event) : Prop :=
  ∃ t actions, readTable table = .ok t ∧ readScenario scenario = .ok actions ∧
    Scenario.play t actions ⟨a.algorithm, a.maxTrains⟩ = .ok (reg, events)

theorem policy_of_play {t : Table} {actions : List Action} {config : SessionConfig}
    (h : Scenario.play t actions config = .ok (reg, events)) :
    (ConflictPolicy.ofName? config.algorithm).isNone = false := by
  obtain ⟨-, s₀, -, started, -⟩ := Session.exists_playAll_of_play h
  cases hpolicy : ConflictPolicy.ofName? config.algorithm with
  | none => simp [Session.start, hpolicy] at started
  | some policy => rfl

theorem report_of_plays (h : Plays a table scenario reg events) :
    ∃ listings, report a table scenario = ⟨listings ++ historyListing events, .completed,
      a.json.map fun path => (path, History.json reg.routes events)⟩ := by
  obtain ⟨t, actions, htable, hscenario, hplay⟩ := h
  have hpolicy := policy_of_play hplay
  simp only at hpolicy
  simp only [report, htable, hscenario, hpolicy, hplay, Bool.false_eq_true, if_false]
  exact ⟨_, rfl⟩

theorem report_of_not_plays (h : ∀ reg events, ¬Plays a table scenario reg events) :
    (report a table scenario).ending ≠ .completed ∧ (report a table scenario).file = none := by
  unfold report
  cases htable : readTable table with
  | error message => exact ⟨nofun, rfl⟩
  | ok t =>
    cases hscenario : readScenario scenario with
    | error message => exact ⟨nofun, rfl⟩
    | ok actions =>
      simp only
      split
      next => exact ⟨nofun, rfl⟩
      next =>
        cases hplay : Scenario.play t actions ⟨a.algorithm, a.maxTrains⟩ with
        | error e => cases e <;> exact ⟨nofun, rfl⟩
        | ok result => exact absurd ⟨t, actions, htable, hscenario, hplay⟩ (h result.1 result.2)

theorem report_completed_iff :
    (report a table scenario).ending = .completed ↔
      ∃ reg events, Plays a table scenario reg events := by
  constructor
  · intro h
    by_contra hplays
    exact (report_of_not_plays fun reg events hp => hplays ⟨reg, events, hp⟩).1 h
  · rintro ⟨reg, events, hplays⟩
    obtain ⟨listings, hreport⟩ := report_of_plays hplays
    rw [hreport]

theorem ok_of_plays (h : Plays a table scenario reg events) :
    (∃ bytes, table = .ok bytes) ∧ ∃ bytes, scenario = .ok bytes := by
  obtain ⟨t, actions, htable, hscenario, -⟩ := h
  constructor
  · cases table with
    | error e => cases htable
    | ok bytes => exact ⟨bytes, rfl⟩
  · cases scenario with
    | error e => cases hscenario
    | ok bytes => exact ⟨bytes, rfl⟩

namespace Directory

variable {d : Directory} {path other : String} {name : String} {bytes : ByteArray}

/-! ### Paths -/

/-- Where a path ends that leads to something other than a directory. -/
def Leads (d : Directory) (path : String) (place : Place) : Prop :=
  ∃ p, FilePath.ofString path = .ok p ∧ d.follow p.start p.parts = .ok place ∧
    place.isDirectory = false ∧ p.endsInSlash = false

theorem read_eq_ok_iff :
    d.read path = .ok bytes ↔ ∃ place, d.Leads path place ∧ d.contents place = bytes := by
  unfold read
  constructor
  · intro h
    obtain ⟨p, hp, h⟩ := bind_eq_ok_iff.1 h
    obtain ⟨place, hplace, h⟩ := bind_eq_ok_iff.1 h
    cases hdirectory : place.isDirectory with
    | true => simp only [hdirectory, if_true] at h; cases h
    | false =>
      cases hslash : p.endsInSlash with
      | true => simp only [hdirectory, hslash, Bool.false_eq_true, if_true, if_false] at h; cases h
      | false =>
        simp only [hdirectory, hslash, Bool.false_eq_true, if_false] at h
        exact ⟨place, ⟨p, hp, hplace, hdirectory, hslash⟩, (pure_eq_ok_iff.1 h).symm⟩
  · rintro ⟨place, ⟨p, hp, hplace, hdirectory, hslash⟩, rfl⟩
    refine bind_eq_ok_iff.2 ⟨p, hp, bind_eq_ok_iff.2 ⟨place, hplace, ?_⟩⟩
    simp only [hdirectory, hslash, Bool.false_eq_true, if_false]
    rfl

theorem follow_concat (place : Place) (parts : List String) (last : String) :
    d.follow place (parts ++ [last]) = (d.follow place parts).bind (d.enter · last) := by
  simp only [follow, List.foldlM_append, List.foldlM_cons, List.foldlM_nil, bind_pure]
  rfl

theorem enter_child {place : Place} {part : String}
    (h : d.enter place part = .ok (.file name) ∨ d.enter place part = .error .notFound) :
    place.isDirectory = true ∧ FilePath.isDots part = false ∧
      ∀ {d' : Directory} {p : Place}, d'.child? place part = some p →
        d'.enter place part = .ok p := by
  unfold enter at h ⊢
  cases hdirectory : place.isDirectory with
  | false => simp [hdirectory] at h
  | true =>
    by_cases hdot : part = "."
    · have : place ≠ .file name := fun e => by simp [e, Place.isDirectory] at hdirectory
      simp [hdirectory, hdot, this] at h
    · by_cases hdots : part = ".."
      · cases place <;> simp [hdots, Place.isDirectory, Place.parent] at h
      · by_cases hlong : FilePath.longestName < part.utf8ByteSize
        · simp [hdirectory, hdot, hdots, hlong] at h
        · refine ⟨rfl, by simp [FilePath.isDots, hdot, hdots], fun hchild => ?_⟩
          simp [hdot, hdots, hlong, hchild]

/-- What the way to a file that is to be written is like. The file is there, or it is new in the
working directory. -/
theorem of_target (h : d.target path = .ok (some name)) :
    ∃ p parent last, FilePath.ofString path = .ok p ∧ p.endsInSlash = false ∧
      p.parts = p.parts.dropLast ++ [last] ∧ d.follow p.start p.parts.dropLast = .ok parent ∧
      (d.enter parent last = .ok (.file name) ∨
        d.enter parent last = .error .notFound ∧ parent = .here ∧ last = name) := by
  obtain ⟨p, hp, h⟩ := bind_eq_ok_iff.1 h
  cases hlast : p.parts.getLast? with
  | none => simp only [hlast] at h; cases h
  | some last =>
    simp only [hlast] at h
    obtain ⟨parent, hparent, h⟩ := bind_eq_ok_iff.1 h
    split at h
    next => cases h
    next hordinary =>
      have hway : d.enter parent last = .ok (.file name) ∨
          d.enter parent last = .error .notFound ∧ parent = .here ∧ last = name := by
        split at h
        next henter => exact .inl (henter.trans (by rw [Option.some.inj (Except.ok.inj h)]))
        next => cases Except.ok.inj h
        next => cases h
        next henter =>
          split at h
          next hhere => exact .inr ⟨henter, hhere, Option.some.inj (Except.ok.inj h)⟩
          next => cases Except.ok.inj h
        next => cases h
      obtain ⟨hdirectory, hdots, -⟩ := enter_child (hway.imp_right (·.1))
      have hparts := List.dropLast_append_getLast? last hlast
      refine ⟨p, parent, last, hp, ?_, hparts.symm, hparent, hway⟩
      simpa [hdirectory, hdots] using hordinary

theorem isDirectory_start {p : FilePath} (h : FilePath.ofString path = .ok p) :
    p.start.isDirectory = true := by
  unfold FilePath.ofString at h
  split_ifs at h with hempty hlong hroot
  all_goals cases Except.ok.inj h; rfl

theorem Leads.target (h : d.Leads path (.file name)) : d.target path = .ok (some name) := by
  obtain ⟨p, hp, hfollow, -, hslash⟩ := h
  cases hlast : p.parts.getLast? with
  | none =>
    rw [List.getLast?_eq_none_iff.1 hlast] at hfollow
    have hstart := isDirectory_start hp
    rw [Except.ok.inj hfollow] at hstart
    cases hstart
  | some last =>
    rw [← List.dropLast_append_getLast? last hlast, follow_concat] at hfollow
    obtain ⟨parent, hparent, henter⟩ := bind_eq_ok_iff.1 hfollow
    refine bind_eq_ok_iff.2 ⟨p, hp, ?_⟩
    simp only [hlast]
    refine bind_eq_ok_iff.2 ⟨parent, hparent, ?_⟩
    simp only [hslash, Bool.and_false, Bool.false_and, Bool.false_eq_true, if_false, henter]
    rfl

def Within (d d' : Directory) : Prop :=
  ∀ place part p, d.child? place part = some p → d'.child? place part = some p

theorem Within.enter {d' : Directory} (h : d.Within d') {place p : Place} {part : String}
    (henter : d.enter place part = .ok p) : d'.enter place part = .ok p := by
  unfold Directory.enter at henter ⊢
  split_ifs at henter ⊢
  · exact henter
  · exact henter
  · cases hchild : d.child? place part with
    | none => simp [hchild] at henter
    | some found =>
      rw [h _ _ _ hchild]
      simpa [hchild] using henter

theorem Within.follow {d' : Directory} (h : d.Within d') {place p : Place} {parts : List String}
    (hfollow : d.follow place parts = .ok p) : d'.follow place parts = .ok p := by
  induction parts generalizing place with
  | nil => exact hfollow
  | cons part rest ih =>
    obtain ⟨next, henter, hrest⟩ := bind_eq_ok_iff.1 hfollow
    exact bind_eq_ok_iff.2 ⟨next, h.enter henter, ih hrest⟩

theorem Within.leads {d' : Directory} (h : d.Within d') {place : Place}
    (hleads : d.Leads path place) : d'.Leads path place := by
  obtain ⟨p, hp, hfollow, hplace⟩ := hleads
  exact ⟨p, hp, h.follow hfollow, hplace⟩

/-! ### Writing -/

theorem write_eq (htarget : d.target path = .ok (some name)) (text : String) :
    d.write path text = (d.put name text.toUTF8, .ok ()) := by
  simp only [write, htarget]

theorem within_put (d : Directory) (name : String) (bytes : ByteArray) :
    d.Within (d.put name bytes) := by
  intro place part p h
  cases place with
  | here =>
    simp only [child?] at h ⊢
    split_ifs at h with hheld
    rw [if_pos, h]
    simp only [put, List.any_cons, List.any_filter, Bool.or_eq_true, beq_iff_eq]
    obtain rfl | hne := eq_or_ne part name
    · exact .inl rfl
    · refine .inr (List.any_eq_true.2 ?_)
      obtain ⟨file, hfile, hnamed⟩ := List.any_eq_true.1 hheld
      have hkept : file.1 ≠ name := by rwa [beq_iff_eq.1 hnamed]
      exact ⟨file, hfile, by simpa [hkept] using hnamed⟩
  | usual held =>
    by_cases hdev : held = "dev"
    · subst hdev
      exact h
    · simp [child?, hdev] at h
  | root | above | file | nullDevice => exact h

theorem contents_put_same : (d.put name bytes).contents (.file name) = bytes := by
  simp [contents, put]

theorem contents_put_other {place : Place} (h : place ≠ .file name) :
    (d.put name bytes).contents place = d.contents place := by
  cases place with
  | file held =>
    have hne : held ≠ name := fun e => h (e ▸ rfl)
    simp only [contents, put]
    rw [List.lookup_cons, beq_eq_false_iff_ne.mpr hne, lookup_filter_ne, if_neg hne]
  | _ => rfl

theorem put_put (d : Directory) (name : String) (bytes : ByteArray) :
    (d.put name bytes).put name bytes = d.put name bytes := by
  simp [put]

theorem leads_of_target (htarget : d.target path = .ok (some name)) (bytes : ByteArray) :
    (d.put name bytes).Leads path (.file name) := by
  obtain ⟨p, parent, last, hp, hslash, hparts, hparent, hway⟩ := of_target htarget
  refine ⟨p, hp, ?_, rfl, hslash⟩
  rw [hparts, follow_concat]
  refine bind_eq_ok_iff.2 ⟨parent, (within_put d name bytes).follow hparent, ?_⟩
  obtain henter | ⟨henter, rfl, rfl⟩ := hway
  · exact (within_put d name bytes).enter henter
  · have hway : d.enter .here last = .ok (.file last) ∨ d.enter .here last = .error .notFound :=
      .inr henter
    obtain ⟨-, -, hchild⟩ := enter_child hway
    refine hchild ?_
    simp [child?, put]

theorem read_write (htarget : d.target path = .ok (some name)) (text : String) :
    (d.write path text).1.read path = .ok text.toUTF8 := by
  rw [write_eq htarget]
  exact read_eq_ok_iff.2 ⟨.file name, leads_of_target htarget _, contents_put_same⟩

theorem read_write_other (h : d.read other = .ok bytes) (hother : d.target other ≠ d.target path)
    (text : String) : (d.write path text).1.read other = .ok bytes := by
  cases htarget : d.target path with
  | error e => simpa only [write, htarget] using h
  | ok place =>
    cases place with
    | none => simpa only [write, htarget] using h
    | some name =>
      obtain ⟨place, hleads, rfl⟩ := read_eq_ok_iff.1 h
      have hne : place ≠ .file name := by
        rintro rfl
        exact hother (hleads.target.trans htarget.symm)
      rw [write_eq htarget]
      exact read_eq_ok_iff.2 ⟨place, (within_put d name _).leads hleads, contents_put_other hne⟩

theorem write_write (d : Directory) (path text : String) :
    (d.write path text).1.write path text = d.write path text := by
  cases htarget : d.target path with
  | error e => simp only [write, htarget]
  | ok place =>
    cases place with
    | none => simp only [write, htarget]
    | some name =>
      rw [write_eq htarget, write_eq (leads_of_target htarget _).target, put_put]

/-! ### Runs -/

variable {arguments : List String}

/-- Without a play that goes through, a run ends early and writes nothing. -/
theorem plays_or_unchanged (d : Directory) (arguments : List String) :
    (∃ a reg events, Arguments.read arguments = some a ∧
      Plays a (d.read a.table) (d.read a.scenario) reg events) ∨
    ((d.run arguments).1 = d ∧ (d.run arguments).2.ending ≠ .completed) := by
  cases hread : Arguments.read arguments with
  | none => simp [run, hread]
  | some a =>
    by_cases h : ∃ reg events, Plays a (d.read a.table) (d.read a.scenario) reg events
    · obtain ⟨reg, events, hplays⟩ := h
      exact .inl ⟨a, reg, events, rfl, hplays⟩
    · obtain ⟨hending, hfile⟩ := report_of_not_plays fun reg events hp => h ⟨reg, events, hp⟩
      exact .inr (by simpa only [run, hread, hfile, true_and] using hending)

theorem run_of_plays (hread : Arguments.read arguments = some a)
    (hplays : Plays a (d.read a.table) (d.read a.scenario) reg events) :
    d.run arguments =
      let r := report a (d.read a.table) (d.read a.scenario)
      match a.json with
      | none => (d, r)
      | some path =>
        let (d', written) := d.write path (History.json reg.routes events)
        (d', r.afterWriting written) := by
  obtain ⟨listings, hreport⟩ := report_of_plays hplays
  cases hjson : a.json with
  | none => simp only [run, hread, hreport, hjson, Option.map_none]
  | some path => simp only [run, hread, hreport, hjson, Option.map_some]

/-- A run completes exactly when the play goes through and the history file, if one is asked for,
can be written. -/
theorem run_completed_iff (d : Directory) (arguments : List String) :
    (d.run arguments).2.ending = .completed ↔
      ∃ a reg events, Arguments.read arguments = some a ∧
        Plays a (d.read a.table) (d.read a.scenario) reg events ∧
        ∀ path, a.json = some path → ∃ place, d.target path = .ok place := by
  constructor
  · intro hcompleted
    obtain ⟨a, reg, events, hread, hplays⟩ | ⟨-, hending⟩ := plays_or_unchanged d arguments
    · refine ⟨a, reg, events, hread, hplays, fun path hjson => ?_⟩
      rw [run_of_plays hread hplays] at hcompleted
      cases htarget : d.target path with
      | ok place => exact ⟨place, rfl⟩
      | error e =>
        simp only [hjson, write, htarget] at hcompleted
        cases hcompleted
    · exact absurd hcompleted hending
  · rintro ⟨a, reg, events, hread, hplays, hwritten⟩
    have hreport := report_completed_iff.2 ⟨reg, events, hplays⟩
    rw [run_of_plays hread hplays]
    cases hjson : a.json with
    | none => exact hreport
    | some path =>
      obtain ⟨place, htarget⟩ := hwritten path hjson
      cases place <;> simpa only [write, htarget, Report.afterWriting] using hreport

theorem read_history_file (hread : Arguments.read arguments = some a)
    (hplays : Plays a (d.read a.table) (d.read a.scenario) reg events)
    (hjson : a.json = some path) (htarget : d.target path = .ok (some name)) :
    (d.run arguments).1.read path = .ok (History.json reg.routes events).toUTF8 := by
  rw [run_of_plays hread hplays]
  simp only [hjson]
  exact read_write htarget _

/-- Every file that could be read stays as it is, unless the history file of a play that has gone
through lies in its place. -/
theorem read_run (h : d.read other = .ok bytes) (arguments : List String) :
    (d.run arguments).1.read other = .ok bytes ∨
      ∃ a reg events path, Arguments.read arguments = some a ∧
        Plays a (d.read a.table) (d.read a.scenario) reg events ∧ a.json = some path ∧
        d.target other = d.target path := by
  obtain ⟨a, reg, events, hread, hplays⟩ | ⟨hsame, -⟩ := plays_or_unchanged d arguments
  · rw [run_of_plays hread hplays]
    cases hjson : a.json with
    | none => exact .inl h
    | some path =>
      by_cases htarget : d.target other = d.target path
      · exact .inr ⟨a, reg, events, path, hread, hplays, hjson, htarget⟩
      · exact .inl (read_write_other h htarget _)
  · rw [hsame]
    exact .inl h

/-- A run can be repeated, when its history file is none of the two that it reads. -/
theorem run_again
    (h : ∀ a path, Arguments.read arguments = some a → a.json = some path →
      d.target a.table ≠ d.target path ∧ d.target a.scenario ≠ d.target path) :
    (d.run arguments).1.run arguments = d.run arguments := by
  obtain ⟨a, reg, events, hread, hplays⟩ | ⟨hsame, -⟩ := plays_or_unchanged d arguments
  · have hrun := run_of_plays hread hplays
    cases hjson : a.json with
    | none =>
      rw [hjson] at hrun
      rw [hrun, hrun]
    | some path =>
      obtain ⟨htable, hscenario⟩ := h a path hread hjson
      obtain ⟨⟨tableBytes, hreadTable⟩, scenarioBytes, hreadScenario⟩ := ok_of_plays hplays
      have hkept := read_write_other hreadTable htable (History.json reg.routes events)
      have hkept' := read_write_other hreadScenario hscenario (History.json reg.routes events)
      have hplays' := hplays
      rw [hreadTable, hreadScenario, ← hkept, ← hkept'] at hplays'
      simp only [hjson] at hrun
      rw [hrun, run_of_plays hread hplays']
      simp only [hjson, hkept, hkept', ← hreadTable, ← hreadScenario, write_write]
  · rw [hsame]

end Directory

end Signalbox.CommandLine
