import Signalbox.Proofs.DriveCourses
import Signalbox.Proofs.SessionTurns

/-!
Sessions as traffic. Whatever is done in a session, its drives move as in a run of launches,
cancellations, beginnings and single passes, between which only the route set changes. So what
holds of the drives of every such run holds of those of a session, also when they have left its
list.
-/
namespace Signalbox

namespace Traffic

open Interlocking

/-- The given drives are among those of the traffic, in this order, and the route set is the
same. -/
structure Carries (t : Traffic) (il : Interlocking) (drives : List Drive) : Prop where
  interlocking : t.interlocking = il
  drives : drives.Sublist t.drives

section Carries

variable {t : Traffic} {il : Interlocking} {drives before after : List Drive}
  {d : Drive}

theorem exists_place {all : List Drive} (h : (before ++ d :: after).Sublist all) :
    ∃ n, all[n]? = some d ∧ ∀ d', (before ++ d' :: after).Sublist (all.set n d') := by
  obtain ⟨first, second, rfl, hbefore, hcons⟩ := List.append_sublist_iff.mp h
  obtain ⟨left, right, rfl, hmem, hafter⟩ := List.cons_sublist_iff.mp hcons
  obtain ⟨skipped, rest, rfl⟩ := List.append_of_mem hmem
  refine ⟨(first ++ skipped).length, by simp, fun d' => ?_⟩
  have hset : (first ++ (skipped ++ d :: rest ++ right)).set (first ++ skipped).length d' =
      first ++ (skipped ++ d' :: rest ++ right) := by
    simp
  rw [hset]
  apply hbefore.append
  rw [List.append_assoc]
  exact List.Sublist.trans ((hafter.trans (List.sublist_append_right rest right)).cons_cons d')
    (List.sublist_append_right skipped _)

theorem Carries.other (reg : Registry) (h : t.Carries il drives) (il' : Interlocking) :
    (t.run reg [.other il']).Carries il' drives :=
  ⟨rfl, h.drives⟩

theorem Carries.of_sublist (h : t.Carries il drives) {fewer : List Drive}
    (hfewer : fewer.Sublist drives) : t.Carries il fewer :=
  ⟨h.interlocking, hfewer.trans h.drives⟩

theorem Carries.launch (reg : Registry) (h : t.Carries il drives) (train : TrainId)
    (route : RouteId) (mode : DriveMode) :
    (t.run reg [.launch train route mode]).Carries il
      (drives ++ [Drive.launch train route mode]) := by
  obtain ⟨rfl, hdrives⟩ := h
  exact ⟨rfl, hdrives.append (.refl _)⟩

theorem Carries.cancel (reg : Registry) (h : t.Carries il (before ++ d :: after)) :
    ∃ n, (t.run reg [.cancel n]).Carries il (before ++ d.cancel :: after) := by
  obtain ⟨rfl, hdrives⟩ := h
  obtain ⟨n, hd, hset⟩ := exists_place hdrives
  refine ⟨n, ?_⟩
  change (t.step reg (.cancel n)).Carries _ _
  rw [step_cancel hd]
  exact ⟨rfl, hset _⟩

theorem Carries.begin (reg : Registry) (h : t.Carries il (before ++ d :: after)) :
    ∃ n, (t.run reg [.begin n]).Carries (d.begin reg il).2
      (before ++ (d.begin reg il).1 :: after) := by
  obtain ⟨rfl, hdrives⟩ := h
  obtain ⟨n, hd, hset⟩ := exists_place hdrives
  refine ⟨n, ?_⟩
  change (t.step reg (.begin n)).Carries _ _
  rw [step_begin hd]
  exact ⟨rfl, hset _⟩

theorem Carries.pass (reg : Registry) (h : t.Carries il (before ++ d :: after)) :
    ∃ n, (t.run reg [.pass n]).Carries (d.pass reg il).2
      (before ++ (d.pass reg il).1 :: after) := by
  obtain ⟨rfl, hdrives⟩ := h
  obtain ⟨n, hd, hset⟩ := exists_place hdrives
  refine ⟨n, ?_⟩
  change (t.step reg (.pass n)).Carries _ _
  rw [step_pass hd]
  exact ⟨rfl, hset _⟩

end Carries

/-- Traffic that carries the first drives can move on so that it carries the second ones. What has
been recorded of drives meanwhile, it writes in these moves. -/
def Leads (reg : Registry) (u u' : Traffic) : Prop :=
  ∀ t : Traffic, t.Carries u.interlocking u.drives →
    ∃ moves, (t.run reg moves).Carries u'.interlocking u'.drives ∧
      u'.interlocking.log.filter Event.isDrive =
        u.interlocking.log.filter Event.isDrive ++ (t.written reg moves).map (·.2)

section Leads

variable {reg : Registry} {t u u' u'' : Traffic} {il il' : Interlocking}

theorem Leads.refl (reg : Registry) (u : Traffic) : Leads reg u u :=
  fun _ h => ⟨[], h, (List.append_nil _).symm⟩

theorem Leads.trans (h : Leads reg u u') (h' : Leads reg u' u'') : Leads reg u u'' := by
  intro t ht
  obtain ⟨first, hfirst, hwritten⟩ := h t ht
  obtain ⟨second, hsecond, hwritten'⟩ := h' _ hfirst
  refine ⟨first ++ second, by rw [run_append]; exact hsecond, ?_⟩
  rw [hwritten', hwritten, written_append, List.map_append, List.append_assoc]

theorem filter_log_of_withdraws (h : Withdraws reg Event.isDrive il il') {m : Move} {n : Nat}
    (hactor : m.actor? = some n) (before : t.interlocking = il)
    (after : (t.run reg [m]).interlocking = il') :
    il'.log.filter Event.isDrive =
      il.log.filter Event.isDrive ++ (t.written reg [m]).map (·.2) := by
  rw [written_singleton_of_actor hactor, before, after]
  exact filter_isDrive_log h.grows

theorem leads_of_turn {may : Interlocking → Interlocking → Prop}
    (besides : ∀ il il', may il il' → il.Adds (·.isDrive = false) il') (h : Turn reg may u u') :
    Leads reg u u' := by
  intro t ht
  cases h with
  | launch il drives train route mode =>
    exact ⟨_, ht.launch reg train route mode, (List.append_nil _).symm⟩
  | cancel il before after d =>
    obtain ⟨n, hn⟩ := ht.cancel reg
    exact ⟨_, hn, (List.append_nil _).symm⟩
  | begin il before after d =>
    obtain ⟨n, hn⟩ := ht.begin reg
    refine ⟨_, hn, ?_⟩
    exact filter_log_of_withdraws (Drive.begin_withdraws reg d il) rfl ht.interlocking
      hn.interlocking
  | pass il before after d =>
    obtain ⟨n, hn⟩ := ht.pass reg
    refine ⟨_, hn, ?_⟩
    exact filter_log_of_withdraws (Drive.pass_withdraws reg d il) rfl ht.interlocking
      hn.interlocking
  | drop il before after d =>
    refine ⟨[], ?_, (List.append_nil _).symm⟩
    exact ht.of_sublist ((List.sublist_cons_self d after).append_left before)
  | other drives h =>
    refine ⟨_, ht.other reg _, ?_⟩
    rw [filter_isDrive_log (besides _ _ h), driveEvents_of_adds (besides _ _ h)]
    rfl

theorem leads_of_turns {may : Interlocking → Interlocking → Prop}
    (besides : ∀ il il', may il il' → il.Adds (·.isDrive = false) il') (h : Turns reg may u u') :
    Leads reg u u' := by
  induction h with
  | refl => exact .refl reg u
  | tail _ hturn ih => exact ih.trans (leads_of_turn besides hturn)

end Leads

end Traffic

namespace Session

open Traffic

variable {reg : Registry} {s : Session}

theorem leads_operate (reg : Registry) (s : Session) (op : Operation) :
    Leads reg s.traffic (s.operate reg op).traffic :=
  leads_of_turns (fun _ _ h => h.adds) (turns_operate reg s op)

/-- The drives of a session are among those of traffic that starts without any, and what has been
recorded of drives is what is written there. -/
theorem Reachable.exists_moves {allowed : Operation → Prop} (h : Reachable reg allowed s) :
    ∃ moves, (Traffic.run reg ⟨.initial reg.topology, []⟩ moves).Carries s.interlocking
        (s.drives.map (·.drive)) ∧
      s.log.filter Event.isDrive =
        (Traffic.written reg ⟨.initial reg.topology, []⟩ moves).map (·.2) := by
  induction h with
  | @start config s hstart =>
    have hinitial := interlocking_of_start hstart
    refine ⟨[], ⟨hinitial.symm, ?_⟩, ?_⟩
    · rw [drives_of_start hstart]
      exact .refl _
    · rw [log, hinitial]
      rfl
  | @step s op _ _ ih =>
    obtain ⟨moves, hmoves, hwritten⟩ := ih
    obtain ⟨next, hnext, hwritten'⟩ := leads_operate reg s op _ hmoves
    refine ⟨moves ++ next, by rw [run_append]; exact hnext, ?_⟩
    rw [written_append, List.map_append, ← hwritten]
    exact hwritten'

end Session

end Signalbox
