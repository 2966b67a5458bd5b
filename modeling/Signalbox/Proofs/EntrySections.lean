import Signalbox.Proofs.SectionalCheck
import Signalbox.Proofs.TableLoading

/-!
Segments that several sections list. The table keeps all of these sections, and the look-up finds
the last of them, so that its entry signals alone are asked. Who is admitted by an earlier section
goes unseen, unless the last one has all entry signals of the others.
-/
namespace Signalbox

namespace Topology

variable {t : Topology} {segment : SegmentId} {s : NetworkSection}

/-- The section is the last one of the table that lists the segment. -/
def LastListing (t : Topology) (segment : SegmentId) (s : NetworkSection) : Prop :=
  ∃ before after, t.sections = before ++ s :: after ∧ segment ∈ s.segments ∧
    ∀ later ∈ after, segment ∉ later.segments

theorem section?_eq_some_iff : t.section? segment = some s ↔ t.LastListing segment s := by
  unfold section? LastListing
  rw [List.find?_eq_some_iff_append]
  constructor
  · rintro ⟨hlists, after, before, hsections, hlater⟩
    refine ⟨before.reverse, after.reverse, ?_, by simpa using hlists, ?_⟩
    · simpa using congrArg List.reverse hsections
    · intro later hmem
      simpa using hlater later (List.mem_reverse.mp hmem)
  · rintro ⟨before, after, hsections, hlists, hlater⟩
    refine ⟨by simpa using hlists, after.reverse, before.reverse, by simp [hsections], ?_⟩
    intro later hmem
    simpa using hlater later (List.mem_reverse.mp hmem)

theorem LastListing.eq {s' : NetworkSection} (h : t.LastListing segment s)
    (h' : t.LastListing segment s') : s = s' :=
  Option.some.inj ((section?_eq_some_iff.mpr h).symm.trans (section?_eq_some_iff.mpr h'))

theorem exists_lastListing (hs : s ∈ t.sections) (hlists : segment ∈ s.segments) :
    ∃ last, t.LastListing segment last := by
  have hfound : (t.section? segment).isSome = true := by
    rw [section?, List.find?_isSome]
    exact ⟨s, List.mem_reverse.mpr hs, by simpa using hlists⟩
  obtain ⟨last, hlast⟩ := Option.isSome_iff_exists.mp hfound
  exact ⟨last, section?_eq_some_iff.mp hlast⟩

end Topology

namespace Sectional

/-- The signal is known to admit traffic, or its aspect is not known. -/
def Admits (track : Track) (q : SignalId) : Prop :=
  track.aspect q = some .go ∨ track.aspect q = some .shunt ∨ track.aspect q = none

theorem all_isPermissive_iff {track : Track} {q : SignalId} :
    (track.aspect q).all Aspect.isPermissive = true ↔ Admits track q := by
  unfold Admits
  rcases track.aspect q with _ | _ | _ | _ | _ <;> simp [Aspect.isPermissive]

theorem entryPermitted_iff {topology : Topology} {track : Track} {segment : SegmentId} :
    entryPermitted topology track segment = true ↔
      ∀ last, topology.LastListing segment last → ∃ q ∈ last.entry, Admits track q := by
  simp only [← Topology.section?_eq_some_iff, entryPermitted, Topology.entrySignals?]
  cases topology.section? segment with
  | none => simp
  | some last => simp [all_isPermissive_iff]

theorem entry_closed_of_safe {reg : Registry} {track : Track} {held requested : RouteIndex}
    {h r : Route} {segment : SegmentId} (hheld : reg.route? held = some h)
    (hrequested : reg.route? requested = some r)
    (hsafe : (check reg track held requested).safe = true) (hsegment : .segment segment ∈ h.path)
    (hshared : .segment segment ∈ r.path) :
    entryPermitted reg.topology track segment = false := by
  unfold check at hsafe
  rw [hheld, hrequested] at hsafe
  dsimp only at hsafe
  split at hsafe
  · cases hsafe
  · rw [backwards_eq, walk_safe_iff _ _ _ _ _ (.inl rfl)] at hsafe
    obtain ⟨i, hi⟩ := List.mem_iff_getElem?.mp hsegment
    exact (hsafe i segment hi (List.contains_iff_mem.mpr hshared)).1

def openedBy (topology : Topology) (q : SignalId) : Track :=
  { Track.initial topology with aspect := fun p => if p = q then some .go else some .stop }

theorem admits_openedBy_iff {topology : Topology} {p q : SignalId} :
    Admits (openedBy topology q) p ↔ p = q := by
  by_cases h : p = q <;> simp [Admits, openedBy, h]

/-- Entry counts as permitted where the last section that lists the segment admits somebody, and
then no conflict that shares the segment passes. Every section that lists it is heard, whatever
the signals show, exactly if the last one has the entry signals of all. -/
theorem last_listing_decides_entry (reg : Registry) (segment : SegmentId) :
    (∀ track, entryPermitted reg.topology track segment = true ↔
      ∀ last, reg.topology.LastListing segment last → ∃ q ∈ last.entry, Admits track q) ∧
    (∀ track held requested h r, reg.route? held = some h → reg.route? requested = some r →
      .segment segment ∈ h.path → .segment segment ∈ r.path →
      entryPermitted reg.topology track segment = true →
        (check reg track held requested).safe = false) ∧
    ((∀ track, ∀ s ∈ reg.topology.sections, segment ∈ s.segments →
        (∃ q ∈ s.entry, Admits track q) → entryPermitted reg.topology track segment = true) ↔
      ∀ s ∈ reg.topology.sections, segment ∈ s.segments →
        ∃ last, reg.topology.LastListing segment last ∧ s.entry ⊆ last.entry) := by
  refine ⟨fun track => entryPermitted_iff, ?_, ?_, ?_⟩
  · intro track held requested h r hheld hrequested hsegment hshared hpermitted
    rw [← Bool.not_eq_true]
    intro hsafe
    rw [entry_closed_of_safe hheld hrequested hsafe hsegment hshared] at hpermitted
    cases hpermitted
  · intro hheard s hs hlists
    obtain ⟨last, hlast⟩ := Topology.exists_lastListing hs hlists
    refine ⟨last, hlast, fun q hq => ?_⟩
    -- with nothing open but this one signal, only a section that has it admits anybody
    have hpermitted := hheard (openedBy reg.topology q) s hs hlists
      ⟨q, hq, admits_openedBy_iff.mpr rfl⟩
    obtain ⟨p, hp, hadmits⟩ := entryPermitted_iff.mp hpermitted last hlast
    rwa [admits_openedBy_iff.mp hadmits] at hp
  · intro hentry track s hs hlists ⟨q, hq, hadmits⟩
    obtain ⟨last, hlast, hsubset⟩ := hentry s hs hlists
    rw [entryPermitted_iff]
    intro last' hlast'
    rw [← hlast.eq hlast']
    exact ⟨q, hsubset hq, hadmits⟩

/-- A yard and a throat that overlap in one segment, each with an entry signal of its own. -/
def yardTree : Table.TableTree := [
  .segments ["a", "c", "d"],
  .signals ["s", "m", "u", "t"],
  .networkSection "yard" ["c"] ["m"],
  .networkSection "throat" ["c"] ["u"],
  .route {
    id := .name "left", source := "s", destination := "t", orientation := .clockwise
    length := .zero, path := ["a", "c"], sections := none, points := none
    signals := ["s", "t"], conflicts := some [.name "right"] },
  .route {
    id := .name "right", source := "u", destination := "t", orientation := .clockwise
    length := .zero, path := ["d", "c"], sections := none, points := none
    signals := ["u", "t"], conflicts := some [.name "left"] }]

def yard : Table := yardTree.table

def yardRoutes : Registry := ⟨yard.topology, yard.routes, by decide, by decide⟩

theorem yardTree_read : Table.ofTokens (yardTree.flatten ++ [.endOfText]) = .ok yard :=
  (Table.ofTokens_eq_ok_iff (by decide)).mpr ⟨yardTree, rfl, by decide, rfl⟩

/-- The entry signal of the throat is heard. -/
theorem open_throat_bars_conflict :
    let track := openedBy yard.topology "u"
    entryPermitted yard.topology track "c" = true ∧ (check yardRoutes track 0 1).safe = false := by
  intro track
  obtain ⟨hdecides, hbars, -⟩ := last_listing_decides_entry yardRoutes "c"
  have hpermitted : entryPermitted yard.topology track "c" = true := by
    refine (hdecides track).mpr fun last hlast => ?_
    cases (Topology.section?_eq_some_iff.mpr hlast : some _ = some last)
    exact ⟨"u", by decide, admits_openedBy_iff.mpr rfl⟩
  exact ⟨hpermitted, hbars track 0 1 _ _ rfl rfl (by decide) (by decide) hpermitted⟩

/-- The entry signal of the yard shows go, and the routes through the shared segment count as safe
beside one another. -/
theorem open_yard_unheard :
    Table.ofTokens (yardTree.flatten ++ [.endOfText]) = .ok yard ∧
      Registry.ofTable yard = .ok yardRoutes ∧
      ∃ track, (Track.initial yard.topology).setAspect "m" .go = .ok track ∧
        (∃ s ∈ yard.topology.sections, "c" ∈ s.segments ∧
          ∃ q ∈ s.entry, track.aspect q = some .go) ∧
        entryPermitted yard.topology track "c" = false ∧
        (check yardRoutes track 0 1).safe = true := by
  refine ⟨yardTree_read, rfl, _, rfl, ?_, rfl, rfl⟩
  exact ⟨⟨"yard", ["c"], ["m"]⟩, by decide, by decide, "m", by decide, rfl⟩

end Sectional

end Signalbox
