import TurnByTurn.Narrative.Instruction
import TurnByTurn.Proofs.Maneuver.Partition

/-!
The names shown where a maneuver begins. They are those of its last edge, unless its first edge has
names that are news: so a road that changes its names step by step may be shown under names that it
does not have yet.
-/

namespace TurnByTurn

theorem Edge.mem_distinctNames {e : Edge} {name : String} :
    name ∈ e.distinctNames ↔ name ∈ e.streetNames :=
  List.mem_eraseDups

theorem Edge.distinctNames_ne_nil {e : Edge} (h : e.streetNames ≠ []) : e.distinctNames ≠ [] := by
  obtain ⟨name, hname⟩ := List.exists_mem_of_ne_nil _ h
  exact List.ne_nil_of_mem (mem_distinctNames.mpr hname)

def Edge.SharesName (e f : Edge) : Prop := ∃ name ∈ e.streetNames, name ∈ f.streetNames

theorem Edge.exists_mem_distinctNames_iff {e f : Edge} :
    (∃ name ∈ e.distinctNames, name ∈ f.streetNames) ↔ e.SharesName f := by
  simp only [mem_distinctNames, SharesName]

namespace Stretch

theorem shownNames_summary (before : Option Stretch) (t : Stretch) :
    (t.summary before).shownNames =
      if t.newNames before = [] then t.last.edge.distinctNames else t.newNames before := by
  unfold Maneuver.shownNames summary
  by_cases hlast : t.newNames before = t.last.edge.distinctNames
  · simp [hlast]
  · simp [hlast, List.isEmpty_iff]

theorem shownNames_departure (t : Stretch) :
    (t.summary none).shownNames = t.last.edge.distinctNames := by
  rw [shownNames_summary]
  rfl

theorem shownNames_of_ne {b t : Stretch} (hnames : t.first.edge.streetNames ≠ [])
    (h : t.first.edge.distinctNames ≠ b.last.edge.distinctNames) :
    (t.summary (some b)).shownNames = t.first.edge.distinctNames := by
  have hnew : t.newNames (some b) = t.first.edge.distinctNames := if_neg h
  rw [shownNames_summary, hnew, if_neg (Edge.distinctNames_ne_nil hnames)]

theorem shownNames_of_eq {b t : Stretch}
    (h : t.first.edge.distinctNames = b.last.edge.distinctNames) :
    (t.summary (some b)).shownNames = t.last.edge.distinctNames := by
  have hnew : t.newNames (some b) = [] := if_pos h
  rw [shownNames_summary, hnew, if_pos rfl]

theorem exists_shownName_iff (before : Option Stretch) (t : Stretch)
    (hnames : t.first.edge.streetNames ≠ []) :
    (∃ name ∈ (t.summary before).shownNames, name ∈ t.first.edge.streetNames) ↔
      t.last.edge.SharesName t.first.edge ∨
        ∃ b, before = some b ∧ b.last.edge.distinctNames ≠ t.first.edge.distinctNames := by
  cases before with
  | none =>
    rw [shownNames_departure, Edge.exists_mem_distinctNames_iff]
    simp
  | some b =>
    by_cases h : t.first.edge.distinctNames = b.last.edge.distinctNames
    · rw [shownNames_of_eq h, Edge.exists_mem_distinctNames_iff]
      simp [h]
    · obtain ⟨name, hname⟩ := List.exists_mem_of_ne_nil _ hnames
      rw [shownNames_of_ne hnames h]
      constructor
      · intro _
        exact .inr ⟨b, rfl, Ne.symm h⟩
      · intro _
        exact ⟨name, Edge.mem_distinctNames.mpr hname, hname⟩

end Stretch

namespace TripPath

theorem exists_stretch_of_getElem? {path : TripPath} {ms : List Maneuver}
    (hms : path.maneuvers? = .ok ms) {k : Nat} {m : Maneuver} (hm : ms[k]? = some m)
    (hkind : m.kind ≠ .arrive) (hfirst : (path.edgeAt m.beginNode).isSome) :
    ∃ t ∈ path.stretches, path.stretches[k]? = some t ∧
      m = t.summary (if k = 0 then none else path.stretches[k - 1]?) ∧
      ms = Stretch.summaries none path.stretches ++ [path.arrival] := by
  obtain ⟨e, he⟩ := Option.isSome_iff_exists.mp hfirst
  obtain ⟨s, hs, -, -⟩ := exists_mem_segments_of_edgeAt he
  have hpos := (segments_ne_nil_iff path).mp (List.ne_nil_of_mem hs)
  rw [maneuvers?, nodes_ne_nil_of_edgeCount_pos hpos, maneuvers_eq_summaries hpos] at hms
  obtain rfl := Except.ok.inj hms
  rcases getElem?_append_arrival hm with ⟨-, hk⟩ | ⟨-, rfl⟩
  · rw [Stretch.getElem?_summaries, Option.map_eq_some_iff] at hk
    obtain ⟨t, ht, rfl⟩ := hk
    exact ⟨t, List.mem_of_getElem? ht, ht, rfl, rfl⟩
  · exact absurd rfl hkind

theorem getElem?_previous {path : TripPath} {k : Nat} {t : Stretch}
    (ht : path.stretches[k]? = some t) :
    ∃ b c, path.stretches[k - 1]? = some b ∧
      (Stretch.summaries none path.stretches ++ [path.arrival])[k - 1]? = some (b.summary c) := by
  have hlt : k - 1 < path.stretches.length := by
    have hlength := (List.getElem?_eq_some_iff.mp ht).1
    omega
  refine ⟨path.stretches[k - 1], if k - 1 = 0 then none else path.stretches[k - 1 - 1]?,
    List.getElem?_eq_getElem hlt, ?_⟩
  rw [List.getElem?_append_left (by rwa [Stretch.length_summaries]), Stretch.getElem?_summaries,
    List.getElem?_eq_getElem hlt]
  rfl

theorem exists_shownName_of_first_edge_iff {path : TripPath} {ms : List Maneuver}
    (hms : path.maneuvers? = .ok ms) {k : Nat} {m : Maneuver} (hm : ms[k]? = some m)
    (hkind : m.kind ≠ .arrive) {first : Edge} (hfirst : path.edgeAt m.beginNode = some first)
    (hnames : first.streetNames ≠ []) :
    ∃ last, path.edgeAt (m.endNode - 1) = some last ∧
      ((∃ name ∈ m.shownNames, name ∈ first.streetNames) ↔
        last.SharesName first ∨
          ∃ p, k ≠ 0 ∧ ms[k - 1]? = some p ∧ p.streetNames ≠ first.distinctNames) := by
  obtain ⟨t, ht, hk, rfl, rfl⟩ :=
    exists_stretch_of_getElem? hms hm hkind (by rw [hfirst]; rfl)
  have hedge := edgeAt_of_mem_segments (mem_segments_of_mem_stretches ht t.first_mem)
  obtain rfl := Option.some.inj (hfirst.symm.trans hedge)
  refine ⟨t.last.edge, edgeAt_of_mem_segments (mem_segments_of_mem_stretches ht t.last_mem), ?_⟩
  rw [Stretch.exists_shownName_iff _ t hnames]
  refine or_congr Iff.rfl ?_
  by_cases hzero : k = 0
  · simp [hzero]
  · obtain ⟨b, c, hb, hprev⟩ := getElem?_previous hk
    simp [hzero, hb, hprev, Stretch.summary]

def renamedRoad : TripPath where
  nodes := [
    { edge := some { length := 1, names := { name := "Main Street" } } },
    { edge := some { length := 1, names := { name := "Main Street", altName := "Broad Street" } } },
    { edge := some { length := 1, names := { name := "Broad Street" } } },
    {}]

def lanes : TripPath where
  nodes := { edge := some { length := 1, names := { name := "Elm Lane" } } } :: renamedRoad.nodes

theorem exists_shownName_of_first_edge_iff_lanes :
    lanes.maneuvers? = .ok lanes.maneuvers ∧
      ∃ m first, lanes.maneuvers[1]? = some m ∧ m.kind ≠ .arrive ∧
        lanes.edgeAt m.beginNode = some first ∧ first.streetNames ≠ [] ∧
        ∃ last, lanes.edgeAt (m.endNode - 1) = some last ∧
          ((∃ name ∈ m.shownNames, name ∈ first.streetNames) ↔
            last.SharesName first ∨
              ∃ p, 1 ≠ 0 ∧ lanes.maneuvers[1 - 1]? = some p ∧
                p.streetNames ≠ first.distinctNames) := by
  let m := lanes.maneuvers[1]?.get (by decide +kernel)
  have hm : lanes.maneuvers[1]? = some m := (Option.some_get _).symm
  have hkind : m.kind ≠ .arrive := by decide +kernel
  have hnames : (lanes.nodes[1].edge.get rfl).streetNames ≠ [] := by decide +kernel
  exact ⟨rfl, m, _, hm, hkind, rfl, hnames,
    exists_shownName_of_first_edge_iff rfl hm hkind rfl hnames⟩

theorem not_forall_exists_shownName :
    ¬ ∀ (path : TripPath) (ms : List Maneuver) (m : Maneuver) (first : Edge),
      path.maneuvers? = .ok ms → m ∈ ms → m.kind ≠ .arrive →
      path.edgeAt m.beginNode = some first → first.streetNames ≠ [] →
      ∃ name ∈ m.shownNames, name ∈ first.streetNames := by
  intro h
  let departure := renamedRoad.maneuvers.head renamedRoad.maneuvers_ne_nil
  have hdeparture := h renamedRoad renamedRoad.maneuvers departure _ rfl (List.head_mem _)
    (by decide +kernel) rfl (by decide +kernel)
  revert hdeparture
  decide +kernel

end TripPath

end TurnByTurn
