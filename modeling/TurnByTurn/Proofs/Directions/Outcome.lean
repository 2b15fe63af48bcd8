import TurnByTurn.Directions.Build
import TurnByTurn.Proofs.Maneuver.Ride

namespace TurnByTurn

theorem Signs.count_le_length {tokens : List SignToken} {signs : Signs}
    (h : ofTokens? tokens = some signs) {kind : SignKind} {e : SignElement}
    (he : e ∈ signs.elements kind) : e.count ≤ tokens.length := by
  rw [elements_of_ofTokens? h] at he
  have hle := count_le_length_of_mem_countRuns he
  rw [textsOf, List.length_map] at hle
  exact Nat.le_trans hle (List.length_filter_le _ _)

namespace TripPath

/-- The nodes of a maneuver are nodes of the path, the last one of a ride off its end apart, and
what is counted on the way is bounded by what is there. -/
structure Fits (path : TripPath) (m : Maneuver) : Prop where
  beginNode_lt : m.beginNode < path.nodes.length
  beginNode_le_endNode : m.beginNode ≤ m.endNode
  endNode_le : m.endNode ≤ path.nodes.length
  roundaboutExits_le : m.roundaboutExits ≤ path.edgeCount
  count_le : ∀ signs kind, m.signs = some signs → ∀ element ∈ signs.elements kind,
    ∃ e, path.edgeAt m.beginNode = some e ∧ element.count ≤ e.sign.length

theorem roundaboutExits_summary_le {path : TripPath} {t : Stretch} (ht : t ∈ path.stretches)
    (before : Option Stretch) : (t.summary before).roundaboutExits ≤ path.edgeCount := by
  have hlength := (segments_sublist ht).length_le
  have hcount : t.segments.countP (·.edge.roundabout) ≤ t.segments.length := List.countP_le_length
  rw [length_segments] at hlength
  unfold Stretch.summary
  dsimp only
  split_ifs <;> omega

theorem fits_of_mem_maneuvers {path : TripPath} {m : Maneuver} (hne : path.nodes ≠ [])
    (hm : m ∈ path.maneuvers) : path.Fits m := by
  have hlength := List.length_pos_iff.mpr hne
  rcases summary_or_standstill_of_mem_maneuvers hm with
    ⟨t, ht, b, rfl⟩ | ⟨hle, hstill, hexits, hsigns⟩
  · have hlast := node_lt_of_mem_segments (mem_segments_of_mem_stretches ht t.last_mem)
    have hfirst := node_first_le ht t.last_mem
    have hbegin := Stretch.beginNode_summary b t
    have hend := Stretch.endNode_summary b t
    refine ⟨by omega, by omega, by omega, roundaboutExits_summary_le ht b, ?_⟩
    intro signs kind hsigns
    cases hsigns
  · unfold lastNode at hle
    refine ⟨by omega, by omega, by omega, by omega, ?_⟩
    intro signs kind hsome
    rw [hsigns] at hsome
    cases hsome

theorem fits_withSigns {path : TripPath} {m : Maneuver} (h : path.Fits m) :
    path.Fits (path.withSigns m) := by
  unfold withSigns
  split
  · refine ⟨h.beginNode_lt, h.beginNode_le_endNode, h.endNode_le, h.roundaboutExits_le, ?_⟩
    intro signs kind hsigns element helement
    obtain ⟨e, he, htokens⟩ := Option.bind_eq_some_iff.mp hsigns
    exact ⟨e, he, Signs.count_le_length htokens helement⟩
  · exact h

theorem fits_of_mem_attachSigns {path : TripPath} {m : Maneuver} (hne : path.nodes ≠ [])
    (hm : m ∈ path.attachSigns path.maneuvers) : path.Fits m := by
  obtain ⟨n, hn, rfl⟩ := List.mem_map.mp hm
  exact fits_withSigns (fits_of_mem_maneuvers hne hn)

theorem guidedManeuvers_cases {path : TripPath} (hne : path.nodes ≠ []) :
    (∃ ms, path.guidedManeuvers = .ok ms) ∧ ¬ path.RidesOffEnd ∨
      path.guidedManeuvers = .error .transitBeyondPath ∧ path.RidesOffEnd := by
  have hsigns : (∃ m ∈ path.attachSigns path.maneuvers, path.RidesBeyond m) ↔ path.RidesOffEnd := by
    rw [← exists_ridesBeyond_iff, attachSigns]
    simp only [List.mem_map, exists_exists_and_eq_and, ridesBeyond_withSigns]
  have hguided : path.guidedManeuvers = path.attachTransit (path.attachSigns path.maneuvers) := by
    have hempty : path.nodes.isEmpty = false := by simpa using hne
    unfold guidedManeuvers maneuvers?
    rw [hempty]
    rfl
  rw [hguided, ← hsigns]
  rcases path.attachTransit_cases (path.attachSigns path.maneuvers) with ⟨hok, hall⟩ | hbeyond
  · refine .inl ⟨hok, ?_⟩
    rintro ⟨m, hm, hbeyond⟩
    exact hall m hm hbeyond
  · exact .inr hbeyond

theorem mode_repairedEdge (path : TripPath) (node : Nat) (e : Edge) :
    (path.repairedEdge node e).mode = e.mode := by
  unfold repairedEdge
  split <;> rfl

theorem line_repairedEdge (path : TripPath) (node : Nat) (e : Edge) :
    (path.repairedEdge node e).line = e.line := by
  unfold repairedEdge
  split <;> rfl

theorem lastNode_normalizeHeadings (path : TripPath) :
    path.normalizeHeadings.lastNode = path.lastNode := by
  unfold lastNode
  rw [length_nodes_normalizeHeadings]

theorem ridesOffEnd_normalizeHeadings (path : TripPath) :
    path.normalizeHeadings.RidesOffEnd ↔ path.RidesOffEnd := by
  unfold RidesOffEnd Edge.isTransit
  rw [lastNode_normalizeHeadings, edgeAt_normalizeHeadings]
  cases path.edgeAt path.lastNode with
  | none => simp
  | some e => simp [mode_repairedEdge, line_repairedEdge]

theorem nodes_normalizeHeadings_eq_nil_iff (path : TripPath) :
    path.normalizeHeadings.nodes = [] ↔ path.nodes = [] := by
  rw [← List.length_eq_zero_iff, length_nodes_normalizeHeadings, List.length_eq_zero_iff]

theorem directions_eq_map (path : TripPath) (o : Options) :
    path.directions o = path.normalizeHeadings.guidedManeuvers.map fun ms =>
      .assemble path.normalizeHeadings (o.narrate path.normalizeHeadings ms) o.units := by
  unfold directions
  dsimp only
  cases path.normalizeHeadings.guidedManeuvers <;> rfl

theorem directions_of_nodes_eq_nil {path : TripPath} (h : path.nodes = []) (o : Options) :
    path.directions o = .error .emptyPath := by
  have hempty : path.normalizeHeadings.nodes.isEmpty = true := by
    rw [List.isEmpty_iff, nodes_normalizeHeadings_eq_nil_iff, h]
  rw [directions_eq_map, guidedManeuvers, maneuvers?, hempty]
  rfl

theorem directions_cases {path : TripPath} (hne : path.nodes ≠ []) (o : Options) :
    (∃ d, path.directions o = .ok d) ∧ ¬ path.RidesOffEnd ∨
      path.directions o = .error .transitBeyondPath ∧ path.RidesOffEnd := by
  have hne' : path.normalizeHeadings.nodes ≠ [] := by
    rwa [Ne, nodes_normalizeHeadings_eq_nil_iff]
  have hcases := guidedManeuvers_cases hne'
  rw [ridesOffEnd_normalizeHeadings] at hcases
  rw [directions_eq_map]
  rcases hcases with ⟨⟨ms, hms⟩, hinside⟩ | ⟨herror, hbeyond⟩
  · rw [hms]
    exact .inl ⟨⟨_, rfl⟩, hinside⟩
  · rw [herror]
    exact .inr ⟨rfl, hbeyond⟩

theorem not_ridesOffEnd_of_nodes_eq_nil {path : TripPath} (h : path.nodes = []) :
    ¬ path.RidesOffEnd := by
  rintro ⟨e, line, he, -⟩
  simp [edgeAt, h] at he

/-- The two ways to fail exclude each other and all other failures. On the way every node looked up
is there, no maneuver ends before it begins, and no count exceeds the edges or sign tokens. -/
theorem directions_outcome (path : TripPath) (o : Options) :
    (path.directions o = .error .emptyPath ↔ path.nodes = []) ∧
      (path.directions o = .error .transitBeyondPath ↔ path.RidesOffEnd) ∧
      ((∃ d, path.directions o = .ok d) ↔ path.nodes ≠ [] ∧ ¬ path.RidesOffEnd) ∧
      (∀ s ∈ path.normalizeHeadings.segments, ∃ n,
        path.normalizeHeadings.nodes[s.node]? = some n ∧ n.crossings = s.crossings) ∧
      (path.nodes ≠ [] →
        ∀ m ∈ path.normalizeHeadings.attachSigns path.normalizeHeadings.maneuvers,
          path.normalizeHeadings.Fits m) := by
  have hlookups : ∀ s ∈ path.normalizeHeadings.segments, ∃ n,
      path.normalizeHeadings.nodes[s.node]? = some n ∧ n.crossings = s.crossings :=
    fun _ => exists_node_of_mem_segments
  by_cases hnil : path.nodes = []
  · have hinside := not_ridesOffEnd_of_nodes_eq_nil hnil
    rw [directions_of_nodes_eq_nil hnil o]
    refine ⟨by simp [hnil], ?_, by simp [hnil], hlookups, fun hne => absurd hnil hne⟩
    simpa using hinside
  · have hfits : ∀ m ∈ path.normalizeHeadings.attachSigns path.normalizeHeadings.maneuvers,
        path.normalizeHeadings.Fits m := by
      intro m hm
      apply fits_of_mem_attachSigns _ hm
      rwa [Ne, nodes_normalizeHeadings_eq_nil_iff]
    rcases directions_cases hnil o with ⟨⟨d, hd⟩, hinside⟩ | ⟨herror, hbeyond⟩
    · rw [hd]
      exact ⟨by simp [hnil], by simpa using hinside, by simp [hnil, hinside], hlookups,
        fun _ => hfits⟩
    · rw [herror]
      exact ⟨by simp [hnil], by simpa using hbeyond, by simp [hbeyond], hlookups, fun _ => hfits⟩

end TripPath

end TurnByTurn
