import TurnByTurn.Proofs.Directions.Guided
import TurnByTurn.Proofs.Maneuver.ShownNames

namespace TurnByTurn

def TransitLine.texts (l : TransitLine) : List String :=
  [l.id, l.shortName, l.longName, l.headsign, l.operatorId]

def TransitRoute.texts (r : TransitRoute) : List (Option String) :=
  [r.id, r.shortName, r.longName, r.headsign, r.operatorId]

theorem TransitRoute.texts_ofLine (l : TransitLine) (stops : List TransitStop) :
    (ofLine l stops).texts = l.texts.map nonEmpty := rfl

structure Edge.Carries (P : String → Prop) (e : Edge) : Prop where
  names : ∀ name ∈ e.streetNames, P name
  sign : ∀ token ∈ e.sign, P token.text
  line : ∀ line, e.line = some line → ∀ text ∈ line.texts, text ≠ "" → P text

structure Maneuver.Carries (P : String → Prop) (m : Maneuver) : Prop where
  streetNames : ∀ name ∈ m.streetNames, P name
  beginStreetNames : ∀ name ∈ m.beginStreetNames, P name
  signs : ∀ signs, m.signs = some signs → ∀ kind, ∀ e ∈ signs.elements kind, P e.text
  route : ∀ route, m.route = some route → ∀ text, some text ∈ route.texts → P text

theorem text_mem_of_mem_countRuns {texts : List String} {e : SignElement}
    (h : e ∈ countRuns texts) : e.text ∈ texts := by
  rw [← flatMap_texts_countRuns texts, List.mem_flatMap]
  refine ⟨e, h, ?_⟩
  rw [SignElement.texts, List.mem_replicate]
  exact ⟨Nat.ne_of_gt (count_pos_of_mem_countRuns h), rfl⟩

theorem Signs.exists_token_of_mem_elements {tokens : List SignToken} {signs : Signs}
    (h : ofTokens? tokens = some signs) {kind : SignKind} {e : SignElement}
    (he : e ∈ signs.elements kind) : ∃ token ∈ tokens, token.text = e.text := by
  rw [elements_of_ofTokens? h] at he
  obtain ⟨token, htoken, htext⟩ := List.mem_map.mp (text_mem_of_mem_countRuns he)
  exact ⟨token, List.mem_of_mem_filter htoken, htext⟩

variable {P : String → Prop}

namespace Stretch

theorem mem_first_of_mem_newNames {before : Option Stretch} {t : Stretch} {name : String}
    (h : name ∈ t.newNames before) : name ∈ t.first.edge.streetNames := by
  unfold newNames at h
  split at h
  · cases h
  · split at h
    · cases h
    · exact Edge.mem_distinctNames.mp h

theorem mem_newNames_of_mem_beginStreetNames {before : Option Stretch} {t : Stretch} {name : String}
    (h : name ∈ (t.summary before).beginStreetNames) : name ∈ t.newNames before := by
  unfold summary at h
  dsimp only at h
  split at h
  · cases h
  · exact h

end Stretch

namespace TripPath

variable {path : TripPath} {m : Maneuver}

theorem names_of_mem_maneuvers (hm : m ∈ path.maneuvers)
    (h : ∀ s ∈ path.segments, ∀ name ∈ s.edge.streetNames, P name) :
    (∀ name ∈ m.streetNames, P name) ∧ ∀ name ∈ m.beginStreetNames, P name := by
  obtain ⟨t, ht, before, rfl⟩ | rfl | rfl := summary_or_end_of_mem_maneuvers hm
  · have hfirst := h t.first (mem_segments_of_mem_stretches ht t.first_mem)
    have hlast := h t.last (mem_segments_of_mem_stretches ht t.last_mem)
    constructor
    · intro name hname
      exact hlast name (Edge.mem_distinctNames.mp hname)
    · intro name hname
      exact hfirst name (Stretch.mem_first_of_mem_newNames
        (Stretch.mem_newNames_of_mem_beginStreetNames hname))
  · exact ⟨List.forall_mem_nil _, List.forall_mem_nil _⟩
  · refine ⟨?_, List.forall_mem_nil _⟩
    change ∀ name ∈ (path.segments.getLast?.map (·.edge.distinctNames)).getD [], P name
    cases hlast : path.segments.getLast? with
    | none => exact List.forall_mem_nil _
    | some s =>
      intro name hname
      exact h s (List.mem_of_getLast? hlast) name (Edge.mem_distinctNames.mp hname)

theorem exists_sign_of_guided (hm : m ∈ path.maneuvers) {signs : Signs}
    (h : (path.guided m).signs = some signs) :
    ∃ e, path.edgeAt m.beginNode = some e ∧ Signs.ofTokens? e.sign = some signs := by
  change (path.withSigns m).signs = some signs at h
  unfold withSigns at h
  split at h
  · exact Option.bind_eq_some_iff.mp h
  · rw [(bare_of_mem_maneuvers hm).1] at h
    cases h

theorem exists_line_of_guided {route : TransitRoute} (h : (path.guided m).route = some route) :
    ∃ e line, path.edgeAt (path.withSigns m).beginNode = some e ∧ e.line = some line ∧
      route = .ofLine line (path.stopsOf (path.withSigns m)) := by
  obtain ⟨line, hline, rfl⟩ := Option.map_eq_some_iff.mp h
  unfold lineOf at hline
  split at hline
  · next e he =>
    split at hline
    · exact ⟨e, line, he, hline, rfl⟩
    · cases hline
  · cases hline

theorem carries_guided (h : ∀ node e, path.edgeAt node = some e → e.Carries P)
    (hm : m ∈ path.maneuvers) : (path.guided m).Carries P := by
  have hnames := names_of_mem_maneuvers hm fun s hs =>
    (h s.node s.edge (edgeAt_of_mem_segments hs)).names
  constructor
  case streetNames =>
    rw [streetNames_guided]
    exact hnames.1
  case beginStreetNames =>
    rw [beginStreetNames_guided]
    exact hnames.2
  case signs =>
    intro signs hsigns kind element helement
    obtain ⟨e, he, htokens⟩ := exists_sign_of_guided hm hsigns
    obtain ⟨token, htoken, htext⟩ := Signs.exists_token_of_mem_elements htokens helement
    rw [← htext]
    exact (h _ e he).sign token htoken
  case route =>
    intro route hroute text htext
    obtain ⟨e, line, he, hline, rfl⟩ := exists_line_of_guided hroute
    rw [TransitRoute.texts_ofLine, List.mem_map] at htext
    obtain ⟨s, hs, hsome⟩ := htext
    obtain ⟨rfl, hne⟩ := nonEmpty_eq_some_iff.mp hsome
    exact (h _ e he).line line hline s hs hne

theorem carries_repairedEdge_iff (node : Nat) (e : Edge) :
    (path.repairedEdge node e).Carries P ↔ e.Carries P := by
  unfold repairedEdge
  split
  · exact ⟨fun h => ⟨h.names, h.sign, h.line⟩, fun h => ⟨h.names, h.sign, h.line⟩⟩
  · rfl

theorem carries_of_mem_guidedManeuvers (h : ∀ node e, path.edgeAt node = some e → e.Carries P)
    {ms : List Maneuver} (hms : path.normalizeHeadings.guidedManeuvers = .ok ms) (hm : m ∈ ms) :
    m.Carries P := by
  rw [guidedManeuvers_eq_map hms, List.mem_map] at hm
  obtain ⟨n, hn, rfl⟩ := hm
  refine carries_guided ?_ hn
  intro node e he
  rw [edgeAt_normalizeHeadings, Option.map_eq_some_iff] at he
  obtain ⟨e', he', rfl⟩ := he
  exact (carries_repairedEdge_iff node e').mpr (h node e' he')

end TripPath

end TurnByTurn
