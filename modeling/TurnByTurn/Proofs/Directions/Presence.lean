import TurnByTurn.Proofs.Directions.Sentences

namespace TurnByTurn

theorem empty_notMem_map_nonEmpty (texts : List String) : some "" ∉ texts.map nonEmpty := by
  rw [List.mem_map]
  rintro ⟨s, -, hs⟩
  exact (nonEmpty_eq_some_iff.mp hs).2 rfl

theorem empty_notMem_map_present (texts : List (Option String)) :
    some "" ∉ texts.map present := by
  rw [List.mem_map]
  rintro ⟨s, -, hs⟩
  exact present_ne_empty s hs

namespace Signs

structure IsPopulated (s : Signs) : Prop where
  exists_list : ∃ kind, (s.list? kind).isSome = true
  list_ne_nil : ∀ kind list, s.list? kind = some list → list ≠ []
  element : ∀ kind list, s.list? kind = some list → ∀ e ∈ list, e.text ≠ "" ∧ 1 ≤ e.count

theorem listOf?_eq_some_iff {tokens : List SignToken} {kind : SignKind} {list : List SignElement} :
    listOf? tokens kind = some list ↔ countRuns (textsOf tokens kind) = list ∧ list ≠ [] := by
  cases hruns : countRuns (textsOf tokens kind) with
  | nil =>
    have hnone : listOf? tokens kind = none := by simp [listOf?, hruns]
    rw [hnone]
    grind
  | cons e rest =>
    have hsome : listOf? tokens kind = some (e :: rest) := by simp [listOf?, hruns]
    rw [hsome]
    grind

theorem isPopulated_of_ofTokens? {tokens : List SignToken} {s : Signs}
    (h : ofTokens? tokens = some s) (htexts : ∀ kind, ∀ e ∈ s.elements kind, e.text ≠ "") :
    s.IsPopulated := by
  constructor
  case exists_list =>
    have hne : tokens ≠ [] := by
      rintro rfl
      cases h
    obtain ⟨token, htoken⟩ := List.exists_mem_of_ne_nil tokens hne
    have htext : token.text ∈ textsOf tokens token.kind :=
      List.mem_map_of_mem (List.mem_filter.mpr ⟨htoken, by simp⟩)
    have hruns : countRuns (textsOf tokens token.kind) ≠ [] :=
      fun hnil => List.ne_nil_of_mem htext ((countRuns_eq_nil_iff _).mp hnil)
    refine ⟨token.kind, ?_⟩
    rw [list?_of_ofTokens? h, listOf?_eq_some_iff.mpr ⟨rfl, hruns⟩]
    rfl
  case list_ne_nil =>
    intro kind list hlist
    rw [list?_of_ofTokens? h] at hlist
    exact (listOf?_eq_some_iff.mp hlist).2
  case element =>
    intro kind list hlist e he
    have helement : e ∈ s.elements kind := by rwa [elements, hlist]
    have htext := htexts kind e helement
    rw [elements_of_ofTokens? h] at helement
    exact ⟨htext, count_pos_of_mem_countRuns helement⟩

end Signs

def TransitStop.texts (s : TransitStop) : List (Option String) :=
  [s.id, s.name, s.arrival, s.departure]

theorem TransitStop.texts_ofInfo (s : StopInfo) : (ofInfo s).texts = s.texts.map nonEmpty := rfl

structure TransitRoute.IsPopulated (r : TransitRoute) : Prop where
  texts : some "" ∉ r.texts
  stops : ∀ stop ∈ r.stops, some "" ∉ stop.texts

theorem TransitRoute.isPopulated_ofLine (l : TransitLine) (infos : List StopInfo) :
    (ofLine l (infos.map .ofInfo)).IsPopulated := by
  constructor
  · rw [texts_ofLine]
    exact empty_notMem_map_nonEmpty _
  · intro stop hstop
    obtain ⟨info, -, rfl⟩ := List.mem_map.mp hstop
    rw [TransitStop.texts_ofInfo]
    exact empty_notMem_map_nonEmpty _

namespace Directions

def Place.texts (p : Place) : List (Option String) :=
  [p.name, p.street, p.city, p.state, p.postalCode, p.country, p.dateTime]

theorem Place.texts_ofLocation (l : Location) : (ofLocation l).texts = l.texts.map present := rfl

structure Step.IsPopulated (s : Step) : Prop where
  texts : some "" ∉ s.texts
  streetNames : "" ∉ s.streetNames
  beginStreetNames : "" ∉ s.beginStreetNames
  signs : ∀ signs, s.signs = some signs → signs.IsPopulated
  route : ∀ route, s.route = some route → route.IsPopulated

structure IsPopulated (d : Directions) : Prop where
  locations : ∀ p ∈ d.locations, some "" ∉ p.texts
  steps : ∀ s ∈ d.steps, s.IsPopulated

end Directions

theorem Edge.IsTagged.carries {e : Edge} (h : e.IsTagged) : e.Carries (· ≠ "") :=
  ⟨fun _ => NameTags.ne_empty_of_mem_streetNames, h.text_ne_empty, fun _ _ _ _ hne => hne⟩

namespace TripPath

variable {path : TripPath} {m : Maneuver}

theorem isPopulated_signs_of_guided (hm : m ∈ path.maneuvers)
    (hcarries : (path.guided m).Carries (· ≠ "")) {signs : Signs}
    (h : (path.guided m).signs = some signs) : signs.IsPopulated := by
  obtain ⟨e, -, htokens⟩ := exists_sign_of_guided hm h
  exact Signs.isPopulated_of_ofTokens? htokens (hcarries.signs signs h)

theorem isPopulated_route_of_guided {route : TransitRoute}
    (h : (path.guided m).route = some route) : route.IsPopulated := by
  obtain ⟨e, line, -, -, rfl⟩ := exists_line_of_guided h
  exact TransitRoute.isPopulated_ofLine line _

theorem isPopulated_ofManeuver (hm : m ∈ path.maneuvers)
    (hcarries : (path.guided m).Carries (· ≠ "")) (units : Units) (texts : Narration) :
    (Directions.Step.ofManeuver units { path.guided m with texts := texts }).IsPopulated := by
  constructor
  case texts =>
    rw [Directions.Step.texts_ofManeuver]
    exact empty_notMem_map_present _
  case streetNames => exact fun hempty => hcarries.streetNames "" hempty rfl
  case beginStreetNames => exact fun hempty => hcarries.beginStreetNames "" hempty rfl
  case signs => exact fun signs h => isPopulated_signs_of_guided hm hcarries h
  case route => exact fun route h => isPopulated_route_of_guided h

theorem isPopulated_directions {o : Options} {d : Directions}
    (htagged : ∀ node e, path.edgeAt node = some e → e.IsTagged) (h : path.directions o = .ok d) :
    d.IsPopulated := by
  obtain ⟨ms, hms, rfl⟩ := exists_guided_of_directions h
  have hcarries : ∀ m ∈ ms, m.Carries (· ≠ "") := by
    intro m hm
    exact carries_of_mem_guidedManeuvers (fun node e he => (htagged node e he).carries) hms hm
  constructor
  case locations =>
    intro p hp
    obtain ⟨l, -, rfl⟩ := List.mem_map.mp hp
    rw [Directions.Place.texts_ofLocation]
    exact empty_notMem_map_present _
  case steps =>
    intro s hs
    obtain ⟨n, hn, rfl⟩ := List.mem_map.mp hs
    obtain ⟨m, hm, pre, rfl⟩ := Options.exists_of_mem_narrate hn
    have hmcarries := hcarries m hm
    rw [guidedManeuvers_eq_map hms] at hm
    obtain ⟨k, hk, rfl⟩ := List.mem_map.mp hm
    exact isPopulated_ofManeuver hk hmcarries o.units _

end TripPath

end TurnByTurn
