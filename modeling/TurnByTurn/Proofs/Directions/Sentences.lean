import TurnByTurn.Proofs.Directions.Places
import TurnByTurn.Proofs.Narrative.Sentences
import TurnByTurn.Proofs.Path.Names

namespace TurnByTurn

namespace Options

theorem eq_of_mem_texts_narrateOne {o : Options} {path : TripPath} {m : Maneuver}
    (hbare : m.texts = {}) {text : String} (h : some text ∈ (o.narrateOne path m).texts.texts) :
    text = o.textOf path m ∨ o.postText m = some text ∨
      text = Dictionary.timedText path.locations.head? o.dictionary.depart o.dictionary.departAt ∨
      text = Dictionary.timedText path.locations.getLast? o.dictionary.arrive
        o.dictionary.arriveAt := by
  unfold narrateOne at h
  dsimp only at h
  split at h
  all_goals
    simp only [departTexts, arriveTexts, turnTexts, Narration.texts, hbare, List.mem_cons,
      List.not_mem_nil, Option.some.injEq, reduceCtorEq] at h
    grind [textOf]

variable {o : Options} (ho : o.dictionary ∈ Dictionary.all) {path : TripPath}
  (hplaces : ∀ l ∈ path.locations, l.IsUnbraced) {m : Maneuver}
  (hm : m.Carries (Unbraced ·.toList))
include ho hm

theorem isSentence_of_postText {text : String} (h : o.postText m = some text) :
    IsSentence text := by
  rw [postText_eq_map_fillAtOnce ho, Option.map_eq_some_iff] at h
  obtain ⟨template, htemplate, rfl⟩ := h
  apply (isComplete_of_postTemplate? ho htemplate).isSentence_fillAtOnce
  intro p
  unfold postData
  split
  · exact Dictionary.unbraced_lengthPhrase ho _ _
  · exact unbraced_joinNames hm.streetNames
  · cases m.route with
    | none => exact unbraced_nil
    | some route => exact unbraced_toString _
  · exact unbraced_nil

include hplaces

theorem isSentence_of_mem_narrateOne (hbare : m.texts = {}) {text : String}
    (h : some text ∈ (o.narrateOne path m).texts.texts) : IsSentence text := by
  have hfirst : ∀ l, path.locations.head? = some l → l.IsUnbraced :=
    fun l hl => hplaces l (List.mem_of_head? hl)
  have hlast : ∀ l, path.locations.getLast? = some l → l.IsUnbraced :=
    fun l hl => hplaces l (List.mem_of_getLast? hl)
  rcases eq_of_mem_texts_narrateOne hbare h with rfl | hpost | rfl | rfl
  · exact Dictionary.isSentence_instruction ho hm hlast
  · exact isSentence_of_postText ho hm hpost
  · exact Dictionary.isSentence_timedText ho hfirst (by simp) (by simp)
  · exact Dictionary.isSentence_timedText ho hlast (by simp) (by simp)

end Options

theorem Narration.eq_or_mem_texts_of_pre {n : Narration} {pre text : String}
    (h : some text ∈ { n with pre := some pre }.texts) : text = pre ∨ some text ∈ n.texts := by
  simp only [texts, List.mem_cons, Option.some.injEq] at h ⊢
  tauto

theorem Dictionary.isSentence_announcing {d : Dictionary} (hd : d ∈ all) (m : Maneuver)
    {text : String} (h : IsSentence text) {alert : Option String}
    (halert : ∀ a, alert = some a → IsSentence a) : IsSentence (d.announcing m text alert) := by
  have handThen : Unbraced d.andThen.toList := unbraced_of_mem_words hd (by simp [words])
  have hblank : Unbraced " ".toList := by decide
  cases alert with
  | none => exact h
  | some a =>
    change IsSentence (if m.leavesNoTime then _ else text)
    split
    · apply isSentence_append _ (Text.isSentence_lowercaseFirst (halert a rfl))
      simp only [String.toList_append, unbraced_append]
      exact ⟨⟨⟨h.unbraced, hblank⟩, handThen⟩, hblank⟩
    · exact h

namespace Options

theorem isSentence_of_mem_narrate {o : Options} (ho : o.dictionary ∈ Dictionary.all)
    {path : TripPath} (hplaces : ∀ l ∈ path.locations, l.IsUnbraced)
    {ms : List Maneuver} (hms : ∀ m ∈ ms, m.texts = {} ∧ m.Carries (Unbraced ·.toList))
    {n : Maneuver} (hn : n ∈ o.narrate path ms) {text : String} (h : some text ∈ n.texts.texts) :
    IsSentence text := by
  have hone : ∀ m ∈ ms, ∀ text, some text ∈ (o.narrateOne path m).texts.texts →
      IsSentence text := by
    intro m hm text htext
    exact isSentence_of_mem_narrateOne ho hplaces (hms m hm).2 (hms m hm).1 htext
  obtain ⟨i, hi⟩ := List.mem_iff_getElem?.mp hn
  rw [getElem?_narrate, Option.map_eq_some_iff] at hi
  obtain ⟨m, hm, rfl⟩ := hi
  have hmem := List.mem_of_getElem? hm
  cases hnext : ms[i + 1]? with
  | none =>
    rw [hnext] at h
    exact hone m hmem text h
  | some next =>
    have hpre : (o.narrateOne path m).texts.pre = some (o.textOf path m) := rfl
    have htextOf : IsSentence (o.textOf path m) := hone m hmem _ (by simp [Narration.texts, ← hpre])
    rw [hnext] at h
    change some text ∈ (o.dictionary.withCue _ (o.narrateOne path next)).texts.texts at h
    rw [Dictionary.withCue_eq, o.dictionary.pre_withCue hpre] at h
    rcases Narration.eq_or_mem_texts_of_pre h with rfl | h
    · refine Dictionary.isSentence_announcing ho _ htextOf fun a ha => ?_
      exact hone next (List.mem_of_getElem? hnext) a (by simp [Narration.texts, ha])
    · exact hone m hmem text h

end Options

section Strings

def Edge.strings (e : Edge) : List String :=
  e.names.values ++ e.sign.map (·.text) ++ e.line.toList.flatMap TransitLine.texts

def StopInfo.texts (s : StopInfo) : List String :=
  [s.id, s.name, s.arrival, s.departure]

def Node.strings (n : Node) : List String :=
  n.edge.toList.flatMap Edge.strings ++ n.stop.toList.flatMap StopInfo.texts

def TripPath.strings (path : TripPath) : List String :=
  path.shape :: (path.locations.flatMap fun l => l.texts.flatMap Option.toList) ++
    path.nodes.flatMap Node.strings

variable {path : TripPath}

theorem TripPath.mem_strings_of_edgeAt {node : Nat} {e : Edge} (h : path.edgeAt node = some e)
    {s : String} (hs : s ∈ e.strings) : s ∈ path.strings := by
  obtain ⟨n, hn, he⟩ := Option.bind_eq_some_iff.mp h
  have hmem : s ∈ n.strings := by
    rw [Node.strings, he]
    exact List.mem_append_left _ (by simpa using hs)
  exact List.mem_append_right _ (List.mem_flatMap.mpr ⟨n, List.mem_of_getElem? hn, hmem⟩)

theorem TripPath.mem_strings_of_mem_locations {l : Location} (hl : l ∈ path.locations)
    {text : String} (h : some text ∈ l.texts) : text ∈ path.strings := by
  refine List.mem_append_left _ (List.mem_cons_of_mem _ ?_)
  exact List.mem_flatMap.mpr ⟨l, hl, List.mem_flatMap.mpr ⟨some text, h, by simp⟩⟩

theorem Edge.carries_of_unbraced {e : Edge} (h : ∀ s ∈ e.strings, Unbraced s.toList) :
    e.Carries (Unbraced ·.toList) := by
  constructor
  case names =>
    intro name hname
    obtain ⟨value, hvalue, hsub⟩ := NameTags.exists_subset_of_mem_streetNames hname
    exact (h value (by simp [strings, hvalue])).of_subset hsub
  case sign =>
    intro token htoken
    exact h token.text (by simpa [strings] using .inr (.inl ⟨token, htoken, rfl⟩))
  case line =>
    intro line hline text htext _
    exact h text (by simp [strings, hline, htext])

end Strings

namespace Directions

def Step.texts (s : Step) : List (Option String) :=
  [s.instruction, s.alert, s.pre, s.post, s.depart, s.verbalDepart, s.arrive, s.verbalArrive]

theorem Step.texts_ofManeuver (units : Units) (m : Maneuver) :
    (ofManeuver units m).texts = m.texts.texts.map present := rfl

theorem Step.mem_texts_of_ofManeuver {units : Units} {m : Maneuver} {text : String}
    (h : some text ∈ (ofManeuver units m).texts) : some text ∈ m.texts.texts := by
  rw [texts_ofManeuver, List.mem_map] at h
  obtain ⟨s, hs, htext⟩ := h
  obtain ⟨t, rfl, ht⟩ := Option.bind_eq_some_iff.mp htext
  rwa [← (nonEmpty_eq_some_iff.mp ht).1]

end Directions

theorem TripPath.isSentence_of_mem_steps {path : TripPath} {o : Options} {d : Directions}
    (ho : o.dictionary ∈ Dictionary.all) (hpath : ∀ s ∈ path.strings, Unbraced s.toList)
    (h : path.directions o = .ok d) {step : Directions.Step} (hstep : step ∈ d.steps)
    {text : String} (htext : some text ∈ step.texts) : IsSentence text := by
  obtain ⟨ms, hms, rfl⟩ := exists_guided_of_directions h
  obtain ⟨n, hn, rfl⟩ := List.mem_map.mp hstep
  have hedges : ∀ node e, path.edgeAt node = some e → e.Carries (Unbraced ·.toList) := by
    intro node e he
    exact Edge.carries_of_unbraced fun s hs => hpath s (mem_strings_of_edgeAt he hs)
  have hplaces : ∀ l ∈ path.normalizeHeadings.locations, l.IsUnbraced := by
    intro l hl text htext
    have hlocation : l ∈ path.locations := hl
    exact hpath text (mem_strings_of_mem_locations hlocation htext)
  have hbare : ∀ m ∈ ms, m.texts = {} ∧ m.Carries (Unbraced ·.toList) := by
    intro m hm
    exact ⟨texts_of_mem_guidedManeuvers hms hm, carries_of_mem_guidedManeuvers hedges hms hm⟩
  exact Options.isSentence_of_mem_narrate ho hplaces hbare hn
    (Directions.Step.mem_texts_of_ofManeuver htext)

theorem TripPath.isSentence_of_mem_steps_aroundBlocks :
    (Options.ofRequest "metric" "de-DE").dictionary ∈ Dictionary.all ∧
      (∀ s ∈ Options.aroundBlocks.strings, Unbraced s.toList) ∧
      ∃ d, Options.aroundBlocks.directions (.ofRequest "metric" "de-DE") = .ok d ∧
        d.steps.head?.bind (·.pre) = some
          "Fahren Sie Richtung Norden auf Main Street. Dann biegen Sie rechts ab auf Elm Lane." ∧
        ∀ step ∈ d.steps, ∀ text, some text ∈ step.texts → IsSentence text := by
  have ho := Dictionary.forLanguage_mem_all "de-DE"
  have hunbraced : ∀ s ∈ Options.aroundBlocks.strings, Unbraced s.toList := by decide +kernel
  have hpre : ((Options.aroundBlocks.directions (.ofRequest "metric" "de-DE")).toOption.bind
      fun d => d.steps.head?.bind (·.pre)) = some
        "Fahren Sie Richtung Norden auf Main Street. Dann biegen Sie rechts ab auf Elm Lane." := by
    decide +kernel
  obtain ⟨d, hsome, hpre⟩ := Option.bind_eq_some_iff.mp hpre
  have hd := eq_ok_of_toOption hsome
  refine ⟨ho, hunbraced, d, hd, hpre, fun step hstep text htext => ?_⟩
  exact isSentence_of_mem_steps ho hunbraced hd hstep htext

end TurnByTurn
