import Mathlib.Data.List.Basic
import Mathlib.Data.List.Induction
import TurnByTurn.Proofs.Path.TagKeys

namespace TurnByTurn

def lastValue (tags : List (String × String)) (key : String) : String :=
  ((tags.filter (·.1 = key)).getLast?.map (·.2)).getD ""

section LastValue

variable {tags before after : List (String × String)} {tag : String × String} {key : String}

theorem lastValue_concat :
    lastValue (tags ++ [tag]) key = if tag.1 = key then tag.2 else lastValue tags key := by
  unfold lastValue
  by_cases h : tag.1 = key <;> simp [h]

theorem lastValue_drop (h : tag.1 = key → key ∈ after.map (·.1)) :
    lastValue (before ++ after) key = lastValue (before ++ tag :: after) key := by
  unfold lastValue
  rw [List.append_cons, List.filter_append, List.filter_append]
  by_cases hkey : tag.1 = key
  · obtain ⟨later, hlater, hsame⟩ := List.mem_map.mp (h hkey)
    have hne : after.filter (·.1 = key) ≠ [] :=
      List.ne_nil_of_mem (List.mem_filter.mpr ⟨hlater, decide_eq_true hsame⟩)
    rw [List.getLast?_append_of_ne_nil _ hne, List.getLast?_append_of_ne_nil _ hne]
  · have hnone : [tag].filter (·.1 = key) = [] := by simp [hkey]
    rw [List.filter_append, hnone, List.append_nil]

end LastValue

namespace Edge

theorem get_names_withTags {e : Edge} (h : e.names = {}) (tags : List (String × String))
    (k : NameKey) : (e.withTags tags).names.get k = lastValue tags k.key := by
  induction tags using List.reverseRecOn with
  | nil =>
    rw [withTags, List.foldl_nil, h]
    cases k <;> rfl
  | append_singleton tags tag ih =>
    rw [withTags_concat, get_names_setTag, ih, lastValue_concat]

end Edge

section Shown

variable {roadClass : RoadClass} {last last' : String → String}

def filledValues (last : String → String) (keys : List String) : List String :=
  (keys.map last).filter (· ≠ "")

def shownNames (roadClass : RoadClass) (last : String → String) : List String :=
  if roadClass = .motorway ∨ roadClass = .trunk then
    tagTokens (if last "route_ref" ≠ "" then last "route_ref" else last "ref") ++
      filledValues last ["name", "alt_name", "official_name", "name:en"]
  else
    filledValues last ["name"] ++ tagTokens (last "ref") ++
      filledValues last ["alt_name", "official_name", "name:en"]

def shownKeys : List String :=
  ["route_ref", "ref", "name", "alt_name", "official_name", "name:en"]

theorem shownNames_congr (h : ∀ key ∈ shownKeys, last key = last' key) :
    shownNames roadClass last = shownNames roadClass last' := by
  simp only [shownKeys, List.forall_mem_cons] at h
  obtain ⟨hroute, href, hname, halt, hofficial, henglish, -⟩ := h
  simp only [shownNames, filledValues, List.map_cons, List.map_nil, hroute, href, hname, halt,
    hofficial, henglish]

theorem RoadClass.isHighway_iff : roadClass.isHighway = true ↔
    roadClass = .motorway ∨ roadClass = .trunk := by
  cases roadClass <;> decide

theorem NameTags.flatMap_single (values : List String) :
    values.flatMap single = values.filter (· ≠ "") := by
  induction values with
  | nil => rfl
  | cons value values ih => by_cases h : value = "" <;> simp [single, h, ih]

theorem NameTags.streetNames_eq_shownNames {t : NameTags}
    (h : ∀ k : NameKey, t.get k = last k.key) (roadClass : RoadClass) :
    t.streetNames roadClass = shownNames roadClass last := by
  have href : t.ref = last "ref" := h .ref
  have hroute : t.routeRef = last "route_ref" := h .routeRef
  have hname : t.name = last "name" := h .name
  have henglish : t.nameEn = last "name:en" := h .nameEn
  have halt : t.altName = last "alt_name" := h .altName
  have hofficial : t.officialName = last "official_name" := h .officialName
  simp only [streetNames, shownNames, filledValues, ← flatMap_single, ← RoadClass.isHighway_iff]
  by_cases hhighway : roadClass.isHighway = true
  · simp [hhighway, href, hroute, hname, henglish, halt, hofficial]
  · simp [hhighway, href, hname, henglish, halt, hofficial]

end Shown

namespace Edge

def ofClass (roadClass : RoadClass) : Edge where
  roadClass := roadClass

theorem streetNames_eq_shownNames (roadClass : RoadClass) (tags : List (String × String)) :
    ((ofClass roadClass).withTags tags).streetNames = shownNames roadClass (lastValue tags) := by
  have hlast : ∀ k : NameKey,
      ((ofClass roadClass).withTags tags).names.get k = lastValue tags k.key :=
    get_names_withTags rfl tags
  rw [streetNames, NameTags.streetNames_eq_shownNames hlast, roadClass_withTags]
  rfl

/-- The names of an edge tell, in an order that depends on the class of the road, the last value of
each key that they show. They are never empty, and no other tag has a say in them. -/
theorem streetNames_withTags (roadClass : RoadClass) (tags : List (String × String)) :
    ((ofClass roadClass).withTags tags).streetNames = shownNames roadClass (lastValue tags) ∧
    (∀ name ∈ ((ofClass roadClass).withTags tags).streetNames, name ≠ "") ∧
    (∀ before tag after, tags = before ++ tag :: after →
      (tag.1 ∈ shownKeys → tag.1 ∈ after.map (·.1)) →
      ((ofClass roadClass).withTags (before ++ after)).streetNames =
        ((ofClass roadClass).withTags tags).streetNames) ∧
    (∀ tags' : List (String × String),
      (∀ key, tags'.filter (·.1 = key) = tags.filter (·.1 = key)) →
      ((ofClass roadClass).withTags tags').streetNames =
        ((ofClass roadClass).withTags tags).streetNames) ∧
    ∀ (e : Edge) (key value : String),
      (e.setTag? key value = none ↔
        (∀ k : NameKey, key ≠ k.key) ∧ ∀ kind : SignKind, key ∉ kind.keys) ∧
      (e.setTag? key value = none → e.setTag key value = e) := by
  have hnames := streetNames_eq_shownNames roadClass
  refine ⟨hnames tags, ?_, ?_, ?_, ?_⟩
  · intro name
    exact NameTags.ne_empty_of_mem_streetNames
  · rintro before tag after rfl hlater
    rw [hnames, hnames]
    apply shownNames_congr
    intro key hkey
    apply lastValue_drop
    rintro rfl
    exact hlater hkey
  · intro tags' h
    rw [hnames, hnames]
    apply shownNames_congr
    intro key _
    rw [lastValue, h key, lastValue]
  · intro e key value
    refine ⟨?_, e.setTag_of_none key value⟩
    rw [setTag?_eq_none_iff, TagKey.ofTag?_eq_none_iff]

example : ((ofClass .trunk).withTags [("ref", "A1"), ("name", "Autoroute"), ("int_ref", "E 40"),
    ("route_ref", "E40;A1"), ("name", "")]).streetNames = ["E40", "A1"] := by
  decide +kernel

end Edge

end TurnByTurn
