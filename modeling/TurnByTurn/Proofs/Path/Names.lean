import TurnByTurn.Path.Tags

namespace TurnByTurn

namespace NameTags

def values (t : NameTags) : List String :=
  [t.ref, t.routeRef, t.intRef, t.name, t.nameEn, t.altName, t.officialName]

variable {t : NameTags} {roadClass : RoadClass} {name : String}

theorem mem_single_iff {value : String} : name ∈ single value ↔ name = value ∧ value ≠ "" := by
  unfold single
  split <;> simp_all

theorem exists_value_of_mem_streetNames (h : name ∈ t.streetNames roadClass) :
    ∃ value ∈ t.values, name ∈ single value ∨ name ∈ tagTokens value := by
  unfold streetNames at h
  dsimp only at h
  simp only [List.mem_append] at h
  rcases h with ((((h | h) | h) | h) | h) | h
  · split at h
    · exact ⟨_, by split <;> simp [values], .inr h⟩
    · cases h
  · exact ⟨t.name, by simp [values], .inl h⟩
  · split at h
    · cases h
    · exact ⟨t.ref, by simp [values], .inr h⟩
  · exact ⟨t.altName, by simp [values], .inl h⟩
  · exact ⟨t.officialName, by simp [values], .inl h⟩
  · exact ⟨t.nameEn, by simp [values], .inl h⟩

theorem ne_empty_of_mem_streetNames (h : name ∈ t.streetNames roadClass) : name ≠ "" := by
  obtain ⟨value, -, hname | hname⟩ := exists_value_of_mem_streetNames h
  · obtain ⟨rfl, hne⟩ := mem_single_iff.mp hname
    exact hne
  · exact ne_empty_of_mem_tagTokens hname

theorem exists_subset_of_mem_streetNames (h : name ∈ t.streetNames roadClass) :
    ∃ value ∈ t.values, name.toList ⊆ value.toList := by
  obtain ⟨value, hvalue, hname | hname⟩ := exists_value_of_mem_streetNames h
  · obtain ⟨rfl, -⟩ := mem_single_iff.mp hname
    exact ⟨name, hvalue, List.Subset.refl _⟩
  · exact ⟨value, hvalue, subset_of_mem_tagTokens hname⟩

end NameTags

namespace Edge

def withTags (e : Edge) (tags : List (String × String)) : Edge :=
  tags.foldl (fun e tag => e.setTag tag.1 tag.2) e

def IsTagged (e : Edge) : Prop :=
  ∃ (bare : Edge) (tags : List (String × String)), bare.names = {} ∧ bare.sign = [] ∧
    e = bare.withTags tags

theorem forall_sign_setTag {P : String → Prop}
    (hP : ∀ value, ∀ token ∈ tagTokens value, P token) {e : Edge}
    (h : ∀ token ∈ e.sign, P token.text) (key value : String) :
    ∀ token ∈ (e.setTag key value).sign, P token.text := by
  unfold setTag setTag?
  cases TagKey.ofTag? key with
  | none => exact h
  | some k =>
    cases k with
    | naming k => exact h
    | sign kind =>
      intro token htoken
      rcases List.mem_append.mp htoken with htoken | htoken
      · exact h token htoken
      · obtain ⟨text, htext, rfl⟩ := List.mem_map.mp htoken
        exact hP value text htext

theorem IsTagged.text_ne_empty {e : Edge} (h : e.IsTagged) :
    ∀ token ∈ e.sign, token.text ≠ "" := by
  obtain ⟨bare, tags, -, hsign, rfl⟩ := h
  have hbare : ∀ token ∈ bare.sign, token.text ≠ "" := by
    rw [hsign]
    exact List.forall_mem_nil _
  clear hsign
  induction tags generalizing bare with
  | nil => exact hbare
  | cons tag tags ih =>
    exact ih _ (forall_sign_setTag (fun _ _ => ne_empty_of_mem_tagTokens) hbare tag.1 tag.2)

end Edge

end TurnByTurn
