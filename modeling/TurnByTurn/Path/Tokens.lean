import TurnByTurn.Text.Blank

namespace TurnByTurn

def semicolonParts : List Char → List (List Char)
  | [] => [[]]
  | c :: rest =>
    if c = ';' then [] :: semicolonParts rest
    else
      match semicolonParts rest with
      | [] => [[c]]
      | part :: parts => (c :: part) :: parts

theorem semicolonParts_ne_nil (cs : List Char) : semicolonParts cs ≠ [] := by
  fun_cases semicolonParts cs <;> simp_all

theorem semicolonParts_append (cs ds : List Char) :
    semicolonParts (cs ++ ';' :: ds) = semicolonParts cs ++ semicolonParts ds := by
  induction cs with
  | nil => simp [semicolonParts]
  | cons c rest ih =>
    by_cases hc : c = ';'
    · simp [semicolonParts, hc, ih]
    · obtain ⟨part, parts, hp⟩ := List.exists_cons_of_ne_nil (semicolonParts_ne_nil rest)
      simp [semicolonParts, hc, ih, hp]

theorem semicolonParts_of_not_mem {cs : List Char} (h : ';' ∉ cs) : semicolonParts cs = [cs] := by
  induction cs with
  | nil => rfl
  | cons c rest ih =>
    have hc : c ≠ ';' := fun hc => h (by simp [hc])
    simp [semicolonParts, hc, ih fun hr => h (List.mem_cons_of_mem _ hr)]

theorem not_mem_of_mem_semicolonParts {cs part : List Char} (h : part ∈ semicolonParts cs) :
    ';' ∉ part := by
  induction cs generalizing part with
  | nil => simp_all [semicolonParts]
  | cons c rest ih =>
    by_cases hc : c = ';'
    · simp only [semicolonParts, hc, if_true, List.mem_cons] at h
      rcases h with rfl | h
      · simp
      · exact ih h
    · obtain ⟨first, parts, hp⟩ := List.exists_cons_of_ne_nil (semicolonParts_ne_nil rest)
      simp only [semicolonParts, hc, if_false, hp, List.mem_cons] at h
      rcases h with rfl | h
      · have hfirst : ';' ∉ first := ih (by simp [hp])
        simp [Ne.symm hc, hfirst]
      · exact ih (by simp [hp, h])

theorem subset_of_mem_semicolonParts {cs part : List Char} (h : part ∈ semicolonParts cs) :
    part ⊆ cs := by
  induction cs generalizing part with
  | nil => simp_all [semicolonParts]
  | cons c rest ih =>
    rw [semicolonParts] at h
    split at h
    · rcases List.mem_cons.mp h with rfl | h
      · exact List.nil_subset _
      · exact List.subset_cons_of_subset c (ih h)
    · obtain ⟨first, parts, hp⟩ := List.exists_cons_of_ne_nil (semicolonParts_ne_nil rest)
      rw [hp] at h
      rcases List.mem_cons.mp h with rfl | h
      · exact List.cons_subset_cons c (ih (by simp [hp]))
      · exact List.subset_cons_of_subset c (ih (by simp [hp, h]))

def tagTokens (value : String) : List String :=
  (((semicolonParts value.toList).map Text.trimChars).filter (!·.isEmpty)).map String.ofList

theorem exists_part_of_mem_tagTokens {value token : String} (h : token ∈ tagTokens value) :
    ∃ part ∈ semicolonParts value.toList, token.toList = Text.trimChars part ∧
      token.toList ≠ [] := by
  obtain ⟨trimmed, htrimmed, rfl⟩ := List.mem_map.mp h
  obtain ⟨hmem, hne⟩ := List.mem_filter.mp htrimmed
  obtain ⟨part, hpart, rfl⟩ := List.mem_map.mp hmem
  rw [String.toList_ofList]
  exact ⟨part, hpart, rfl, by simpa using hne⟩

theorem ne_empty_of_mem_tagTokens {value token : String} (h : token ∈ tagTokens value) :
    token ≠ "" := by
  obtain ⟨-, -, -, hne⟩ := exists_part_of_mem_tagTokens h
  rintro rfl
  exact hne rfl

structure IsToken (text : String) : Prop where
  ne_empty : text ≠ ""
  isTrimmed : Text.IsTrimmed text.toList
  semicolon_notMem : ';' ∉ text.toList

theorem isToken_of_mem_tagTokens {value token : String} (h : token ∈ tagTokens value) :
    IsToken token := by
  obtain ⟨part, hpart, htoken, -⟩ := exists_part_of_mem_tagTokens h
  refine ⟨ne_empty_of_mem_tagTokens h, ?_, ?_⟩
  · rw [htoken]
    exact Text.isTrimmed_trimChars part
  · rw [htoken]
    intro hmem
    exact not_mem_of_mem_semicolonParts hpart ((Text.trimChars_isInfix part).subset hmem)

theorem subset_of_mem_tagTokens {value token : String} (h : token ∈ tagTokens value) :
    token.toList ⊆ value.toList := by
  obtain ⟨part, hpart, htoken, -⟩ := exists_part_of_mem_tagTokens h
  rw [htoken]
  exact List.Subset.trans (Text.trimChars_isInfix part).subset (subset_of_mem_semicolonParts hpart)

end TurnByTurn
