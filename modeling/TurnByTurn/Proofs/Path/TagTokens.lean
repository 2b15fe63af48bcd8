import TurnByTurn.Path.Tokens

/-!
Tag values split at a semicolon and joined with semicolons. Splitting goes part by part: what stands
before a semicolon and what stands behind it have nothing to do with each other. So tokens that are
joined are split into the same tokens again.
-/

namespace TurnByTurn

theorem tagTokens_append_semicolon (before after : String) :
    tagTokens (before ++ ";" ++ after) = tagTokens before ++ tagTokens after := by
  have hparts : semicolonParts (before ++ ";" ++ after).toList =
      semicolonParts before.toList ++ semicolonParts after.toList := by
    rw [String.toList_append, String.toList_append, List.append_assoc]
    exact semicolonParts_append before.toList after.toList
  rw [tagTokens, hparts, List.map_append, List.filter_append, List.map_append]
  rfl

theorem tagTokens_of_semicolon_notMem {value : String} (h : ';' ∉ value.toList) :
    tagTokens value = if Text.trim value = "" then [] else [Text.trim value] := by
  have hempty : Text.trim value = "" ↔ Text.trimChars value.toList = [] := by
    rw [← String.toList_eq_nil_iff, Text.toList_trim]
  rw [tagTokens, semicolonParts_of_not_mem h, List.map_singleton]
  by_cases hblank : Text.trimChars value.toList = []
  · rw [if_pos (hempty.mpr hblank), hblank]
    rfl
  · rw [if_neg (mt hempty.mp hblank), List.filter_cons_of_pos (by simpa using hblank)]
    rfl

theorem IsToken.tagTokens_eq {token : String} (h : IsToken token) : tagTokens token = [token] := by
  have htrim : Text.trim token = token := by
    rw [Text.trim, Text.trimChars_eq_self_iff.mpr h.isTrimmed, String.ofList_toList]
  rw [tagTokens_of_semicolon_notMem h.semicolon_notMem, htrim, if_neg h.ne_empty]

theorem tagTokens_intercalate {tokens : List String} (h : ∀ token ∈ tokens, IsToken token) :
    tagTokens (";".intercalate tokens) = tokens := by
  induction tokens with
  | nil => decide +kernel
  | cons token rest ih =>
    obtain ⟨htoken, hrest⟩ := List.forall_mem_cons.mp h
    cases rest with
    | nil => rw [String.intercalate_singleton, htoken.tagTokens_eq]
    | cons next rest =>
      rw [String.intercalate_cons_cons, tagTokens_append_semicolon, htoken.tagTokens_eq, ih hrest,
        List.singleton_append]

theorem tagTokens_split_and_join (a b : String) (tokens : List String) :
    tagTokens (a ++ ";" ++ b) = tagTokens a ++ tagTokens b ∧
    (';' ∉ a.toList → tagTokens a = if Text.trim a = "" then [] else [Text.trim a]) ∧
    (∀ token ∈ tagTokens a, IsToken token) ∧
    tagTokens (";".intercalate (tagTokens a)) = tagTokens a ∧
    ((∀ token ∈ tokens, IsToken token) → tagTokens (";".intercalate tokens) = tokens) := by
  have htokens : ∀ token ∈ tagTokens a, IsToken token := fun _ => isToken_of_mem_tagTokens
  refine ⟨tagTokens_append_semicolon a b, ?_, htokens, tagTokens_intercalate htokens, ?_⟩
  · exact tagTokens_of_semicolon_notMem
  · exact tagTokens_intercalate

theorem tagTokens_split_and_join_routeNumbers :
    ';' ∉ "\t US 1 ".toList ∧ tagTokens "\t US 1 " = ["US 1"] ∧
    tagTokens ("\t US 1 " ++ ";" ++ "; I-95;") = tagTokens "\t US 1 " ++ tagTokens "; I-95;" ∧
    (∀ token ∈ ["I-95", "Route 9 W"], IsToken token) ∧
    tagTokens (";".intercalate ["I-95", "Route 9 W"]) = ["I-95", "Route 9 W"] := by
  have hlaws := tagTokens_split_and_join "\t US 1 " "; I-95;" ["I-95", "Route 9 W"]
  have hpart : ';' ∉ "\t US 1 ".toList := by decide +kernel
  have htokens : ∀ token ∈ ["I-95", "Route 9 W"], IsToken token := by
    have hsplit : tagTokens "I-95;Route 9 W" = ["I-95", "Route 9 W"] := by decide +kernel
    rw [← hsplit]
    exact fun _ => isToken_of_mem_tagTokens
  obtain ⟨hsplit, hsingle, -, -, hjoin⟩ := hlaws
  refine ⟨hpart, ?_, hsplit, htokens, hjoin htokens⟩
  rw [hsingle hpart]
  decide +kernel

end TurnByTurn
