import Mathlib.Data.List.Nodup
import TurnByTurn.Proofs.Decimal.Digits
import TurnByTurn.Record

/-!
The dictionary for a language and the warnings about a request. No two dictionaries have the same
primary subtag, so the subtag alone decides which one is used. The rest of the language only decides
whether that is the one asked for, and a warning tells if it is not.
-/

namespace TurnByTurn

theorem isSubtagChar_toLower (c : Char) :
    (c.toLower != '-' && c.toLower != '_') = (c != '-' && c != '_') := by
  by_cases h : 65 ≤ c.toNat ∧ c.toNat ≤ 90
  · exact Decimal.forall_char_between
      (P := fun c => (c.toLower != '-' && c.toLower != '_') = (c != '-' && c != '_')) 65 26
      (by decide) h.1 (Nat.lt_succ_of_le h.2)
  · have hself : c.toLower = c := dif_neg h
    rw [hself]

theorem asciiLower_primarySubtag (tag : String) :
    Text.asciiLower (primarySubtag tag) = primarySubtag (Text.asciiLower tag) := by
  rw [← String.toList_inj, Text.asciiLower, primarySubtag, primarySubtag, Text.asciiLower,
    String.toList_map, String.toList_map, String.toList_ofList, String.toList_ofList,
    List.takeWhile_map]
  simp only [Function.comp_def, isSubtagChar_toLower]

def subtagOf (language : String) : String :=
  Text.asciiLower (primarySubtag (Text.trim language))

namespace Dictionary

variable {d other : Dictionary} {language : String}

def subtag (d : Dictionary) : String :=
  Text.asciiLower (primarySubtag d.language)

def Speaks (d : Dictionary) (language : String) : Prop :=
  d.subtag = subtagOf language

def HasTag (d : Dictionary) (language : String) : Prop :=
  Text.asciiLower d.language = Text.asciiLower (Text.trim language)

theorem HasTag.speaks (h : d.HasTag language) : d.Speaks language := by
  rw [Speaks, subtag, subtagOf, asciiLower_primarySubtag, asciiLower_primarySubtag, h]

theorem eq_of_subtag_eq (hd : d ∈ all) (hother : other ∈ all) (h : d.subtag = other.subtag) :
    d = other := by
  have hnodup : (all.map subtag).Nodup := by decide +kernel
  exact List.inj_on_of_nodup_map hnodup hd hother h

structure Resolves (language : String) (d : Dictionary) (how : LanguageMatch) : Prop where
  mem_all : d ∈ all
  eq_of_speaks : ∀ other ∈ all, other.Speaks language → d = other
  eq_english : (∀ other ∈ all, ¬ other.Speaks language) → d = english
  exact_iff : how = .exact ↔ d.HasTag language
  subtag_iff : how = .subtag ↔ d.Speaks language ∧ ¬ d.HasTag language
  fallback_iff : how = .fallback ↔ ∀ other ∈ all, ¬ other.Speaks language

theorem resolves_of_speaks (hd : d ∈ all) (h : d.Speaks language) {how : LanguageMatch}
    (hexact : how = .exact ↔ d.HasTag language) (hhow : how ≠ .fallback) :
    Resolves language d how where
  mem_all := hd
  eq_of_speaks other hall hother := eq_of_subtag_eq hd hall (h.trans hother.symm)
  eq_english hnone := absurd h (hnone d hd)
  exact_iff := hexact
  subtag_iff := by
    rw [← hexact]
    cases how <;> simp_all
  fallback_iff := ⟨fun hfallback => absurd hfallback hhow, fun hnone => absurd h (hnone d hd)⟩

theorem resolves_english (hnone : ∀ other ∈ all, ¬ other.Speaks language) :
    Resolves language english .fallback where
  mem_all := List.mem_cons_self
  eq_of_speaks other hall hother := absurd hother (hnone other hall)
  eq_english _ := rfl
  exact_iff := ⟨nofun, fun htag => absurd htag.speaks (hnone english List.mem_cons_self)⟩
  subtag_iff := ⟨nofun, fun h => absurd h.1 (hnone english List.mem_cons_self)⟩
  fallback_iff := ⟨fun _ => hnone, fun _ => rfl⟩

theorem isFor_iff : d.isFor (Text.trim language) = true ↔ d.HasTag language :=
  Text.sameIgnoringCase_iff

theorem sharesSubtag_iff : d.sharesSubtag (Text.trim language) = true ↔ d.Speaks language :=
  Text.sameIgnoringCase_iff

theorem resolves_resolve (language : String) :
    Resolves language (resolve language).1 (resolve language).2 := by
  unfold resolve resolveTag
  cases htag : all.find? (·.isFor (Text.trim language)) with
  | some d =>
    -- the tag has the subtag in it, so the search by subtag could not have found another one
    have hfound := List.find?_some htag
    have hd : d.HasTag language := isFor_iff.mp hfound
    exact resolves_of_speaks (List.mem_of_find?_eq_some htag) hd.speaks (by simp [hd]) nofun
  | none =>
    cases hsubtag : all.find? (·.sharesSubtag (Text.trim language)) with
    | some d =>
      have hfound := List.find?_some hsubtag
      have hall := List.mem_of_find?_eq_some hsubtag
      have hother : ¬ d.HasTag language := mt isFor_iff.mpr (List.find?_eq_none.mp htag d hall)
      exact resolves_of_speaks hall (sharesSubtag_iff.mp hfound) (by simp [hother]) nofun
    | none =>
      apply resolves_english
      intro other hall
      exact mt sharesSubtag_iff.mpr (List.find?_eq_none.mp hsubtag other hall)

theorem Resolves.eq_of_subtagOf_eq {language' : String} {d' : Dictionary}
    {how how' : LanguageMatch} (h : Resolves language d how) (h' : Resolves language' d' how')
    (hsubtag : subtagOf language' = subtagOf language) : d' = d := by
  have hspeaks : ∀ other : Dictionary, other.Speaks language' ↔ other.Speaks language := by
    intro other
    rw [Speaks, Speaks, hsubtag]
  by_cases hspoken : ∃ other ∈ all, other.Speaks language
  · obtain ⟨other, hall, hother⟩ := hspoken
    rw [h.eq_of_speaks other hall hother, h'.eq_of_speaks other hall ((hspeaks other).mpr hother)]
  · simp only [not_exists, not_and] at hspoken
    rw [h.eq_english hspoken, h'.eq_english]
    intro other hall
    rw [hspeaks]
    exact hspoken other hall

end Dictionary

namespace Units

def knownNames : List String :=
  ["metric", "kilometers", "km", "imperial", "miles", "mi"]

theorem isSome_ofText?_iff {s : String} :
    (ofText? s).isSome = true ↔ Text.asciiLower (Text.trim s) ∈ knownNames := by
  unfold ofText?
  split <;> simp_all [knownNames]

end Units

namespace Record

def isAboutUnits : Record → Bool
  | unknownUnits .. => true
  | _ => false

def isAboutLanguage : Record → Bool
  | otherRegion .. | unknownLanguage .. => true
  | _ => false

end Record

theorem Units.countP_records (given : String) :
    (records given).countP (·.isAboutUnits) =
      (if Text.asciiLower (Text.trim given) ∈ knownNames then 0 else 1) ∧
    (records given).countP (·.isAboutLanguage) = 0 := by
  unfold records
  simp only [isSome_ofText?_iff]
  split <;> exact ⟨rfl, rfl⟩

theorem Dictionary.countP_records (language : String) :
    (records language).countP (·.isAboutLanguage) =
      (if (resolve language).2 = .exact then 0 else 1) ∧
    (records language).countP (·.isAboutUnits) = 0 := by
  unfold records
  split <;> simp_all [Record.isAboutLanguage, Record.isAboutUnits]

namespace Options

theorem warns_of_mem_records {units language : String} {r : Record}
    (h : r ∈ records units language) :
    r.level = .warn ∧ (r.isAboutUnits = true ∨ r.isAboutLanguage = true) := by
  rcases List.mem_append.mp h with h | h
  · unfold Units.records at h
    split at h
    · cases h
    · rw [List.mem_singleton.mp h]
      exact ⟨rfl, .inl rfl⟩
  · unfold Dictionary.records at h
    split at h
    · cases h
    · rw [List.mem_singleton.mp h]
      exact ⟨rfl, .inr rfl⟩
    · rw [List.mem_singleton.mp h]
      exact ⟨rfl, .inr rfl⟩

theorem resolves_and_warns (units language : String) :
    Dictionary.Resolves language (Dictionary.resolve language).1 (Dictionary.resolve language).2 ∧
    (∀ language', subtagOf language' = subtagOf language →
      (Dictionary.resolve language').1 = (Dictionary.resolve language).1) ∧
    (∀ r ∈ records units language,
      r.level = .warn ∧ (r.isAboutUnits = true ∨ r.isAboutLanguage = true)) ∧
    (records units language).countP (·.isAboutLanguage) =
      (if (Dictionary.resolve language).2 = .exact then 0 else 1) ∧
    (records units language).countP (·.isAboutUnits) =
      if Text.asciiLower (Text.trim units) ∈ Units.knownNames then 0 else 1 := by
  have hresolves := Dictionary.resolves_resolve language
  obtain ⟨hunits, hunits'⟩ := Units.countP_records units
  obtain ⟨hlanguage, hlanguage'⟩ := Dictionary.countP_records language
  refine ⟨hresolves, ?_, ?_, ?_, ?_⟩
  · intro language' hsubtag
    exact hresolves.eq_of_subtagOf_eq (Dictionary.resolves_resolve language') hsubtag
  · intro r
    exact warns_of_mem_records
  · rw [records, List.countP_append, hunits', hlanguage, Nat.zero_add]
  · rw [records, List.countP_append, hunits, hlanguage', Nat.add_zero]

theorem resolves_and_warns_swissGerman :
    subtagOf " DE-ch" = subtagOf "de_AT" ∧
    (Dictionary.resolve " DE-ch").1 = german ∧ (Dictionary.resolve "de_AT").1 = german ∧
    (Dictionary.resolve "de_AT").2 = .subtag ∧
    (records "Miles " "de_AT").countP (·.isAboutLanguage) = 1 ∧
    (records "Miles " "de_AT").countP (·.isAboutUnits) = 0 := by
  obtain ⟨hresolves, hsame, -, hlanguage, hunits⟩ := resolves_and_warns "Miles " "de_AT"
  have hswiss : subtagOf " DE-ch" = "de" := by decide +kernel
  have haustrian : subtagOf "de_AT" = "de" := by decide +kernel
  have hsubtag : subtagOf " DE-ch" = subtagOf "de_AT" := hswiss.trans haustrian.symm
  have hspeaks : german.subtag = subtagOf "de_AT" := by decide +kernel
  have htag : Text.asciiLower german.language ≠ Text.asciiLower (Text.trim "de_AT") := by
    decide +kernel
  have hmem : german ∈ Dictionary.all := List.mem_cons_of_mem _ List.mem_cons_self
  have hgerman := hresolves.eq_of_speaks german hmem hspeaks
  have hhow : (Dictionary.resolve "de_AT").2 = .subtag := by
    rw [hresolves.subtag_iff, hgerman]
    exact ⟨hspeaks, htag⟩
  refine ⟨hsubtag, (hsame _ hsubtag).trans hgerman, hgerman, hhow, ?_, ?_⟩
  · rw [hlanguage, hhow]
    rfl
  · rw [hunits]
    decide +kernel

end Options

end TurnByTurn
