import TurnByTurn.Proofs.Path.Names
import TurnByTurn.Sign

namespace TurnByTurn

def NameKey.key : NameKey → String
  | ref => "ref"
  | routeRef => "route_ref"
  | intRef => "int_ref"
  | name => "name"
  | nameEn => "name:en"
  | altName => "alt_name"
  | officialName => "official_name"

def SignKind.keys : SignKind → List String
  | exitNumber => ["junction:ref"]
  | exitBranch => ["destination:ref"]
  | exitToward => ["destination", "destination:ref:to"]
  | exitName => ["junction:name"]

section Keys

variable {key : String} {k : NameKey} {kind : SignKind}

theorem NameKey.ofTag?_eq_some_iff : ofTag? key = some k ↔ key = k.key := by
  constructor
  · intro h
    unfold ofTag? at h
    split at h <;> cases h <;> rfl
  · rintro rfl
    cases k <;> rfl

theorem NameKey.key_inj {other : NameKey} : k.key = other.key ↔ k = other := by
  rw [← ofTag?_eq_some_iff, ofTag?_eq_some_iff.mpr rfl, Option.some_inj]

theorem SignKind.ofTag?_eq_some_iff : ofTag? key = some kind ↔ key ∈ kind.keys := by
  constructor
  · intro h
    unfold ofTag? at h
    split at h <;> cases h <;> decide
  · intro h
    cases kind <;> simp only [keys, List.mem_cons, List.not_mem_nil, or_false] at h
    case exitToward => rcases h with rfl | rfl <;> rfl
    all_goals subst h; rfl

theorem NameKey.key_notMem_keys (k : NameKey) (kind : SignKind) : k.key ∉ kind.keys := by
  cases k <;> cases kind <;> decide

namespace TagKey

theorem ofTag?_eq_naming_iff : ofTag? key = some (.naming k) ↔ key = k.key := by
  rw [← NameKey.ofTag?_eq_some_iff]
  unfold ofTag?
  cases NameKey.ofTag? key <;> simp

theorem ofTag?_eq_sign_iff : ofTag? key = some (.sign kind) ↔ key ∈ kind.keys := by
  rw [← SignKind.ofTag?_eq_some_iff]
  unfold ofTag?
  cases hname : NameKey.ofTag? key with
  | none => simp
  | some k =>
    rw [NameKey.ofTag?_eq_some_iff] at hname
    simp [SignKind.ofTag?_eq_some_iff, hname, NameKey.key_notMem_keys]

theorem ofTag?_eq_none_iff :
    ofTag? key = none ↔ (∀ k : NameKey, key ≠ k.key) ∧ ∀ kind : SignKind, key ∉ kind.keys := by
  simp only [Option.eq_none_iff_forall_ne_some, ne_eq, ← ofTag?_eq_naming_iff,
    ← ofTag?_eq_sign_iff]
  constructor
  · intro h
    exact ⟨fun k => h (.naming k), fun kind => h (.sign kind)⟩
  · rintro ⟨hname, hsign⟩ (k | kind)
    · exact hname k
    · exact hsign kind

end TagKey

end Keys

namespace Edge

variable (e : Edge) (key value : String)

theorem setTag_of_none (h : e.setTag? key value = none) : e.setTag key value = e := by
  rw [setTag, h]
  rfl

theorem get_names_setTag (k : NameKey) :
    (e.setTag key value).names.get k = if key = k.key then value else e.names.get k := by
  unfold setTag setTag?
  cases htag : TagKey.ofTag? key with
  | none =>
    have hne : key ≠ k.key := (TagKey.ofTag?_eq_none_iff.mp htag).1 k
    rw [if_neg hne]
    rfl
  | some t =>
    cases t with
    | naming other =>
      obtain rfl := TagKey.ofTag?_eq_naming_iff.mp htag
      have hkeys : other.key = k.key ↔ k = other := NameKey.key_inj.trans eq_comm
      simp only [Option.map_some, Option.getD_some, putTag, NameTags.get_set, hkeys]
    | sign kind =>
      have hmem := TagKey.ofTag?_eq_sign_iff.mp htag
      have hne : key ≠ k.key := by
        rintro rfl
        exact NameKey.key_notMem_keys k kind hmem
      rw [if_neg hne]
      rfl

theorem textsOf_sign_setTag (kind : SignKind) :
    Signs.textsOf (e.setTag key value).sign kind =
      Signs.textsOf e.sign kind ++ if key ∈ kind.keys then tagTokens value else [] := by
  unfold setTag setTag?
  cases htag : TagKey.ofTag? key with
  | none =>
    have hno : key ∉ kind.keys := (TagKey.ofTag?_eq_none_iff.mp htag).2 kind
    rw [if_neg hno, List.append_nil]
    rfl
  | some t =>
    have hmem : t = .sign kind ↔ key ∈ kind.keys := by
      rw [← TagKey.ofTag?_eq_sign_iff, htag, Option.some_inj]
    simp only [Option.map_some, Option.getD_some, ← hmem]
    cases t with
    | naming k => simp [putTag]
    | sign other =>
      by_cases hkind : other = kind <;>
        simp [putTag, Signs.textsOf, hkind, List.filter_map, Function.comp_def]

theorem roadClass_setTag : (e.setTag key value).roadClass = e.roadClass := by
  unfold setTag setTag?
  cases TagKey.ofTag? key with
  | none => rfl
  | some t => cases t <;> rfl

theorem withTags_concat (tags : List (String × String)) (tag : String × String) :
    e.withTags (tags ++ [tag]) = (e.withTags tags).setTag tag.1 tag.2 := by
  rw [withTags, List.foldl_append]
  rfl

theorem roadClass_withTags (tags : List (String × String)) :
    (e.withTags tags).roadClass = e.roadClass := by
  induction tags generalizing e with
  | nil => rfl
  | cons tag tags ih => exact (ih (e.setTag tag.1 tag.2)).trans (e.roadClass_setTag tag.1 tag.2)

end Edge

end TurnByTurn
