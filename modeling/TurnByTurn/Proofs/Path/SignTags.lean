import Mathlib.Data.List.Chain
import TurnByTurn.Proofs.Path.TagKeys

/-!
The sign of an edge by the tags that were set on it. Each kind of tokens keeps the texts of its own
tags and their order, divided into runs of equal texts; there is one way only to divide them so.
-/

namespace TurnByTurn

structure AreRuns (elements : List SignElement) (texts : List String) : Prop where
  flatMap_texts : elements.flatMap SignElement.texts = texts
  isChain : elements.IsChain fun a b => a.text ≠ b.text
  count_pos : ∀ e ∈ elements, 0 < e.count

section Runs

variable {elements : List SignElement} {texts : List String}

theorem isChain_countRuns (texts : List String) :
    (countRuns texts).IsChain fun a b => a.text ≠ b.text := by
  induction texts with
  | nil => exact .nil
  | cons text rest ih =>
    rw [countRuns]
    split
    · exact .singleton _
    · next e elements hruns =>
      rw [hruns] at ih
      split
      · next htext =>
        rw [List.isChain_cons] at ih ⊢
        exact ⟨htext ▸ ih.1, ih.2⟩
      · next htext => exact .cons_cons (Ne.symm htext) ih

theorem areRuns_countRuns (texts : List String) : AreRuns (countRuns texts) texts :=
  ⟨flatMap_texts_countRuns texts, isChain_countRuns texts, fun _ => count_pos_of_mem_countRuns⟩

theorem countRuns_cons_self {text : String} {n : Nat}
    (h : countRuns texts = ⟨text, n⟩ :: elements) :
    countRuns (text :: texts) = ⟨text, n + 1⟩ :: elements := by
  rw [countRuns, h]
  exact if_pos rfl

theorem countRuns_cons_of_ne {text : String} (h : ∀ e ∈ (countRuns texts).head?, text ≠ e.text) :
    countRuns (text :: texts) = ⟨text, 1⟩ :: countRuns texts := by
  rw [countRuns]
  cases hruns : countRuns texts with
  | nil => rfl
  | cons e elements =>
    rw [hruns] at h
    exact if_neg (h e rfl).symm

theorem countRuns_replicate_append {text : String}
    (h : ∀ e ∈ (countRuns texts).head?, text ≠ e.text) (n : Nat) :
    countRuns (List.replicate (n + 1) text ++ texts) = ⟨text, n + 1⟩ :: countRuns texts := by
  induction n with
  | zero => exact countRuns_cons_of_ne h
  | succ n ih => exact countRuns_cons_self ih

theorem AreRuns.eq_countRuns (h : AreRuns elements texts) : elements = countRuns texts := by
  obtain ⟨rfl, hchain, hpos⟩ := h
  induction elements with
  | nil => rfl
  | cons e elements ih =>
    rw [List.isChain_cons] at hchain
    have hrest := ih hchain.2 fun d hd => hpos d (List.mem_cons_of_mem e hd)
    obtain ⟨n, hn⟩ := Nat.exists_eq_add_one_of_ne_zero (hpos e List.mem_cons_self).ne'
    -- the run stops where the next element begins with another text, so nothing more joins it
    have hhead : ∀ d ∈ (countRuns (elements.flatMap SignElement.texts)).head?, e.text ≠ d.text := by
      rw [← hrest]
      exact hchain.1
    rw [List.flatMap_cons, SignElement.texts, hn, countRuns_replicate_append hhead, ← hrest, ← hn]

end Runs

def signTexts (tags : List (String × String)) (kind : SignKind) : List String :=
  (tags.filter (·.1 ∈ kind.keys)).flatMap fun tag => tagTokens tag.2

theorem textsOf_sign_withTags (e : Edge) (tags : List (String × String)) (kind : SignKind) :
    Signs.textsOf (e.withTags tags).sign kind =
      Signs.textsOf e.sign kind ++ signTexts tags kind := by
  induction tags generalizing e with
  | nil => exact (List.append_nil _).symm
  | cons tag tags ih =>
    have hstep : Signs.textsOf (e.withTags (tag :: tags)).sign kind =
        Signs.textsOf (e.setTag tag.1 tag.2).sign kind ++ signTexts tags kind := ih _
    rw [hstep, Edge.textsOf_sign_setTag, List.append_assoc]
    by_cases hkey : tag.1 ∈ kind.keys <;> simp [signTexts, hkey]

namespace Signs

theorem eq_nil_iff_textsOf {tokens : List SignToken} :
    tokens = [] ↔ ∀ kind, textsOf tokens kind = [] := by
  constructor
  · rintro rfl kind
    rfl
  · intro h
    cases tokens with
    | nil => rfl
    | cons token tokens =>
      have hkind := h token.kind
      simp [textsOf] at hkind

theorem ofTokens?_eq_none_iff {tokens : List SignToken} :
    ofTokens? tokens = none ↔ ∀ kind, textsOf tokens kind = [] := by
  rw [← eq_nil_iff_textsOf, ofTokens?]
  simp

theorem ofTokens?_congr {tokens tokens' : List SignToken}
    (h : ∀ kind, textsOf tokens kind = textsOf tokens' kind) :
    ofTokens? tokens = ofTokens? tokens' := by
  have hempty : tokens.isEmpty = tokens'.isEmpty := by
    rw [Bool.eq_iff_iff, List.isEmpty_iff, List.isEmpty_iff, eq_nil_iff_textsOf,
      eq_nil_iff_textsOf]
    simp only [h]
  simp only [ofTokens?, listOf?, hempty, h]

theorem list?_eq_none_iff {tokens : List SignToken} {s : Signs} (h : ofTokens? tokens = some s)
    (kind : SignKind) : s.list? kind = none ↔ textsOf tokens kind = [] := by
  rw [list?_of_ofTokens? h, listOf?, ← countRuns_eq_nil_iff, ← List.isEmpty_iff]
  simp

end Signs

namespace Edge

variable {bare : Edge}

theorem signs_withTags (hbare : bare.sign = []) (tags : List (String × String)) :
    (Signs.ofTokens? (bare.withTags tags).sign = none ↔ ∀ kind, signTexts tags kind = []) ∧
    (∀ s, Signs.ofTokens? (bare.withTags tags).sign = some s → ∀ kind,
      (s.list? kind = none ↔ signTexts tags kind = []) ∧
      AreRuns (s.elements kind) (signTexts tags kind) ∧
      (∀ other, AreRuns other (signTexts tags kind) → other = s.elements kind) ∧
      ∀ e ∈ s.elements kind, e.count ≤ (signTexts tags kind).length) ∧
    ∀ tags' : List (String × String),
      (∀ kind : SignKind, tags'.filter (·.1 ∈ kind.keys) = tags.filter (·.1 ∈ kind.keys)) →
      Signs.ofTokens? (bare.withTags tags').sign = Signs.ofTokens? (bare.withTags tags).sign := by
  have htexts : ∀ tags kind,
      Signs.textsOf (bare.withTags tags).sign kind = signTexts tags kind := by
    intro tags kind
    rw [textsOf_sign_withTags, hbare]
    rfl
  refine ⟨?_, ?_, ?_⟩
  · simp only [Signs.ofTokens?_eq_none_iff, htexts]
  · intro s hs kind
    have hruns : s.elements kind = countRuns (signTexts tags kind) := by
      rw [Signs.elements_of_ofTokens? hs, htexts]
    refine ⟨?_, ?_, ?_, ?_⟩
    · rw [Signs.list?_eq_none_iff hs, htexts]
    · rw [hruns]
      exact areRuns_countRuns _
    · intro other hother
      rw [hruns, hother.eq_countRuns]
    · rw [hruns]
      exact fun e => count_le_length_of_mem_countRuns
  · intro tags' h
    apply Signs.ofTokens?_congr
    intro kind
    rw [htexts, htexts, signTexts, h kind, signTexts]

def exitTags : List (String × String) :=
  [("destination", "Newark"), ("junction:ref", "12A"), ("destination:ref:to", "Newark; Airport")]

theorem signs_withTags_exitTags :
    ({} : Edge).sign = [] ∧
    (Signs.ofTokens? (({} : Edge).withTags exitTags).sign = none ↔
      ∀ kind, signTexts exitTags kind = []) ∧
    (∀ s, Signs.ofTokens? (({} : Edge).withTags exitTags).sign = some s → ∀ kind,
      (s.list? kind = none ↔ signTexts exitTags kind = []) ∧
      AreRuns (s.elements kind) (signTexts exitTags kind) ∧
      (∀ other, AreRuns other (signTexts exitTags kind) → other = s.elements kind) ∧
      ∀ e ∈ s.elements kind, e.count ≤ (signTexts exitTags kind).length) ∧
    ∀ tags' : List (String × String),
      (∀ kind : SignKind, tags'.filter (·.1 ∈ kind.keys) = exitTags.filter (·.1 ∈ kind.keys)) →
      Signs.ofTokens? (({} : Edge).withTags tags').sign =
        Signs.ofTokens? (({} : Edge).withTags exitTags).sign :=
  ⟨rfl, signs_withTags rfl exitTags⟩

example : Signs.ofTokens? (({} : Edge).withTags exitTags).sign =
    some {
      exitNumbers := some [⟨"12A", 1⟩]
      exitTowards := some [⟨"Newark", 2⟩, ⟨"Airport", 1⟩] } := by
  decide +kernel

end Edge

end TurnByTurn
