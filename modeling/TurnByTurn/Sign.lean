import TurnByTurn.Path.Basic

namespace TurnByTurn

structure SignElement where
  text : String
  count : Nat
deriving DecidableEq, Repr

def SignElement.texts (e : SignElement) : List String :=
  List.replicate e.count e.text

def countRuns : List String → List SignElement
  | [] => []
  | text :: rest =>
    match countRuns rest with
    | [] => [⟨text, 1⟩]
    | e :: elements => if e.text = text then ⟨text, e.count + 1⟩ :: elements
      else ⟨text, 1⟩ :: e :: elements

theorem countRuns_eq_nil_iff (texts : List String) : countRuns texts = [] ↔ texts = [] := by
  fun_cases countRuns texts <;> simp_all

theorem flatMap_texts_countRuns (texts : List String) :
    (countRuns texts).flatMap SignElement.texts = texts := by
  induction texts with
  | nil => rfl
  | cons text rest ih =>
    rw [countRuns]
    split
    · next h => simp_all [SignElement.texts]
    · next e elements h =>
      rw [h, List.flatMap_cons] at ih
      split
      · next he => simp [← ih, SignElement.texts, List.replicate_succ, he]
      · simp [← ih, SignElement.texts]

theorem count_pos_of_mem_countRuns {texts : List String} {e : SignElement}
    (h : e ∈ countRuns texts) : 0 < e.count := by
  induction texts generalizing e with
  | nil => simp [countRuns] at h
  | cons text rest ih =>
    rw [countRuns] at h
    split at h
    · simp_all
    · next d elements hd =>
      split at h <;> rcases List.mem_cons.mp h with rfl | h
      · exact Nat.succ_pos _
      · exact ih (by simp [hd, h])
      · exact Nat.one_pos
      · exact ih (by simpa [hd] using h)

theorem count_le_length_of_mem_countRuns {texts : List String} {e : SignElement}
    (h : e ∈ countRuns texts) : e.count ≤ texts.length := by
  have hsub : e.texts.Sublist ((countRuns texts).flatMap SignElement.texts) := by
    rw [List.flatMap_def]
    exact List.sublist_flatten_of_mem (List.mem_map_of_mem h)
  have hle := hsub.length_le
  rwa [flatMap_texts_countRuns, SignElement.texts, List.length_replicate] at hle

structure Signs where
  exitNumbers : Option (List SignElement) := none
  exitBranches : Option (List SignElement) := none
  exitTowards : Option (List SignElement) := none
  exitNames : Option (List SignElement) := none
deriving DecidableEq, Repr, Inhabited

namespace Signs

def list? (s : Signs) : SignKind → Option (List SignElement)
  | .exitNumber => s.exitNumbers
  | .exitBranch => s.exitBranches
  | .exitToward => s.exitTowards
  | .exitName => s.exitNames

def elements (s : Signs) (kind : SignKind) : List SignElement :=
  (s.list? kind).getD []

def textsOf (tokens : List SignToken) (kind : SignKind) : List String :=
  (tokens.filter (·.kind = kind)).map (·.text)

def listOf? (tokens : List SignToken) (kind : SignKind) : Option (List SignElement) :=
  let elements := countRuns (textsOf tokens kind)
  if elements.isEmpty then none else some elements

def ofTokens? (tokens : List SignToken) : Option Signs :=
  if tokens.isEmpty then none
  else some {
    exitNumbers := listOf? tokens .exitNumber
    exitBranches := listOf? tokens .exitBranch
    exitTowards := listOf? tokens .exitToward
    exitNames := listOf? tokens .exitName }

theorem list?_of_ofTokens? {tokens : List SignToken} {s : Signs} (h : ofTokens? tokens = some s)
    (kind : SignKind) : s.list? kind = listOf? tokens kind := by
  unfold ofTokens? at h
  split at h
  · cases h
  · cases h
    cases kind <;> rfl

theorem elements_of_ofTokens? {tokens : List SignToken} {s : Signs} (h : ofTokens? tokens = some s)
    (kind : SignKind) : s.elements kind = countRuns (textsOf tokens kind) := by
  rw [elements, list?_of_ofTokens? h]
  cases hruns : countRuns (textsOf tokens kind) <;> simp [listOf?, hruns]

def joined (s : Signs) (kind : SignKind) : String :=
  "/".intercalate ((s.elements kind).map (·.text))

end Signs

end TurnByTurn
