import Mathlib.Data.List.Infix
import Mathlib.Tactic.Cases
import TurnByTurn.Narrative.Template

/-!
Templates filled in one pass. Putting in the data of one placeholder after another comes to the same
as long as only the data put in last may hold an opening brace: what is put in earlier is searched
again.
-/

namespace TurnByTurn

section Replacing

variable {pattern value : List Char}

theorem replaceFrom_eq_replaceAll_drop (skip : Nat) (text : List Char) :
    replaceFrom pattern value skip text = replaceAll pattern value (text.drop skip) := by
  induction text generalizing skip with
  | nil => cases skip <;> rfl
  | cons c rest ih =>
    cases skip with
    | zero => rfl
    | succ skip => exact ih skip

theorem replaceAll_pattern_append (hpattern : pattern ≠ []) (rest : List Char) :
    replaceAll pattern value (pattern ++ rest) = value ++ replaceAll pattern value rest := by
  obtain ⟨c, tail, rfl⟩ := List.exists_cons_of_ne_nil hpattern
  have hprefix : (c :: tail).isPrefixOf (c :: (tail ++ rest)) = true := by
    rw [List.isPrefixOf_iff_prefix]
    exact List.prefix_append (c :: tail) rest
  rw [List.cons_append, replaceAll, replaceFrom, if_pos hprefix, List.length_cons,
    Nat.add_sub_cancel, replaceFrom_eq_replaceAll_drop, List.drop_left]

theorem replaceAll_cons {c : Char} {rest : List Char} (h : ¬ pattern <+: c :: rest) :
    replaceAll pattern value (c :: rest) = c :: replaceAll pattern value rest := by
  have hprefix : ¬ pattern.isPrefixOf (c :: rest) = true := by rwa [List.isPrefixOf_iff_prefix]
  rw [replaceAll, replaceFrom, if_neg hprefix]
  rfl

theorem search_induction {motive : List Char → Prop} (hpattern : pattern ≠ []) (nil : motive [])
    (found : ∀ rest, motive rest → motive (pattern ++ rest))
    (other : ∀ c rest, ¬ pattern <+: c :: rest → motive rest → motive (c :: rest))
    (text : List Char) : motive text := by
  -- on the length, since the search goes on behind a whole occurrence
  induction hn : text.length using Nat.strong_induction_on generalizing text with
  | _ n ih =>
    cases text with
    | nil => exact nil
    | cons c rest =>
      by_cases hprefix : pattern <+: c :: rest
      · obtain ⟨more, hmore⟩ := hprefix
        have hlength := congrArg List.length hmore
        have hpos := List.length_pos_iff.mpr hpattern
        rw [List.length_append] at hlength
        rw [← hmore]
        exact found more (ih more.length (by omega) more rfl)
      · rw [List.length_cons] at hn
        exact other c rest hprefix (ih rest.length (by omega) rest rfl)

theorem prefix_append_cons_iff {c : Char} (hc : c ∉ pattern) (text rest : List Char) :
    pattern <+: text ++ c :: rest ↔ pattern <+: text := by
  constructor
  · intro h
    rcases List.prefix_or_prefix_of_prefix h (List.prefix_append text (c :: rest)) with h' | h'
    · exact h'
    · obtain ⟨more, rfl⟩ := h'
      rw [List.prefix_append_right_inj] at h
      cases more with
      | nil => simp
      | cons d more =>
        have hd : d = c := (List.cons_prefix_cons.mp h).1
        exact absurd (by simp [hd]) hc
  · intro h
    exact h.trans (List.prefix_append text (c :: rest))

theorem replaceAll_append_cons (hpattern : pattern ≠ []) {c : Char} (hc : c ∉ pattern)
    (text rest : List Char) :
    replaceAll pattern value (text ++ c :: rest) =
      replaceAll pattern value text ++ c :: replaceAll pattern value rest := by
  induction text using search_induction hpattern with
  | nil =>
    have hother : ¬ pattern <+: c :: rest := by
      intro h
      exact hpattern (List.prefix_nil.mp ((prefix_append_cons_iff hc [] rest).mp h))
    rw [List.nil_append, replaceAll_cons hother]
    rfl
  | found more ih =>
    rw [List.append_assoc, replaceAll_pattern_append hpattern, replaceAll_pattern_append hpattern,
      ih, List.append_assoc]
  | other d more hother ih =>
    have hother' : ¬ pattern <+: d :: (more ++ c :: rest) := by
      rw [← List.cons_append, prefix_append_cons_iff hc]
      exact hother
    rw [List.cons_append, replaceAll_cons hother', replaceAll_cons hother, ih, List.cons_append]

theorem replaceAll_eq_self_of_not_infix {text : List Char} (h : ¬ pattern <:+: text) :
    replaceAll pattern value text = text := by
  induction text with
  | nil => rfl
  | cons c rest ih =>
    rw [List.infix_cons_iff, not_or] at h
    rw [replaceAll_cons h.1, ih h.2]

theorem replaceAll_self (hpattern : pattern ≠ []) (text : List Char) :
    replaceAll pattern pattern text = text := by
  induction text using search_induction hpattern with
  | nil => rfl
  | found rest ih => rw [replaceAll_pattern_append hpattern, ih]
  | other c rest hother ih => rw [replaceAll_cons hother, ih]

theorem length_le_length_replaceAll (hpattern : pattern ≠ [])
    (h : pattern.length ≤ value.length) (text : List Char) :
    text.length ≤ (replaceAll pattern value text).length := by
  induction text using search_induction hpattern with
  | nil => exact Nat.zero_le _
  | found rest ih =>
    rw [replaceAll_pattern_append hpattern, List.length_append, List.length_append]
    omega
  | other c rest hother ih =>
    rw [replaceAll_cons hother, List.length_cons, List.length_cons]
    omega

theorem length_replaceAll_le_length (hpattern : pattern ≠ [])
    (h : value.length ≤ pattern.length) (text : List Char) :
    (replaceAll pattern value text).length ≤ text.length := by
  induction text using search_induction hpattern with
  | nil => exact Nat.zero_le _
  | found rest ih =>
    rw [replaceAll_pattern_append hpattern, List.length_append, List.length_append]
    omega
  | other c rest hother ih =>
    rw [replaceAll_cons hother, List.length_cons, List.length_cons]
    omega

theorem eq_pattern_of_replaceAll_eq_self (hpattern : pattern ≠ []) {text : List Char}
    (hoccurs : pattern <:+: text) (h : replaceAll pattern value text = text) : value = pattern := by
  induction text using search_induction hpattern with
  | nil => exact absurd (List.infix_nil.mp hoccurs) hpattern
  | found rest =>
    rw [replaceAll_pattern_append hpattern] at h
    have hlength := congrArg List.length h
    have hgrows : pattern.length ≤ value.length →
        rest.length ≤ (replaceAll pattern value rest).length :=
      fun hle => length_le_length_replaceAll hpattern hle rest
    have hshrinks : value.length ≤ pattern.length →
        (replaceAll pattern value rest).length ≤ rest.length :=
      fun hle => length_replaceAll_le_length hpattern hle rest
    rw [List.length_append, List.length_append] at hlength
    -- what comes later grows or shrinks along with this occurrence, so neither does
    exact (List.append_inj h (by omega)).1
  | other c rest hother ih =>
    rw [replaceAll_cons hother, List.cons_inj_right] at h
    exact ih ((List.infix_cons_iff.mp hoccurs).resolve_left hother) h

theorem replaceAll_eq_self_iff (hpattern : pattern ≠ []) (text : List Char) :
    replaceAll pattern value text = text ↔ value = pattern ∨ ¬ pattern <:+: text := by
  constructor
  · intro h
    by_cases hoccurs : pattern <:+: text
    · exact .inl (eq_pattern_of_replaceAll_eq_self hpattern hoccurs h)
    · exact .inr hoccurs
  · rintro (rfl | h)
    · exact replaceAll_self hpattern text
    · exact replaceAll_eq_self_of_not_infix h

end Replacing

namespace Placeholder

def all : List Placeholder :=
  [street, cardinal, length, n, number, toward, ordinal, route, headsign, count, place, time]

theorem mem_all (p : Placeholder) : p ∈ all := by
  cases p <;> decide

theorem toList_mark (p : Placeholder) :
    p.mark.toList = '\x7b' :: (p.name.toList ++ ['\x7d']) := by
  simp [mark]

theorem mark_ne_nil (p : Placeholder) : p.mark.toList ≠ [] := by
  simp [toList_mark]

theorem brace_notMem_name (p : Placeholder) : '\x7b' ∉ p.name.toList := by
  cases p <;> decide

theorem eq_of_mark_isPrefix {p q : Placeholder} (h : p.mark.toList <+: q.mark.toList) : p = q := by
  revert h
  cases p <;> cases q <;> decide

theorem eq_of_marks_isPrefix {p q : Placeholder} {text : List Char} (hp : p.mark.toList <+: text)
    (hq : q.mark.toList <+: text) : p = q := by
  rcases List.prefix_or_prefix_of_prefix hp hq with h | h
  · exact eq_of_mark_isPrefix h
  · exact (eq_of_mark_isPrefix h).symm

theorem not_mark_isPrefix_cons (p : Placeholder) {c : Char} (hc : c ≠ '\x7b') (rest : List Char) :
    ¬ p.mark.toList <+: c :: rest := by
  rw [toList_mark, List.cons_prefix_cons]
  rintro ⟨rfl, -⟩
  exact hc rfl

def at? (text : List Char) : Option Placeholder :=
  all.find? fun p => p.mark.toList.isPrefixOf text

theorem at?_eq_some_iff {p : Placeholder} {text : List Char} :
    at? text = some p ↔ p.mark.toList <+: text := by
  constructor
  · intro h
    have hprefix := List.find?_some h
    rwa [List.isPrefixOf_iff_prefix] at hprefix
  · intro h
    have hsome : (at? text).isSome := by
      rw [at?, List.find?_isSome]
      exact ⟨p, p.mem_all, List.isPrefixOf_iff_prefix.mpr h⟩
    obtain ⟨q, hq⟩ := Option.isSome_iff_exists.mp hsome
    have hprefix := List.find?_some hq
    rw [List.isPrefixOf_iff_prefix] at hprefix
    rw [hq, eq_of_marks_isPrefix hprefix h]

theorem at?_cons_of_ne {c : Char} (hc : c ≠ '\x7b') (rest : List Char) : at? (c :: rest) = none := by
  rw [Option.eq_none_iff_forall_ne_some]
  intro p h
  exact p.not_mark_isPrefix_cons hc rest (at?_eq_some_iff.mp h)

end Placeholder

/-- Puts data in the place of each placeholder, in one pass that never looks at what it has put
in. -/
def fillFrom (data : Placeholder → List Char) : Nat → List Char → List Char
  | _, [] => []
  | skip + 1, _ :: rest => fillFrom data skip rest
  | 0, c :: rest =>
    match Placeholder.at? (c :: rest) with
    | some p => data p ++ fillFrom data (p.mark.toList.length - 1) rest
    | none => c :: fillFrom data 0 rest

def fillAtOnce (data : Placeholder → String) (template : String) : String :=
  String.ofList (fillFrom (fun p => (data p).toList) 0 template.toList)

section Filling

variable {data : Placeholder → List Char}

theorem fillFrom_drop (skip : Nat) (text : List Char) :
    fillFrom data skip text = fillFrom data 0 (text.drop skip) := by
  induction text generalizing skip with
  | nil => cases skip <;> rfl
  | cons c rest ih =>
    cases skip with
    | zero => rfl
    | succ skip => exact ih skip

theorem fillFrom_cons {c : Char} (hc : c ≠ '\x7b') (rest : List Char) :
    fillFrom data 0 (c :: rest) = c :: fillFrom data 0 rest := by
  rw [fillFrom, Placeholder.at?_cons_of_ne hc]

theorem fillFrom_mark_append (p : Placeholder) (rest : List Char) :
    fillFrom data 0 (p.mark.toList ++ rest) = data p ++ fillFrom data 0 rest := by
  have hat : Placeholder.at? (p.mark.toList ++ rest) = some p :=
    Placeholder.at?_eq_some_iff.mpr (List.prefix_append _ rest)
  rw [p.toList_mark, List.cons_append] at hat ⊢
  rw [fillFrom, hat]
  dsimp only
  rw [p.toList_mark, List.length_cons, Nat.add_sub_cancel, fillFrom_drop, List.drop_left]

theorem fillFrom_append_of_notMem {text : List Char} (h : '\x7b' ∉ text) (rest : List Char) :
    fillFrom data 0 (text ++ rest) = text ++ fillFrom data 0 rest := by
  induction text with
  | nil => rfl
  | cons c text ih =>
    rw [List.mem_cons, not_or] at h
    rw [List.cons_append, fillFrom_cons (Ne.symm h.1), ih h.2, List.cons_append]

theorem fillFrom_of_notMem {text : List Char} (h : '\x7b' ∉ text) :
    fillFrom data 0 text = text := by
  have hnil : fillFrom data 0 [] = [] := rfl
  have happend : fillFrom data 0 (text ++ []) = text ++ fillFrom data 0 [] :=
    fillFrom_append_of_notMem h []
  rwa [hnil, List.append_nil] at happend

end Filling

inductive IsTemplate (slots : List Placeholder) : List Char → Prop
  | nil : IsTemplate slots []
  | char {c : Char} {rest : List Char} :
    c ≠ '\x7b' → IsTemplate slots rest → IsTemplate slots (c :: rest)
  | slot {p : Placeholder} {rest : List Char} :
    p ∈ slots → IsTemplate slots rest → IsTemplate slots (p.mark.toList ++ rest)

namespace IsTemplate

variable {slots : List Placeholder} {text : List Char} {data : Placeholder → List Char}

theorem mono {more : List Placeholder} (h : IsTemplate slots text) (hsub : slots ⊆ more) :
    IsTemplate more text := by
  induction h with
  | nil => exact nil
  | char hc _ ih => exact char hc ih
  | slot hp _ ih => exact slot (hsub hp) ih

theorem append {rest : List Char} (h : IsTemplate slots text) (hrest : IsTemplate slots rest) :
    IsTemplate slots (text ++ rest) := by
  induction h with
  | nil => exact hrest
  | char hc _ ih => exact char hc ih
  | slot hp _ ih => rw [List.append_assoc]; exact slot hp ih

theorem of_brace_notMem (h : '\x7b' ∉ text) : IsTemplate slots text := by
  induction text with
  | nil => exact nil
  | cons c rest ih =>
    rw [List.mem_cons, not_or] at h
    exact char (Ne.symm h.1) (ih h.2)

theorem fillFrom_append (h : IsTemplate slots text) (rest : List Char) :
    fillFrom data 0 (text ++ rest) = fillFrom data 0 text ++ fillFrom data 0 rest := by
  induction h with
  | nil => rfl
  | char hc _ ih => rw [List.cons_append, fillFrom_cons hc, fillFrom_cons hc, ih, List.cons_append]
  | slot hp _ ih =>
    rw [List.append_assoc, fillFrom_mark_append, fillFrom_mark_append, ih, List.append_assoc]

theorem fillFrom_eq_self (h : IsTemplate [] text) : fillFrom data 0 text = text := by
  induction h with
  | nil => rfl
  | char hc _ ih => rw [fillFrom_cons hc, ih]
  | slot hp => cases hp

end IsTemplate

section Replacing

variable {p q : Placeholder} {value text rest : List Char}

theorem replaceAll_mark_append_of_notMem (h : '\x7b' ∉ text) (rest : List Char) :
    replaceAll p.mark.toList value (text ++ rest) =
      text ++ replaceAll p.mark.toList value rest := by
  induction text with
  | nil => rfl
  | cons c text ih =>
    rw [List.mem_cons, not_or] at h
    rw [List.cons_append, replaceAll_cons (p.not_mark_isPrefix_cons (Ne.symm h.1) _), ih h.2,
      List.cons_append]

theorem replaceAll_mark_of_notMem (h : '\x7b' ∉ text) :
    replaceAll p.mark.toList value text = text := by
  have hnil : replaceAll p.mark.toList value [] = [] := rfl
  have happend : replaceAll p.mark.toList value (text ++ []) =
      text ++ replaceAll p.mark.toList value [] :=
    replaceAll_mark_append_of_notMem h []
  rwa [hnil, List.append_nil] at happend

theorem replaceAll_mark_append_of_ne (h : p ≠ q) (rest : List Char) :
    replaceAll p.mark.toList value (q.mark.toList ++ rest) =
      q.mark.toList ++ replaceAll p.mark.toList value rest := by
  have hother : ¬ p.mark.toList <+: q.mark.toList ++ rest := by
    intro hprefix
    exact h (Placeholder.eq_of_marks_isPrefix hprefix (List.prefix_append _ rest))
  have hname : '\x7b' ∉ q.name.toList ++ ['\x7d'] := by
    simp [q.brace_notMem_name]
  rw [q.toList_mark, List.cons_append] at hother ⊢
  rw [replaceAll_cons hother, replaceAll_mark_append_of_notMem hname, List.cons_append]

end Replacing

namespace IsTemplate

variable {slots : List Placeholder} {text : List Char} {data : Placeholder → List Char}
  {p : Placeholder}

theorem replaceAll_eq_fillFrom (h : IsTemplate [p] text) :
    replaceAll p.mark.toList (data p) text = fillFrom data 0 text := by
  induction h with
  | nil => rfl
  | char hc _ ih =>
    rw [replaceAll_cons (p.not_mark_isPrefix_cons hc _), fillFrom_cons hc, ih]
  | slot hq _ ih =>
    rw [List.mem_singleton.mp hq, replaceAll_pattern_append p.mark_ne_nil, fillFrom_mark_append, ih]

theorem replaceAll_mark (h : IsTemplate (p :: slots) text) (data : Placeholder → List Char)
    (hdata : '\x7b' ∉ data p) :
    IsTemplate slots (replaceAll p.mark.toList (data p) text) ∧
      fillFrom data 0 (replaceAll p.mark.toList (data p) text) = fillFrom data 0 text := by
  induction h with
  | nil => exact ⟨nil, rfl⟩
  | char hc _ ih =>
    rw [replaceAll_cons (p.not_mark_isPrefix_cons hc _), fillFrom_cons hc, fillFrom_cons hc, ih.2]
    exact ⟨char hc ih.1, rfl⟩
  | @slot q rest hq _ ih =>
    by_cases hpq : p = q
    · have hwords : IsTemplate slots (data p) := of_brace_notMem hdata
      have hnone : IsTemplate [] (data p) := of_brace_notMem hdata
      rw [← hpq, replaceAll_pattern_append p.mark_ne_nil, fillFrom_mark_append,
        hwords.fillFrom_append, hnone.fillFrom_eq_self, ih.2]
      exact ⟨hwords.append ih.1, rfl⟩
    · have hmem : q ∈ slots := (List.mem_cons.mp hq).resolve_left (Ne.symm hpq)
      rw [replaceAll_mark_append_of_ne hpq, fillFrom_mark_append, fillFrom_mark_append, ih.2]
      exact ⟨slot hmem ih.1, rfl⟩

theorem fillChars_eq_fillFrom (values : List (Placeholder × String))
    (h : IsTemplate (values.map (·.1)) text) (hdata : ∀ v ∈ values, data v.1 = v.2.toList)
    (hplain : ∀ v ∈ values.dropLast, '\x7b' ∉ v.2.toList) :
    fillChars text values = fillFrom data 0 text := by
  induction values generalizing text with
  | nil => exact h.fillFrom_eq_self.symm
  | cons v values ih =>
    have hv := hdata v List.mem_cons_self
    have hdata' : ∀ w ∈ values, data w.1 = w.2.toList := by
      intro w hw
      exact hdata w (List.mem_cons_of_mem v hw)
    rw [fillChars, List.foldl_cons, ← hv]
    cases values with
    | nil => exact h.replaceAll_eq_fillFrom
    | cons w values =>
      rw [List.dropLast_cons_cons, List.forall_mem_cons] at hplain
      obtain ⟨htemplate, hfill⟩ := h.replaceAll_mark data (by rw [hv]; exact hplain.1)
      rw [← hfill]
      exact ih htemplate hdata' hplain.2

end IsTemplate

section Unbraced

def Unbraced (text : List Char) : Prop :=
  ∀ c ∈ text, c ≠ '\x7b' ∧ c ≠ '\x7d'

instance (text : List Char) : Decidable (Unbraced text) :=
  List.decidableBAll _ text

theorem unbraced_nil : Unbraced [] :=
  List.forall_mem_nil _

theorem unbraced_cons {c : Char} {rest : List Char} :
    Unbraced (c :: rest) ↔ (c ≠ '\x7b' ∧ c ≠ '\x7d') ∧ Unbraced rest :=
  List.forall_mem_cons

theorem unbraced_append {text rest : List Char} :
    Unbraced (text ++ rest) ↔ Unbraced text ∧ Unbraced rest :=
  List.forall_mem_append

variable {text part : List Char}

theorem Unbraced.opening_notMem (h : Unbraced text) : '\x7b' ∉ text :=
  fun hmem => (h _ hmem).1 rfl

theorem Unbraced.of_subset (h : Unbraced text) (hsub : part ⊆ text) : Unbraced part :=
  fun c hc => h c (hsub hc)

end Unbraced

def wordsOf (text : List Char) : List Char :=
  fillFrom (fun _ => []) 0 text

structure IsPhrase (slots : List Placeholder) (text : List Char) : Prop where
  isTemplate : IsTemplate slots text
  unbraced_words : Unbraced (wordsOf text)

namespace IsPhrase

variable {slots : List Placeholder} {text : List Char}

theorem nil : IsPhrase slots [] :=
  ⟨.nil, unbraced_nil⟩

theorem char {c : Char} {rest : List Char} (hc : c ≠ '\x7b' ∧ c ≠ '\x7d')
    (h : IsPhrase slots rest) : IsPhrase slots (c :: rest) := by
  refine ⟨.char hc.1 h.isTemplate, ?_⟩
  rw [wordsOf, fillFrom_cons hc.1, unbraced_cons]
  exact ⟨hc, h.unbraced_words⟩

theorem slot {p : Placeholder} {rest : List Char} (hp : p ∈ slots) (h : IsPhrase slots rest) :
    IsPhrase slots (p.mark.toList ++ rest) := by
  refine ⟨.slot hp h.isTemplate, ?_⟩
  rw [wordsOf, fillFrom_mark_append]
  exact h.unbraced_words

theorem append {rest : List Char} (h : IsPhrase slots text) (hrest : IsPhrase slots rest) :
    IsPhrase slots (text ++ rest) := by
  refine ⟨h.isTemplate.append hrest.isTemplate, ?_⟩
  rw [wordsOf, h.isTemplate.fillFrom_append, unbraced_append]
  exact ⟨h.unbraced_words, hrest.unbraced_words⟩

theorem mono {more : List Placeholder} (h : IsPhrase slots text) (hsub : slots ⊆ more) :
    IsPhrase more text :=
  ⟨h.isTemplate.mono hsub, h.unbraced_words⟩

theorem of_unbraced (h : Unbraced text) : IsPhrase slots text := by
  refine ⟨.of_brace_notMem h.opening_notMem, ?_⟩
  rwa [wordsOf, fillFrom_of_notMem h.opening_notMem]

theorem unbraced_fillFrom (h : IsPhrase slots text) {data : Placeholder → List Char}
    (hdata : ∀ p ∈ slots, Unbraced (data p)) : Unbraced (fillFrom data 0 text) := by
  obtain ⟨htemplate, hwords⟩ := h
  induction htemplate with
  | nil => exact hwords
  | char hc _ ih =>
    rw [wordsOf, fillFrom_cons hc, unbraced_cons] at hwords
    rw [fillFrom_cons hc, unbraced_cons]
    exact ⟨hwords.1, ih hwords.2⟩
  | slot hp _ ih =>
    rw [wordsOf, fillFrom_mark_append] at hwords
    rw [fillFrom_mark_append, unbraced_append]
    exact ⟨hdata _ hp, ih hwords⟩

end IsPhrase

def fitsFrom (slots : List Placeholder) : Nat → List Char → Bool
  | _, [] => true
  | skip + 1, _ :: rest => fitsFrom slots skip rest
  | 0, c :: rest =>
    if c = '\x7b' then
      match slots.find? fun p => p.mark.toList.isPrefixOf (c :: rest) with
      | some p => fitsFrom slots (p.mark.toList.length - 1) rest
      | none => false
    else if c = '\x7d' then false
    else fitsFrom slots 0 rest

theorem isPhrase_drop_of_fitsFrom {slots : List Placeholder} {skip : Nat} {text : List Char}
    (h : fitsFrom slots skip text = true) : IsPhrase slots (text.drop skip) := by
  induction text generalizing skip with
  | nil => simpa using IsPhrase.nil
  | cons c rest ih =>
    cases skip with
    | succ skip => exact ih h
    | zero =>
      rw [fitsFrom] at h
      split at h
      · split at h
        · next p hfind =>
          have hrest := ih h
          have hprefix := List.find?_some hfind
          rw [List.isPrefixOf_iff_prefix] at hprefix
          obtain ⟨more, hmore⟩ := hprefix
          rw [List.drop_zero, ← hmore]
          rw [p.toList_mark, List.cons_append, List.cons.injEq] at hmore
          rw [p.toList_mark, List.length_cons, Nat.add_sub_cancel, ← hmore.2,
            List.drop_left] at hrest
          exact .slot (List.mem_of_find?_eq_some hfind) hrest
        · cases h
      · next hopening =>
        split at h
        · cases h
        · next hclosing => exact .char ⟨hopening, hclosing⟩ (ih h)

theorem isPhrase_of_fitsFrom {slots : List Placeholder} {text : List Char}
    (h : fitsFrom slots 0 text = true) : IsPhrase slots text :=
  isPhrase_drop_of_fitsFrom h

section Strings

variable {slots : List Placeholder} {template : String} {data : Placeholder → String}

theorem fill_eq_fillAtOnce {values : List (Placeholder × String)}
    (h : IsTemplate (values.map (·.1)) template.toList) (hdata : ∀ v ∈ values, data v.1 = v.2)
    (hplain : ∀ v ∈ values.dropLast, '\x7b' ∉ v.2.toList) :
    fill template values = fillAtOnce data template := by
  have hlists : ∀ v ∈ values, (data v.1).toList = v.2.toList := by
    intro v hv
    rw [hdata v hv]
  rw [fill, fillAtOnce]
  exact congrArg String.ofList (h.fillChars_eq_fillFrom values hlists hplain)

theorem fillAtOnce_eq_self (h : IsTemplate [] template.toList) :
    fillAtOnce data template = template := by
  rw [fillAtOnce, h.fillFrom_eq_self, String.ofList_toList]

theorem fillAtOnce_append (h : IsTemplate slots template.toList) (rest : String) :
    fillAtOnce data (template ++ rest) = fillAtOnce data template ++ fillAtOnce data rest := by
  rw [fillAtOnce, String.toList_append, h.fillFrom_append, String.ofList_append]
  rfl

end Strings

structure HasSlot (phrase : String) (p : Placeholder) (before after : List Char) : Prop where
  brace_notMem_before : '\x7b' ∉ before
  brace_notMem_after : '\x7b' ∉ after
  toList_eq : phrase.toList = before ++ (p.mark.toList ++ after)

namespace HasSlot

variable {phrase : String} {p : Placeholder} {before after : List Char}

theorem toList_fill (h : HasSlot phrase p before after) (value : String) :
    (fill phrase [(p, value)]).toList = before ++ (value.toList ++ after) := by
  rw [TurnByTurn.toList_fill, h.toList_eq]
  change replaceAll p.mark.toList value.toList _ = _
  rw [replaceAll_mark_append_of_notMem h.brace_notMem_before,
    replaceAll_pattern_append p.mark_ne_nil, replaceAll_mark_of_notMem h.brace_notMem_after]

theorem fill_inj (h : HasSlot phrase p before after) {value value' : String} :
    fill phrase [(p, value)] = fill phrase [(p, value')] ↔ value = value' := by
  rw [← String.toList_inj, h.toList_fill, h.toList_fill, List.append_cancel_left_eq,
    List.append_cancel_right_eq, String.toList_inj]

end HasSlot

end TurnByTurn
