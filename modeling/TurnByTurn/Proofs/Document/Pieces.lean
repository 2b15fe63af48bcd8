import Mathlib.Tactic.ByContra
import TurnByTurn.Source

namespace TurnByTurn

namespace Buffered

variable {s : Buffered}

theorem restOf_ne_nil {piece rest : List UInt8} (h : rest ∈ restOf piece) : rest ≠ [] := by
  unfold restOf at h
  split at h
  · exact absurd h List.not_mem_nil
  · next hlength =>
    rw [List.mem_singleton.mp h]
    intro hnil
    rw [List.drop_eq_nil_iff] at hnil
    exact hlength hnil

theorem atHand_refill_of_nil (pieces : List (List UInt8)) :
    (refill ⟨[], pieces⟩).atHand = (pieces.head?.getD []).take capacity := by
  cases pieces <;> rfl

theorem take_capacity_head? (pieces : List (List UInt8)) :
    (pieces.head?.getD []).take capacity =
      pieces.flatten.take (min capacity (pieces.head?.getD []).length) := by
  cases pieces with
  | nil => rfl
  | cons piece rest =>
    rw [← List.take_take]
    simp

theorem coming_refill_ne_nil (h : ∀ piece ∈ s.coming, piece ≠ []) :
    ∀ piece ∈ s.refill.coming, piece ≠ [] := by
  unfold refill
  split
  · next first rest _ hcoming =>
    intro piece hpiece
    rcases List.mem_append.mp hpiece with hrest | hlater
    · exact restOf_ne_nil hrest
    · exact h piece (hcoming ▸ List.mem_cons_of_mem first hlater)
  · exact h

theorem bytes_of_atHand_refill (h : ∀ piece ∈ s.coming, piece ≠ [])
    (hnone : s.refill.atHand = []) : s.bytes = [] := by
  obtain ⟨atHand, coming⟩ := s
  cases atHand with
  | cons b bs => cases hnone
  | nil =>
    cases coming with
    | nil => rfl
    | cons piece rest =>
      have hpiece : piece ≠ [] := h piece List.mem_cons_self
      have htaken : piece.take capacity = [] := hnone
      rw [List.take_eq_nil_iff] at htaken
      rcases htaken with hcapacity | hnil
      · cases hcapacity
      · exact absurd hnil hpiece

theorem drain_eq_bytes (h : ∀ piece ∈ s.coming, piece ≠ []) : s.drain = s.bytes := by
  induction s using drain.induct with
  | case1 s hnone => rw [drain, dif_pos hnone, bytes_of_atHand_refill h hnone]
  | case2 s hsome ih =>
    have hrest : s.refill.used.drain = s.refill.coming.flatten := ih (coming_refill_ne_nil h)
    rw [drain, dif_neg hsome, hrest, ← bytes_refill s, bytes]

theorem drain_refill (h : ∀ piece ∈ s.coming, piece ≠ []) : s.refill.drain = s.bytes := by
  rw [drain_eq_bytes (coming_refill_ne_nil h), bytes_refill]

end Buffered

namespace Format

def magic : Format → List UInt8
  | xml => []
  | gzip => gzipMagic
  | bzip2 => bzip2Magic

theorem length_magic_le_capacity (format : Format) :
    format.magic.length ≤ Buffered.capacity := by
  cases format <;> decide

theorem detect_eq_iff {format : Format} (h : format ≠ xml) (bytes : List UInt8) :
    detect bytes = format ↔ format.magic <+: bytes := by
  rw [← List.isPrefixOf_iff_prefix, detect]
  cases format with
  | xml => exact absurd rfl h
  | gzip => grind [magic]
  | bzip2 =>
    by_cases hgzip : gzipMagic.isPrefixOf bytes
    · obtain ⟨rest, rfl⟩ := List.isPrefixOf_iff_prefix.mp hgzip
      exact iff_of_false nofun nofun
    · grind [magic]

theorem detect_take (n : Nat) (bytes : List UInt8) :
    detect (bytes.take n) = if (detect bytes).magic.length ≤ n then detect bytes else xml := by
  have htake (format : Format) (h : format ≠ xml) :
      detect (bytes.take n) = format ↔ detect bytes = format ∧ format.magic.length ≤ n := by
    rw [detect_eq_iff h, detect_eq_iff h, List.prefix_take_iff]
  by_cases hxml : detect bytes = xml
  · rw [hxml, ite_self]
    by_contra hne
    exact hne (((htake _ hne).mp rfl).1.symm.trans hxml)
  · split
    · next hlength => exact (htake _ hxml).mpr ⟨rfl, hlength⟩
    · next hlength =>
      by_contra hne
      obtain ⟨hsame, hle⟩ := (htake _ hne).mp rfl
      exact hlength (hsame ▸ hle)

section Reading

variable {Data Result : Type} (decode : Format → List UInt8 → Data) (read : Data → Result)
variable {pieces : List (List UInt8)}

theorem readPieces_some (h : ∀ piece ∈ pieces, piece ≠ []) (format : Format) :
    readPieces decode read (some format) pieces =
      readBytes decode read (some format) pieces.flatten := by
  have hdrain : Buffered.drain ⟨[], pieces⟩ = pieces.flatten := Buffered.drain_eq_bytes h
  rw [readPieces, hdrain, readBytes, Option.getD_some]

theorem readPieces_none (h : ∀ piece ∈ pieces, piece ≠ []) :
    readPieces decode read none pieces =
      if (detect pieces.flatten).magic.length ≤ (pieces.head?.getD []).length then
        readBytes decode read none pieces.flatten
      else readBytes decode read (some .xml) pieces.flatten := by
  have hdrain : (Buffered.refill ⟨[], pieces⟩).drain = pieces.flatten := Buffered.drain_refill h
  have hcapacity := length_magic_le_capacity (detect pieces.flatten)
  rw [readPieces, hdrain, Buffered.atHand_refill_of_nil, Buffered.take_capacity_head?,
    detect_take]
  simp only [Nat.le_min, hcapacity, true_and, readBytes]
  split <;> rfl

/-- However data is decoded and whatever is read from it, the pieces make a difference only if the
first one is too short to tell the format. -/
theorem readPieces_eq_readBytes_iff (h : ∀ piece ∈ pieces, piece ≠ []) (format : Option Format) :
    readPieces decode read format pieces = readBytes decode read format pieces.flatten ↔
      (format = none →
        (pieces.head?.getD []).length < (detect pieces.flatten).magic.length →
          readBytes decode read (some .xml) pieces.flatten =
            readBytes decode read none pieces.flatten) := by
  cases format with
  | some format => simp [readPieces_some decode read h]
  | none =>
    rw [readPieces_none decode read h]
    split
    · next hlength => simp [Nat.not_lt.mpr hlength]
    · next hlength => simp [Nat.not_le.mp hlength]

end Reading

end Format

namespace TripPath

theorem ofPieces_eq_ofBytes_iff {pieces : List (List UInt8)} (h : ∀ piece ∈ pieces, piece ≠ [])
    (format : Option Format) :
    ofPieces format pieces = ofBytes format pieces.flatten ↔
      (format = none →
        (pieces.head?.getD []).length < (Format.detect pieces.flatten).magic.length →
          ofBytes (some .xml) pieces.flatten = ofBytes none pieces.flatten) :=
  Format.readPieces_eq_readBytes_iff Format.decode Compression.Delivery.read h format

/-- An empty path, compressed. -/
def zipped : List UInt8 :=
  [0x1F, 0x8B, 0x08, 0x00, 0x00, 0x00, 0x00, 0x00, 0x00, 0xFF, 0xB3, 0x29, 0x29, 0xCA, 0x2C, 0x88,
    0x2F, 0x48, 0x2C, 0xC9, 0xD0, 0xB7, 0x03, 0x00, 0xA6, 0x2D, 0x28, 0x81, 0x0C, 0x00, 0x00, 0x00]

def zippedCutAt (n : Nat) : List (List UInt8) :=
  [zipped.take n, zipped.drop n]

theorem flatten_zippedCutAt (n : Nat) : (zippedCutAt n).flatten = zipped := by
  simp [zippedCutAt]

theorem zipped_ne_plain : ofBytes (some .xml) zipped ≠ ofBytes none zipped := by
  intro hsame
  have hplain : (ofBytes (some .xml) zipped).isOk = false := by decide +kernel
  have hunzipped : (ofBytes none zipped).isOk = true := by decide +kernel
  rw [hsame, hunzipped] at hplain
  cases hplain

theorem ofPieces_eq_ofBytes_iff_zipped :
    ((∀ piece ∈ zippedCutAt 2, piece ≠ []) ∧
      ofPieces none (zippedCutAt 2) = ofBytes none zipped) ∧
    ((∀ piece ∈ zippedCutAt 1, piece ≠ []) ∧
      ofPieces none (zippedCutAt 1) ≠ ofBytes none zipped) := by
  have htwo : ∀ piece ∈ zippedCutAt 2, piece ≠ [] := by decide
  have hone : ∀ piece ∈ zippedCutAt 1, piece ≠ [] := by decide
  have hiffTwo := ofPieces_eq_ofBytes_iff htwo none
  have hiffOne := ofPieces_eq_ofBytes_iff hone none
  rw [flatten_zippedCutAt] at hiffTwo hiffOne
  refine ⟨⟨htwo, hiffTwo.mpr ?_⟩, hone, ?_⟩
  · intro _ hearly
    exact absurd hearly (by decide)
  · intro hsame
    exact zipped_ne_plain (hiffOne.mp hsame rfl (by decide))

/-- Only one byte comes at first, and the format is told by two. -/
theorem not_forall_ofPieces_eq_ofBytes :
    ¬ ∀ format pieces, (∀ piece ∈ pieces, piece ≠ []) →
      ofPieces format pieces = ofBytes format pieces.flatten := by
  intro h
  have hone : ∀ piece ∈ zippedCutAt 1, piece ≠ [] := by decide
  have hsame := h none (zippedCutAt 1) hone
  rw [ofPieces, Format.readPieces_none _ _ hone, flatten_zippedCutAt, if_neg (by decide)] at hsame
  exact zipped_ne_plain hsame

end TripPath

end TurnByTurn
