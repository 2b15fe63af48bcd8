namespace TurnByTurn

structure Buffered where
  atHand : List UInt8
  coming : List (List UInt8)

namespace Buffered

def capacity : Nat := 8192

def restOf (piece : List UInt8) : List (List UInt8) :=
  if piece.length ≤ capacity then [] else [piece.drop capacity]

def refill (s : Buffered) : Buffered :=
  match s.atHand, s.coming with
  | [], piece :: rest => ⟨piece.take capacity, restOf piece ++ rest⟩
  | _, _ => s

def bytes (s : Buffered) : List UInt8 :=
  s.atHand ++ s.coming.flatten

theorem flatten_restOf (piece : List UInt8) : (restOf piece).flatten = piece.drop capacity := by
  unfold restOf
  split
  · next h => rw [List.drop_eq_nil_of_le h, List.flatten_nil]
  · simp

theorem bytes_refill (s : Buffered) : s.refill.bytes = s.bytes := by
  unfold refill
  split
  · next piece rest hnone hcoming =>
    rw [bytes, bytes, hnone, hcoming, List.flatten_append, flatten_restOf, ← List.append_assoc,
      List.take_append_drop]
    rfl
  · rfl

def used (s : Buffered) : Buffered :=
  { s with atHand := [] }

theorem length_bytes_used_lt {s : Buffered} (h : s.refill.atHand ≠ []) :
    s.refill.used.bytes.length < s.bytes.length := by
  have hpos := List.length_pos_iff.mpr h
  rw [← bytes_refill s, bytes, bytes, List.length_append, List.length_append]
  simpa [used]

def drain (s : Buffered) : List UInt8 :=
  if _ : s.refill.atHand = [] then [] else s.refill.atHand ++ drain s.refill.used
termination_by s.bytes.length
decreasing_by exact length_bytes_used_lt ‹_›

end Buffered

end TurnByTurn
