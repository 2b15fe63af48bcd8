import Mathlib.Algebra.Order.Ring.Nat
import Mathlib.Tactic.Common

namespace TurnByTurn

def LeadsTo : Nat → List (Nat × Nat) → Nat → Prop
  | first, [], last => first = last
  | first, r :: following, last => r.1 = first ∧ LeadsTo r.2 following last

namespace LeadsTo

variable {first last : Nat} {ranges : List (Nat × Nat)}

theorem concat (h : LeadsTo first ranges last) (stop : Nat) :
    LeadsTo first (ranges ++ [(last, stop)]) stop := by
  induction ranges generalizing first with
  | nil => exact ⟨h.symm, rfl⟩
  | cons r following ih => exact ⟨h.1, ih h.2⟩

theorem le (h : LeadsTo first ranges last) (hle : ∀ r ∈ ranges, r.1 ≤ r.2) : first ≤ last := by
  induction ranges generalizing first with
  | nil => exact Nat.le_of_eq h
  | cons r following ih =>
    have hr := hle r List.mem_cons_self
    have hrest := ih h.2 fun q hq => hle q (List.mem_cons_of_mem r hq)
    have hfirst := h.1
    omega

theorem sum_lengths (h : LeadsTo first ranges last) (hle : ∀ r ∈ ranges, r.1 ≤ r.2) :
    (ranges.map fun r => r.2 - r.1).sum = last - first := by
  induction ranges generalizing first with
  | nil =>
    have hlast : first = last := h
    simp [hlast]
  | cons r following ih =>
    have hr := hle r List.mem_cons_self
    have hle' : ∀ q ∈ following, q.1 ≤ q.2 := fun q hq => hle q (List.mem_cons_of_mem r hq)
    have hrest := le h.2 hle'
    have hfirst := h.1
    rw [List.map_cons, List.sum_cons, ih h.2 hle']
    omega

theorem first_le_of_mem (h : LeadsTo first ranges last) (hle : ∀ r ∈ ranges, r.1 ≤ r.2)
    {r : Nat × Nat} (hr : r ∈ ranges) : first ≤ r.1 := by
  induction ranges generalizing first with
  | nil => cases hr
  | cons q following ih =>
    rcases List.mem_cons.mp hr with rfl | hr
    · exact Nat.le_of_eq h.1.symm
    · have hq := hle q List.mem_cons_self
      have hrest := ih h.2 (fun p hp => hle p (List.mem_cons_of_mem q hp)) hr
      have hfirst := h.1
      omega

theorem existsUnique_mem (h : LeadsTo first ranges last) (hle : ∀ r ∈ ranges, r.1 ≤ r.2)
    {i : Nat} (hfirst : first ≤ i) (hlast : i < last) :
    ∃! k : Nat, ∃ r : Nat × Nat, ranges[k]? = some r ∧ r.1 ≤ i ∧ i < r.2 := by
  induction ranges generalizing first with
  | nil =>
    have heq : first = last := h
    omega
  | cons q following ih =>
    have hle' : ∀ r ∈ following, r.1 ≤ r.2 := fun r hr => hle r (List.mem_cons_of_mem q hr)
    have hq := h.1
    by_cases hi : i < q.2
    · refine ⟨0, ⟨q, rfl, by omega, hi⟩, ?_⟩
      rintro (_ | k) ⟨r, hr, hri, -⟩
      · rfl
      · have hle_r := first_le_of_mem h.2 hle' (List.mem_of_getElem? hr)
        omega
    · obtain ⟨k, hk, hunique⟩ := ih h.2 hle' (by omega)
      refine ⟨k + 1, hk, ?_⟩
      rintro (_ | j) ⟨r, hr, hri, hir⟩
      · have hrq : q = r := by simpa using hr
        rw [hrq] at hi
        omega
      · rw [hunique j ⟨r, hr, hri, hir⟩]

end LeadsTo

end TurnByTurn
