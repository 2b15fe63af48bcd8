import TurnByTurn.Path.Headings

namespace TurnByTurn

open Float.Model in
theorem compare_swap_unpacked (x y : UnpackedFloat) :
    y.compare x = (x.compare y).map Ordering.swap := by
  cases x with
  | notANumber => cases y <;> rfl
  | infinity s =>
    cases y with
    | infinity t => cases s <;> cases t <;> rfl
    | _ => cases s <;> rfl
  | zero s =>
    cases y with
    | infinity t => cases t <;> rfl
    | finite t => cases t <;> rfl
    | _ => rfl
  | finite s m e h =>
    cases y with
    | infinity t => cases s <;> cases t <;> rfl
    | finite t =>
      cases s <;> cases t <;> dsimp only [UnpackedFloat.compare] <;>
        simp [Ordering.swap_then, Int.compare_swap, Nat.compare_swap]
    | _ => cases s <;> rfl

/-- The converse fails for what is not a number. -/
theorem Float32.not_lt_of_le {x y : Float32} (h : x ≤ y) : ¬ y < x := by
  intro hlt
  have hxy : x.toModel.unpack.le y.toModel.unpack = true := of_decide_eq_true h
  have hyx : y.toModel.unpack.lt x.toModel.unpack = true := of_decide_eq_true hlt
  rw [Float.Model.UnpackedFloat.le] at hxy
  rw [Float.Model.UnpackedFloat.lt, compare_swap_unpacked x.toModel.unpack] at hyx
  cases hcompare : x.toModel.unpack.compare y.toModel.unpack with
  | none => simp [hcompare] at hxy
  | some o => cases o <;> simp [hcompare] at hxy hyx

namespace Edge

theorem isShort_eq_false_of_isTrusted {e : Edge} (h : e.isTrusted = true) : e.isShort = false :=
  decide_eq_false (Float32.not_lt_of_le (of_decide_eq_true h))

def repaired (before after : Option Edge) (e : Edge) : Edge :=
  if e.isShort then e.withHeadingsOf (before.filter isTrusted) (after.filter isTrusted) else e

theorem repaired_of_isTrusted {e : Edge} (h : e.isTrusted = true) (before after : Option Edge) :
    e.repaired before after = e := by
  simp [repaired, isShort_eq_false_of_isTrusted h]

def bridge (e f g : Edge) : Edge :=
  { g with beginHeading := e.endHeading, endHeading := f.beginHeading }

theorem repaired_of_isShort {e f g : Edge} (hg : g.isShort = true) (he : e.isTrusted = true)
    (hf : f.isTrusted = true) : g.repaired (some e) (some f) = bridge e f g := by
  simp [repaired, hg, Option.filter, he, hf, withHeadingsOf, bridge]

end Edge

def Node.repaired (before after : Option Edge) (n : Node) : Node :=
  { n with edge := n.edge.map (Edge.repaired before after) }

theorem Node.repaired_of_isTrusted {n : Node} {e : Edge} (hn : n.edge = some e)
    (he : e.isTrusted = true) (before after : Option Edge) : n.repaired before after = n := by
  unfold repaired
  rw [hn, Option.map_some, Edge.repaired_of_isTrusted he, ← hn]

def repairedFrom : Option Edge → List Node → List Node
  | _, [] => []
  | before, n :: rest => n.repaired before (rest.head?.bind (·.edge)) :: repairedFrom n.edge rest

theorem getElem?_repairedFrom (before : Option Edge) (nodes : List Node) (i : Nat) :
    (repairedFrom before nodes)[i]? = nodes[i]?.map fun n =>
      n.repaired (if i = 0 then before else nodes[i - 1]?.bind (·.edge))
        (nodes[i + 1]?.bind (·.edge)) := by
  induction nodes generalizing before i with
  | nil => rfl
  | cons n rest ih =>
    rw [repairedFrom]
    cases i with
    | zero => simp [List.head?_eq_getElem?]
    | succ i =>
      rw [List.getElem?_cons_succ, List.getElem?_cons_succ, ih]
      cases i <;> rfl

theorem TripPath.nodes_normalizeHeadings (path : TripPath) :
    path.normalizeHeadings.nodes = repairedFrom none path.nodes := by
  apply List.ext_getElem?
  intro i
  rw [getElem?_repairedFrom, normalizeHeadings, List.getElem?_mapIdx]
  cases i <;> rfl

theorem exists_repairedFrom_append (before : Option Edge) (nodes : List Node) {n : Node} {e : Edge}
    (hn : n.edge = some e) (he : e.isTrusted = true) :
    ∃ done, ∀ rest, repairedFrom before (nodes ++ n :: rest) =
      done ++ n :: repairedFrom (some e) rest := by
  induction nodes generalizing before with
  | nil =>
    refine ⟨[], ?_⟩
    intro rest
    rw [List.nil_append, repairedFrom, Node.repaired_of_isTrusted hn he, hn, List.nil_append]
  | cons m nodes ih =>
    obtain ⟨done, hdone⟩ := ih m.edge
    refine ⟨m.repaired before ((nodes ++ [n]).head?.bind (·.edge)) :: done, ?_⟩
    intro rest
    rw [List.cons_append, repairedFrom, hdone, List.cons_append]
    cases nodes <;> rfl

end TurnByTurn
