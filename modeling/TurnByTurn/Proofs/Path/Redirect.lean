import TurnByTurn.Proofs.Path.Headings
import TurnByTurn.Transit
import TurnByTurn.Path.Segments

/-!
Paths whose headings are all changed by one rule. Repairing headings only copies them from edge to
edge, so it does not matter whether they are changed before or after the repair.
-/

namespace TurnByTurn

def Edge.redirect (f : Nat → Nat) (e : Edge) : Edge :=
  { e with beginHeading := f e.beginHeading, endHeading := f e.endHeading }

def Node.redirect (f : Nat → Nat) (n : Node) : Node :=
  { n with edge := n.edge.map (Edge.redirect f) }

def Segment.redirect (f : Nat → Nat) (s : Segment) : Segment :=
  { s with edge := s.edge.redirect f }

def TripPath.redirect (f : Nat → Nat) (path : TripPath) : TripPath :=
  { path with nodes := path.nodes.map (Node.redirect f) }

theorem Edge.filter_isTrusted_redirect (f : Nat → Nat) (e : Option Edge) :
    (e.map (redirect f)).filter isTrusted = (e.filter isTrusted).map (redirect f) := by
  rw [Option.filter_map]
  rfl

theorem Edge.withHeadingsOf_redirect (f : Nat → Nat) (e : Edge) (before after : Option Edge) :
    (e.redirect f).withHeadingsOf (before.map (redirect f)) (after.map (redirect f)) =
      (e.withHeadingsOf before after).redirect f := by
  cases before <;> cases after <;> rfl

theorem Edge.repaired_redirect (f : Nat → Nat) (before after : Option Edge) (e : Edge) :
    (e.redirect f).repaired (before.map (redirect f)) (after.map (redirect f)) =
      (e.repaired before after).redirect f := by
  have hshort : (e.redirect f).isShort = e.isShort := rfl
  unfold repaired
  rw [hshort, filter_isTrusted_redirect, filter_isTrusted_redirect, withHeadingsOf_redirect]
  by_cases h : e.isShort = true <;> simp [h]

theorem Node.repaired_redirect (f : Nat → Nat) (before after : Option Edge) (n : Node) :
    (n.redirect f).repaired (before.map (Edge.redirect f)) (after.map (Edge.redirect f)) =
      (n.repaired before after).redirect f := by
  unfold repaired redirect
  simp [Function.comp_def, Edge.repaired_redirect]

theorem repairedFrom_redirect (f : Nat → Nat) (before : Option Edge) (nodes : List Node) :
    repairedFrom (before.map (Edge.redirect f)) (nodes.map (Node.redirect f)) =
      (repairedFrom before nodes).map (Node.redirect f) := by
  induction nodes generalizing before with
  | nil => rfl
  | cons n rest ih =>
    have hafter : (rest.map (Node.redirect f)).head?.bind (·.edge) =
        (rest.head?.bind (·.edge)).map (Edge.redirect f) := by
      cases rest <;> rfl
    rw [List.map_cons, repairedFrom, repairedFrom, hafter, Node.repaired_redirect, List.map_cons,
      ← ih n.edge]
    rfl

theorem segmentsFrom_redirect (f : Nat → Nat) (index : Nat) (nodes : List Node) :
    segmentsFrom index (nodes.map (Node.redirect f)) =
      (segmentsFrom index nodes).map (Segment.redirect f) := by
  induction nodes generalizing index with
  | nil => rfl
  | cons n rest ih =>
    have htime : (n.redirect f).timeToFirst (rest.map (Node.redirect f)) = n.timeToFirst rest := by
      cases rest <;> rfl
    rw [List.map_cons, segmentsFrom, segmentsFrom, List.map_append, ih]
    unfold Node.segment?
    rw [htime]
    cases hn : n.edge <;> simp [Node.redirect, Segment.redirect, hn]

namespace TripPath

variable (f : Nat → Nat) (path : TripPath)

theorem normalizeHeadings_redirect :
    (path.redirect f).normalizeHeadings = path.normalizeHeadings.redirect f := by
  have hnodes : (path.redirect f).normalizeHeadings.nodes =
      (path.normalizeHeadings.redirect f).nodes := by
    rw [nodes_normalizeHeadings, redirect, redirect, nodes_normalizeHeadings]
    exact repairedFrom_redirect f none path.nodes
  unfold normalizeHeadings redirect at hnodes ⊢
  simpa using hnodes

theorem segments_redirect : (path.redirect f).segments = path.segments.map (Segment.redirect f) :=
  segmentsFrom_redirect f 0 path.nodes

@[simp]
theorem lastNode_redirect : (path.redirect f).lastNode = path.lastNode := by
  simp [lastNode, redirect]

theorem edgeAt_redirect (node : Nat) :
    (path.redirect f).edgeAt node = (path.edgeAt node).map (Edge.redirect f) := by
  unfold edgeAt redirect
  rw [List.getElem?_map]
  cases path.nodes[node]? <;> rfl

theorem stopsBetween?_redirect (first last : Nat) :
    (path.redirect f).stopsBetween? first last = path.stopsBetween? first last := by
  have hstop : (fun n : Node => n.stop) ∘ Node.redirect f = fun n => n.stop := rfl
  unfold stopsBetween? redirect
  simp only [List.length_map, ← List.map_take, ← List.map_drop, List.filterMap_map, hstop]

end TripPath

end TurnByTurn
