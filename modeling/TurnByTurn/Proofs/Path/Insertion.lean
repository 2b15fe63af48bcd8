import Mathlib.Data.List.Basic
import TurnByTurn.Path.Segments

namespace TurnByTurn

namespace TripPath

theorem exists_nodes_eq {path : TripPath} {index : Nat} {e : Edge}
    (he : path.edgeAt index = some e) :
    ∃ before n after, before.length = index ∧ path.nodes = before ++ n :: after ∧
      n.edge = some e := by
  obtain ⟨n, hn, hne⟩ := Option.bind_eq_some_iff.mp he
  obtain ⟨hlt, hn⟩ := List.getElem?_eq_some_iff.mp hn
  refine ⟨path.nodes.take index, n, path.nodes.drop (index + 1), ?_, ?_, hne⟩
  · rw [List.length_take]
    omega
  · rw [← hn, ← List.drop_eq_getElem_cons, List.take_append_drop]

def insertNode (path : TripPath) (index : Nat) (n : Node) : TripPath :=
  { path with nodes := path.nodes.take index ++ n :: path.nodes.drop index }

theorem insertNode_nodes {path : TripPath} {before after : List Node} {n mid : Node}
    (h : path.nodes = before ++ n :: after) :
    (path.insertNode (before.length + 1) mid).nodes = before ++ n :: mid :: after := by
  have hsplit : path.nodes = (before ++ [n]) ++ after := by simp [h]
  have hlength : (before ++ [n]).length = before.length + 1 := by simp
  unfold insertNode
  rw [hsplit, List.take_left' hlength, List.drop_left' hlength, List.append_assoc]
  rfl

def setEdge (path : TripPath) (index : Nat) (e : Edge) : TripPath :=
  { path with nodes := path.nodes.modify index fun n => { n with edge := some e } }

theorem modify_append_cons (f : Node → Node) (before after : List Node) (n : Node) :
    (before ++ n :: after).modify before.length f = before ++ f n :: after := by
  induction before with
  | nil => rfl
  | cons a before ih => simpa using ih

theorem setEdge_nodes {path : TripPath} {before after : List Node} {n : Node} {e : Edge}
    (h : path.nodes = before ++ n :: after) :
    (path.setEdge before.length e).nodes = before ++ { n with edge := some e } :: after := by
  unfold setEdge
  rw [h, modify_append_cons]

def subdivide (path : TripPath) (index : Nat) (first : Edge) (mid : Node) : TripPath :=
  (path.setEdge index first).insertNode (index + 1) mid

theorem subdivide_nodes {path : TripPath} {before after : List Node} {n mid : Node} {first : Edge}
    (h : path.nodes = before ++ n :: after) :
    (path.subdivide before.length first mid).nodes =
      before ++ { n with edge := some first } :: mid :: after :=
  insertNode_nodes (setEdge_nodes h)

end TripPath

end TurnByTurn
