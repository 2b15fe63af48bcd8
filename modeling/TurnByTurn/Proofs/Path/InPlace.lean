import TurnByTurn.Proofs.Path.Headings

/-!
Repairing headings in place, node by node. A repair reads the headings of trusted edges only, and no
repair touches those, so neither the order of the nodes matters nor how often each of them is
repaired.
-/

namespace TurnByTurn

namespace Edge

theorem withHeadingsOf_withHeadingsOf (e : Edge) (before after : Option Edge) :
    (e.withHeadingsOf before after).withHeadingsOf before after =
      e.withHeadingsOf before after := by
  cases before <;> cases after <;> rfl

def headings (e : Edge) : Nat × Nat := (e.beginHeading, e.endHeading)

def withHeadings (e : Edge) (headings : Nat × Nat) : Edge :=
  { e with beginHeading := headings.1, endHeading := headings.2 }

end Edge

namespace TripPath

variable (path : TripPath)

theorem length_repairedEdge (node : Nat) (e : Edge) :
    (path.repairedEdge node e).length = e.length := by
  unfold repairedEdge
  split <;> rfl

theorem isShort_repairedEdge (node : Nat) (e : Edge) :
    (path.repairedEdge node e).isShort = e.isShort := by
  rw [Edge.isShort, length_repairedEdge, Edge.isShort]

theorem isTrusted_repairedEdge (node : Nat) (e : Edge) :
    (path.repairedEdge node e).isTrusted = e.isTrusted := by
  rw [Edge.isTrusted, length_repairedEdge, Edge.isTrusted]

theorem repairedEdge_of_isTrusted {e : Edge} (h : e.isTrusted = true) (node : Nat) :
    path.repairedEdge node e = e := by
  simp [repairedEdge, Edge.isShort_eq_false_of_isTrusted h]

theorem repairedEdge_repairedEdge (node : Nat) (e : Edge) :
    path.repairedEdge node (path.repairedEdge node e) = path.repairedEdge node e := by
  by_cases h : e.isShort = true
  · have hshort := (path.isShort_repairedEdge node e).trans h
    rw [repairedEdge, if_pos hshort]
    rw [repairedEdge, if_pos h, Edge.withHeadingsOf_withHeadingsOf]
  · have hlong : path.repairedEdge node e = e := if_neg h
    rw [hlong, hlong]

def repairAt (path : TripPath) (node : Nat) : TripPath :=
  { path with
    nodes := path.nodes.modify node fun n =>
      { n with edge := n.edge.map (path.repairedEdge node) } }

def repairedAmong (path : TripPath) (done : List Nat) : TripPath :=
  { path with
    nodes := path.nodes.mapIdx fun i n =>
      if i ∈ done then { n with edge := n.edge.map (path.repairedEdge i) } else n }

theorem edgeAt_repairedAmong (done : List Nat) (node : Nat) :
    (path.repairedAmong done).edgeAt node =
      if node ∈ done then (path.edgeAt node).map (path.repairedEdge node)
      else path.edgeAt node := by
  unfold repairedAmong edgeAt
  rw [List.getElem?_mapIdx]
  cases path.nodes[node]? with
  | none => simp
  | some n => by_cases h : node ∈ done <;> simp [h]

theorem filter_isTrusted_edgeAt_repairedAmong (done : List Nat) (node : Nat) :
    ((path.repairedAmong done).edgeAt node).filter Edge.isTrusted =
      (path.edgeAt node).filter Edge.isTrusted := by
  rw [edgeAt_repairedAmong]
  by_cases h : node ∈ done
  · rw [if_pos h]
    cases path.edgeAt node with
    | none => rfl
    | some e =>
      rw [Option.map_some, Option.filter_some, Option.filter_some, isTrusted_repairedEdge]
      by_cases htrusted : e.isTrusted = true
      · rw [if_pos htrusted, if_pos htrusted, repairedEdge_of_isTrusted path htrusted]
      · rw [if_neg htrusted, if_neg htrusted]
  · rw [if_neg h]

theorem repairedEdge_repairedAmong (done : List Nat) (node : Nat) (e : Edge) :
    (path.repairedAmong done).repairedEdge node e = path.repairedEdge node e := by
  have hbefore : ((path.repairedAmong done).edgeBefore node).filter Edge.isTrusted =
      (path.edgeBefore node).filter Edge.isTrusted := by
    cases node with
    | zero => rfl
    | succ node => exact path.filter_isTrusted_edgeAt_repairedAmong done node
  have hafter : ((path.repairedAmong done).edgeAfter node).filter Edge.isTrusted =
      (path.edgeAfter node).filter Edge.isTrusted :=
    path.filter_isTrusted_edgeAt_repairedAmong done (node + 1)
  unfold repairedEdge
  rw [hbefore, hafter]

theorem repairAt_repairedAmong (done : List Nat) (node : Nat) :
    (path.repairedAmong done).repairAt node = path.repairedAmong (node :: done) := by
  have hrepair : (path.repairedAmong done).repairedEdge node = path.repairedEdge node :=
    funext (path.repairedEdge_repairedAmong done node)
  have htwice : path.repairedEdge node ∘ path.repairedEdge node = path.repairedEdge node :=
    funext (path.repairedEdge_repairedEdge node)
  unfold repairAt
  rw [hrepair]
  unfold repairedAmong
  congr 1
  apply List.ext_getElem?
  intro i
  rw [List.getElem?_modify, List.getElem?_mapIdx, List.getElem?_mapIdx]
  cases path.nodes[i]? with
  | none => rfl
  | some n =>
    by_cases hi : node = i
    · subst hi
      by_cases hdone : node ∈ done <;> simp [hdone, htwice]
    · simp [hi, Ne.symm hi]

theorem repairedAmong_nil : path.repairedAmong [] = path := by
  have hnodes : path.nodes.mapIdx (fun _ n => n) = path.nodes := by
    apply List.ext_getElem?
    simp
  simp [repairedAmong, hnodes]

theorem repairedAmong_eq_normalizeHeadings {done : List Nat}
    (h : ∀ node < path.nodes.length, node ∈ done) :
    path.repairedAmong done = path.normalizeHeadings := by
  unfold repairedAmong normalizeHeadings
  congr 1
  apply List.ext_getElem
  · simp
  · intro i hi _
    have hdone : i ∈ done := h i (by simpa using hi)
    simp [hdone]

theorem foldl_repairAt (done order : List Nat) :
    order.foldl repairAt (path.repairedAmong done) =
      path.repairedAmong (order.reverse ++ done) := by
  induction order generalizing done with
  | nil => rfl
  | cons node order ih =>
    rw [List.foldl_cons, repairAt_repairedAmong, ih, List.reverse_cons, List.append_assoc]
    rfl

theorem foldl_repairAt_eq_normalizeHeadings {order : List Nat}
    (h : ∀ node < path.nodes.length, node ∈ order) :
    order.foldl repairAt path = path.normalizeHeadings := by
  have hfold := path.foldl_repairAt [] order
  rw [repairedAmong_nil, List.append_nil] at hfold
  rw [hfold]
  apply repairedAmong_eq_normalizeHeadings
  intro node hnode
  exact List.mem_reverse.mpr (h node hnode)

/-- Going over all nodes a second time is one more order in which each of them occurs. -/
theorem normalizeHeadings_normalizeHeadings :
    path.normalizeHeadings.normalizeHeadings = path.normalizeHeadings := by
  let nodes := List.range path.nodes.length
  have honce : nodes.foldl repairAt path = path.normalizeHeadings :=
    path.foldl_repairAt_eq_normalizeHeadings (by simp [nodes])
  have hagain : nodes.foldl repairAt path.normalizeHeadings =
      path.normalizeHeadings.normalizeHeadings := by
    apply foldl_repairAt_eq_normalizeHeadings
    simp [nodes, length_nodes_normalizeHeadings]
  calc path.normalizeHeadings.normalizeHeadings
    _ = nodes.foldl repairAt (nodes.foldl repairAt path) := by rw [honce, hagain]
    _ = (nodes ++ nodes).foldl repairAt path := List.foldl_append.symm
    _ = path.normalizeHeadings := path.foldl_repairAt_eq_normalizeHeadings (by simp [nodes])

def withShortHeadings (path : TripPath) (headings : Nat → Nat × Nat) : TripPath :=
  { path with
    nodes := path.nodes.mapIdx fun i n =>
      { n with edge := n.edge.map fun e => if e.isShort then e.withHeadings (headings i) else e } }

theorem repairedEdge_eq_withHeadings (node : Nat) (e : Edge) :
    path.repairedEdge node e =
      if e.isShort then e.withHeadings (path.repairedEdge node e).headings else e := by
  by_cases h : e.isShort = true
  · rw [repairedEdge, if_pos h, if_pos h]
    rfl
  · rw [repairedEdge, if_neg h, if_neg h]

theorem exists_normalizeHeadings_eq_withShortHeadings :
    ∃ headings, path.normalizeHeadings = path.withShortHeadings headings := by
  refine ⟨fun node => (path.edgeAt node).elim (0, 0) fun e =>
    (path.repairedEdge node e).headings, ?_⟩
  unfold normalizeHeadings withShortHeadings
  congr 1
  apply List.ext_getElem?
  intro i
  rw [List.getElem?_mapIdx, List.getElem?_mapIdx]
  cases hnode : path.nodes[i]? with
  | none => rfl
  | some n =>
    cases hedge : n.edge with
    | none => simp [hedge]
    | some e =>
      have hat : path.edgeAt i = some e := by rw [edgeAt, hnode, Option.bind_some, hedge]
      simp [hedge, hat, ← repairedEdge_eq_withHeadings]

theorem repair_inPlace :
    (∀ order : List Nat, (∀ node < path.nodes.length, node ∈ order) →
      order.foldl repairAt path = path.normalizeHeadings) ∧
    path.normalizeHeadings.normalizeHeadings = path.normalizeHeadings ∧
    ∃ headings, path.normalizeHeadings = path.withShortHeadings headings :=
  ⟨fun _ horder => path.foldl_repairAt_eq_normalizeHeadings horder,
    path.normalizeHeadings_normalizeHeadings, path.exists_normalizeHeadings_eq_withShortHeadings⟩

def patchwork : TripPath where
  nodes := [
    { edge := some { length := 0.001, beginHeading := 1, endHeading := 2 } },
    { edge := some { length := 0.5, beginHeading := 10, endHeading := 20 } },
    { edge := some { length := 0.001, beginHeading := 300, endHeading := 310 } },
    { edge := some { length := 0, beginHeading := 200, endHeading := 210 } },
    { edge := some { length := 0.002, beginHeading := 100, endHeading := 110 } },
    { edge := some { length := 0.5, beginHeading := 90, endHeading := 95 } },
    { edge := some { length := 0.001, beginHeading := 45, endHeading := 46 } },
    {},
    { edge := some { length := 0 / 0, beginHeading := 7, endHeading := 8 } },
    {}]

theorem repair_inPlace_patchwork :
    (∀ node < patchwork.nodes.length, node ∈ [4, 3, 9, 2, 2, 6, 0, 5, 8, 7, 4, 1]) ∧
      [4, 3, 9, 2, 2, 6, 0, 5, 8, 7, 4, 1].foldl repairAt patchwork =
        patchwork.normalizeHeadings := by
  have horder : ∀ node < patchwork.nodes.length, node ∈ [4, 3, 9, 2, 2, 6, 0, 5, 8, 7, 4, 1] := by
    decide
  exact ⟨horder, patchwork.repair_inPlace.1 _ horder⟩

example : patchwork.normalizeHeadings.nodes.filterMap (fun n => n.edge.map Edge.headings) =
    [(10, 10), (10, 20), (20, 20), (200, 210), (90, 90), (90, 95), (95, 95), (7, 8)] := by
  decide +kernel

end TripPath

end TurnByTurn
