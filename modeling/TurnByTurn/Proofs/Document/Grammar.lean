import TurnByTurn.Document.Reader

namespace TurnByTurn.Document

open Markup (Element Event Fault)

def readNames : List String :=
  ["trip_path", "location", "node", "edge", "tag", "transit_route", "transit_stop"]

def IsForeign : Event → Prop
  | .opening e | .empty e => e.name ∉ readNames
  | .closing name => name ∉ readNames
  | .other => True

abbrev Foreign := {event : Event // IsForeign event}

/-- An element with its children, in their order and with foreign events anywhere between them.
Without content it is a single tag. -/
structure Tree (name : String) (α : Type) where
  attributes : Except Fault (List (String × String))
  content : Option (List (Foreign ⊕ α))

abbrev Leaf (name : String) := Tree name Empty

abbrev EdgeTree := Tree "edge" (Leaf "tag" ⊕ Leaf "transit_route")

abbrev NodeTree := Tree "node" (EdgeTree ⊕ Leaf "transit_stop")

abbrev PathTree := Tree "trip_path" (Leaf "location" ⊕ NodeTree)

structure TripDocument where
  before : List Foreign
  path : PathTree
  after : List Foreign

section Events

def itemEvents {α : Type} (childEvents : α → List Event) : Foreign ⊕ α → List Event
  | .inl event => [event.1]
  | .inr child => childEvents child

namespace Tree

variable {name : String} {α : Type}

def element (t : Tree name α) : Element := ⟨name, t.attributes⟩

def children (t : Tree name α) : List α :=
  (t.content.getD []).filterMap Sum.getRight?

def events (childEvents : α → List Event) (t : Tree name α) : List Event :=
  match t.content with
  | none => [.empty t.element]
  | some items => .opening t.element :: (items.flatMap (itemEvents childEvents) ++ [.closing name])

end Tree

def leafEvents {name : String} : Leaf name → List Event :=
  Tree.events Empty.elim

def edgeEvents : EdgeTree → List Event :=
  Tree.events (Sum.elim leafEvents leafEvents)

def nodeEvents : NodeTree → List Event :=
  Tree.events (Sum.elim edgeEvents leafEvents)

def pathEvents : PathTree → List Event :=
  Tree.events (Sum.elim leafEvents nodeEvents)

def TripDocument.events (doc : TripDocument) : List Event :=
  doc.before.map (·.1) ++ (pathEvents doc.path ++ doc.after.map (·.1))

end Events

section Elements

def Tree.elements {name : String} {α : Type} (childElements : α → List Element)
    (t : Tree name α) : List Element :=
  t.element :: t.children.flatMap childElements

def leafElements {name : String} : Leaf name → List Element :=
  Tree.elements Empty.elim

def edgeElements : EdgeTree → List Element :=
  Tree.elements (Sum.elim leafElements leafElements)

def nodeElements : NodeTree → List Element :=
  Tree.elements (Sum.elim edgeElements leafElements)

def TripDocument.elements (doc : TripDocument) : List Element :=
  Tree.elements (Sum.elim leafElements nodeElements) doc.path

end Elements

section Values

variable {name : String} {α β γ δ : Type}

def Tree.value (read : Attributes → Except Failure γ) (childValue : α → Except Failure δ)
    (assemble : γ → List δ → γ) (t : Tree name α) : Except Failure γ :=
  (attributesAs t.element read).bind fun x => (t.children.mapM childValue).map (assemble x)

def leafValue (read : Attributes → Except Failure γ) : Leaf name → Except Failure γ :=
  Tree.value read Empty.elim fun x (_ : List Empty) => x

def eitherValue (value : α → Except Failure γ) (value' : β → Except Failure δ) :
    α ⊕ β → Except Failure (γ ⊕ δ) :=
  Sum.elim (fun a => (value a).map .inl) fun b => (value' b).map .inr

/-- All tags in their order, but only the last line. -/
def assembleEdge (e : Edge) (parts : List ((String × String) ⊕ TransitLine)) : Edge :=
  { (parts.filterMap Sum.getLeft?).foldl (fun e tag => e.setTag tag.1 tag.2) e with
    line := (parts.filterMap Sum.getRight?).getLast? }

def assembleNode (n : Node) (parts : List (Edge ⊕ StopInfo)) : Node :=
  { n with
    edge := (parts.filterMap Sum.getLeft?).getLast?
    stop := (parts.filterMap Sum.getRight?).getLast? }

def assemblePath (p : TripPath) (parts : List (Location ⊕ Node)) : TripPath :=
  { p with
    locations := parts.filterMap Sum.getLeft?
    nodes := parts.filterMap Sum.getRight? }

def edgeValue : EdgeTree → Except Failure Edge :=
  Tree.value readEdge (eitherValue (leafValue readTag) (leafValue readLine)) assembleEdge

def nodeValue : NodeTree → Except Failure Node :=
  Tree.value readNode (eitherValue edgeValue (leafValue readStop)) assembleNode

def TripDocument.value (doc : TripDocument) : Except Failure TripPath :=
  doc.path.value readTripPath (eitherValue (leafValue readLocation) nodeValue) assemblePath

end Values

end TurnByTurn.Document
