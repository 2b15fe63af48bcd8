import TurnByTurn.Document.Elements
import TurnByTurn.Markup.Event
import TurnByTurn.Path.Tags

namespace TurnByTurn.Document

open Markup (Element Event)

/-- What has been read so far, and the node and the edge that are being read. The locations and
nodes of the path stand in it backwards, the latest first. -/
structure Draft where
  path : Option TripPath := none
  node : Option Node := none
  edge : Option Edge := none

def attributesOf (e : Element) : Except Failure Attributes :=
  match e.attributes with
  | .ok values => .ok ⟨e.name, values⟩
  | .error fault => .error (.markup fault)

def attributesAs {α : Type} (e : Element) (read : Attributes → Except Failure α) :
    Except Failure α :=
  (attributesOf e).bind read

namespace Draft

def addLocation (d : Draft) (l : Location) : Draft :=
  { d with path := d.path.map fun p => { p with locations := l :: p.locations } }

def setTag (d : Draft) (tag : String × String) : Draft :=
  { d with edge := d.edge.map fun e => e.setTag tag.1 tag.2 }

def setLine (d : Draft) (l : TransitLine) : Draft :=
  { d with edge := d.edge.map fun e => { e with line := some l } }

def setStop (d : Draft) (s : StopInfo) : Draft :=
  { d with node := d.node.map fun n => { n with stop := some s } }

def opened (d : Draft) (e : Element) : Except Failure Draft :=
  match e.name with
  | "trip_path" => (attributesAs e readTripPath).map fun p => { d with path := some p }
  | "location" => (attributesAs e readLocation).map d.addLocation
  | "node" => (attributesAs e readNode).map fun n => { d with node := some n }
  | "edge" => (attributesAs e readEdge).map fun x => { d with edge := some x }
  | "tag" => (attributesAs e readTag).map d.setTag
  | "transit_route" => (attributesAs e readLine).map d.setLine
  | "transit_stop" => (attributesAs e readStop).map d.setStop
  | _ => .ok d

def closeEdge (d : Draft) : Draft :=
  match d.node, d.edge with
  | some n, some e => { d with node := some { n with edge := some e }, edge := none }
  | _, _ => { d with edge := none }

def closeNode (d : Draft) : Draft :=
  match d.path, d.node with
  | some p, some n => { d with path := some { p with nodes := n :: p.nodes }, node := none }
  | _, _ => { d with node := none }

def closed (d : Draft) (name : String) : Draft :=
  match name with
  | "edge" => d.closeEdge
  | "node" => d.closeNode
  | _ => d

def isDone (d : Draft) : Event → Bool
  | .closing name => name == "trip_path" && d.path.isSome
  | _ => false

def next (d : Draft) : Event → Except Failure Draft
  | .opening e => d.opened e
  | .empty e => (d.opened e).map (·.closed e.name)
  | .closing name => .ok (d.closed name)
  | .other => .ok d

def finish (d : Draft) : Except Failure TripPath :=
  match d.path with
  | some p => .ok { p with locations := p.locations.reverse, nodes := p.nodes.reverse }
  | none => .error (.missingElement "trip_path")

/-- How the events end matters only if they all are needed. -/
def run (ending : Option Failure) : Draft → List Event → Except Failure TripPath
  | d, [] =>
    match ending with
    | some failure => .error failure
    | none => d.finish
  | d, event :: rest =>
    if d.isDone event then d.finish
    else (d.next event).bind fun d => run ending d rest

def unknownTag? (d : Draft) : Event → Option (String × String)
  | .opening e | .empty e =>
    if e.name = "tag" then
      match d.edge, attributesAs e readTag with
      | some edge, .ok (key, value) =>
        if (edge.setTag? key value).isNone then some (key, value) else none
      | _, _ => none
    else none
  | _ => none

def unknownTags : Draft → List Event → List (String × String)
  | _, [] => []
  | d, event :: rest =>
    if d.isDone event then []
    else (d.unknownTag? event).toList ++
      match d.next event with
      | .ok d => unknownTags d rest
      | .error _ => []

end Draft

def read (events : List Event) (ending : Option Failure) : Except Failure TripPath :=
  Draft.run ending {} events

end TurnByTurn.Document
