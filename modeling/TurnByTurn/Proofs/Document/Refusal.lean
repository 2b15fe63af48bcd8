import TurnByTurn.Proofs.Document.Reading

namespace TurnByTurn.Document

open Markup (Element Event Fault)

def failure? {α : Type} : Except Failure α → Option Failure
  | .error failure => some failure
  | .ok _ => none

def refusal? (e : Element) : Option Failure :=
  match e.name with
  | "trip_path" => failure? (attributesAs e readTripPath)
  | "location" => failure? (attributesAs e readLocation)
  | "node" => failure? (attributesAs e readNode)
  | "edge" => failure? (attributesAs e readEdge)
  | "tag" => failure? (attributesAs e readTag)
  | "transit_route" => failure? (attributesAs e readLine)
  | "transit_stop" => failure? (attributesAs e readStop)
  | _ => none

section Order

variable {name : String} {α β γ δ : Type}

theorem failure?_map (f : α → β) (x : Except Failure α) : failure? (x.map f) = failure? x := by
  cases x <;> rfl

end Order

section Blame

variable {ι α β : Type}

end Blame

def twoEdges : TripDocument where
  before := [⟨.other, trivial⟩]
  path := {
    attributes := .ok [("trip_id", "7")]
    content := some [.inr (.inr {
      attributes := .ok []
      content := some [
        .inr (.inl { attributes := .ok [("length", "1")], content := none }),
        .inl ⟨.other, trivial⟩,
        .inr (.inl {
          attributes := .ok [("length", "2")]
          content := some [
            .inr (.inl { attributes := .ok [("k", "name"), ("v", "Elm Lane")], content := none }),
            .inr (.inl {
              attributes := .ok [("k", "name"), ("v", "Main Street")]
              content := some [] })] })] })] }
  after := []

example : (read twoEdges.events none).toOption.map (fun p =>
    p.nodes.map fun n => n.edge.map fun e => (e.length, e.streetNames)) =
      some [some (2, ["Main Street"])] := by
  decide +kernel

end TurnByTurn.Document
