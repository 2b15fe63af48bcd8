import TurnByTurn.Proofs.Document.Reading
import TurnByTurn.Proofs.Path.Names

/-!
What is known of any path that has been read. Every value is checked before it comes into the draft,
so no order of the elements can bring in one that is not.
-/

namespace TurnByTurn

structure TransitLine.IsValidated (l : TransitLine) : Prop where
  color_lt : l.color < Nat.pow 2 24
  textColor_lt : l.textColor < Nat.pow 2 24

structure Edge.IsValidated (e : Edge) : Prop where
  isFinite_length : e.length.isFinite = true
  length_not_lt : ¬ e.length < 0
  beginHeading_lt : e.beginHeading < 360
  endHeading_lt : e.endHeading < 360
  isToken_of_mem_sign : ∀ token ∈ e.sign, IsToken token.text
  line : ∀ l ∈ e.line, l.IsValidated

structure Location.IsValidated (l : Location) : Prop where
  isFinite_lat : l.lat.isFinite = true
  isFinite_lng : l.lng.isFinite = true
  empty_notMem_texts : some "" ∉ l.texts

def Node.IsValidated (n : Node) : Prop :=
  ∀ e ∈ n.edge, e.IsValidated

structure TripPath.IsValidated (p : TripPath) : Prop where
  locations : ∀ l ∈ p.locations, l.IsValidated
  nodes : ∀ n ∈ p.nodes, n.IsValidated

theorem Edge.IsValidated.setTag {e : Edge} (h : e.IsValidated) (key value : String) :
    (e.setTag key value).IsValidated := by
  have hsign := Edge.forall_sign_setTag (fun _ _ => isToken_of_mem_tagTokens)
    h.isToken_of_mem_sign key value
  unfold Edge.setTag Edge.setTag? at hsign ⊢
  cases hkey : TagKey.ofTag? key with
  | none => exact h
  | some k =>
    rw [hkey] at hsign
    cases k <;> exact { h with isToken_of_mem_sign := hsign }

namespace Document

open Markup (Element Event)

theorem color?_lt {cs : List Char} {n : Nat} (h : color? cs = some n) : n < Nat.pow 2 24 := by
  unfold color? at h
  dsimp only at h
  split at h
  · next hbytes =>
    have hlength : (dropNumberSign cs).length ≤ 6 := hbytes ▸ Markup.length_le_byteLength _
    calc n
      _ < Nat.pow 16 (dropNumberSign cs).length := Decimal.natural?_lt_pow (by decide) h
      _ ≤ Nat.pow 16 6 := Nat.pow_le_pow_right (by decide) hlength
      _ = Nat.pow 2 24 := by decide
  · cases h

section Attributes

variable {α : Type} {P : α → Prop} {parse : List Char → Option α}

theorem yields_readD (a : Attributes) (key : String) {default : α} (hdefault : P default)
    (hparse : ∀ cs v, parse cs = some v → P v) : Yields P (a.readD key parse default) := by
  intro v hv
  unfold Attributes.readD Attributes.read? at hv
  split at hv
  · cases hv
    exact hdefault
  · split at hv
    · next x hx =>
      cases hv
      exact hparse _ x hx
    · cases hv

theorem yields_requiring (a : Attributes) (key : String) (condition : Bool) :
    Yields (fun _ => condition = true) (a.requiring key condition) := by
  intro v hv
  unfold Attributes.requiring at hv
  split at hv
  · assumption
  · cases hv

theorem Attributes.text?_ne_empty (a : Attributes) (key : String) : a.text? key ≠ some "" := by
  unfold text?
  cases a.get? key with
  | none => nofun
  | some value =>
    intro h
    exact (nonEmpty_eq_some_iff.mp h).2 rfl

end Attributes

theorem isValidated_readTripPath (a : Attributes) :
    Yields TripPath.IsValidated (readTripPath a) := by
  intro p hp
  obtain ⟨hlocations, hnodes⟩ := yields_readTripPath a p hp
  constructor
  · simp [hlocations]
  · simp [hnodes]

theorem isValidated_readLocation (a : Attributes) :
    Yields Location.IsValidated (readLocation a) := by
  unfold readLocation
  refine yields_bind fun lat => ?_
  refine yields_bind fun lng => ?_
  refine (yields_requiring a "lat" _).bind fun _ hlat => ?_
  refine (yields_requiring a "lng" _).bind fun _ hlng => ?_
  repeat (refine yields_bind ?_; intro _)
  refine yields_pure ⟨hlat, hlng, ?_⟩
  simp [Location.texts, (a.text?_ne_empty _).symm]

theorem isValidated_readNode (a : Attributes) : Yields Node.IsValidated (readNode a) := by
  intro n hn e he
  rw [(yields_readNode a n hn).1] at he
  cases he

theorem isValidated_readEdge (a : Attributes) : Yields Edge.IsValidated (readEdge a) := by
  unfold readEdge
  refine yields_bind fun length => ?_
  refine (yields_requiring a "length" _).bind fun _ hlength => ?_
  repeat (refine yields_bind ?_; intro _)
  obtain ⟨hfinite, hnonneg⟩ := Bool.and_eq_true_iff.mp hlength
  refine yields_pure ⟨hfinite, by simpa using hnonneg, ?_, ?_, ?_, ?_⟩
  · exact Nat.mod_lt _ (by decide)
  · exact Nat.mod_lt _ (by decide)
  · exact List.forall_mem_nil _
  · nofun

theorem isValidated_readLine (a : Attributes) : Yields TransitLine.IsValidated (readLine a) := by
  unfold readLine
  have hcolor (key : String) : Yields (· < Nat.pow 2 24) (a.readD key color? 0) :=
    yields_readD a key (by decide) fun _ _ => color?_lt
  refine (hcolor "color").bind fun color hlt => ?_
  refine (hcolor "text_color").bind fun textColor hlt' => ?_
  exact yields_pure ⟨hlt, hlt'⟩

theorem yields_attributesAs {α : Type} {P : α → Prop} {read : Attributes → Except Failure α}
    (h : ∀ a, Yields P (read a)) (e : Element) : Yields P (attributesAs e read) := by
  unfold attributesAs
  exact yields_bind h

namespace Draft

structure IsValidated (d : Draft) : Prop where
  path : ∀ p ∈ d.path, p.IsValidated
  node : ∀ n ∈ d.node, n.IsValidated
  edge : ∀ e ∈ d.edge, e.IsValidated

namespace IsValidated

variable {d : Draft}

theorem empty : ({} : Draft).IsValidated := by
  constructor <;> simp

theorem withPath (h : d.IsValidated) {p : TripPath} (hp : p.IsValidated) :
    { d with path := some p }.IsValidated := by
  refine { h with path := ?_ }
  simpa using hp

theorem withNode (h : d.IsValidated) {n : Node} (hn : n.IsValidated) :
    { d with node := some n }.IsValidated := by
  refine { h with node := ?_ }
  simpa using hn

theorem withEdge (h : d.IsValidated) {x : Edge} (hx : x.IsValidated) :
    { d with edge := some x }.IsValidated := by
  refine { h with edge := ?_ }
  simpa using hx

theorem addLocation (h : d.IsValidated) {l : Location} (hl : l.IsValidated) :
    (d.addLocation l).IsValidated := by
  refine { h with path := ?_ }
  intro q hq
  obtain ⟨p, hp, rfl⟩ := Option.map_eq_some_iff.mp hq
  refine { h.path p hp with locations := ?_ }
  exact List.forall_mem_cons.mpr ⟨hl, (h.path p hp).locations⟩

theorem setTag (h : d.IsValidated) (tag : String × String) : (d.setTag tag).IsValidated := by
  refine { h with edge := ?_ }
  intro y hy
  obtain ⟨x, hx, rfl⟩ := Option.map_eq_some_iff.mp hy
  exact (h.edge x hx).setTag tag.1 tag.2

theorem setLine (h : d.IsValidated) {l : TransitLine} (hl : l.IsValidated) :
    (d.setLine l).IsValidated := by
  refine { h with edge := ?_ }
  intro y hy
  obtain ⟨x, hx, rfl⟩ := Option.map_eq_some_iff.mp hy
  refine { h.edge x hx with line := ?_ }
  simpa using hl

theorem setStop (h : d.IsValidated) (s : StopInfo) : (d.setStop s).IsValidated := by
  refine { h with node := ?_ }
  intro m hm
  obtain ⟨n, hn, rfl⟩ := Option.map_eq_some_iff.mp hm
  exact h.node n hn

theorem opened (h : d.IsValidated) (e : Element) : Yields IsValidated (d.opened e) := by
  unfold Draft.opened
  split
  · exact (yields_attributesAs isValidated_readTripPath e).map fun p hp => h.withPath hp
  · exact (yields_attributesAs isValidated_readLocation e).map fun l hl => h.addLocation hl
  · exact (yields_attributesAs isValidated_readNode e).map fun n hn => h.withNode hn
  · exact (yields_attributesAs isValidated_readEdge e).map fun x hx => h.withEdge hx
  · exact yields_map h.setTag
  · exact (yields_attributesAs isValidated_readLine e).map fun l hl => h.setLine hl
  · exact yields_map h.setStop
  · exact yields_pure h

theorem closeEdge (h : d.IsValidated) : d.closeEdge.IsValidated := by
  unfold Draft.closeEdge
  split
  · next n e hn he =>
    have hnode : { n with edge := some e }.IsValidated := by
      simpa [Node.IsValidated] using h.edge e he
    exact ⟨h.path, by simpa using hnode, by simp⟩
  · exact ⟨h.path, h.node, by simp⟩

theorem closeNode (h : d.IsValidated) : d.closeNode.IsValidated := by
  unfold Draft.closeNode
  split
  · next p n hp hn =>
    have hpath : { p with nodes := n :: p.nodes }.IsValidated := by
      refine { h.path p hp with nodes := ?_ }
      exact List.forall_mem_cons.mpr ⟨h.node n hn, (h.path p hp).nodes⟩
    exact ⟨by simpa using hpath, by simp, h.edge⟩
  · exact ⟨h.path, by simp, h.edge⟩

theorem closed (h : d.IsValidated) (name : String) : (d.closed name).IsValidated := by
  unfold Draft.closed
  split
  · exact h.closeEdge
  · exact h.closeNode
  · exact h

theorem next (h : d.IsValidated) (event : Event) : Yields IsValidated (d.next event) := by
  cases event with
  | opening e => exact h.opened e
  | empty e => exact (h.opened e).map fun d' h' => h'.closed e.name
  | closing name => exact yields_pure (h.closed name)
  | other => exact yields_pure h

theorem finish (h : d.IsValidated) : Yields TripPath.IsValidated d.finish := by
  unfold Draft.finish
  split
  · next p hp =>
    have hvalid := h.path p hp
    refine yields_pure ⟨?_, ?_⟩
    · simpa using hvalid.locations
    · simpa using hvalid.nodes
  · nofun

theorem run (h : d.IsValidated) (ending : Option Failure) (events : List Event) :
    Yields TripPath.IsValidated (Draft.run ending d events) := by
  induction events generalizing d with
  | nil =>
    cases ending with
    | some failure => nofun
    | none => exact h.finish
  | cons event rest ih =>
    rw [Draft.run]
    split
    · exact h.finish
    · exact (h.next event).bind fun d' h' => ih h'

end IsValidated

end Draft

theorem isValidated_of_read {events : List Event} {ending : Option Failure} {p : TripPath}
    (h : read events ending = .ok p) : p.IsValidated :=
  Draft.IsValidated.empty.run ending events p h

def harborStreet : List Event :=
  [.opening ⟨"trip_path", .ok []⟩,
    .empty ⟨"location", .ok [("lat", "-52.25"), ("lng", "2e1"), ("name", "Home"), ("city", "")]⟩,
    .opening ⟨"node", .ok []⟩,
    .opening ⟨"edge", .ok [("length", "1.5"), ("begin_heading", "450")]⟩,
    .empty ⟨"tag", .ok [("k", "destination"), ("v", " Harbor;; Old Town ")]⟩,
    .empty ⟨"transit_route", .ok [("color", "#FF8800"), ("text_color", "+12345")]⟩,
    .closing "edge", .closing "node", .closing "trip_path"]

theorem isValidated_of_read_harborStreet :
    ∃ p, read harborStreet none = .ok p ∧ p.IsValidated := by
  obtain ⟨p, hp⟩ : ∃ p, read harborStreet none = .ok p := ⟨_, rfl⟩
  exact ⟨p, hp, isValidated_of_read hp⟩

example : (read harborStreet none).toOption.map (fun p =>
    p.nodes.filterMap (·.edge) |>.map fun e => (e.beginHeading, e.sign.map (·.text),
      e.line.map fun l => (l.color, l.textColor))) =
    some [(90, ["Harbor", "Old Town"], some (0xFF8800, 0x12345))] := by
  decide +kernel

end Document

end TurnByTurn
