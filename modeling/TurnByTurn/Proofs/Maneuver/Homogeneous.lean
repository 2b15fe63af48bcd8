import Mathlib.Tactic.SplitIfs
import TurnByTurn.Proofs.Maneuver.Summary

/-!
All edges of a maneuver are travelled the same way. What its kind says about the edge on which it
begins it therefore says about all of them.
-/

namespace TurnByTurn

namespace Edge

/-- Travelled the same way. A ride has its line; inside a roundabout the kind of road does not
matter. -/
structure Alike (e f : Edge) : Prop where
  mode : e.mode = f.mode
  line : e.isTransit = true → e.sameLine f = true
  roundabout : e.isTransit = false → e.roundabout = f.roundabout
  road : e.isTransit = false → e.roundabout = false →
    e.isFerry = f.isFerry ∧ e.isRamp = f.isRamp ∧ e.isHighway = f.isHighway

theorem sameLine_iff {e f : Edge} :
    e.sameLine f = true ↔
      (e.line = none ∧ f.line = none) ∨
        ∃ a b, e.line = some a ∧ f.line = some b ∧ a.id = b.id ∧ a.shortName = b.shortName := by
  unfold sameLine TransitLine.sameLine
  cases e.line <;> cases f.line <;> simp

theorem sameLine_refl (e : Edge) : e.sameLine e = true := by
  unfold sameLine TransitLine.sameLine
  cases e.line <;> simp

theorem sameLine_symm {e f : Edge} (h : e.sameLine f = true) : f.sameLine e = true := by
  rw [sameLine_iff] at h ⊢
  rcases h with ⟨he, hf⟩ | ⟨a, b, he, hf, hid, hname⟩
  · exact .inl ⟨hf, he⟩
  · exact .inr ⟨b, a, hf, he, hid.symm, hname.symm⟩

theorem sameLine_trans {e f g : Edge} (h : e.sameLine f = true) (h' : f.sameLine g = true) :
    e.sameLine g = true := by
  rw [sameLine_iff] at h h' ⊢
  rcases h with ⟨he, hf⟩ | ⟨a, b, he, hf, hid, hname⟩
  · rcases h' with ⟨-, hg⟩ | ⟨b, c, hf', -⟩
    · exact .inl ⟨he, hg⟩
    · rw [hf] at hf'
      cases hf'
  · rcases h' with ⟨hf', -⟩ | ⟨b', c, hf', hg, hid', hname'⟩
    · rw [hf] at hf'
      cases hf'
    · obtain rfl := Option.some.inj (hf.symm.trans hf')
      exact .inr ⟨a, c, he, hg, hid.trans hid', hname.trans hname'⟩

namespace Alike

variable {e f g : Edge}

theorem isTransit (h : e.Alike f) : e.isTransit = f.isTransit := by
  unfold Edge.isTransit
  rw [h.mode]

theorem refl (e : Edge) : e.Alike e :=
  ⟨rfl, fun _ => sameLine_refl e, fun _ => rfl, fun _ _ => ⟨rfl, rfl, rfl⟩⟩

theorem symm (h : e.Alike f) : f.Alike e := by
  refine ⟨h.mode.symm, ?_, ?_, ?_⟩
  · intro hf
    exact sameLine_symm (h.line (h.isTransit.trans hf))
  · intro hf
    exact (h.roundabout (h.isTransit.trans hf)).symm
  · intro hf hround
    have he := h.isTransit.trans hf
    obtain ⟨hferry, hramp, hhighway⟩ := h.road he ((h.roundabout he).trans hround)
    exact ⟨hferry.symm, hramp.symm, hhighway.symm⟩

theorem trans (h : e.Alike f) (h' : f.Alike g) : e.Alike g := by
  have htransit := h.isTransit
  refine ⟨h.mode.trans h'.mode, ?_, ?_, ?_⟩
  · intro he
    exact sameLine_trans (h.line he) (h'.line (htransit.symm.trans he))
  · intro he
    exact (h.roundabout he).trans (h'.roundabout (htransit.symm.trans he))
  · intro he hround
    obtain ⟨hferry, hramp, hhighway⟩ := h.road he hround
    obtain ⟨hferry', hramp', hhighway'⟩ :=
      h'.road (htransit.symm.trans he) ((h.roundabout he).symm.trans hround)
    exact ⟨hferry.trans hferry', hramp.trans hramp', hhighway.trans hhighway'⟩

end Alike

end Edge

theorem Stretch.alike_of_joins {prev s : Segment} (h : joins prev s = true) :
    prev.edge.Alike s.edge := by
  rw [joins, Bool.not_eq_true'] at h
  unfold Segment.beginsManeuver at h
  dsimp only at h
  split_ifs at h with hmode hride hround hinside
  · -- a ride: both edges travel by transit, since their modes agree
    have hmodes : prev.edge.mode = s.edge.mode := by simpa using hmode
    have htransit : prev.edge.isTransit = true := by simpa [Edge.isTransit, hmodes] using hride
    refine ⟨hmodes, fun _ => by simpa using h, ?_, ?_⟩
    · intro hnot
      rw [htransit] at hnot
      cases hnot
    · intro hnot
      rw [htransit] at hnot
      cases hnot
  · have hmodes : prev.edge.mode = s.edge.mode := by simpa using hmode
    have hrounds : prev.edge.roundabout = s.edge.roundabout := by simpa using hround
    refine ⟨hmodes, ?_, fun _ => hrounds, ?_⟩
    · intro htransit
      simp [htransit] at hride
    · intro _ hout
      rw [hrounds, hinside] at hout
      cases hout
  · have hmodes : prev.edge.mode = s.edge.mode := by simpa using hmode
    have hrounds : prev.edge.roundabout = s.edge.roundabout := by simpa using hround
    refine ⟨hmodes, ?_, fun _ => hrounds, ?_⟩
    · intro htransit
      simp [htransit] at hride
    · intro _ _
      simp only [Bool.or_eq_false_iff, Edge.changesRoad, bne_eq_false_iff_eq] at h
      exact ⟨h.1.1.1.1.1, h.1.1.1.1.2, h.1.1.1.2⟩

namespace ManeuverKind

def isRoundabout : ManeuverKind → Bool
  | roundaboutEnter | roundaboutExit => true
  | _ => false

def describes (kind : ManeuverKind) (e : Edge) : Bool :=
  match kind with
  | transit | transitTransfer => e.isTransit
  | roundaboutEnter => e.roundabout
  | roundaboutExit => !e.roundabout
  | ferryEnter => e.isFerry
  | ferryExit => !e.isFerry
  | rampStraight | rampRight | rampLeft | exitRight | exitLeft => e.isRamp
  | merge => !e.isRamp && e.isHighway
  | _ => true

theorem describes_ofTurn (turn : Turn) (degree : Nat) (e : Edge) :
    (ofTurn turn degree).describes e = true := by
  unfold ofTurn
  cases turn
  case uTurn => dsimp only; split_ifs <;> rfl
  all_goals rfl

theorem isTransit_ofTurn (turn : Turn) (degree : Nat) : (ofTurn turn degree).isTransit = false := by
  unfold ofTurn
  cases turn
  case uTurn => dsimp only; split_ifs <;> rfl
  all_goals rfl

theorem describes_between (prev e : Edge) : (between prev e).describes e = true := by
  unfold between
  dsimp only
  split_ifs
  all_goals first
    | exact describes_ofTurn _ _ _
    | simp_all [describes]

theorem isTransit_between (prev e : Edge) : (between prev e).isTransit = e.isTransit := by
  unfold between
  dsimp only
  cases e.isTransit with
  | true =>
    rw [if_pos rfl]
    split_ifs <;> rfl
  | false =>
    rw [if_neg Bool.false_ne_true]
    repeat' split
    all_goals first
      | exact isTransit_ofTurn _ _
      | simp only [isTransit]

theorem describes_of_alike {kind : ManeuverKind} {first e : Edge} (h : first.Alike e)
    (hkind : kind.isTransit = first.isTransit) (hfirst : kind.describes first = true)
    (hroad : kind.isTransit = true ∨ kind.isRoundabout = true ∨ first.roundabout = false) :
    kind.describes e = true := by
  cases ht : first.isTransit with
  | true =>
    have he := h.isTransit
    rw [ht] at hkind he
    cases kind <;> simp_all [describes, ManeuverKind.isTransit]
  | false =>
    have hround := h.roundabout ht
    rw [ht] at hkind
    cases hr : first.roundabout with
    | true => cases kind <;> simp_all [describes, isRoundabout, ManeuverKind.isTransit]
    | false =>
      obtain ⟨hferry, hramp, hhighway⟩ := h.road ht hr
      cases kind <;> simp_all [describes, ManeuverKind.isTransit]

end ManeuverKind

namespace TripPath

def Travels (path : TripPath) (m : Maneuver) (e : Edge) : Prop :=
  ∃ node, m.beginNode ≤ node ∧ node < m.endNode ∧ path.edgeAt node = some e

theorem mem_segments_of_node_between {path : TripPath} {t : Stretch} (ht : t ∈ path.stretches)
    {s : Segment} (hs : s ∈ path.segments) (hfirst : t.first.node ≤ s.node)
    (hlast : s.node ≤ t.last.node) : s ∈ t.segments := by
  obtain ⟨before, after, hsplit⟩ := List.append_of_mem ht
  have hall := flatMap_segments_stretches path
  have hpairs := pairwise_node_segments path
  rw [hsplit, List.flatMap_append, List.flatMap_cons] at hall
  rw [← hall] at hpairs hs
  rcases List.mem_append.mp hs with hs | hs
  · have hlt := (List.pairwise_append.mp hpairs).2.2 s hs _
      (List.mem_append_left _ t.first_mem)
    omega
  · rcases List.mem_append.mp hs with hs | hs
    · exact hs
    · have hrest := (List.pairwise_append.mp hpairs).2.1
      have hlt := (List.pairwise_append.mp hrest).2.2 _ t.last_mem s hs
      omega

theorem travels_summary_iff {path : TripPath} {t : Stretch} (ht : t ∈ path.stretches)
    {before : Option Stretch} {e : Edge} :
    path.Travels (t.summary before) e ↔ ∃ s ∈ t.segments, s.edge = e := by
  constructor
  · rintro ⟨node, hbegin, hend, he⟩
    obtain ⟨s, hs, rfl, rfl⟩ := exists_mem_segments_of_edgeAt he
    rw [Stretch.beginNode_summary] at hbegin
    rw [Stretch.endNode_summary] at hend
    exact ⟨s, mem_segments_of_node_between ht hs hbegin (Nat.le_of_lt_succ hend), rfl⟩
  · rintro ⟨s, hs, rfl⟩
    refine ⟨s.node, node_first_le ht hs, Nat.lt_succ_of_le (node_le_last ht hs), ?_⟩
    exact edgeAt_of_mem_segments (mem_segments_of_mem_stretches ht hs)

theorem alike_first {path : TripPath} {t : Stretch} (ht : t ∈ path.stretches) {s : Segment}
    (hs : s ∈ t.segments) : t.first.edge.Alike s.edge := by
  have hchain := (isChain_of_mem_stretches ht).imp fun a b => Stretch.alike_of_joins (s := b)
  have htrans : IsTrans Segment fun a b => a.edge.Alike b.edge := ⟨fun _ _ _ => Edge.Alike.trans⟩
  rcases List.mem_cons.mp hs with rfl | hs
  · exact .refl _
  · exact hchain.rel_cons hs

theorem describes_kind {path : TripPath} {t : Stretch} (ht : t ∈ path.stretches)
    (before : Option Stretch) (hroad : (t.kind before).isTransit = true ∨
      (t.kind before).isRoundabout = true ∨ t.first.edge.roundabout = false)
    {s : Segment} (hs : s ∈ t.segments) : (t.kind before).describes s.edge = true := by
  cases before with
  | none => rfl
  | some b =>
    exact ManeuverKind.describes_of_alike (alike_first ht hs)
      (ManeuverKind.isTransit_between _ _) (ManeuverKind.describes_between _ _) hroad

theorem eq_maneuvers_of_maneuvers? {path : TripPath} {ms : List Maneuver}
    (h : path.maneuvers? = .ok ms) : ms = path.maneuvers := by
  unfold maneuvers? at h
  split at h
  · cases h
  · exact (Except.ok.inj h).symm

theorem alike_and_described_of_mem_maneuvers {path : TripPath} {ms : List Maneuver}
    (hms : path.maneuvers? = .ok ms) {m : Maneuver} (hm : m ∈ ms) :
    (∀ e f, path.Travels m e → path.Travels m f → e.Alike f) ∧
      ∀ first, path.edgeAt m.beginNode = some first →
        m.kind.isTransit = true ∨ m.kind.isRoundabout = true ∨ first.roundabout = false →
        ∀ e, path.Travels m e → m.kind.describes e = true := by
  rw [eq_maneuvers_of_maneuvers? hms] at hm
  rcases summary_or_standstill_of_mem_maneuvers hm with ⟨t, ht, b, rfl⟩ | ⟨-, hstill, -⟩
  · simp only [travels_summary_iff ht]
    constructor
    · rintro e f ⟨s, hs, rfl⟩ ⟨s', hs', rfl⟩
      exact (alike_first ht hs).symm.trans (alike_first ht hs')
    · rintro first hfirst hroad e ⟨s, hs, rfl⟩
      rw [Stretch.beginNode_summary,
        edgeAt_of_mem_segments (mem_segments_of_mem_stretches ht t.first_mem)] at hfirst
      obtain rfl := Option.some.inj hfirst
      exact describes_kind ht b hroad hs
  · have hnone : ∀ e, ¬ path.Travels m e := by
      rintro e ⟨node, hbegin, hend, -⟩
      omega
    exact ⟨fun e _ he => absurd he (hnone e), fun _ _ _ e he => absurd he (hnone e)⟩

def ontoMotorway : TripPath where
  nodes := [
    { edge := some { length := 1, names := { name := "Main Street" } } },
    { edge := some { length := 1, usage := .ramp } },
    { edge := some { length := 2, roadClass := .motorway } },
    { edge := some { length := 3, roadClass := .motorway, toll := true } },
    {}]

theorem alike_and_described_of_mem_maneuvers_ontoMotorway :
    ∃ m ∈ ontoMotorway.maneuvers, m.kind = .merge ∧
      (∀ e f, ontoMotorway.Travels m e → ontoMotorway.Travels m f → e.Alike f) ∧
      ∃ first e, ontoMotorway.edgeAt m.beginNode = some first ∧ first.roundabout = false ∧
        ontoMotorway.Travels m e ∧ e ≠ first ∧ m.kind.describes e = true := by
  have hms : ontoMotorway.maneuvers? = .ok ontoMotorway.maneuvers := rfl
  let m := ontoMotorway.maneuvers[2]?.get (by decide +kernel)
  have hm : m ∈ ontoMotorway.maneuvers := List.mem_of_getElem? (Option.some_get _).symm
  have hbegin : m.beginNode = 2 := by decide +kernel
  have hend : m.endNode = 4 := by decide +kernel
  obtain ⟨halike, hdescribed⟩ := alike_and_described_of_mem_maneuvers hms hm
  have htravels : ontoMotorway.Travels m (ontoMotorway.nodes[3].edge.get rfl) :=
    ⟨3, by omega, by omega, rfl⟩
  have hfirst : ontoMotorway.edgeAt m.beginNode = some (ontoMotorway.nodes[2].edge.get rfl) := by
    rw [hbegin]
    rfl
  exact ⟨m, hm, by decide +kernel, halike, _, _, hfirst, rfl, htravels, by decide +kernel,
    hdescribed _ hfirst (.inr (.inr rfl)) _ htravels⟩

end TripPath

end TurnByTurn
