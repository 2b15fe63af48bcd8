import TurnByTurn.Proofs.Maneuver.Homogeneous
import TurnByTurn.Proofs.Maneuver.Kinds

namespace TurnByTurn

namespace Edge

/-- Alike in all that maneuvers depend on but for headings. -/
structure SameRoad (e f : Edge) : Prop where
  roadClass : e.roadClass = f.roadClass
  usage : e.usage = f.usage
  mode : e.mode = f.mode
  names : e.names = f.names
  sign : e.sign = f.sign
  line : e.line = f.line
  roundabout : e.roundabout = f.roundabout

theorem SameRoad.refl (e : Edge) : e.SameRoad e :=
  ⟨rfl, rfl, rfl, rfl, rfl, rfl, rfl⟩

theorem SameRoad.symm {e f : Edge} (h : e.SameRoad f) : f.SameRoad e :=
  ⟨h.roadClass.symm, h.usage.symm, h.mode.symm, h.names.symm, h.sign.symm, h.line.symm,
    h.roundabout.symm⟩

theorem SameRoad.trans {e f g : Edge} (h : e.SameRoad f) (h' : f.SameRoad g) : e.SameRoad g :=
  ⟨h.roadClass.trans h'.roadClass, h.usage.trans h'.usage, h.mode.trans h'.mode,
    h.names.trans h'.names, h.sign.trans h'.sign, h.line.trans h'.line,
    h.roundabout.trans h'.roundabout⟩

namespace SameRoad

variable {e f : Edge} (h : e.SameRoad f)

include h

theorem isTransit : e.isTransit = f.isTransit := by
  unfold Edge.isTransit
  rw [h.mode]

theorem isFerry : e.isFerry = f.isFerry := by
  unfold Edge.isFerry
  rw [h.usage]

theorem isRamp : e.isRamp = f.isRamp := by
  unfold Edge.isRamp
  rw [h.usage]

theorem isHighway : e.isHighway = f.isHighway := by
  unfold Edge.isHighway
  rw [h.roadClass]

theorem streetNames : e.streetNames = f.streetNames := by
  unfold Edge.streetNames
  rw [h.names, h.roadClass]

end SameRoad

theorem continuesName_of_eq {e f : Edge} (h : e.streetNames = f.streetNames) :
    e.continuesName f = true := by
  unfold continuesName
  rw [h]
  cases hnames : f.streetNames with
  | nil => rfl
  | cons name names => simp

theorem sameLine_of_eq {e f : Edge} (h : e.line = f.line) : e.sameLine f = true := by
  unfold sameLine
  rw [h]
  exact sameLine_refl f

end Edge

inductive Edge.PartsFrom (prev e : Edge) : Prop
  | mode (h : prev.mode ≠ e.mode)
  | line (hride : prev.isTransit = true ∨ e.isTransit = true) (h : prev.sameLine e = false)
  | roundabout (hroad : prev.isTransit = false ∧ e.isTransit = false)
      (h : prev.roundabout ≠ e.roundabout)
  | road (hroad : prev.isTransit = false ∧ e.isTransit = false) (hout : e.roundabout = false)
      (h : prev.changesRoad e = true)
  | sign (hroad : prev.isTransit = false ∧ e.isTransit = false) (hout : e.roundabout = false)
      (h : prev.showsNewSign e = true)
  | name (hroad : prev.isTransit = false ∧ e.isTransit = false) (hout : e.roundabout = false)
      (h : prev.continuesName e = false)

structure Segment.TurnsOff (prev : Edge) (s : Segment) : Prop where
  road : prev.isTransit = false ∧ s.edge.isTransit = false
  outside : s.edge.roundabout = false
  turn : (prev.turnOnto s.edge).isSlight = false
  crossings : 0 < s.crossings

theorem Segment.beginsManeuver_iff {prev : Edge} {s : Segment} :
    s.beginsManeuver prev = true ↔ prev.PartsFrom s.edge ∨ s.TurnsOff prev := by
  constructor
  · intro h
    unfold beginsManeuver at h
    dsimp only at h
    split_ifs at h with hmode hride hround hinside
    · exact .inl (.mode (by simpa using hmode))
    · exact .inl (.line (by simpa using hride) (by simpa using h))
    · have hroad : prev.isTransit = false ∧ s.edge.isTransit = false := by simpa using hride
      exact .inl (.roundabout hroad (by simpa using hround))
    · have hroad : prev.isTransit = false ∧ s.edge.isTransit = false := by simpa using hride
      have hout : s.edge.roundabout = false := by simpa using hinside
      simp only [Bool.or_eq_true, Bool.and_eq_true, Bool.not_eq_true', decide_eq_true_eq] at h
      rcases h with ((h | h) | h) | h
      · exact .inl (.road hroad hout h)
      · exact .inl (.sign hroad hout h)
      · exact .inl (.name hroad hout h)
      · exact .inr ⟨hroad, hout, h.1, h.2⟩
  · intro h
    rcases h with (hmode | ⟨hride, hline⟩ | ⟨hroad, hround⟩ | ⟨hroad, hout, hchange⟩ |
      ⟨hroad, hout, hsign⟩ | ⟨hroad, hout, hname⟩) | ⟨hroad, hout, hturn, hcrossings⟩
    · simp [beginsManeuver, hmode]
    · rcases hride with hride | hride <;> simp [beginsManeuver, hride, hline]
    · simp [beginsManeuver, hroad, hround]
    · simp [beginsManeuver, hroad, hout, hchange]
    · simp [beginsManeuver, hroad, hout, hsign]
    · simp [beginsManeuver, hroad, hout, hname]
    · simp [beginsManeuver, hroad, hout, hturn, hcrossings]

theorem Edge.PartsFrom.congr {e e' f f' : Edge} (he : e.SameRoad e') (hf : f.SameRoad f')
    (h : e.PartsFrom f) : e'.PartsFrom f' := by
  cases h with
  | mode h => exact .mode (he.mode ▸ hf.mode ▸ h)
  | line hride h =>
    refine .line (he.isTransit ▸ hf.isTransit ▸ hride) ?_
    rwa [sameLine, he.line, hf.line] at h
  | roundabout hroad h =>
    exact .roundabout (he.isTransit ▸ hf.isTransit ▸ hroad) (he.roundabout ▸ hf.roundabout ▸ h)
  | road hroad hout h =>
    refine .road (he.isTransit ▸ hf.isTransit ▸ hroad) (hf.roundabout ▸ hout) ?_
    rwa [changesRoad, he.isFerry, he.isRamp, he.isHighway, hf.isFerry, hf.isRamp,
      hf.isHighway] at h
  | sign hroad hout h =>
    refine .sign (he.isTransit ▸ hf.isTransit ▸ hroad) (hf.roundabout ▸ hout) ?_
    rwa [showsNewSign, he.sign, hf.sign] at h
  | name hroad hout h =>
    refine .name (he.isTransit ▸ hf.isTransit ▸ hroad) (hf.roundabout ▸ hout) ?_
    rwa [continuesName, he.streetNames, hf.streetNames] at h

theorem Edge.partsFrom_congr {e e' f f' : Edge} (he : e.SameRoad e') (hf : f.SameRoad f') :
    e.PartsFrom f ↔ e'.PartsFrom f' :=
  ⟨.congr he hf, .congr he.symm hf.symm⟩

section Junction

variable {prev prev' : Edge} {s s' : Segment}

theorem Segment.beginsManeuver_congr (hprev : prev.SameRoad prev') (hs : s.edge.SameRoad s'.edge)
    (hcrossings : s.crossings = s'.crossings)
    (hturn : (prev.turnOnto s.edge).isSlight = (prev'.turnOnto s'.edge).isSlight) :
    s.beginsManeuver prev = s'.beginsManeuver prev' := by
  simp only [beginsManeuver, Edge.sameLine, Edge.changesRoad, Edge.showsNewSign, Edge.continuesName,
    hprev.mode, hprev.line, hprev.roundabout, hprev.sign, hprev.isTransit, hprev.isFerry,
    hprev.isRamp, hprev.isHighway, hprev.streetNames, hs.mode, hs.line, hs.roundabout, hs.sign,
    hs.isTransit, hs.isFerry, hs.isRamp, hs.isHighway, hs.streetNames, hcrossings, hturn]

theorem ManeuverKind.between_congr {e e' : Edge} (hprev : prev.SameRoad prev')
    (he : e.SameRoad e') (hdegree : turnDegree prev.endHeading e.beginHeading =
      turnDegree prev'.endHeading e'.beginHeading) : between prev e = between prev' e' := by
  simp only [between, hprev.isTransit, hprev.roundabout, hprev.isFerry, hprev.isRamp,
    hprev.isHighway, he.isTransit, he.roundabout, he.isFerry, he.isRamp, he.isHighway, hdegree]

theorem Segment.kindAfter?_congr (hprev : prev.SameRoad prev') (hs : s.edge.SameRoad s'.edge)
    (hcrossings : s.crossings = s'.crossings)
    (hdegree : turnDegree prev.endHeading s.edge.beginHeading =
      turnDegree prev'.endHeading s'.edge.beginHeading) :
    s.kindAfter? prev = s'.kindAfter? prev' := by
  have hturn : (prev.turnOnto s.edge).isSlight = (prev'.turnOnto s'.edge).isSlight :=
    congrArg (fun degree => (Turn.ofDegree degree).isSlight) hdegree
  unfold kindAfter?
  rw [beginsManeuver_congr hprev hs hcrossings hturn, ManeuverKind.between_congr hprev hs hdegree]

theorem Segment.beginsManeuver_iff_of_straight (hstraight : prev.turnOnto s.edge = .straight) :
    s.beginsManeuver prev = true ↔ prev.PartsFrom s.edge := by
  have hno : ¬ s.TurnsOff prev := by
    intro h
    have hturn := h.turn
    rw [hstraight] at hturn
    cases hturn
  rw [beginsManeuver_iff, or_iff_left hno]

theorem Segment.beginsManeuver_of_sameRoad (h : prev.SameRoad s.edge)
    (hstraight : prev.turnOnto s.edge = .straight) : s.beginsManeuver prev = false := by
  have hline := Edge.sameLine_of_eq h.line
  have hname := Edge.continuesName_of_eq h.streetNames
  simp [beginsManeuver, Edge.changesRoad, Edge.showsNewSign, h.mode, h.isTransit, h.roundabout,
    h.isFerry, h.isRamp, h.isHighway, h.sign, hline, hname, hstraight, Turn.isSlight]

theorem Segment.kindAfter?_of_sameRoad (h : prev.SameRoad s.edge)
    (hstraight : prev.turnOnto s.edge = .straight) : s.kindAfter? prev = none := by
  rw [kindAfter?, beginsManeuver_of_sameRoad h hstraight]
  rfl

end Junction

end TurnByTurn
