import TurnByTurn.Proofs.Directions.Options
import TurnByTurn.Proofs.Maneuver.Redirect

/-!
A trip that is rotated as a whole. Only the differences between headings decide what is to be
done, so nothing changes but the headings themselves, and what is told of the direction to start in.
-/

namespace TurnByTurn

def rotateHeading (r heading : Nat) : Nat := (heading + r) % 360

theorem keepsTurns_rotateHeading (r : Nat) : KeepsTurns (rotateHeading r) := by
  intro a b
  unfold turnDegree rotateHeading
  omega

namespace Maneuver

def unoriented (m : Maneuver) : Maneuver :=
  if m.kind = .depart then { m with texts := { m.texts with instruction := none, pre := none } }
  else m

theorem kind_unoriented (m : Maneuver) : m.unoriented.kind = m.kind := by
  unfold unoriented
  split <;> rfl

theorem alert_unoriented (m : Maneuver) : m.unoriented.texts.alert = m.texts.alert := by
  unfold unoriented
  split <;> rfl

theorem length_unoriented (m : Maneuver) : m.unoriented.length = m.length := by
  unfold unoriented
  split <;> rfl

end Maneuver

namespace Dictionary

variable (d : Dictionary) (f : Nat → Nat)

theorem redirect_withCue (m next : Maneuver) :
    (d.withCue m next).redirect f = d.withCue (m.redirect f) (next.redirect f) := by
  have hpre : (d.withCue m next).texts.pre =
      (d.withCue (m.redirect f) (next.redirect f)).texts.pre :=
    d.pre_withCue_congr rfl rfl rfl rfl
  rw [d.withCue_eq m, d.withCue_eq (m.redirect f), hpre]
  rfl

theorem unoriented_withCue_congr {m m' next next' : Maneuver}
    (hm : m.unoriented = m'.unoriented) (hnext : next.unoriented = next'.unoriented) :
    (d.withCue m next).unoriented = (d.withCue m' next').unoriented := by
  have hkind : m.kind = m'.kind := by
    rw [← m.kind_unoriented, hm, m'.kind_unoriented]
  have halert : next.texts.alert = next'.texts.alert := by
    rw [← next.alert_unoriented, hnext, next'.alert_unoriented]
  by_cases hdepart : m.kind = .depart
  -- The cue is heard right before the departure, of which nothing is left to be seen.
  · have hdepart' : m'.kind = .depart := by rw [← hkind, hdepart]
    unfold Maneuver.unoriented at hm ⊢
    rw [if_pos hdepart, if_pos hdepart'] at hm
    rw [d.withCue_eq m, d.withCue_eq m', if_pos hdepart, if_pos hdepart']
    exact hm
  · have hdepart' : ¬ m'.kind = .depart := by rwa [← hkind]
    unfold Maneuver.unoriented at hm
    rw [if_neg hdepart, if_neg hdepart'] at hm
    rw [hm, d.withCue_eq m' next, d.withCue_eq m' next',
      d.pre_withCue_congr (m := m') rfl rfl rfl halert]

theorem instruction_redirect (destination : Option Location) {m : Maneuver}
    (h : m.kind ≠ .depart) :
    d.instruction destination (m.redirect f) = d.instruction destination m := by
  unfold instruction Maneuver.redirect
  dsimp only
  cases hkind : m.kind
  case depart => exact absurd hkind h
  all_goals rfl

end Dictionary

namespace Options

variable (o : Options) (f : Nat → Nat) (path : TripPath)

theorem unoriented_narrateOne_redirect (m : Maneuver) :
    (o.narrateOne (path.redirect f) (m.redirect f)).unoriented =
      ((o.narrateOne path m).redirect f).unoriented := by
  by_cases hdepart : m.kind = .depart
  · unfold narrateOne Maneuver.unoriented Maneuver.redirect
    simp only [hdepart, if_true]
    rfl
  · have htext : o.dictionary.instruction (path.redirect f).locations.getLast? (m.redirect f) =
        o.dictionary.instruction path.locations.getLast? m :=
      o.dictionary.instruction_redirect f _ hdepart
    apply congrArg Maneuver.unoriented
    unfold narrateOne
    rw [htext]
    dsimp only [Maneuver.redirect]
    split <;> rfl

theorem map_unoriented_narrate_redirect (ms : List Maneuver) :
    (o.narrate (path.redirect f) (ms.map (Maneuver.redirect f))).map Maneuver.unoriented =
      ((o.narrate path ms).map (Maneuver.redirect f)).map Maneuver.unoriented := by
  rw [List.map_map]
  apply Dictionary.map_addCues_congr
  · intro m m' n n' hm hn
    rw [Function.comp_apply, Dictionary.redirect_withCue]
    exact Dictionary.unoriented_withCue_congr _ hm hn
  · rw [List.map_map, List.map_map, List.map_map]
    apply List.map_congr_left
    intro m hm
    exact o.unoriented_narrateOne_redirect f path m

end Options

namespace Directions

def Step.unoriented (s : Step) : Step :=
  if s.kind = .depart then { s with instruction := none, pre := none } else s

def Step.redirect (f : Nat → Nat) (s : Step) : Step :=
  { s with beginHeading := f s.beginHeading, direction := .ofHeading (f s.beginHeading) }

def unoriented : Directions → Directions := mapSteps Step.unoriented

def redirect (f : Nat → Nat) : Directions → Directions := mapSteps (Step.redirect f)

variable (f : Nat → Nat) (path : TripPath) (ms : List Maneuver) (units : Units)

theorem unoriented_assemble :
    (assemble path ms units).unoriented = assemble path (ms.map Maneuver.unoriented) units := by
  apply mapSteps_assemble
  · intro m
    have hkind : (Step.ofManeuver units m).kind = m.kind := rfl
    rw [Step.unoriented, Maneuver.unoriented, hkind]
    split <;> rfl
  · exact Maneuver.length_unoriented

theorem redirect_assemble :
    (assemble path ms units).redirect f =
      assemble (path.redirect f) (ms.map (Maneuver.redirect f)) units := by
  have helapsed : (path.redirect f).nodes.getLast?.map (·.elapsed) =
      path.nodes.getLast?.map (·.elapsed) := by
    unfold TripPath.redirect
    rw [List.getLast?_map, Option.map_map]
    rfl
  have hpath (ms : List Maneuver) :
      assemble (path.redirect f) ms units = assemble path ms units := by
    unfold assemble
    rw [helapsed]
    rfl
  rw [hpath]
  apply mapSteps_assemble
  · intro m
    rfl
  · intro m
    rfl

end Directions

namespace TripPath

theorem segments_normalizeHeadings_ne_nil {path : TripPath} (h : path.segments ≠ []) :
    path.normalizeHeadings.segments ≠ [] := by
  obtain ⟨s, hs⟩ := List.exists_mem_of_ne_nil _ h
  have hedge := path.edgeAt_normalizeHeadings s.node
  rw [edgeAt_of_mem_segments hs] at hedge
  obtain ⟨s', hs', -⟩ := exists_mem_segments_of_edgeAt hedge
  exact List.ne_nil_of_mem hs'

theorem guidedManeuvers_redirect {f : Nat → Nat} (hf : KeepsTurns f) {path : TripPath}
    (h : path.segments ≠ []) :
    (path.redirect f).guidedManeuvers =
      path.guidedManeuvers.map (List.map (Maneuver.redirect f)) := by
  have hsigns (ms : List Maneuver) : (path.redirect f).attachSigns (ms.map (Maneuver.redirect f)) =
      (path.attachSigns ms).map (Maneuver.redirect f) := by
    simp [attachSigns, withSigns_redirect]
  unfold guidedManeuvers
  rw [maneuvers?_redirect_of_keepsTurns hf h]
  cases path.maneuvers? with
  | error failure => rfl
  | ok ms =>
    change (path.redirect f).attachTransit _ = (path.attachTransit _).map _
    rw [hsigns, attachTransit_redirect]

theorem directions_redirect_rotateHeading (path : TripPath) (hpos : 0 < path.edgeCount)
    (o : Options) (r : Nat) :
    (path.redirect (rotateHeading r)).normalizeHeadings =
        path.normalizeHeadings.redirect (rotateHeading r) ∧
      ((path.redirect (rotateHeading r)).directions o).map Directions.unoriented =
        (path.directions o).map fun d => (d.redirect (rotateHeading r)).unoriented := by
  have hne : path.normalizeHeadings.segments ≠ [] :=
    segments_normalizeHeadings_ne_nil ((segments_ne_nil_iff path).mpr hpos)
  refine ⟨normalizeHeadings_redirect (rotateHeading r) path, ?_⟩
  rw [map_directions, map_directions, normalizeHeadings_redirect,
    guidedManeuvers_redirect (keepsTurns_rotateHeading r) hne]
  cases path.normalizeHeadings.guidedManeuvers with
  | error failure => rfl
  | ok ms =>
    apply congrArg Except.ok
    dsimp only
    rw [Directions.redirect_assemble, Directions.unoriented_assemble,
      Directions.unoriented_assemble, Options.map_unoriented_narrate_redirect]

theorem directions_redirect_rotateHeading_aroundBlocks :
    0 < Options.aroundBlocks.edgeCount ∧
      (Options.aroundBlocks.redirect (rotateHeading 450)).normalizeHeadings =
        Options.aroundBlocks.normalizeHeadings.redirect (rotateHeading 450) ∧
      ((Options.aroundBlocks.redirect (rotateHeading 450)).directions
          (.ofRequest "metric" "en")).map Directions.unoriented =
        (Options.aroundBlocks.directions (.ofRequest "metric" "en")).map
          fun d => (d.redirect (rotateHeading 450)).unoriented :=
  ⟨by decide, directions_redirect_rotateHeading Options.aroundBlocks (by decide) _ 450⟩

example : ((Options.aroundBlocks.redirect (rotateHeading 450)).guidedManeuvers.map fun ms =>
    ((Options.ofRequest "metric" "en").narrate Options.aroundBlocks ms).map
      (·.texts.pre)).toOption = some [
      some "Head east on Main Street. Then turn right onto Elm Lane.",
      some "Turn right onto Elm Lane. Then turn left onto Broad Street.",
      some "Turn left onto Broad Street.",
      some "You have arrived at your destination."] := by
  decide +kernel

end TripPath

end TurnByTurn
