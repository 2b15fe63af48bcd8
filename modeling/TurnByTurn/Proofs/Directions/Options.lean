import TurnByTurn.Proofs.Directions.Outcome
import TurnByTurn.Proofs.Narrative.Texts

/-!
What units and languages do to directions. Maneuvers are made before either is looked at, so without
what is measured and without what is said all directions for a trip are the same.
-/

namespace TurnByTurn

def Maneuver.unmeasured (m : Maneuver) : Maneuver :=
  { m with texts := { m.texts with post := if m.route.isSome then m.texts.post else none } }

/-- Whether there is time for the next announcement is decided in kilometers. -/
theorem Dictionary.unmeasured_withCue (d : Dictionary) (m next : Maneuver) :
    (d.withCue m next).unmeasured = d.withCue m.unmeasured next.unmeasured := by
  have hpre : (d.withCue m next).texts.pre = (d.withCue m.unmeasured next.unmeasured).texts.pre :=
    d.pre_withCue_congr rfl rfl rfl rfl
  rw [d.withCue_eq m, d.withCue_eq m.unmeasured, hpre]
  rfl

namespace Options

variable (o : Options) (units : Units) (path : TripPath)

theorem unmeasured_narrateOne (m : Maneuver) :
    ({ o with units := units }.narrateOne path m).unmeasured =
      (o.narrateOne path m).unmeasured := by
  have hpost : (if m.route.isSome then { o with units := units }.postText m else none) =
      if m.route.isSome then o.postText m else none := by
    unfold postText
    cases m.route <;> rfl
  unfold narrateOne Maneuver.unmeasured
  dsimp only
  split
  · dsimp only [departTexts]
    rw [hpost]
  · rfl
  · dsimp only [turnTexts]
    rw [hpost]

theorem map_unmeasured_narrate (ms : List Maneuver) :
    ({ o with units := units }.narrate path ms).map Maneuver.unmeasured =
      (o.narrate path ms).map Maneuver.unmeasured := by
  apply Dictionary.map_addCues_congr
  · intro m m' n n' hm hn
    rw [Dictionary.unmeasured_withCue, Dictionary.unmeasured_withCue, hm, hn]
  · rw [List.map_map, List.map_map]
    apply List.map_congr_left
    intro m hm
    exact o.unmeasured_narrateOne units path m

end Options

namespace Directions

def Step.untold (s : Step) : Step :=
  { s with
    instruction := none, alert := none, pre := none, post := none, depart := none
    verbalDepart := none, arrive := none, verbalArrive := none }

def Step.unmeasured (s : Step) : Step :=
  { s with length := 0, post := if s.route.isSome then s.post else none }

theorem Step.unmeasured_ofManeuver (units units' : Units) (m : Maneuver) :
    (ofManeuver units m).unmeasured = (ofManeuver units' m.unmeasured).unmeasured := by
  unfold ofManeuver unmeasured Maneuver.unmeasured
  cases m.route <;> rfl

def mapSteps (g : Step → Step) (d : Directions) : Directions :=
  { d with steps := d.steps.map g }

def untold : Directions → Directions := mapSteps Step.untold

def unmeasured (d : Directions) : Directions :=
  { d.mapSteps Step.unmeasured with summary := { d.summary with length := 0 } }

variable (path : TripPath) (ms : List Maneuver)

theorem mapSteps_assemble {g : Step → Step} {F : Maneuver → Maneuver} (units : Units)
    (hstep : ∀ m, g (.ofManeuver units m) = .ofManeuver units (F m))
    (hlength : ∀ m, (F m).length = m.length) :
    (assemble path ms units).mapSteps g = assemble path (ms.map F) units := by
  have htotal (m : Maneuver) :
      (Step.ofManeuver units (F m)).length = (Step.ofManeuver units m).length := by
    unfold Step.ofManeuver Maneuver.lengthIn
    rw [hlength]
  unfold mapSteps assemble
  simp only [List.map_map, List.foldl_map, Function.comp_def, hstep, htotal]

theorem untold_assemble (units : Units) :
    (assemble path ms units).untold = assemble path (ms.map Maneuver.untold) units := by
  apply mapSteps_assemble
  · intro m
    rfl
  · intro m
    rfl

theorem unmeasured_assemble (units units' : Units) :
    (assemble path ms units).unmeasured =
      (assemble path (ms.map Maneuver.unmeasured) units').unmeasured := by
  unfold unmeasured mapSteps assemble
  simp only [List.map_map, Function.comp_def, Step.unmeasured_ofManeuver units units']

end Directions

namespace TripPath

variable (path : TripPath) (o o' : Options)

theorem map_directions {α : Type} (view : Directions → α) :
    (path.directions o).map view = path.normalizeHeadings.guidedManeuvers.map fun ms =>
      view (.assemble path.normalizeHeadings (o.narrate path.normalizeHeadings ms) o.units) := by
  rw [directions_eq_map]
  cases path.normalizeHeadings.guidedManeuvers <;> rfl

theorem directions_options :
    (path.directions o').map (fun d => d.untold.unmeasured) =
        (path.directions o).map (fun d => d.untold.unmeasured) ∧
      (path.directions { o with units := o'.units }).map Directions.unmeasured =
        (path.directions o).map Directions.unmeasured ∧
      (path.directions { o with dictionary := o'.dictionary }).map Directions.untold =
        (path.directions o).map Directions.untold := by
  simp only [map_directions]
  refine ⟨congrArg (Except.map · _) ?_, congrArg (Except.map · _) ?_, congrArg (Except.map · _) ?_⟩
  · funext ms
    rw [Directions.untold_assemble, Directions.untold_assemble, Options.map_untold_narrate,
      Options.map_untold_narrate, Directions.unmeasured_assemble _ _ o'.units o.units,
      ← Directions.unmeasured_assemble]
  · funext ms
    rw [Directions.unmeasured_assemble _ _ _ o.units, Options.map_unmeasured_narrate,
      ← Directions.unmeasured_assemble]
  · funext ms
    rw [Directions.untold_assemble, Directions.untold_assemble, Options.map_untold_narrate,
      Options.map_untold_narrate]

end TripPath

end TurnByTurn
