import TurnByTurn.Proofs.Narrative.Texts

/-!
Telling a trip again. Which texts of a maneuver are written is a matter of its kind alone, and none
of them is read before it has been written, so nothing is left of what was told before.
-/

namespace TurnByTurn

namespace Dictionary

theorem alert_cued (d : Dictionary) (m : Maneuver) (next : Option Maneuver) :
    (d.cued m next).texts.alert = m.texts.alert := by
  obtain ⟨pre, hpre⟩ := d.exists_cued_eq m next
  rw [hpre]

theorem announcing_untold (d : Dictionary) (m : Maneuver) (text : String) (alert : Option String) :
    d.announcing m.untold text alert = d.announcing m text alert := by
  cases alert <;> rfl

end Dictionary

namespace Options

variable (o earlier : Options) (path earlierPath : TripPath)

theorem narrateOne_with_pre (m : Maneuver) (pre : Option String) :
    o.narrateOne path { m with texts := { m.texts with pre := pre } } = o.narrateOne path m := by
  unfold narrateOne
  dsimp only
  split <;> rfl

theorem narrateOne_cued (d : Dictionary) (m : Maneuver) (next : Option Maneuver) :
    o.narrateOne path (d.cued m next) = o.narrateOne path m := by
  obtain ⟨pre, hpre⟩ := d.exists_cued_eq m next
  rw [hpre, narrateOne_with_pre]

theorem narrateOne_narrateOne (m : Maneuver) :
    o.narrateOne path (earlier.narrateOne earlierPath m) = o.narrateOne path m := by
  obtain ⟨kind⟩ := m
  cases kind <;> rfl

theorem map_narrateOne_narrate (ms : List Maneuver) :
    (earlier.narrate earlierPath ms).map (o.narrateOne path) = ms.map (o.narrateOne path) := by
  apply List.ext_getElem?
  intro i
  rw [List.getElem?_map, List.getElem?_map, getElem?_narrate, Option.map_map]
  congr 1
  funext m
  rw [Function.comp_apply, narrateOne_cued, narrateOne_narrateOne]

theorem pre_cued_narrateOne_of_alert (m : Maneuver) (next : Option Maneuver) :
    (o.dictionary.cued (o.narrateOne path m) next).texts.pre =
      some (o.dictionary.announcing m (o.textOf path m) (next.bind (·.texts.alert))) := by
  have hpre : (o.narrateOne path m).texts.pre = some (o.textOf path m) := rfl
  cases next with
  | none => exact hpre
  | some next =>
    change (o.dictionary.withCue (o.narrateOne path m) next).texts.pre = _
    rw [o.dictionary.pre_withCue hpre, ← Dictionary.announcing_untold, untold_narrateOne,
      Dictionary.announcing_untold]
    rfl

theorem narrate_narrate (ms : List Maneuver) :
    o.narrate path (earlier.narrate earlierPath ms) = o.narrate path ms ∧
      (o.narrate path ms).map Maneuver.untold = ms.map Maneuver.untold ∧
      ∀ i m, (o.narrate path ms)[i]? = some m →
        m.texts.pre = some (o.dictionary.announcing m (o.textOf path m)
          ((o.narrate path ms)[i + 1]?.bind (·.texts.alert))) := by
  refine ⟨?_, o.map_untold_narrate path ms, ?_⟩
  · rw [narrate, map_narrateOne_narrate, narrate]
  · intro i m hm
    have halert : (o.narrate path ms)[i + 1]?.bind (·.texts.alert) =
        (ms[i + 1]?.map (o.narrateOne path)).bind (·.texts.alert) := by
      rw [getElem?_narrate]
      cases ms[i + 1]? with
      | none => rfl
      | some next => exact Dictionary.alert_cued _ _ _
    rw [getElem?_narrate, Option.map_eq_some_iff] at hm
    obtain ⟨n, hn, rfl⟩ := hm
    have huntold : (o.dictionary.cued (o.narrateOne path n)
        (ms[i + 1]?.map (o.narrateOne path))).untold = n.untold := by
      rw [Dictionary.untold_cued, untold_narrateOne]
    rw [pre_cued_narrateOne_of_alert, halert, ← Dictionary.announcing_untold, ← textOf_untold,
      ← huntold, Dictionary.announcing_untold, textOf_untold]

end Options

end TurnByTurn
