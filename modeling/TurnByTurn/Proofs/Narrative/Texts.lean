import TurnByTurn.Directions.Build
import TurnByTurn.Proofs.Maneuver.Partition

/-!
What is said of each maneuver of a trip. The texts are written in two passes: the second one adds
the announcement of the next maneuver to what is said before a short one, and reads nothing but what
the first pass has written.
-/

namespace TurnByTurn

namespace Maneuver

def isAnnounced (m : Maneuver) : Bool :=
  m.kind != .depart && m.kind != .arrive

def leavesNoTime (m : Maneuver) : Bool :=
  m.kind != .arrive && !(cueLength ≤ m.length)

def endsAtNextStop (m : Maneuver) : Prop :=
  ∃ route, m.route = some route ∧ route.stops.length ≤ 1

def untold (m : Maneuver) : Maneuver :=
  { m with texts := {} }

theorem untold_eq_self {m : Maneuver} (h : m.texts = {}) : m.untold = m := by
  unfold untold
  rw [← h]

end Maneuver

structure Told (text : String) (m : Maneuver) : Prop where
  instruction : m.texts.instruction = some text
  alert : m.texts.alert = if m.isAnnounced then some text else none
  depart_isSome : m.texts.depart.isSome = true ↔ m.kind = .depart
  verbalDepart_isSome : m.texts.verbalDepart.isSome = true ↔ m.kind = .depart
  arrive_isSome : m.texts.arrive.isSome = true ↔ m.kind = .arrive
  verbalArrive_isSome : m.texts.verbalArrive.isSome = true ↔ m.kind = .arrive
  post_eq_none_iff : m.texts.post = none ↔ m.kind = .arrive ∨ m.endsAtNextStop

namespace Options

def textOf (o : Options) (path : TripPath) (m : Maneuver) : String :=
  o.dictionary.instruction path.locations.getLast? m

theorem postText_eq_none_iff (o : Options) (m : Maneuver) :
    o.postText m = none ↔ m.endsAtNextStop := by
  unfold postText Maneuver.endsAtNextStop TransitRoute.stopsAhead
  cases m.route with
  | none =>
    dsimp only
    split <;> simp
  | some route =>
    dsimp only
    split
    · next hahead => simp only [Option.some.injEq, exists_eq_left', true_iff]; omega
    · next hahead => simp only [Option.some.injEq, exists_eq_left', reduceCtorEq, false_iff]; omega
    · next hzero hone =>
      simp only [Option.some.injEq, exists_eq_left', reduceCtorEq, false_iff]
      intro hle
      exact hzero (by omega)

theorem told_narrateOne (o : Options) (path : TripPath) {m : Maneuver} (h : m.texts = {}) :
    Told (o.textOf path m) (o.narrateOne path m) := by
  have hpost := o.postText_eq_none_iff m
  unfold narrateOne
  dsimp only
  split
  · next hkind =>
    constructor
    case post_eq_none_iff =>
      simpa [departTexts, hkind, Maneuver.endsAtNextStop] using hpost
    all_goals simp [departTexts, textOf, h, hkind, Maneuver.isAnnounced]
  · next hkind =>
    constructor
    all_goals simp [arriveTexts, textOf, h, hkind, Maneuver.isAnnounced]
  · next hdepart harrive =>
    have hdepart : m.kind ≠ .depart := hdepart
    have harrive : m.kind ≠ .arrive := harrive
    constructor
    case post_eq_none_iff =>
      simpa [turnTexts, harrive, Maneuver.endsAtNextStop] using hpost
    all_goals simp [turnTexts, textOf, h, hdepart, harrive, Maneuver.isAnnounced]

theorem untold_narrateOne (o : Options) (path : TripPath) (m : Maneuver) :
    (o.narrateOne path m).untold = m.untold := rfl

end Options

namespace Dictionary

def cued (d : Dictionary) (m : Maneuver) : Option Maneuver → Maneuver
  | some next => d.withCue m next
  | none => m

theorem getElem?_addCues (d : Dictionary) (ms : List Maneuver) (i : Nat) :
    (d.addCues ms)[i]? = ms[i]?.map fun m => d.cued m ms[i + 1]? := by
  induction ms generalizing i with
  | nil => rfl
  | cons m rest ih =>
    cases rest with
    | nil => cases i <;> rfl
    | cons next rest =>
      rw [addCues]
      cases i with
      | zero => rfl
      | succ i => exact ih i

theorem map_addCues_congr {α : Type} {view view' : Maneuver → α} {d : Dictionary}
    (h : ∀ m m' n n', view m = view' m' → view n = view' n' →
      view (d.withCue m n) = view' (d.withCue m' n')) {ms ms' : List Maneuver}
    (heq : ms.map view = ms'.map view') : (d.addCues ms).map view = (d.addCues ms').map view' := by
  induction ms generalizing ms' with
  | nil =>
    obtain rfl := List.map_eq_nil_iff.mp heq.symm
    rfl
  | cons m rest ih =>
    obtain ⟨m', rest', rfl, hm, hrest⟩ := List.map_eq_cons_iff.mp heq.symm
    have hcues := ih hrest.symm
    cases rest with
    | nil =>
      obtain rfl := List.map_eq_nil_iff.mp hrest
      simp [addCues, hm]
    | cons n rest =>
      obtain ⟨n', rest', rfl, hn, -⟩ := List.map_eq_cons_iff.mp hrest
      rw [addCues, addCues, List.map_cons, List.map_cons, hcues, h m m' n n' hm.symm hn.symm]

theorem withCue_eq (d : Dictionary) (m next : Maneuver) :
    d.withCue m next =
      { m with texts := { m.texts with pre := (d.withCue m next).texts.pre } } := by
  unfold withCue
  split
  · rfl
  · split <;> rfl

theorem pre_withCue_congr (d : Dictionary) {m m' next next' : Maneuver} (hkind : m.kind = m'.kind)
    (hlength : m.length = m'.length) (hpre : m.texts.pre = m'.texts.pre)
    (halert : next.texts.alert = next'.texts.alert) :
    (d.withCue m next).texts.pre = (d.withCue m' next').texts.pre := by
  unfold withCue
  rw [hkind, hlength, hpre, halert]
  split
  · exact hpre
  · split
    · rfl
    · exact hpre

theorem exists_cued_eq (d : Dictionary) (m : Maneuver) (next : Option Maneuver) :
    ∃ pre, d.cued m next = { m with texts := { m.texts with pre := pre } } := by
  cases next with
  | none => exact ⟨m.texts.pre, rfl⟩
  | some next => exact ⟨_, d.withCue_eq m next⟩

theorem untold_cued (d : Dictionary) (m : Maneuver) (next : Option Maneuver) :
    (d.cued m next).untold = m.untold := by
  obtain ⟨pre, hpre⟩ := d.exists_cued_eq m next
  rw [hpre]
  rfl

theorem told_cued {text : String} {m : Maneuver} (h : Told text m) (d : Dictionary)
    (next : Option Maneuver) : Told text (d.cued m next) := by
  obtain ⟨pre, hpre⟩ := d.exists_cued_eq m next
  rw [hpre]
  exact ⟨h.instruction, h.alert, h.depart_isSome, h.verbalDepart_isSome, h.arrive_isSome,
    h.verbalArrive_isSome, h.post_eq_none_iff⟩

def announcing (d : Dictionary) (m : Maneuver) (text : String) : Option String → String
  | some alert =>
    if m.leavesNoTime then text ++ " " ++ d.andThen ++ " " ++ Text.lowercaseFirst alert else text
  | none => text

theorem pre_withCue (d : Dictionary) {m : Maneuver} {text : String} (h : m.texts.pre = some text)
    (next : Maneuver) :
    (d.withCue m next).texts.pre = some (d.announcing m text next.texts.alert) := by
  have htime : (m.kind = .arrive || cueLength ≤ m.length) = !m.leavesNoTime := by
    simp [Maneuver.leavesNoTime, bne, beq_eq_decide]
  unfold withCue
  rw [htime, h]
  cases htime : m.leavesNoTime <;> cases halert : next.texts.alert <;>
    simp [announcing, htime, h]

end Dictionary

namespace TripPath

theorem texts_withSigns (path : TripPath) (m : Maneuver) :
    (path.withSigns m).texts = m.texts := by
  unfold withSigns
  split <;> rfl

theorem texts_of_withTransit {path : TripPath} {m m' : Maneuver}
    (h : path.withTransit m = .ok m') : m'.texts = m.texts := by
  unfold withTransit at h
  split at h
  · cases h
    rfl
  · split at h
    · cases h
      rfl
    · cases h

theorem map_texts_of_attachTransit {path : TripPath} {ms ms' : List Maneuver}
    (h : path.attachTransit ms = .ok ms') : ms'.map (·.texts) = ms.map (·.texts) := by
  unfold attachTransit at h
  induction ms generalizing ms' with
  | nil =>
    cases h
    rfl
  | cons m ms ih =>
    rw [List.mapM_cons] at h
    cases hm : path.withTransit m with
    | error failure =>
      rw [hm] at h
      cases h
    | ok n =>
      cases hms : ms.mapM path.withTransit with
      | error failure =>
        rw [hm, hms] at h
        cases h
      | ok ns =>
        rw [hm, hms] at h
        cases h
        rw [List.map_cons, List.map_cons, texts_of_withTransit hm, ih hms]

theorem texts_of_mem_guidedManeuvers {path : TripPath} {ms : List Maneuver}
    (h : path.guidedManeuvers = .ok ms) {m : Maneuver} (hm : m ∈ ms) : m.texts = {} := by
  unfold guidedManeuvers maneuvers? at h
  split at h
  · cases h
  · have hsame := map_texts_of_attachTransit h
    have hmem : m.texts ∈ ms.map (·.texts) := List.mem_map_of_mem hm
    rw [hsame, attachSigns, List.map_map, List.mem_map] at hmem
    obtain ⟨n, hn, hmem⟩ := hmem
    rw [← hmem, Function.comp_apply, texts_withSigns, (bare_of_mem_maneuvers hn).2.2]

end TripPath

namespace Options

theorem getElem?_narrate (o : Options) (path : TripPath) (ms : List Maneuver) (i : Nat) :
    (o.narrate path ms)[i]? = ms[i]?.map fun m =>
      o.dictionary.cued (o.narrateOne path m) (ms[i + 1]?.map (o.narrateOne path)) := by
  unfold narrate
  rw [Dictionary.getElem?_addCues, List.getElem?_map, List.getElem?_map, Option.map_map]
  rfl

theorem textOf_untold (o : Options) (path : TripPath) (m : Maneuver) :
    o.textOf path m.untold = o.textOf path m := rfl

def textBefore (o : Options) (path : TripPath) (m : Maneuver) : Option Maneuver → String
  | some next =>
    if m.leavesNoTime && next.isAnnounced then
      o.textOf path m ++ " " ++ o.dictionary.andThen ++ " " ++
        Text.lowercaseFirst (o.textOf path next)
    else o.textOf path m
  | none => o.textOf path m

theorem pre_cued_narrateOne (o : Options) (path : TripPath) (m : Maneuver) {next : Option Maneuver}
    (hnext : ∀ n, next = some n → n.texts = {}) :
    (o.dictionary.cued (o.narrateOne path m) (next.map (o.narrateOne path))).texts.pre =
      some (o.textBefore path m next) := by
  cases next with
  | none => rfl
  | some n =>
    have halert : (o.narrateOne path n).texts.alert =
        if n.isAnnounced then some (o.textOf path n) else none :=
      (o.told_narrateOne path (hnext n rfl)).alert
    have hpre : (o.narrateOne path m).texts.pre = some (o.textOf path m) := rfl
    have htime : (o.narrateOne path m).leavesNoTime = m.leavesNoTime := rfl
    change (o.dictionary.withCue (o.narrateOne path m) (o.narrateOne path n)).texts.pre = _
    rw [o.dictionary.pre_withCue hpre, halert]
    cases hannounced : n.isAnnounced <;>
      simp [Dictionary.announcing, textBefore, htime, hannounced]

theorem textBefore_untold (o : Options) (path : TripPath) (m : Maneuver)
    (next : Option Maneuver) :
    o.textBefore path m.untold (next.map Maneuver.untold) = o.textBefore path m next := by
  cases next <;> rfl

theorem map_untold_narrate (o : Options) (path : TripPath) (ms : List Maneuver) :
    (o.narrate path ms).map Maneuver.untold = ms.map Maneuver.untold := by
  apply List.ext_getElem?
  intro i
  rw [List.getElem?_map, List.getElem?_map, getElem?_narrate, Option.map_map]
  congr 1
  funext m
  rw [Function.comp_apply, Dictionary.untold_cued, untold_narrateOne]

theorem textBefore_narrate (o : Options) (path : TripPath) (ms : List Maneuver) {m n : Maneuver}
    (h : m.untold = n.untold) (i : Nat) :
    o.textBefore path m (o.narrate path ms)[i]? = o.textBefore path n ms[i]? := by
  rw [← textBefore_untold, ← List.getElem?_map, map_untold_narrate, h, List.getElem?_map,
    textBefore_untold]

theorem told_narrate (o : Options) (path : TripPath) (ms : List Maneuver)
    (hms : path.guidedManeuvers = .ok ms) :
    (o.narrate path ms).map Maneuver.untold = ms ∧
      ∀ i m, (o.narrate path ms)[i]? = some m →
        Told (o.textOf path m) m ∧
          m.texts.pre = some (o.textBefore path m (o.narrate path ms)[i + 1]?) := by
  have htexts : ∀ m ∈ ms, m.texts = {} := fun m => TripPath.texts_of_mem_guidedManeuvers hms
  constructor
  · rw [map_untold_narrate]
    conv_rhs => rw [← List.map_id ms]
    exact List.map_congr_left fun m hm => Maneuver.untold_eq_self (htexts m hm)
  · intro i m hm
    rw [getElem?_narrate, Option.map_eq_some_iff] at hm
    obtain ⟨n, hn, rfl⟩ := hm
    have huntold : (o.dictionary.cued (o.narrateOne path n)
        (ms[i + 1]?.map (o.narrateOne path))).untold = n.untold := by
      rw [Dictionary.untold_cued, untold_narrateOne]
    constructor
    · rw [← textOf_untold, huntold, textOf_untold]
      apply Dictionary.told_cued
      exact o.told_narrateOne path (htexts n (List.mem_of_getElem? hn))
    · rw [textBefore_narrate o path ms huntold, pre_cued_narrateOne]
      intro next hnext
      exact htexts next (List.mem_of_getElem? hnext)

def aroundBlocks : TripPath where
  nodes := [
    { edge := some { length := 0.02, names := { name := "Main Street" } } },
    { crossings := 2, edge := some {
        length := 0.03, beginHeading := 90, endHeading := 90, names := { name := "Elm Lane" } } },
    { crossings := 2, edge := some { length := 0.02, names := { name := "Broad Street" } } },
    {}]

theorem told_narrate_aroundBlocks :
    ∃ ms, aroundBlocks.guidedManeuvers = .ok ms ∧
      ms.map (·.kind) = [.depart, .right, .left, .arrive] ∧
      ((Options.ofRequest "metric" "en").narrate aroundBlocks ms).map Maneuver.untold = ms ∧
      ∀ i m, ((Options.ofRequest "metric" "en").narrate aroundBlocks ms)[i]? = some m →
        Told ((Options.ofRequest "metric" "en").textOf aroundBlocks m) m ∧
          m.texts.pre = some ((Options.ofRequest "metric" "en").textBefore aroundBlocks m
            ((Options.ofRequest "metric" "en").narrate aroundBlocks ms)[i + 1]?) := by
  have hkinds : aroundBlocks.guidedManeuvers.toOption.map (·.map (·.kind)) =
      some [.depart, .right, .left, .arrive] := by decide +kernel
  cases hms : aroundBlocks.guidedManeuvers with
  | error failure =>
    rw [hms] at hkinds
    cases hkinds
  | ok ms =>
    rw [hms] at hkinds
    exact ⟨ms, rfl, Option.some.inj hkinds, told_narrate _ aroundBlocks ms hms⟩

example : (aroundBlocks.guidedManeuvers.map fun ms =>
    ((Options.ofRequest "metric" "en").narrate aroundBlocks ms).map (·.texts.pre)).toOption =
      some [
        some "Head north on Main Street. Then turn right onto Elm Lane.",
        some "Turn right onto Elm Lane. Then turn left onto Broad Street.",
        some "Turn left onto Broad Street.",
        some "You have arrived at your destination."] := by
  decide +kernel

end Options

end TurnByTurn
