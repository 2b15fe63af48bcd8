import TurnByTurn.Maneuver.Attach
import TurnByTurn.Proofs.Maneuver.Junction
import TurnByTurn.Proofs.Maneuver.Partition
import TurnByTurn.Proofs.Path.Redirect

/-!
Maneuvers when all headings are changed by one rule. A rule that leaves slight turns slight does not
move the boundaries between the stretches, so each maneuver can be told from what it was before.
-/

namespace TurnByTurn

namespace Stretch

def map (g : Segment → Segment) (t : Stretch) : Stretch := ⟨g t.first, t.rest.map g⟩

variable {g : Segment → Segment}

theorem segments_map (t : Stretch) : (t.map g).segments = t.segments.map g := rfl

@[simp]
theorem last_map (t : Stretch) : (t.map g).last = g t.last := by
  unfold last map
  rw [List.getLastD_eq_getLast?, List.getLastD_eq_getLast?, List.getLast?_map]
  cases t.rest.getLast? <;> rfl

theorem map_snoc (t : Stretch) (s : Segment) : (t.snoc s).map g = (t.map g).snoc (g s) := by
  simp [map, snoc]

theorem cut_map (hg : ∀ a b, joins (g a) (g b) = joins a b) (t : Stretch)
    (following : List Segment) :
    (t.map g).cut (following.map g) = (t.cut following).map (map g) := by
  induction following generalizing t with
  | nil => rfl
  | cons s following ih =>
    have hjoins : joins (t.map g).last (g s) = joins t.last s := by rw [last_map, hg]
    rw [List.map_cons, cut, cut, hjoins]
    by_cases h : joins t.last s
    · rw [if_pos h, if_pos h, ← map_snoc, ih]
    · rw [if_neg h, if_neg h, List.map_cons, ← ih ⟨s, []⟩]
      rfl

theorem summaries_map {G : Stretch → Stretch} {F : Maneuver → Maneuver} {ts : List Stretch}
    (h : ∀ (k : Nat) (t : Stretch), ts[k]? = some t →
      (G t).summary ((if k = 0 then none else ts[k - 1]?).map G) =
        F (t.summary (if k = 0 then none else ts[k - 1]?))) :
    summaries none (ts.map G) = (summaries none ts).map F := by
  apply List.ext_getElem?
  intro k
  rw [getElem?_summaries, List.getElem?_map, List.getElem?_map, List.getElem?_map,
    getElem?_summaries]
  cases ht : ts[k]? with
  | none => rfl
  | some t =>
    have hbefore : (if k = 0 then none else ts[k - 1]?.map G) =
        (if k = 0 then none else ts[k - 1]?).map G := by
      by_cases hk : k = 0 <;> simp [hk]
    rw [hbefore]
    exact congrArg some (h k t ht)

end Stretch

theorem TripPath.stretches_map {g : Segment → Segment}
    (hg : ∀ a b, Stretch.joins (g a) (g b) = Stretch.joins a b) {path path' : TripPath}
    (h : path'.segments = path.segments.map g) :
    path'.stretches = path.stretches.map (Stretch.map g) := by
  unfold stretches
  rw [h]
  cases path.segments with
  | nil => rfl
  | cons s following => exact Stretch.cut_map hg ⟨s, []⟩ following

def KeepsSlightTurns (f : Nat → Nat) : Prop :=
  ∀ a b, (Turn.between (f a) (f b)).isSlight = (Turn.between a b).isSlight

def KeepsTurns (f : Nat → Nat) : Prop :=
  ∀ a b, turnDegree (f a) (f b) = turnDegree a b

theorem KeepsTurns.between_eq {f : Nat → Nat} (hf : KeepsTurns f) (a b : Nat) :
    Turn.between (f a) (f b) = Turn.between a b := by
  rw [Turn.between, hf, Turn.between]

theorem KeepsTurns.keepsSlightTurns {f : Nat → Nat} (hf : KeepsTurns f) : KeepsSlightTurns f := by
  intro a b
  rw [hf.between_eq]

def Maneuver.redirect (f : Nat → Nat) (m : Maneuver) : Maneuver :=
  { m with beginHeading := f m.beginHeading, direction := .ofHeading (f m.beginHeading) }

theorem Edge.sameRoad_redirect (f : Nat → Nat) (e : Edge) : (e.redirect f).SameRoad e :=
  ⟨rfl, rfl, rfl, rfl, rfl, rfl, rfl⟩

namespace Stretch

def redirect (f : Nat → Nat) : Stretch → Stretch := map (Segment.redirect f)

variable {f : Nat → Nat}

theorem joins_redirect (hf : KeepsSlightTurns f) (a b : Segment) :
    joins (a.redirect f) (b.redirect f) = joins a b := by
  have hbegins : (b.redirect f).beginsManeuver (a.redirect f).edge = b.beginsManeuver a.edge :=
    Segment.beginsManeuver_congr (Edge.sameRoad_redirect f a.edge)
      (Edge.sameRoad_redirect f b.edge) rfl (hf a.edge.endHeading b.edge.beginHeading)
  unfold joins
  rw [hbegins]

theorem first_redirect (t : Stretch) : (t.redirect f).first = t.first.redirect f := rfl

theorem last_redirect (t : Stretch) : (t.redirect f).last = t.last.redirect f := last_map t

theorem newNames_redirect (before : Option Stretch) (t : Stretch) :
    (t.redirect f).newNames (before.map (redirect f)) = t.newNames before := by
  cases before with
  | none => rfl
  | some b =>
    simp only [newNames, Option.map_some, last_redirect, first_redirect]
    rfl

theorem kind_redirect (hf : KeepsTurns f) (before : Option Stretch) (t : Stretch) :
    (t.redirect f).kind (before.map (redirect f)) = t.kind before := by
  cases before with
  | none => rfl
  | some b =>
    simp only [kind, Option.map_some, last_redirect, first_redirect]
    exact ManeuverKind.between_congr (Edge.sameRoad_redirect f _) (Edge.sameRoad_redirect f _)
      (hf _ _)

theorem turn_redirect (hf : KeepsTurns f) (before : Option Stretch) (t : Stretch) :
    (t.redirect f).turn (before.map (redirect f)) = t.turn before := by
  cases before with
  | none => rfl
  | some b =>
    simp only [turn, Option.map_some, last_redirect, first_redirect]
    exact hf.between_eq _ _

theorem summary_redirect {before : Option Stretch} {t : Stretch} {kind : ManeuverKind} {turn : Turn}
    (hkind : (t.redirect f).kind (before.map (redirect f)) = kind)
    (hturn : (t.redirect f).turn (before.map (redirect f)) = turn)
    (henter : kind = .roundaboutEnter ↔ t.kind before = .roundaboutEnter) :
    (t.redirect f).summary (before.map (redirect f)) =
      { (t.summary before).redirect f with kind := kind, turn := turn } := by
  have hsegments : (t.redirect f).segments = t.segments.map (Segment.redirect f) := segments_map t
  unfold summary
  rw [hkind, hturn, newNames_redirect, last_redirect, first_redirect, hsegments]
  simp only [List.map_map, List.any_map, List.countP_map, henter]
  rfl

end Stretch

namespace TripPath

variable {f : Nat → Nat} {path : TripPath}

theorem arrival_redirect (h : path.segments ≠ []) :
    (path.redirect f).arrival = path.arrival.redirect f := by
  have hlast := List.getLast?_eq_some_getLast h
  unfold arrival
  rw [lastNode_redirect, segments_redirect, List.getLast?_map, hlast]
  rfl

theorem maneuvers?_redirect (hf : KeepsSlightTurns f) (h : path.segments ≠ [])
    {F : Maneuver → Maneuver}
    (hsummary : ∀ (k : Nat) (t : Stretch), path.stretches[k]? = some t →
      (t.redirect f).summary
          ((if k = 0 then none else path.stretches[k - 1]?).map (Stretch.redirect f)) =
        F (t.summary (if k = 0 then none else path.stretches[k - 1]?)))
    (harrival : path.arrival.redirect f = F path.arrival) :
    (path.redirect f).maneuvers? = path.maneuvers?.map (List.map F) := by
  have hne : (path.redirect f).segments ≠ [] := by
    rw [segments_redirect]
    exact fun hnil => h (List.map_eq_nil_iff.mp hnil)
  have hstretches : (path.redirect f).stretches = path.stretches.map (Stretch.redirect f) :=
    stretches_map (Stretch.joins_redirect hf) (segments_redirect f path)
  rw [maneuvers?_eq_ok_of_segments hne, maneuvers?_eq_ok_of_segments h, hstretches,
    Stretch.summaries_map hsummary, arrival_redirect h, harrival]
  simp [Except.map]

theorem maneuvers?_redirect_of_keepsTurns (hf : KeepsTurns f) (h : path.segments ≠ []) :
    (path.redirect f).maneuvers? = path.maneuvers?.map (List.map (Maneuver.redirect f)) := by
  apply maneuvers?_redirect hf.keepsSlightTurns h _ rfl
  intro k t ht
  exact Stretch.summary_redirect (Stretch.kind_redirect hf _ t) (Stretch.turn_redirect hf _ t)
    Iff.rfl

theorem withSigns_redirect (m : Maneuver) :
    (path.redirect f).withSigns (m.redirect f) = (path.withSigns m).redirect f := by
  unfold withSigns Maneuver.redirect Maneuver.edgeCount
  dsimp only
  rw [edgeAt_redirect]
  split
  · cases path.edgeAt m.beginNode <;> rfl
  · rfl

theorem lineOf_redirect (m : Maneuver) :
    (path.redirect f).lineOf (m.redirect f) = path.lineOf m := by
  unfold lineOf Maneuver.redirect Maneuver.edgeCount
  dsimp only
  rw [edgeAt_redirect]
  cases path.edgeAt m.beginNode <;> rfl

theorem withTransit_redirect (m : Maneuver) :
    (path.redirect f).withTransit (m.redirect f) =
      (path.withTransit m).map (Maneuver.redirect f) := by
  unfold withTransit
  rw [lineOf_redirect, stopsBetween?_redirect]
  cases path.lineOf m with
  | none => rfl
  | some line =>
    dsimp only [Maneuver.redirect]
    cases path.stopsBetween? m.beginNode m.endNode <;> rfl

theorem attachTransit_redirect (ms : List Maneuver) :
    (path.redirect f).attachTransit (ms.map (Maneuver.redirect f)) =
      (path.attachTransit ms).map (List.map (Maneuver.redirect f)) := by
  unfold attachTransit
  induction ms with
  | nil => rfl
  | cons m ms ih =>
    rw [List.map_cons, List.mapM_cons, List.mapM_cons, withTransit_redirect, ih]
    cases path.withTransit m with
    | error failure => rfl
    | ok n => cases ms.mapM path.withTransit <;> rfl

end TripPath

end TurnByTurn
