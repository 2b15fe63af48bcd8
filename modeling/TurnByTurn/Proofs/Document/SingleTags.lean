import TurnByTurn.Proofs.Document.Reading

/-!
Elements in a single tag. They are read as if they opened and closed at once, except that a trip
path in a single tag does not end the reading, so that what follows can still take its place.
-/

namespace TurnByTurn.Document

open Markup (Element Event)

namespace Draft

theorem finish_of_readTripPath {e : Element} {p : TripPath}
    (h : attributesAs e readTripPath = .ok p) (d : Draft) :
    { d with path := some p }.finish = .ok p := by
  unfold attributesAs at h
  cases hattributes : attributesOf e with
  | error failure =>
    rw [hattributes] at h
    cases h
  | ok a =>
    rw [hattributes] at h
    obtain ⟨hlocations, hnodes⟩ := yields_readTripPath a p h
    simp only [finish, hlocations, hnodes, List.reverse_nil]
    rw [← hlocations, ← hnodes]

theorem run_paired {e : Element} (hname : e.name ≠ "trip_path") (ending : Option Failure)
    (d : Draft) (rest : List Event) :
    run ending d (.opening e :: .closing e.name :: rest) = run ending d (.empty e :: rest) := by
  rw [run_cons rfl, run_cons rfl, next, next]
  cases d.opened e with
  | error failure => rfl
  | ok d' =>
    have hclosing : d'.isDone (.closing e.name) = false := by simp [isDone, hname]
    exact run_cons hclosing ending rest

theorem opened_tripPath {e : Element} (hname : e.name = "trip_path") (d : Draft) :
    d.opened e = (attributesAs e readTripPath).map fun p => { d with path := some p } := by
  unfold opened
  rw [hname]
  rfl

theorem run_paired_iff_of_tripPath {e : Element} (hname : e.name = "trip_path")
    (ending : Option Failure) (d : Draft) (rest : List Event) :
    run ending d (.opening e :: .closing e.name :: rest) = run ending d (.empty e :: rest) ↔
      ∀ p, attributesAs e readTripPath = .ok p →
        run ending { d with path := some p } rest = .ok p := by
  rw [run_cons rfl, run_cons rfl, next, next, opened_tripPath hname]
  cases hread : attributesAs e readTripPath with
  | error failure => exact iff_of_true rfl fun p hp => by cases hp
  | ok p =>
    have hpaired : run ending { d with path := some p } (.closing e.name :: rest) = .ok p := by
      rw [run, hname]
      exact finish_of_readTripPath hread d
    have hsingle : { d with path := some p }.closed e.name = { d with path := some p } := by
      rw [hname]
      rfl
    change run ending { d with path := some p } _ =
      run ending ({ d with path := some p }.closed e.name) rest ↔ _
    rw [hpaired, hsingle]
    constructor
    · rintro hsame q ⟨⟩
      exact hsame.symm
    · intro hsame
      exact (hsame p rfl).symm

end Draft

theorem read_paired_iff (before after : List Event) (e : Element) (ending : Option Failure) :
    read (before ++ .opening e :: .closing e.name :: after) ending =
        read (before ++ .empty e :: after) ending ↔
      (e.name = "trip_path" → ∀ d p, Draft.through {} before = .ok d →
        attributesAs e readTripPath = .ok p →
          Draft.run ending { d with path := some p } after = .ok p) := by
  unfold read
  rw [Draft.run_append, Draft.run_append]
  cases Draft.through {} before with
  | error result => simp
  | ok d =>
    dsimp only
    by_cases hname : e.name = "trip_path"
    · rw [Draft.run_paired_iff_of_tripPath hname]
      constructor
      · rintro hsame - d' p ⟨⟩ hp
        exact hsame p hp
      · intro hsame p hp
        exact hsame hname d p rfl hp
    · refine iff_of_true (Draft.run_paired hname ending d after) ?_
      intro htripPath
      exact absurd htripPath hname

def tripsBefore : List Event := [.opening ⟨"trips", .ok []⟩]

def emptyTrip : Element := ⟨"trip_path", .ok [("trip_id", "1")]⟩

def laterTrip : List Event :=
  [.opening ⟨"trip_path", .ok [("trip_id", "2")]⟩, .closing "trip_path", .closing "trips"]

theorem not_forall_read_paired :
    ¬ ∀ (before after : List Event) (e : Element),
      read (before ++ .opening e :: .closing e.name :: after) none =
        read (before ++ .empty e :: after) none := by
  intro h
  have hids := congrArg (fun x => x.toOption.map (·.tripId)) (h tripsBefore laterTrip emptyTrip)
  revert hids
  decide +kernel

end TurnByTurn.Document
