import TurnByTurn.Directions.Json
import TurnByTurn.Proofs.Directions.Presence

namespace TurnByTurn

namespace Json

mutual

def members : Json → List (String × Json)
  | list items => itemMembers items
  | object fields => fieldMembers fields
  | null | bool _ | nat _ | single _ | double _ | text _ => []

def itemMembers : List Json → List (String × Json)
  | [] => []
  | j :: rest => members j ++ itemMembers rest

def fieldMembers : List (String × Json) → List (String × Json)
  | [] => []
  | (key, j) :: rest => (key, j) :: members j ++ fieldMembers rest

end

theorem itemMembers_eq_flatMap (items : List Json) : itemMembers items = items.flatMap members := by
  induction items with
  | nil => rfl
  | cons j rest ih => rw [itemMembers, ih, List.flatMap_cons]

theorem fieldMembers_append (fields more : List (String × Json)) :
    fieldMembers (fields ++ more) = fieldMembers fields ++ fieldMembers more := by
  induction fields with
  | nil => rfl
  | cons field rest ih =>
    rw [List.cons_append, fieldMembers, fieldMembers, ih, List.append_assoc]

def isPopulated : Json → Bool
  | null => false
  | bool b => b
  | nat _ => true
  | single x => (Decimal.singleText? x).isSome
  | double x => (Decimal.doubleText? x).isSome
  | text s => !s.isEmpty
  | list items => !items.isEmpty
  | object fields => !fields.isEmpty

def requiredKeys : List String :=
  ["trip_id", "leg_id", "leg_count", "locations", "summary", "maneuvers", "shape", "lat", "lng",
    "type", "length", "time", "begin_cardinal_direction", "begin_heading", "begin_shape_index",
    "end_shape_index", "color", "text_color", "text", "consecutive_count"]

structure SaysSomething (field : String × Json) : Prop where
  isPopulated : field.1 ∉ requiredKeys → field.2.isPopulated = true
  exits_ne_zero : field.1 = "roundabout_exit_count" → field.2 ≠ .nat 0

def AllTell (fields : List (String × Json)) : Prop :=
  ∀ field ∈ fieldMembers fields, SaysSomething field

def Tells (j : Json) : Prop :=
  ∀ field ∈ j.members, SaysSomething field

section Tells

theorem tells_object {fields : List (String × Json)} : (object fields).Tells ↔ AllTell fields :=
  Iff.rfl

theorem tells_nat (n : Nat) : (nat n).Tells := List.forall_mem_nil _

theorem tells_single (x : Float32) : (single x).Tells := List.forall_mem_nil _

theorem tells_double (x : Float) : (double x).Tells := List.forall_mem_nil _

theorem tells_text (s : String) : (text s).Tells := List.forall_mem_nil _

theorem tells_list {items : List Json} (h : ∀ j ∈ items, j.Tells) : (list items).Tells := by
  intro field hfield
  rw [members, itemMembers_eq_flatMap, List.mem_flatMap] at hfield
  obtain ⟨j, hj, hfield⟩ := hfield
  exact h j hj field hfield

theorem allTell_nil : AllTell [] := List.forall_mem_nil _

theorem allTell_append {fields more : List (String × Json)} :
    AllTell (fields ++ more) ↔ AllTell fields ∧ AllTell more := by
  unfold AllTell
  rw [fieldMembers_append, List.forall_mem_append]

theorem allTell_cons {field : String × Json} {rest : List (String × Json)} :
    AllTell (field :: rest) ↔ SaysSomething field ∧ field.2.Tells ∧ AllTell rest := by
  unfold AllTell Tells
  rw [fieldMembers, List.cons_append, List.forall_mem_cons, List.forall_mem_append]

theorem saysSomething_of_required {key : String} (h : key ∈ requiredKeys) (j : Json) :
    SaysSomething (key, j) := by
  refine ⟨fun hkey => absurd h hkey, ?_⟩
  rintro rfl
  exact absurd h (by decide)

theorem allTell_required {fields : List (String × Json)}
    (h : ∀ field ∈ fields, field.1 ∈ requiredKeys ∧ field.2.Tells) : AllTell fields := by
  induction fields with
  | nil => exact allTell_nil
  | cons field rest ih =>
    rw [List.forall_mem_cons] at h
    rw [allTell_cons]
    exact ⟨saysSomething_of_required h.1.1 field.2, h.1.2, ih h.2⟩

end Tells

end Json

open Json

theorem allTell_optional {key : String} {value : Option Json}
    (h : ∀ j, value = some j → SaysSomething (key, j) ∧ j.Tells) : AllTell (optional key value) := by
  cases value with
  | none => exact allTell_nil
  | some j => exact allTell_cons.mpr ⟨(h j rfl).1, (h j rfl).2, allTell_nil⟩

theorem allTell_optionalText (key : String) {s : Option String} (h : some "" ≠ s) :
    AllTell (optionalText key s) := by
  apply allTell_optional
  intro j hj
  obtain ⟨t, rfl, rfl⟩ := Option.map_eq_some_iff.mp hj
  have ht : t ≠ "" := fun ht => h (congrArg some ht.symm)
  exact ⟨⟨fun _ => by simp [isPopulated, ht], fun _ => Json.noConfusion⟩, tells_text t⟩

theorem allTell_optionalFlag (key : String) (b : Bool) : AllTell (optionalFlag key b) := by
  cases b with
  | false => exact allTell_nil
  | true =>
    exact allTell_cons.mpr
      ⟨⟨fun _ => rfl, fun _ => Json.noConfusion⟩, List.forall_mem_nil _, allTell_nil⟩

theorem allTell_optionalCount (key : String) (n : Nat) : AllTell (optionalCount key n) := by
  unfold optionalCount
  split
  · exact allTell_nil
  · next hn =>
    refine allTell_cons.mpr ⟨⟨fun _ => rfl, fun _ hzero => ?_⟩, tells_nat n, allTell_nil⟩
    exact hn (Json.nat.inj hzero)

theorem saysSomething_list {key : String} {items : List Json} (h : items ≠ []) :
    SaysSomething (key, .list items) :=
  ⟨fun _ => by simp [isPopulated, h], fun _ => Json.noConfusion⟩

theorem allTell_optionalList {α : Type} (key : String) {f : α → Json} {items : List α}
    (h : ∀ item ∈ items, (f item).Tells) : AllTell (optionalList key f items) := by
  unfold optionalList
  split
  · exact allTell_nil
  · next hitems =>
    have hne : items.map f ≠ [] := by simpa using hitems
    refine allTell_cons.mpr ⟨saysSomething_list hne, tells_list ?_, allTell_nil⟩
    exact List.forall_mem_map.mpr h

theorem SignElement.tells_toJson (e : SignElement) : e.toJson.Tells := by
  apply tells_object.mpr
  apply allTell_required
  simp [requiredKeys, tells_text, tells_nat]

namespace Signs

theorem allTell_optional_list (key : String) {list : Option (List SignElement)}
    (h : ∀ elements, list = some elements → elements ≠ []) :
    AllTell (optional key (list.map SignElement.listToJson)) := by
  apply allTell_optional
  intro j hj
  obtain ⟨elements, helements, rfl⟩ := Option.map_eq_some_iff.mp hj
  have hne : elements.map SignElement.toJson ≠ [] := by simpa using h elements helements
  refine ⟨saysSomething_list hne, tells_list ?_⟩
  exact List.forall_mem_map.mpr fun e _ => e.tells_toJson

theorem tells_toJson {s : Signs} (h : s.IsPopulated) : s.toJson.Tells := by
  apply tells_object.mpr
  simp only [allTell_append, and_assoc]
  exact ⟨allTell_optional_list _ (h.list_ne_nil .exitNumber),
    allTell_optional_list _ (h.list_ne_nil .exitBranch),
    allTell_optional_list _ (h.list_ne_nil .exitToward),
    allTell_optional_list _ (h.list_ne_nil .exitName)⟩

theorem isPopulated_toJson {s : Signs} (h : s.IsPopulated) : s.toJson.isPopulated = true := by
  obtain ⟨kind, hkind⟩ := h.exists_list
  obtain ⟨list, hlist⟩ := Option.isSome_iff_exists.mp hkind
  cases kind <;> simp_all [list?, toJson, Json.isPopulated, Json.optional]

end Signs

theorem TransitStop.tells_toJson {s : TransitStop} (h : some "" ∉ s.texts) : s.toJson.Tells := by
  simp only [texts, List.mem_cons, List.not_mem_nil, or_false, not_or] at h
  obtain ⟨hid, hname, harrival, hdeparture⟩ := h
  apply tells_object.mpr
  simp only [allTell_append, and_assoc]
  refine ⟨allTell_required ?_, allTell_optionalText _ hid, allTell_optionalText _ hname,
    allTell_optionalText _ harrival, allTell_optionalText _ hdeparture⟩
  simp [requiredKeys, tells_text]

theorem TransitRoute.tells_toJson {r : TransitRoute} (h : r.IsPopulated) : r.toJson.Tells := by
  obtain ⟨htexts, hstops⟩ := h
  simp only [texts, List.mem_cons, List.not_mem_nil, or_false, not_or] at htexts
  obtain ⟨hid, hshortName, hlongName, hheadsign, hoperatorId⟩ := htexts
  apply tells_object.mpr
  simp only [allTell_append, and_assoc]
  refine ⟨allTell_optionalText _ hid, allTell_optionalText _ hshortName,
    allTell_optionalText _ hlongName, allTell_optionalText _ hheadsign, allTell_required ?_,
    allTell_optionalText _ hoperatorId,
    allTell_optionalList _ fun stop hstop => TransitStop.tells_toJson (hstops stop hstop)⟩
  simp [requiredKeys, tells_nat]

theorem TransitRoute.isPopulated_toJson (r : TransitRoute) : r.toJson.isPopulated = true := by
  simp [toJson, isPopulated]

namespace Directions

theorem Place.tells_toJson {p : Place} (h : some "" ∉ p.texts) : p.toJson.Tells := by
  simp only [texts, List.mem_cons, List.not_mem_nil, or_false, not_or] at h
  obtain ⟨hname, hstreet, hcity, hstate, hpostalCode, hcountry, hdateTime⟩ := h
  have hheading : AllTell (optional "heading" (p.heading.map .nat)) := by
    apply allTell_optional
    intro j hj
    obtain ⟨n, -, rfl⟩ := Option.map_eq_some_iff.mp hj
    have hkey : "heading" ≠ "roundabout_exit_count" := by decide
    exact ⟨⟨fun _ => rfl, fun hexits => absurd hexits hkey⟩, tells_nat n⟩
  have hside : some "" ≠ p.side.map (·.name) := by
    cases p.side with
    | none => exact Option.some_ne_none _
    | some side => cases side <;> decide
  apply tells_object.mpr
  simp only [allTell_append, and_assoc]
  refine ⟨allTell_required ?_, hheading, allTell_optionalText _ hname,
    allTell_optionalText _ hstreet, allTell_optionalText _ hcity, allTell_optionalText _ hstate,
    allTell_optionalText _ hpostalCode, allTell_optionalText _ hcountry,
    allTell_optionalText _ hdateTime, allTell_optionalText _ hside⟩
  simp [requiredKeys, tells_double, tells_text]

theorem Step.tells_toJson {s : Step} (h : s.IsPopulated) : s.toJson.Tells := by
  have htexts := h.texts
  simp only [texts, List.mem_cons, List.not_mem_nil, or_false, not_or] at htexts
  obtain ⟨hinstruction, halert, hpre, hpost, hdepart, hverbalDepart, harrive, hverbalArrive⟩ :=
    htexts
  have hsigns : AllTell (optional "sign" (s.signs.map (·.toJson))) := by
    apply allTell_optional
    intro j hj
    obtain ⟨signs, hsigns, rfl⟩ := Option.map_eq_some_iff.mp hj
    have hpopulated := h.signs signs hsigns
    exact ⟨⟨fun _ => Signs.isPopulated_toJson hpopulated, fun _ => Json.noConfusion⟩,
      Signs.tells_toJson hpopulated⟩
  have hroute : AllTell (optional "transit_info" (s.route.map (·.toJson))) := by
    apply allTell_optional
    intro j hj
    obtain ⟨route, hroute, rfl⟩ := Option.map_eq_some_iff.mp hj
    exact ⟨⟨fun _ => route.isPopulated_toJson, fun _ => Json.noConfusion⟩,
      TransitRoute.tells_toJson (h.route route hroute)⟩
  apply tells_object.mpr
  simp only [allTell_append, and_assoc]
  refine ⟨allTell_required ?_, allTell_optionalText _ hinstruction,
    allTell_optionalList _ fun name _ => tells_text name,
    allTell_optionalList _ fun name _ => tells_text name, allTell_required ?_,
    allTell_optionalFlag _ _, allTell_optionalFlag _ _, allTell_optionalCount _ _,
    allTell_optionalText _ halert, allTell_optionalText _ hpre, allTell_optionalText _ hpost,
    allTell_optionalText _ hdepart, allTell_optionalText _ hverbalDepart,
    allTell_optionalText _ harrive, allTell_optionalText _ hverbalArrive, hsigns, hroute⟩
  · simp [requiredKeys, tells_text]
  · simp [requiredKeys, tells_text, tells_single, tells_nat]

theorem tells_toJson {d : Directions} (h : d.IsPopulated) : d.toJson.Tells := by
  have hlocations : (Json.list (d.locations.map Place.toJson)).Tells :=
    tells_list (List.forall_mem_map.mpr fun p hp => Place.tells_toJson (h.locations p hp))
  have hsteps : (Json.list (d.steps.map Step.toJson)).Tells :=
    tells_list (List.forall_mem_map.mpr fun s hs => Step.tells_toJson (h.steps s hs))
  have hsummary : d.summary.toJson.Tells := by
    apply tells_object.mpr
    apply allTell_required
    simp [requiredKeys, tells_single]
  apply tells_object.mpr
  apply allTell_required
  simp [requiredKeys, tells_nat, tells_text, hlocations, hsteps, hsummary]

end Directions

theorem TripPath.isPopulated_and_tells_directions {path : TripPath} {o : Options} {d : Directions}
    (htagged : ∀ node e, path.edgeAt node = some e → e.IsTagged) (h : path.directions o = .ok d) :
    d.IsPopulated ∧ ∀ field ∈ d.toJson.members,
      (field.1 ∉ requiredKeys → field.2.isPopulated = true) ∧
        (field.1 = "roundabout_exit_count" → field.2 ≠ .nat 0) := by
  have hpopulated := isPopulated_directions htagged h
  refine ⟨hpopulated, fun field hfield => ?_⟩
  obtain ⟨hpopulates, hexits⟩ := Directions.tells_toJson hpopulated field hfield
  exact ⟨hpopulates, hexits⟩

def offMotorway : TripPath where
  locations := [{}, { name := some "", street := some "Elm Lane" }]
  nodes := [
    { edge := some (Edge.withTags { length := 1, roadClass := .motorway }
        [("ref", "M 1; "), ("name", "")]) },
    { crossings := 1
      edge := some (Edge.withTags { length := 1, usage := .ramp, beginHeading := 30 }
        [("destination", "Harbor;Harbor"), ("junction:ref", " ; ")]) },
    {}]

theorem isPopulated_and_tells_directions_offMotorway :
    (∀ node e, offMotorway.edgeAt node = some e → e.IsTagged) ∧
      ∃ d, offMotorway.directions (.ofRequest "metric" "en-US") = .ok d ∧
        d.steps.map (·.signs) = [none, some { exitTowards := some [⟨"Harbor", 2⟩] }, none] ∧
        d.IsPopulated ∧ ∀ field ∈ d.toJson.members,
          (field.1 ∉ requiredKeys → field.2.isPopulated = true) ∧
            (field.1 = "roundabout_exit_count" → field.2 ≠ .nat 0) := by
  have htagged : ∀ node e, offMotorway.edgeAt node = some e → e.IsTagged := by
    intro node e he
    rcases node with _ | _ | _ | node
    · cases he
      exact ⟨_, _, rfl, rfl, rfl⟩
    · cases he
      exact ⟨_, _, rfl, rfl, rfl⟩
    · cases he
    · cases he
  have hsigns : (offMotorway.directions (.ofRequest "metric" "en-US")).toOption.map
      (fun d => d.steps.map (·.signs)) =
        some [none, some { exitTowards := some [⟨"Harbor", 2⟩] }, none] := by
    decide +kernel
  obtain ⟨d, hsome, hsigns⟩ := Option.map_eq_some_iff.mp hsigns
  have hd := eq_ok_of_toOption hsome
  obtain ⟨hpopulated, hmembers⟩ := TripPath.isPopulated_and_tells_directions htagged hd
  exact ⟨htagged, d, hd, hsigns, hpopulated, hmembers⟩

end TurnByTurn
