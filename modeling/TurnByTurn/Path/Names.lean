import TurnByTurn.Path.Tokens

namespace TurnByTurn

inductive RoadClass where
  | motorway
  | trunk
  | primary
  | secondary
  | tertiary
  | unclassified
  | residential
  | serviceOther
deriving DecidableEq, Repr, Inhabited

namespace RoadClass

def name : RoadClass → String
  | motorway => "motorway"
  | trunk => "trunk"
  | primary => "primary"
  | secondary => "secondary"
  | tertiary => "tertiary"
  | unclassified => "unclassified"
  | residential => "residential"
  | serviceOther => "service_other"

def ofName? : String → Option RoadClass
  | "motorway" => some motorway
  | "trunk" => some trunk
  | "primary" => some primary
  | "secondary" => some secondary
  | "tertiary" => some tertiary
  | "unclassified" => some unclassified
  | "residential" => some residential
  | "service_other" | "service" => some serviceOther
  | _ => none

def isHighway : RoadClass → Bool
  | motorway | trunk => true
  | _ => false

end RoadClass

/-- A tag that is missing is empty. -/
structure NameTags where
  ref : String := ""
  /-- The reference of a route that runs along the road. -/
  routeRef : String := ""
  intRef : String := ""
  name : String := ""
  nameEn : String := ""
  altName : String := ""
  officialName : String := ""
deriving DecidableEq, Repr, Inhabited

inductive NameKey where
  | ref
  | routeRef
  | intRef
  | name
  | nameEn
  | altName
  | officialName
deriving DecidableEq, Repr

def NameKey.ofTag? : String → Option NameKey
  | "ref" => some ref
  | "route_ref" => some routeRef
  | "int_ref" => some intRef
  | "name" => some name
  | "name:en" => some nameEn
  | "alt_name" => some altName
  | "official_name" => some officialName
  | _ => none

namespace NameTags

def get (t : NameTags) : NameKey → String
  | .ref => t.ref
  | .routeRef => t.routeRef
  | .intRef => t.intRef
  | .name => t.name
  | .nameEn => t.nameEn
  | .altName => t.altName
  | .officialName => t.officialName

def set (t : NameTags) (key : NameKey) (value : String) : NameTags :=
  match key with
  | .ref => { t with ref := value }
  | .routeRef => { t with routeRef := value }
  | .intRef => { t with intRef := value }
  | .name => { t with name := value }
  | .nameEn => { t with nameEn := value }
  | .altName => { t with altName := value }
  | .officialName => { t with officialName := value }

theorem get_set (t : NameTags) (key other : NameKey) (value : String) :
    (t.set key value).get other = if other = key then value else t.get other := by
  cases key <;> cases other <;> rfl

def single (value : String) : List String :=
  if value.isEmpty then [] else [value]

def streetNames (t : NameTags) (roadClass : RoadClass) : List String :=
  let leading := if roadClass.isHighway then
      tagTokens (if t.routeRef.isEmpty then t.ref else t.routeRef) else []
  let following := if roadClass.isHighway then [] else tagTokens t.ref
  leading ++ single t.name ++ following ++
    single t.altName ++ single t.officialName ++ single t.nameEn

end NameTags

end TurnByTurn
