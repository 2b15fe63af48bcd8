import TurnByTurn.Path.Basic

namespace TurnByTurn

inductive TagKey where
  | naming (key : NameKey)
  | sign (kind : SignKind)
deriving DecidableEq, Repr

def SignKind.ofTag? : String → Option SignKind
  | "junction:ref" => some exitNumber
  | "destination:ref" => some exitBranch
  | "destination:ref:to" | "destination" => some exitToward
  | "junction:name" => some exitName
  | _ => none

def TagKey.ofTag? (key : String) : Option TagKey :=
  match NameKey.ofTag? key with
  | some k => some (naming k)
  | none => (SignKind.ofTag? key).map sign

namespace Edge

def putTag (e : Edge) (key : TagKey) (value : String) : Edge :=
  match key with
  | .naming k => { e with names := e.names.set k value }
  | .sign kind => { e with sign := e.sign ++ (tagTokens value).map (SignToken.mk kind) }

def setTag? (e : Edge) (key value : String) : Option Edge :=
  (TagKey.ofTag? key).map (e.putTag · value)

def setTag (e : Edge) (key value : String) : Edge :=
  (e.setTag? key value).getD e

theorem setTag?_eq_none_iff (e : Edge) (key value : String) :
    e.setTag? key value = none ↔ TagKey.ofTag? key = none := by
  simp [setTag?]

end Edge

end TurnByTurn
