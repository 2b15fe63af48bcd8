namespace TurnByTurn

inductive Turn where
  | straight
  | slightRight
  | right
  | sharpRight
  | uTurn
  | sharpLeft
  | left
  | slightLeft
deriving DecidableEq, Repr, Inhabited

/-- The clockwise angle from one heading to another, in whole degrees below 360. -/
def turnDegree (fromHeading toHeading : Nat) : Nat :=
  (toHeading % 360 + 360 - fromHeading % 360) % 360

theorem turnDegree_lt (fromHeading toHeading : Nat) : turnDegree fromHeading toHeading < 360 :=
  Nat.mod_lt _ (by decide)

theorem turnDegree_self (heading : Nat) : turnDegree heading heading = 0 := by
  unfold turnDegree
  omega

namespace Turn

def ofDegree (degree : Nat) : Turn :=
  let d := degree % 360
  if d ≤ 10 then straight
  else if d ≤ 49 then slightRight
  else if d ≤ 129 then right
  else if d ≤ 169 then sharpRight
  else if d ≤ 190 then uTurn
  else if d ≤ 230 then sharpLeft
  else if d ≤ 310 then left
  else if d ≤ 349 then slightLeft
  else straight

theorem ofDegree_mod (degree : Nat) : ofDegree (degree % 360) = ofDegree degree := by
  simp [ofDegree]

def between (fromHeading toHeading : Nat) : Turn :=
  ofDegree (turnDegree fromHeading toHeading)

theorem between_self (heading : Nat) : between heading heading = straight := by
  simp [between, turnDegree_self, ofDegree]

def isSlight : Turn → Bool
  | straight | slightRight | slightLeft => true
  | _ => false

def isRight : Turn → Bool
  | slightRight | right | sharpRight => true
  | _ => false

def isLeft : Turn → Bool
  | slightLeft | left | sharpLeft => true
  | _ => false

end Turn

end TurnByTurn
