/-!
Runs of bytes: after four equal bytes stands how many more of them follow.
-/

namespace TurnByTurn.Compression

structure Run where
  byte : UInt8
  length : Nat

/-- A count ends the run, so an equal byte after it begins a new one. -/
def expandRunsFrom : Run → List UInt8 → List UInt8
  | _, [] => []
  | run, b :: rest =>
    if run.length = 4 then .replicate b.toNat run.byte ++ expandRunsFrom ⟨run.byte, 0⟩ rest
    else if b = run.byte then b :: expandRunsFrom ⟨b, run.length + 1⟩ rest
    else b :: expandRunsFrom ⟨b, 1⟩ rest

def expandRuns (bytes : List UInt8) : List UInt8 :=
  expandRunsFrom ⟨0, 0⟩ bytes

end TurnByTurn.Compression
