import TurnByTurn.Compression.Bits

namespace TurnByTurn.Compression

structure Delivery where
  bytes : List UInt8
  broken : Bool

def Delivery.append (bytes : List UInt8) (d : Delivery) : Delivery :=
  ⟨bytes ++ d.bytes, d.broken⟩

def blockSize : Nat := 8192

/-- The block in which corrupt data is met is lost. Data that merely ends is handed over whole. -/
def Fault.delivered (fault : Fault) (output : List UInt8) : List UInt8 :=
  match fault with
  | .truncated => output
  | .corrupt => output.take ((output.length - 1) / blockSize * blockSize)

def Fault.delivery (fault : Fault) (output : List UInt8) : Delivery :=
  ⟨fault.delivered output, true⟩

end TurnByTurn.Compression
