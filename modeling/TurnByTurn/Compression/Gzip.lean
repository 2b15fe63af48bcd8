import TurnByTurn.Compression.Checksum
import TurnByTurn.Compression.Deflate
import TurnByTurn.Compression.Delivery

namespace TurnByTurn.Compression

def numberOfBytes (bytes : List UInt8) : Nat :=
  bytes.foldr (fun b n => b.toNat + 256 * n) 0

def takeBytes? (count : Nat) (bytes : List UInt8) : Option (List UInt8 × List UInt8) :=
  if count ≤ bytes.length then some (bytes.splitAt count) else none

def skipExtra? (bytes : List UInt8) : Option (List UInt8) := do
  let (size, rest) ← takeBytes? 2 bytes
  let (_, rest) ← takeBytes? (numberOfBytes size) rest
  return rest

def skipText? (bytes : List UInt8) : Option (List UInt8) :=
  match bytes.dropWhile (· ≠ 0) with
  | [] => none
  | _ :: rest => if bytes.length - rest.length ≤ 65536 then some rest else none

def skipHeaderCheck? (header bytes : List UInt8) : Option (List UInt8) := do
  let (check, rest) ← takeBytes? 2 bytes
  if numberOfBytes check = (checksumLow header).toNat % 65536 then some rest else none

def skipIf (flag : Bool) (skip : List UInt8 → Option (List UInt8)) (bytes : List UInt8) :
    Option (List UInt8) :=
  if flag then skip bytes else some bytes

def skipHeader? (bytes : List UInt8) : Option (List UInt8) := do
  let (fixed, rest) ← takeBytes? 10 bytes
  let flags := numberOfBytes (fixed.drop 3 |>.take 1)
  if fixed.take 3 ≠ [0x1F, 0x8B, 8] || 32 ≤ flags then none
  let rest ← skipIf (flags.testBit 2) skipExtra? rest
  let rest ← skipIf (flags.testBit 3) skipText? rest
  let rest ← skipIf (flags.testBit 4) skipText? rest
  skipIf (flags.testBit 1) (skipHeaderCheck? (bytes.take (bytes.length - rest.length))) rest

def skipTrailer? (output bytes : List UInt8) : Option (List UInt8) := do
  let (check, rest) ← takeBytes? 4 bytes
  let (size, rest) ← takeBytes? 4 rest
  if numberOfBytes check = (checksumLow output).toNat &&
    numberOfBytes size = output.length % UInt32.size then some rest else none

/-- One member after the other; the data of a member is handed over before its trailer is looked
at. -/
def gunzipMembers : Nat → List UInt8 → Delivery
  | 0, _ => ⟨[], true⟩
  | fuel + 1, bytes =>
    match skipHeader? bytes with
    | none => ⟨[], true⟩
    | some body =>
      match inflate body with
      | .error (fault, output) => fault.delivery output.toList
      | .ok s =>
        let output := s.output.toList
        match skipTrailer? output (bytesLeft body (align s.bits)) with
        | none => ⟨output, true⟩
        | some [] => ⟨output, false⟩
        | some rest => (gunzipMembers fuel rest).append output

/-- A member takes a byte at least. -/
def gunzip (bytes : List UInt8) : Delivery :=
  gunzipMembers (bytes.length + 1) bytes

end TurnByTurn.Compression
