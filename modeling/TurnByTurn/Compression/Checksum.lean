namespace TurnByTurn.Compression

def stepLow (c : UInt32) : UInt32 :=
  if c &&& 1 = 1 then (c >>> 1) ^^^ 0xEDB88320 else c >>> 1

def stepHigh (c : UInt32) : UInt32 :=
  if c &&& 0x80000000 = 0x80000000 then (c <<< 1) ^^^ 0x04C11DB7 else c <<< 1

def eightTimes (step : UInt32 → UInt32) (c : UInt32) : UInt32 :=
  (List.range 8).foldl (fun c _ => step c) c

def updateLow (c : UInt32) (b : UInt8) : UInt32 :=
  eightTimes stepLow (c ^^^ b.toUInt32)

def updateHigh (c : UInt32) (b : UInt8) : UInt32 :=
  eightTimes stepHigh (c ^^^ (b.toUInt32 <<< 24))

def checksumLow (bytes : List UInt8) : UInt32 :=
  bytes.foldl updateLow 0xFFFFFFFF ^^^ 0xFFFFFFFF

def checksumHigh (bytes : List UInt8) : UInt32 :=
  bytes.foldl updateHigh 0xFFFFFFFF ^^^ 0xFFFFFFFF

end TurnByTurn.Compression
