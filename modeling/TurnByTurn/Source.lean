import TurnByTurn.Buffered
import TurnByTurn.Compression.Bzip2
import TurnByTurn.Compression.Gzip
import TurnByTurn.Document.Reader
import TurnByTurn.Markup.Scanner
import TurnByTurn.Record

namespace TurnByTurn

inductive Format where
  | xml
  | gzip
  | bzip2
deriving DecidableEq, Repr

namespace Format

def gzipMagic : List UInt8 := [0x1F, 0x8B]

def bzip2Magic : List UInt8 := Markup.asciiBytes "BZh"

def detect (bytes : List UInt8) : Format :=
  if gzipMagic.isPrefixOf bytes then gzip
  else if bzip2Magic.isPrefixOf bytes then bzip2
  else xml

def name : Format → String
  | xml => "Xml"
  | gzip => "XmlGz"
  | bzip2 => "XmlBz2"

def decode (format : Format) (bytes : List UInt8) : Compression.Delivery :=
  match format with
  | xml => ⟨bytes, false⟩
  | gzip => Compression.gunzip bytes
  | bzip2 => Compression.bunzip bytes

end Format

namespace Compression.Delivery

def scan (d : Delivery) : Markup.Scan :=
  Markup.scan d.bytes

/-- What is wrong at the end of the events. Where data breaks off, it is not the document that is
unfinished. -/
def ending (d : Delivery) : Option Failure :=
  match d.scan.ending with
  | .faulty fault => some (.markup fault)
  | .unfinished fault => some (if d.broken then .unreadable else .markup fault)
  | .complete => if d.broken then some .unreadable else none

def read (d : Delivery) : Except Failure TripPath :=
  Document.read d.scan.events d.ending

def records (d : Delivery) : List Record :=
  (Document.Draft.unknownTags {} d.scan.events).map fun (key, value) => .unknownTag key value

end Compression.Delivery

namespace Format

section Reading

variable {Data Result : Type} (decode : Format → List UInt8 → Data) (read : Data → Result)

def readBytes (format : Option Format) (bytes : List UInt8) : Result :=
  read (decode (format.getD (.detect bytes)) bytes)

/-- The pieces come one after the other. What is at hand at first alone decides what
the format looks like. -/
def readPieces (format : Option Format) (pieces : List (List UInt8)) : Result :=
  let source : Buffered := ⟨[], pieces⟩
  match format with
  | some format => read (decode format source.drain)
  | none => read (decode (detect source.refill.atHand) source.refill.drain)

end Reading

end Format

def TripPath.ofBytes (format : Option Format) (bytes : List UInt8) : Except Failure TripPath :=
  Format.readBytes Format.decode Compression.Delivery.read format bytes

def TripPath.ofPieces (format : Option Format) (pieces : List (List UInt8)) :
    Except Failure TripPath :=
  Format.readPieces Format.decode Compression.Delivery.read format pieces

def Format.documentRecords (format : Format) (bytes : List UInt8) : List Record :=
  (format.decode bytes).records

def Format.records (format : Format) (inPieces : Bool) (bytes : List UInt8) : List Record :=
  (if inPieces || format ≠ .xml then [.reading format.name] else []) ++
    format.documentRecords bytes

end TurnByTurn
