import TurnByTurn.Buffered
import TurnByTurn.CommandLine
import TurnByTurn.Compass
import TurnByTurn.Compression.Bits
import TurnByTurn.Compression.Bzip2
import TurnByTurn.Compression.Checksum
import TurnByTurn.Compression.Code
import TurnByTurn.Compression.Deflate
import TurnByTurn.Compression.Delivery
import TurnByTurn.Compression.Gzip
import TurnByTurn.Compression.RunLength
import TurnByTurn.Compression.Sorted
import TurnByTurn.Decimal.Binary
import TurnByTurn.Decimal.Fixed
import TurnByTurn.Decimal.Layout
import TurnByTurn.Decimal.Natural
import TurnByTurn.Decimal.Real
import TurnByTurn.Decimal.Shortest
import TurnByTurn.Directions.Basic
import TurnByTurn.Directions.Build
import TurnByTurn.Directions.Json
import TurnByTurn.Document.Attributes
import TurnByTurn.Document.Elements
import TurnByTurn.Document.Reader
import TurnByTurn.Failure
import TurnByTurn.Json
import TurnByTurn.Main
import TurnByTurn.Maneuver.Attach
import TurnByTurn.Maneuver.Basic
import TurnByTurn.Maneuver.Boundary
import TurnByTurn.Maneuver.Build
import TurnByTurn.Markup.Attribute
import TurnByTurn.Markup.Escape
import TurnByTurn.Markup.Event
import TurnByTurn.Markup.Fault
import TurnByTurn.Markup.Scanner
import TurnByTurn.Narrative.Build
import TurnByTurn.Narrative.Dictionary
import TurnByTurn.Narrative.English
import TurnByTurn.Narrative.German
import TurnByTurn.Narrative.Instruction
import TurnByTurn.Narrative.Language
import TurnByTurn.Narrative.Length
import TurnByTurn.Narrative.Template
import TurnByTurn.Options
import TurnByTurn.Path.Access
import TurnByTurn.Path.Basic
import TurnByTurn.Path.Headings
import TurnByTurn.Path.Names
import TurnByTurn.Path.Segments
import TurnByTurn.Path.Tags
import TurnByTurn.Path.Tokens
import TurnByTurn.Proofs.Maneuver.Stretch
import TurnByTurn.Proofs.Path.Segments
import TurnByTurn.Record
import TurnByTurn.Sign
import TurnByTurn.Source
import TurnByTurn.Text.Ascii
import TurnByTurn.Text.Blank
import TurnByTurn.Text.Lowercase
import TurnByTurn.Text.Quoted
import TurnByTurn.Text.Unprintable
import TurnByTurn.Text.Utf8
import TurnByTurn.Transit
import TurnByTurn.Turn
import TurnByTurn.Units
import TurnByTurn.Proofs.Maneuver.Summary
import TurnByTurn.Proofs.Maneuver.Partition
import TurnByTurn.Proofs.Maneuver.Ride
import TurnByTurn.Proofs.Directions.Outcome
import TurnByTurn.Proofs.Maneuver.ShownNames
import TurnByTurn.Proofs.Maneuver.Homogeneous
import TurnByTurn.Proofs.Maneuver.Kinds
import TurnByTurn.Proofs.Maneuver.ShortEdge
import TurnByTurn.Proofs.Document.Grammar
import TurnByTurn.Proofs.Narrative.Texts
import TurnByTurn.Proofs.Document.Reading
import TurnByTurn.Proofs.Document.Refusal
import TurnByTurn.Proofs.Narrative.Filling
import TurnByTurn.Proofs.Narrative.Phrases
import TurnByTurn.Proofs.Narrative.Templates
import TurnByTurn.Proofs.Narrative.Verbatim
import TurnByTurn.Proofs.Maneuver.Pieces
import TurnByTurn.Proofs.Maneuver.Roundabout
import TurnByTurn.Proofs.Maneuver.Stops
import TurnByTurn.Proofs.Maneuver.Subdivision
import TurnByTurn.Proofs.Maneuver.RoundaboutRuns
import TurnByTurn.Proofs.Maneuver.Prolonged
import TurnByTurn.Proofs.Maneuver.Redirect
import TurnByTurn.Proofs.Maneuver.Mirror
import TurnByTurn.Proofs.Directions.Options
import TurnByTurn.Proofs.Directions.Rotation
import TurnByTurn.Proofs.Directions.Guided
import TurnByTurn.Proofs.Directions.Places
import TurnByTurn.Proofs.Narrative.StopCount
import TurnByTurn.Proofs.Document.SingleTags
import TurnByTurn.Proofs.Document.Misplaced
import TurnByTurn.Proofs.Narrative.Retold
import TurnByTurn.Proofs.Document.Truncated
import TurnByTurn.Proofs.Directions.Carried
import TurnByTurn.Proofs.Narrative.Sentences
import TurnByTurn.Proofs.Directions.Sentences
import TurnByTurn.Proofs.Path.Names
import TurnByTurn.Proofs.Directions.Presence
import TurnByTurn.Proofs.Directions.Members
import TurnByTurn.Proofs.Maneuver.NameLists
import TurnByTurn.Proofs.Path.InPlace
import TurnByTurn.Proofs.Document.Pieces
import TurnByTurn.Proofs.Document.Validated
import TurnByTurn.Proofs.Decimal.Digits
import TurnByTurn.Proofs.Document.Colors
import TurnByTurn.Proofs.Maneuver.Beginning
import TurnByTurn.Proofs.Maneuver.BesideShort
import TurnByTurn.Proofs.Path.TagKeys
import TurnByTurn.Proofs.Path.NameTags
import TurnByTurn.Proofs.Path.SignTags
import TurnByTurn.Proofs.Path.TagTokens
import TurnByTurn.Proofs.Narrative.Numerals
import TurnByTurn.Proofs.Narrative.Languages
