import TurnByTurn.Text.Utf8

namespace TurnByTurn.Markup

inductive Construct where
  | instruction
  | comment
  | doctype
  | cdata
  | tag
deriving DecidableEq, Repr

/-- Positions count the bytes from the start of the name of the element. -/
inductive AttributeFault where
  | expectedEq (position : Nat)
  | expectedValue (position : Nat)
  | unquotedValue (position : Nat)
  | expectedQuote (position : Nat) (quote : Char)
  | duplicated (position previous : Nat)
deriving DecidableEq, Repr

inductive ReferenceFault where
  | signed
  | empty
  | notADigit
  | tooLarge
  | zero
  | notACharacter (code : Nat)
deriving DecidableEq, Repr

/-- Ranges count the bytes of the attribute value. -/
inductive EscapeFault where
  | unterminated (first last : Nat)
  | unknownEntity (first last : Nat) (name : String)
  | reference (fault : ReferenceFault)
deriving DecidableEq, Repr

inductive Fault where
  | unknownMarkup
  | unclosed (what : Construct)
  | unnamedDoctype
  | unmatchedEnd (name : String)
  | mismatchedEnd (expected found : String)
  | badAttribute (fault : AttributeFault)
  | encoding (fault : Text.Utf8Fault)
  | escape (fault : EscapeFault)
deriving DecidableEq, Repr

def Construct.message : Construct → String
  | .instruction =>
    "processing instruction or xml declaration not closed: `?>` not found before end of input"
  | .comment => "comment not closed: `-->` not found before end of input"
  | .doctype => "DOCTYPE not closed: `>` not found before end of input"
  | .cdata => "CDATA not closed: `]]>` not found before end of input"
  | .tag => "tag not closed: `>` not found before end of input"

def AttributeFault.position : AttributeFault → Nat
  | .expectedEq p | .expectedValue p | .unquotedValue p | .expectedQuote p _ | .duplicated p _ => p

def AttributeFault.reason : AttributeFault → String
  | .expectedEq _ => "attribute key must be directly followed by `=` or space"
  | .expectedValue _ => "`=` must be followed by an attribute value"
  | .unquotedValue _ => "attribute value must be enclosed in `\"` or `'`"
  | .expectedQuote _ quote => "missing closing quote `" ++ quote.toString ++ "` in attribute value"
  | .duplicated _ previous =>
    "duplicated attribute, previous declaration at position " ++ toString previous

def ReferenceFault.message : ReferenceFault → String
  | .signed => "unexpected number sign"
  | .empty => "cannot parse integer from empty string"
  | .notADigit => "invalid digit found in string"
  | .tooLarge => "number too large to fit in target type"
  | .zero => "0x0 character is not permitted in XML"
  | .notACharacter code => "`" ++ toString code ++ "` is not a valid codepoint"

def rangeText (first last : Nat) : String :=
  toString first ++ ".." ++ toString last

def EscapeFault.message : EscapeFault → String
  | .unterminated first last =>
    "Error while escaping character at range " ++ rangeText first last ++
      ": Cannot find ';' after '&'"
  | .unknownEntity first last name =>
    "at " ++ rangeText first last ++ ": unrecognized entity `" ++ name ++ "`"
  | .reference fault => "invalid character reference: " ++ fault.message

def utf8Message : Text.Utf8Fault → String
  | .invalid length index =>
    "invalid utf-8 sequence of " ++ toString length ++ " bytes from index " ++ toString index
  | .incomplete index => "incomplete utf-8 byte sequence from index " ++ toString index

def Fault.message : Fault → String
  | .unknownMarkup => "syntax error: unknown or missed symbol in markup"
  | .unclosed what => "syntax error: " ++ what.message
  | .unnamedDoctype =>
    "ill-formed document: `<!DOCTYPE>` declaration does not contain a name of a document type"
  | .unmatchedEnd name =>
    "ill-formed document: close tag `</" ++ name ++ ">` does not match any open tag"
  | .mismatchedEnd expected found =>
    "ill-formed document: expected `</" ++ expected ++ ">`, but `</" ++ found ++ ">` was found"
  | .badAttribute fault =>
    "error while parsing attribute: position " ++ toString fault.position ++ ": " ++ fault.reason
  | .encoding fault => "cannot decode input using UTF-8: " ++ utf8Message fault
  | .escape fault => fault.message

end TurnByTurn.Markup
