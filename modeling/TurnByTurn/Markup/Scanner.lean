import TurnByTurn.Markup.Event

namespace TurnByTurn.Markup

/-- What is being read. Contents are kept backwards. -/
inductive Mode where
  | text
  | opened
  | declared
  | comment (content : List UInt8)
  | cdata (content : List UInt8)
  | doctype (content : List UInt8) (depth : Nat)
  | instruction (content : List UInt8)
  | tag (content : List UInt8) (quote : Option UInt8)

inductive Ending where
  | complete
  /-- More bytes could have followed; that there are none is a fault. -/
  | unfinished (fault : Fault)
  | faulty (fault : Fault)

structure Scan where
  events : List Event
  ending : Ending

inductive Step where
  | goOn (mode : Mode)
  /-- An event, and the names of the elements that are open after it, the innermost first. -/
  | emit (event : Event) (names : List (List UInt8))
  | fail (fault : Fault)

def asciiBytes (s : String) : List UInt8 :=
  s.toList.map Char.toUInt8

def asciiUpper (b : UInt8) : UInt8 :=
  if 'a'.toUInt8 ≤ b && b ≤ 'z'.toUInt8 then b - 32 else b

def endComment (names : List (List UInt8)) (content : List UInt8) : Step :=
  if (asciiBytes "!--").isPrefixOf content then .emit .other names
  else .fail (.unclosed .comment)

def endCdata (names : List (List UInt8)) (content : List UInt8) : Step :=
  if (asciiBytes "![CDATA[").isPrefixOf content then .emit .other names
  else .fail (.unclosed .cdata)

def endDoctype (names : List (List UInt8)) (content : List UInt8) : Step :=
  if (asciiBytes "!DOCTYPE").isPrefixOf (content.map asciiUpper) then
    if (content.drop 8).all isSpace then .fail .unnamedDoctype else .emit .other names
  else .fail (.unclosed .doctype)

def endInstruction (names : List (List UInt8)) (content : List UInt8) : Step :=
  if content.length = 1 then .fail (.unclosed .instruction) else .emit .other names

def closingName (content : List UInt8) : List UInt8 :=
  if content.all isSpace then content else (content.reverse.dropWhile isSpace).reverse

def endClosing (names : List (List UInt8)) (content : List UInt8) : Step :=
  let name := closingName content
  match names with
  | [] => .fail (.unmatchedEnd (Text.ofUtf8OrEmpty name))
  | expected :: outer =>
    if name = expected then .emit (.closing (localText name)) outer
    else .fail (.mismatchedEnd (Text.ofUtf8OrEmpty expected) (Text.ofUtf8OrEmpty name))

def endTag (names : List (List UInt8)) (content : List UInt8) : Step :=
  if content.head? = some '/'.toUInt8 then endClosing names content.tail
  else if content.getLast? = some '/'.toUInt8 then
    .emit (.empty (.ofContent content.dropLast)) names
  else .emit (.opening (.ofContent content)) (nameOf content :: names)

def tagStep (names : List (List UInt8)) (content : List UInt8) (quote : Option UInt8)
    (b : UInt8) : Step :=
  match quote with
  | some q => .goOn (.tag (b :: content) (if b = q then none else quote))
  | none =>
    if b = '>'.toUInt8 then endTag names content.reverse
    else .goOn (.tag (b :: content) (if isQuote b then some b else none))

def declaredStep (b : UInt8) : Step :=
  if b = '['.toUInt8 then .goOn (.cdata [b, '!'.toUInt8])
  else if b = '-'.toUInt8 then .goOn (.comment [b, '!'.toUInt8])
  else if asciiUpper b = 'D'.toUInt8 then .goOn (.doctype [b, '!'.toUInt8] 0)
  else .fail .unknownMarkup

def openedStep (names : List (List UInt8)) (b : UInt8) : Step :=
  if b = '!'.toUInt8 then .goOn .declared
  else if b = '?'.toUInt8 then .goOn (.instruction [b])
  else tagStep names [] none b

def doctypeStep (names : List (List UInt8)) (content : List UInt8) (depth : Nat) (b : UInt8) :
    Step :=
  if b = '<'.toUInt8 then .goOn (.doctype (b :: content) (depth + 1))
  else if b = '>'.toUInt8 then
    if depth = 0 then endDoctype names content.reverse
    else .goOn (.doctype (b :: content) (depth - 1))
  else .goOn (.doctype (b :: content) depth)

/-- The shortest comment has two hyphens at each end; the shortest CDATA section has its brackets. -/
def Mode.step (names : List (List UInt8)) (b : UInt8) : Mode → Step
  | .text => .goOn (if b = '<'.toUInt8 then .opened else .text)
  | .opened => openedStep names b
  | .declared => declaredStep b
  | .comment content =>
    if b = '>'.toUInt8 && (asciiBytes "--").isPrefixOf content && 5 ≤ content.length then
      endComment names content.reverse
    else .goOn (.comment (b :: content))
  | .cdata content =>
    if b = '>'.toUInt8 && (asciiBytes "]]").isPrefixOf content then endCdata names content.reverse
    else .goOn (.cdata (b :: content))
  | .doctype content depth => doctypeStep names content depth b
  | .instruction content =>
    if b = '>'.toUInt8 && content.head? = some '?'.toUInt8 then
      endInstruction names content.reverse
    else .goOn (.instruction (b :: content))
  | .tag content quote => tagStep names content quote b

def Mode.ending : Mode → Ending
  | .text => .complete
  | .opened => .unfinished (.unclosed .tag)
  | .declared => .unfinished .unknownMarkup
  | .comment _ => .unfinished (.unclosed .comment)
  | .cdata _ => .unfinished (.unclosed .cdata)
  | .doctype .. => .unfinished (.unclosed .doctype)
  | .instruction _ => .unfinished (.unclosed .instruction)
  | .tag .. => .unfinished (.unclosed .tag)

def Scan.after (event : Event) (s : Scan) : Scan :=
  { s with events := event :: s.events }

def scanFrom : Mode → List (List UInt8) → List UInt8 → Scan
  | mode, _, [] => ⟨[], mode.ending⟩
  | mode, names, b :: rest =>
    match mode.step names b with
    | .goOn mode => scanFrom mode names rest
    | .emit event names => (scanFrom .text names rest).after event
    | .fail fault => ⟨[], .faulty fault⟩

def byteOrderMark : List UInt8 :=
  [0xEF, 0xBB, 0xBF]

def scan (bytes : List UInt8) : Scan :=
  scanFrom .text [] (if byteOrderMark.isPrefixOf bytes then bytes.drop 3 else bytes)

end TurnByTurn.Markup
