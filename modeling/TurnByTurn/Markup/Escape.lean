import TurnByTurn.Decimal.Natural
import TurnByTurn.Markup.Fault

namespace TurnByTurn.Markup

def entity? : List Char → Option Char
  | ['l', 't'] => some '<'
  | ['g', 't'] => some '>'
  | ['a', 'm', 'p'] => some '&'
  | ['q', 'u', 'o', 't'] => some '"'
  | ['a', 'p', 'o', 's'] => some '\''
  | _ => none

def referenceFault : Decimal.DigitFault → ReferenceFault
  | .empty => .empty
  | .notADigit => .notADigit
  | .tooLarge => .tooLarge

def codePoint (radix : Nat) (digits : List Char) : Except ReferenceFault Nat :=
  match digits.head? with
  | some '+' | some '-' => .error .signed
  | _ => (Decimal.readNatural radix UInt32.size digits).mapError referenceFault

def referencedChar (code : Nat) : Except ReferenceFault Char :=
  if code = 0 then .error .zero
  else if code.isValidChar then .ok (Char.ofNat code)
  else .error (.notACharacter code)

def reference (text : List Char) : Except ReferenceFault Char := do
  let code ← match text with
    | 'x' :: digits => codePoint 16 digits
    | digits => codePoint 10 digits
  referencedChar code

def byteLength (cs : List Char) : Nat :=
  (cs.map Char.utf8Size).foldr (· + ·) 0

theorem length_le_byteLength (cs : List Char) : cs.length ≤ byteLength cs := by
  induction cs with
  | nil => exact Nat.le_refl 0
  | cons c cs ih =>
    have hsize := Char.utf8Size_pos c
    simp only [byteLength, List.map_cons, List.foldr_cons, List.length_cons] at ih ⊢
    omega

def expandName (index : Nat) (name : List Char) : Except EscapeFault Char :=
  match name with
  | '#' :: text => (reference text).mapError .reference
  | _ =>
    match entity? name with
    | some c => .ok c
    | none => .error (.unknownEntity index (index + byteLength name) (String.ofList name))

/-- What has been read of an entity: where its name starts, and the name backwards. -/
structure OpenName where
  index : Nat
  name : List Char

def unescapeFrom (index : Nat) : Option OpenName → List Char → Except EscapeFault (List Char)
  | none, [] => .ok []
  | some o, [] => .error (.unterminated (o.index - 1) index)
  | none, c :: rest =>
    if c = '&' then unescapeFrom (index + 1) (some ⟨index + 1, []⟩) rest
    else (unescapeFrom (index + c.utf8Size) none rest).map (c :: ·)
  | some o, c :: rest =>
    if c = ';' then
      match expandName o.index o.name.reverse with
      | .error fault => .error fault
      | .ok d => (unescapeFrom (index + 1) none rest).map (d :: ·)
    else if c = '&' then .error (.unterminated (o.index - 1) (index + byteLength (c :: rest)))
    else unescapeFrom (index + c.utf8Size) (some { o with name := c :: o.name }) rest

def unescape (text : List Char) : Except EscapeFault (List Char) :=
  unescapeFrom 0 none text

end TurnByTurn.Markup
