import TurnByTurn.Text.Unprintable

namespace TurnByTurn.Text

def hexDigits (n : Nat) : String :=
  String.ofList (Nat.toDigits 16 n)

def codePointEscape (c : Char) : String :=
  "\\u\x7b" ++ hexDigits c.toNat ++ "\x7d"

def quotedChar (c : Char) : String :=
  match c with
  | '"' => "\\\""
  | '\\' => "\\\\"
  | '\t' => "\\t"
  | '\n' => "\\n"
  | '\r' => "\\r"
  | '\x00' => "\\0"
  | c => if isUnprintable c then codePointEscape c else c.toString

def quoted (s : String) : String :=
  "\"" ++ String.join (s.toList.map quotedChar) ++ "\""

end TurnByTurn.Text
