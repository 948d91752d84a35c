import TimeSeries.Text.Hidden

/-! Quoted text for reports: what a reader could not see or would misread is written as an
escape. -/

namespace TimeSeries.Text

def hexadecimal (number : Nat) : List Char :=
  Nat.toDigits 16 number

def quotedChar (c : Char) : List Char :=
  match c with
  | '"' => ['\\', '"']
  | '\\' => ['\\', '\\']
  | '\n' => ['\\', 'n']
  | '\r' => ['\\', 'r']
  | '\t' => ['\\', 't']
  | '\x00' => ['\\', '0']
  | c => if isHidden c then ['\\', 'u', '\x7b'] ++ hexadecimal c.toNat ++ ['\x7d'] else [c]

def quoted (text : String) : String :=
  String.ofList ('"' :: text.toList.flatMap quotedChar ++ ['"'])

end TimeSeries.Text
