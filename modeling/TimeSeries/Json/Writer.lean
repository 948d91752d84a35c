import TimeSeries.Json.Tree

/-! JSON text without white space. -/

namespace TimeSeries.Json

def hexDigit (number : Nat) : Char :=
  Nat.digitChar (number % 16)

def escaped (c : Char) : List Char :=
  match c with
  | '"' => ['\\', '"']
  | '\\' => ['\\', '\\']
  | '\x08' => ['\\', 'b']
  | '\x0c' => ['\\', 'f']
  | '\n' => ['\\', 'n']
  | '\r' => ['\\', 'r']
  | '\t' => ['\\', 't']
  | c =>
    if c.toNat < 32 then ['\\', 'u', '0', '0', hexDigit (c.toNat / 16), hexDigit c.toNat] else [c]

/-- A string that is no text is written as half of a surrogate pair. -/
def writeContent : Content → List Char
  | some text => '"' :: text.toList.flatMap escaped ++ ['"']
  | none => "\"\\ud800\"".toList

def Number.write (literal : Number) : List Char :=
  let digits := literal.numeral.write true
  if literal.negative then '-' :: digits else digits

def Token.write : Token → List Char
  | .openArray => ['[']
  | .closeArray => [']']
  | .openObject => ['\x7b']
  | .closeObject => ['\x7d']
  | .comma => [',']
  | .colon => [':']
  | .null => ['n', 'u', 'l', 'l']
  | .true => ['t', 'r', 'u', 'e']
  | .false => ['f', 'a', 'l', 's', 'e']
  | .number literal => literal.write
  | .string content => writeContent content

def write (document : Json) : String :=
  String.ofList (document.tokens.flatMap Token.write)

end TimeSeries.Json
