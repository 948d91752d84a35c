import TimeSeries.Json.Lexer

/-! Documents built from tokens. The containers that are still open wait on a stack. -/

namespace TimeSeries.Json

inductive Frame where
  | array (items : List Json)
  | object (fields : List (Content × Json)) (key : Content)

/-- What has to come next, and the containers around it. -/
inductive Expected where
  | value (stack : List Frame)
  | firstItem (stack : List Frame)
  | firstKey (stack : List Frame)
  | key (fields : List (Content × Json)) (stack : List Frame)
  | colon (fields : List (Content × Json)) (key : Content) (stack : List Frame)
  | separator (value : Json) (stack : List Frame)

def startValue (stack : List Frame) : Token → Option Expected
  | .null => some (.separator .null stack)
  | .true => some (.separator (.bool true) stack)
  | .false => some (.separator (.bool false) stack)
  | .number literal => some (.separator (.number literal) stack)
  | .string content => some (.separator (.string content) stack)
  | .openArray => some (.firstItem stack)
  | .openObject => some (.firstKey stack)
  | _ => none

def step : Expected → Token → Option Expected
  | .value stack, token => startValue stack token
  | .firstItem stack, .closeArray => some (.separator (.array []) stack)
  | .firstItem stack, token => startValue (.array [] :: stack) token
  | .firstKey stack, .closeObject => some (.separator (.object []) stack)
  | .firstKey stack, .string key => some (.colon [] key stack)
  | .key fields stack, .string key => some (.colon fields key stack)
  | .colon fields key stack, .colon => some (.value (.object fields key :: stack))
  | .separator value (.array items :: stack), .comma =>
    some (.value (.array (value :: items) :: stack))
  | .separator value (.array items :: stack), .closeArray =>
    some (.separator (.array (value :: items).reverse) stack)
  | .separator value (.object fields key :: stack), .comma =>
    some (.key ((key, value) :: fields) stack)
  | .separator value (.object fields key :: stack), .closeObject =>
    some (.separator (.object ((key, value) :: fields).reverse) stack)
  | _, _ => none

def build (tokens : List Token) : Option Json :=
  match tokens.foldlM step (.value []) with
  | some (.separator document []) => some document
  | _ => none

def parseSymbols (input : List (Option Char)) : Option Json :=
  (scan input).bind build

def parse (text : String) : Option Json :=
  parseSymbols (text.toList.map some)

def parseBytes (bytes : List UInt8) : Option Json :=
  parseSymbols (Text.decode bytes)

end TimeSeries.Json
