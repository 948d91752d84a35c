import TimeSeries.Floating.Numeral

/-! JSON documents as trees, and as the tokens they are written with. -/

namespace TimeSeries

namespace Json

structure Number where
  negative : Bool
  numeral : Floating.Numeral
  deriving DecidableEq

/-- The content of a string; `none` for one that is no text, because it holds half of a surrogate
pair or bytes that make no character. -/
abbrev Content := Option String

inductive Token where
  | openArray
  | closeArray
  | openObject
  | closeObject
  | comma
  | colon
  | null
  | true
  | false
  | number (literal : Number)
  | string (content : Content)
  deriving DecidableEq

end Json

inductive Json where
  | null
  | bool (value : Bool)
  | number (literal : Json.Number)
  | string (content : Json.Content)
  | array (items : List Json)
  | object (fields : List (Json.Content × Json))

namespace Json

def text (text : String) : Json :=
  .string (some text)

def integer (value : Int) : Json :=
  .number ⟨value < 0, { whole := Text.natural value.natAbs }⟩

def Number.integer? (literal : Number) : Option Int :=
  let whole := Nat.ofDigitChars 10 literal.numeral.whole 0
  if literal.numeral.fraction ≠ [] ∨ literal.numeral.exponent ≠ none then none
  else if literal.negative then if whole = 0 then none else some (-whole)
  else some whole

mutual

def tokens : Json → List Token
  | .null => [.null]
  | .bool value => [if value then .true else .false]
  | .number literal => [.number literal]
  | .string content => [.string content]
  | .array [] => [.openArray, .closeArray]
  | .array (item :: items) => .openArray :: item.tokens ++ itemTokens items
  | .object [] => [.openObject, .closeObject]
  | .object ((key, value) :: fields) =>
    .openObject :: .string key :: .colon :: value.tokens ++ fieldTokens fields

def itemTokens : List Json → List Token
  | [] => [.closeArray]
  | item :: items => .comma :: item.tokens ++ itemTokens items

def fieldTokens : List (Content × Json) → List Token
  | [] => [.closeObject]
  | (key, value) :: fields => .comma :: .string key :: .colon :: value.tokens ++ fieldTokens fields

end

end Json

end TimeSeries
