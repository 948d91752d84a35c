import TimeSeries.Json.Tree
import TimeSeries.Text.Utf8

/-! Tokens of JSON text. The text comes as characters, with `none` for bytes that belong to no
character; such bytes are tolerated inside strings only. -/

namespace TimeSeries.Json

/-- A part of a string: a character, a code unit given by its number, or a byte that belongs to no
character. -/
inductive Piece where
  | char (c : Char)
  | unit (code : Nat)
  | stray
  deriving DecidableEq

def hexValue? (symbol : Option Char) : Option Nat :=
  match symbol with
  | none => none
  | some c =>
    if c.isDigit then some (c.toNat - 48)
    else if 'a' ≤ c ∧ c ≤ 'f' then some (c.toNat - 87)
    else if 'A' ≤ c ∧ c ≤ 'F' then some (c.toNat - 55)
    else none

def unit? (a b c d : Option Char) : Option Nat := do
  let a ← hexValue? a
  let b ← hexValue? b
  let c ← hexValue? c
  let d ← hexValue? d
  return ((a * 16 + b) * 16 + c) * 16 + d

def shortEscape? : Char → Option Char
  | '"' => some '"'
  | '\\' => some '\\'
  | '/' => some '/'
  | 'b' => some '\x08'
  | 'f' => some '\x0c'
  | 'n' => some '\n'
  | 'r' => some '\r'
  | 't' => some '\t'
  | _ => none

def scanString : List (Option Char) → Option (List Piece × List (Option Char))
  | [] => none
  | none :: rest => (scanString rest).map fun (pieces, rest) => (.stray :: pieces, rest)
  | some '"' :: rest => some ([], rest)
  | some '\\' :: some 'u' :: a :: b :: c :: d :: rest => do
    let code ← unit? a b c d
    let (pieces, rest) ← scanString rest
    return (.unit code :: pieces, rest)
  | some '\\' :: some letter :: rest => do
    let c ← shortEscape? letter
    let (pieces, rest) ← scanString rest
    return (.char c :: pieces, rest)
  | some c :: rest =>
    if c = '\\' ∨ c.toNat < 32 then none
    else (scanString rest).map fun (pieces, rest) => (.char c :: pieces, rest)

/-- The characters that the pieces of a string make up, if each surrogate has its other half. -/
def assemble : List Piece → Option (List Char)
  | [] => some []
  | .stray :: _ => none
  | .char c :: pieces => (assemble pieces).map (c :: ·)
  | .unit high :: .unit low :: pieces =>
    if 0xD800 ≤ high ∧ high < 0xDC00 then
      if 0xDC00 ≤ low ∧ low < 0xE000 then
        (assemble pieces).map
          (Char.ofNat ((high - 0xD800) * 1024 + (low - 0xDC00) + 0x10000) :: ·)
      else none
    else if 0xDC00 ≤ high ∧ high < 0xE000 then none
    else (assemble (.unit low :: pieces)).map (Char.ofNat high :: ·)
  | .unit code :: pieces =>
    if 0xD800 ≤ code ∧ code < 0xE000 then none
    else (assemble pieces).map (Char.ofNat code :: ·)

def scanDigits : List (Option Char) → List Char × List (Option Char)
  | some c :: rest =>
    if c.isDigit then ((c :: (scanDigits rest).1), (scanDigits rest).2) else ([], some c :: rest)
  | rest => ([], rest)

def scanNatural (input : List (Option Char)) : Option (List Char × List (Option Char)) :=
  let (digits, rest) := scanDigits input
  if digits = [] then none else some (digits, rest)

def scanFraction : List (Option Char) → Option (List Char × List (Option Char))
  | some '.' :: rest => scanNatural rest
  | rest => some ([], rest)

def scanPower : List (Option Char) → Option (Int × List (Option Char))
  | some '-' :: rest =>
    (scanNatural rest).map fun (digits, rest) => (-(Nat.ofDigitChars 10 digits 0 : Int), rest)
  | some '+' :: rest =>
    (scanNatural rest).map fun (digits, rest) => ((Nat.ofDigitChars 10 digits 0 : Int), rest)
  | rest =>
    (scanNatural rest).map fun (digits, rest) => ((Nat.ofDigitChars 10 digits 0 : Int), rest)

def scanExponent : List (Option Char) → Option (Option Int × List (Option Char))
  | some 'e' :: rest => (scanPower rest).map fun (power, rest) => (some power, rest)
  | some 'E' :: rest => (scanPower rest).map fun (power, rest) => (some power, rest)
  | rest => some (none, rest)

def scanNumeral (input : List (Option Char)) :
    Option (Floating.Numeral × List (Option Char)) := do
  let (whole, rest) ← scanNatural input
  if whole.head? = some '0' ∧ 1 < whole.length then none
  else
    let (fraction, rest) ← scanFraction rest
    let (exponent, rest) ← scanExponent rest
    return ({ whole, fraction, exponent }, rest)

def scanWord : List Char → List (Option Char) → Option (List (Option Char))
  | [], rest => some rest
  | expected :: word, some c :: rest => if c = expected then scanWord word rest else none
  | _ :: _, _ => none

def scanToken (first : Char) (rest : List (Option Char)) : Option (Token × List (Option Char)) :=
  match first with
  | '[' => some (.openArray, rest)
  | ']' => some (.closeArray, rest)
  | '\x7b' => some (.openObject, rest)
  | '\x7d' => some (.closeObject, rest)
  | ',' => some (.comma, rest)
  | ':' => some (.colon, rest)
  | 'n' => (scanWord ['u', 'l', 'l'] rest).map (.null, ·)
  | 't' => (scanWord ['r', 'u', 'e'] rest).map (.true, ·)
  | 'f' => (scanWord ['a', 'l', 's', 'e'] rest).map (.false, ·)
  | '"' => (scanString rest).map fun (pieces, rest) =>
      (.string ((assemble pieces).map String.ofList), rest)
  | '-' => (scanNumeral rest).map fun (numeral, rest) => (.number ⟨true, numeral⟩, rest)
  | first => (scanNumeral (some first :: rest)).map fun (numeral, rest) =>
      (.number ⟨false, numeral⟩, rest)

def isSpace (c : Char) : Bool :=
  c = ' ' || c = '\n' || c = '\r' || c = '\t'

theorem scanString_length {input rest : List (Option Char)} {pieces : List Piece}
    (scanned : scanString input = some (pieces, rest)) : rest.length ≤ input.length := by
  fun_induction scanString input generalizing pieces rest <;>
    grind [Option.map_eq_some_iff, Option.bind_eq_some_iff]

theorem scanDigits_length (input : List (Option Char)) :
    (scanDigits input).1.length + (scanDigits input).2.length = input.length := by
  fun_induction scanDigits input <;> grind

theorem scanNatural_length {input rest : List (Option Char)} {digits : List Char}
    (scanned : scanNatural input = some (digits, rest)) : rest.length < input.length := by
  have := scanDigits_length input
  grind [scanNatural, List.length_eq_zero_iff]

theorem scanFraction_length {input rest : List (Option Char)} {digits : List Char}
    (scanned : scanFraction input = some (digits, rest)) : rest.length ≤ input.length := by
  unfold scanFraction at scanned
  split at scanned <;> grind [Option.map_eq_some_iff, → scanNatural_length]

theorem scanPower_length {input rest : List (Option Char)} {power : Int}
    (scanned : scanPower input = some (power, rest)) : rest.length ≤ input.length := by
  unfold scanPower at scanned
  split at scanned <;> grind [Option.map_eq_some_iff, → scanNatural_length]

theorem scanExponent_length {input rest : List (Option Char)} {power : Option Int}
    (scanned : scanExponent input = some (power, rest)) : rest.length ≤ input.length := by
  unfold scanExponent at scanned
  split at scanned <;> grind [Option.map_eq_some_iff, → scanPower_length]

theorem scanNumeral_length {input rest : List (Option Char)} {numeral : Floating.Numeral}
    (scanned : scanNumeral input = some (numeral, rest)) : rest.length < input.length := by
  grind [scanNumeral, Option.bind_eq_some_iff, → scanNatural_length, → scanFraction_length,
    → scanExponent_length]

theorem scanWord_length {word : List Char} {input rest : List (Option Char)}
    (scanned : scanWord word input = some rest) : rest.length ≤ input.length := by
  fun_induction scanWord word input <;> grind

theorem scanToken_length {first : Char} {input rest : List (Option Char)} {token : Token}
    (scanned : scanToken first input = some (token, rest)) : rest.length ≤ input.length := by
  unfold scanToken at scanned
  split at scanned <;>
    grind [Option.map_eq_some_iff, → scanWord_length, → scanString_length, → scanNumeral_length]

def scan : List (Option Char) → Option (List Token)
  | [] => some []
  | none :: _ => none
  | some first :: rest =>
    if isSpace first then scan rest
    else
      match _scanned : scanToken first rest with
      | none => none
      | some (token, rest) => (scan rest).map (token :: ·)
termination_by input => input.length
decreasing_by
  · simp
  · have := scanToken_length _scanned
    simp only [List.length_cons]
    omega

end TimeSeries.Json
