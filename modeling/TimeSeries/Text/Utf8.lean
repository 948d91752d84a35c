/-! Bytes read as characters of one to four bytes each. -/

namespace TimeSeries.Text

def continuation? (byte : UInt8) : Option Nat :=
  if byte.toNat / 64 = 2 then some (byte.toNat % 64) else none

def scalar? (least code : Nat) : Option Char :=
  if least ≤ code ∧ code.isValidChar then some (Char.ofNat code) else none

def leading? (byte : UInt8) : Option (Nat × Nat × Nat) :=
  let lead := byte.toNat
  if lead < 128 then some (0, 0, lead)
  else if lead / 32 = 6 then some (1, 128, lead % 32)
  else if lead / 16 = 14 then some (2, 2048, lead % 16)
  else if lead / 8 = 30 then some (3, 65536, lead % 8)
  else none

def firstChar? (first : UInt8) (rest : List UInt8) : Option (Char × Nat) := do
  let (count, least, payload) ← leading? first
  let sixes ← (rest.take count).mapM continuation?
  if sixes.length = count then
    let c ← scalar? least (sixes.foldl (fun code six => code * 64 + six) payload)
    return (c, count)
  else none

/-- Passes over the bytes that still belong to the last character. A byte that belongs to no
character gives `none`. -/
def decodeAfter : Nat → List UInt8 → List (Option Char)
  | _, [] => []
  | covered + 1, _ :: rest => decodeAfter covered rest
  | 0, first :: rest =>
    match firstChar? first rest with
    | some (c, covered) => some c :: decodeAfter covered rest
    | none => none :: decodeAfter 0 rest

def decode (bytes : List UInt8) : List (Option Char) :=
  decodeAfter 0 bytes

end TimeSeries.Text
