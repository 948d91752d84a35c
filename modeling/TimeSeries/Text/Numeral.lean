/-! Whole numbers written in decimal digits. -/

namespace TimeSeries.Text

def natural (number : Nat) : List Char :=
  Nat.toDigits 10 number

def integer (number : Int) : List Char :=
  if number < 0 then '-' :: natural number.natAbs else natural number.natAbs

def readNatural? (text : List Char) : Option Nat :=
  if text ≠ [] ∧ text.all Char.isDigit then some (Nat.ofDigitChars 10 text 0) else none

def readInteger? : List Char → Option Int
  | '+' :: digits => (readNatural? digits).map Int.ofNat
  | '-' :: digits => (readNatural? digits).map fun number => -Int.ofNat number
  | digits => (readNatural? digits).map Int.ofNat

theorem readNatural?_natural (number : Nat) : readNatural? (natural number) = some number := by
  have written : natural number ≠ [] ∧ (natural number).all Char.isDigit :=
    ⟨Nat.toDigits_ne_nil, List.all_eq_true.mpr fun _ member =>
      Nat.isDigit_of_mem_toDigits (by decide) (by decide) member⟩
  rw [readNatural?, if_pos written, natural, Nat.ofDigitChars_toDigits (by decide) (by decide)]

theorem readInteger?_of_digits {digits : List Char} (each : ∀ c ∈ digits, c.isDigit = true) :
    readInteger? digits = (readNatural? digits).map Int.ofNat := by
  unfold readInteger?
  split
  next => exact Bool.noConfusion (each '+' List.mem_cons_self)
  next => exact Bool.noConfusion (each '-' List.mem_cons_self)
  next => rfl

theorem readInteger?_natural (number : Nat) :
    readInteger? (natural number) = some (Int.ofNat number) := by
  have each : ∀ c ∈ natural number, c.isDigit = true := fun _ member =>
    Nat.isDigit_of_mem_toDigits (by decide) (by decide) member
  rw [readInteger?_of_digits each, readNatural?_natural, Option.map_some]

theorem readInteger?_integer (number : Int) : readInteger? (integer number) = some number := by
  unfold integer
  split
  next negative =>
    rw [readInteger?, readNatural?_natural, Option.map_some, Option.some.injEq,
      Int.ofNat_eq_natCast]
    omega
  next positive =>
    rw [readInteger?_natural, Option.some.injEq, Int.ofNat_eq_natCast]
    omega

end TimeSeries.Text
