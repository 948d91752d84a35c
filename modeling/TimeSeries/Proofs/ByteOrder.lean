import Mathlib.Data.String.Basic

/-! Texts stand in the order of their UTF-8 bytes: where two texts differ first, the smaller
character is spelt with the smaller bytes, whatever follows it. -/

namespace TimeSeries.Text

def bytes (text : String) : List UInt8 :=
  text.toUTF8.data.toList

theorem bytes_eq (text : String) : bytes text = text.toList.flatMap String.utf8EncodeChar := by
  have spelled : text.toUTF8 = text.toList.utf8Encode := String.utf8Encode_toList.symm
  rw [bytes, spelled, List.utf8Encode, List.data_toByteArray]

theorem cons_ofNat_lt {first second : Nat} {rest others : List UInt8} (small : first < 256)
    (bounded : second < 256) : UInt8.ofNat first :: rest < UInt8.ofNat second :: others ↔
      first < second ∨ first = second ∧ rest < others := by
  rw [List.cons_lt_cons_iff, UInt8.lt_iff_toNat_lt, ← UInt8.toNat_inj, UInt8.toNat_ofNat',
    UInt8.toNat_ofNat', Nat.mod_eq_of_lt small, Nat.mod_eq_of_lt bounded]

theorem groups_lt {code other : Nat} (less : code < other) :
    code / 262144 < other / 262144 ∨ code / 262144 = other / 262144 ∧
      (code / 4096 % 64 < other / 4096 % 64 ∨ code / 4096 % 64 = other / 4096 % 64 ∧
        (code / 64 % 64 < other / 64 % 64 ∨ code / 64 % 64 = other / 64 % 64 ∧
          code % 64 < other % 64)) := by
  have low : code / 64 / 64 = code / 4096 := Nat.div_div_eq_div_mul _ _ _
  have lowOther : other / 64 / 64 = other / 4096 := Nat.div_div_eq_div_mul _ _ _
  have high : code / 4096 / 64 = code / 262144 := Nat.div_div_eq_div_mul _ _ _
  have highOther : other / 4096 / 64 = other / 262144 := Nat.div_div_eq_div_mul _ _ _
  omega

theorem code_lt (c : Char) : c.val.toNat < 1114112 := by
  rcases c.valid with below | ⟨_, below⟩
  · have : c.val.toNat < 55296 := below
    omega
  · exact below

theorem utf8EncodeChar_lt {first second : Char} (less : first < second)
    (rest others : List UInt8) :
    String.utf8EncodeChar first ++ rest < String.utf8EncodeChar second ++ others := by
  have codes : first.val.toNat < second.val.toNat := less
  have limit := code_lt second
  unfold String.utf8EncodeChar
  generalize first.val.toNat = code at *
  generalize second.val.toNat = other at *
  have groups := groups_lt codes
  have top : code / 262144 % 8 = code / 262144 := by omega
  have topOther : other / 262144 % 8 = other / 262144 := by omega
  -- of two spellings the longer one has the larger first byte, and in those of one length the
  -- groups of bits stand in their order
  dsimp only
  split_ifs <;>
    simp (disch := omega) only [List.cons_append, List.nil_append, cons_ofNat_lt] <;>
    omega

theorem flatMap_utf8EncodeChar_lt {first second : List Char} (less : first < second) :
    first.flatMap String.utf8EncodeChar < second.flatMap String.utf8EncodeChar := by
  induction less with
  | @nil c rest =>
    obtain ⟨byte, bytes, spelled⟩ := List.exists_cons_of_ne_nil (@String.utf8EncodeChar_ne_nil c)
    rw [List.flatMap_cons, spelled]
    exact List.nil_lt_cons byte _
  | rel differ =>
    rw [List.flatMap_cons, List.flatMap_cons]
    exact utf8EncodeChar_lt differ _ _
  | cons later ih =>
    rw [List.flatMap_cons, List.flatMap_cons]
    exact List.append_left_lt ih

theorem bytes_lt {first second : String} (less : first < second) : bytes first < bytes second := by
  rw [bytes_eq, bytes_eq]
  exact flatMap_utf8EncodeChar_lt (String.lt_iff_toList_lt.mp less)

end TimeSeries.Text
