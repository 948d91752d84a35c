import Mathlib.Data.List.DropRight
import Mathlib.Data.List.Forall2
import Mathlib.Data.List.Induction
import TimeSeries.Coercion

/-! How integers and words are spelled, as grammars that know nothing of reading: digits with a sign
or without, words in letters of either case, and white space around them. The readers accept
exactly these spellings. -/

namespace TimeSeries.Text

/-- Decimal digits and the number that they spell. Zeros in front do not count. -/
inductive SpellsNatural : List Char → Nat → Prop
  | digit {digit : Char} (decimal : digit.isDigit = true) :
    SpellsNatural [digit] (digit.toNat - '0'.toNat)
  | more {digits : List Char} {number : Nat} {digit : Char} (spelled : SpellsNatural digits number)
    (decimal : digit.isDigit = true) :
    SpellsNatural (digits ++ [digit]) (10 * number + (digit.toNat - '0'.toNat))

inductive SpellsInteger : List Char → Int → Prop
  | unsigned {digits : List Char} {number : Nat} (spelled : SpellsNatural digits number) :
    SpellsInteger digits number
  | plus {digits : List Char} {number : Nat} (spelled : SpellsNatural digits number) :
    SpellsInteger ('+' :: digits) number
  | minus {digits : List Char} {number : Nat} (spelled : SpellsNatural digits number) :
    SpellsInteger ('-' :: digits) (-number)

def SpellsWord (word : String) (text : List Char) : Prop :=
  List.Forall₂ (fun letter character => character = letter ∨ character = letter.toUpper)
    word.toList text

def Padded (word text : List Char) : Prop :=
  ∃ before after, (∀ c ∈ before, isBlank c = true) ∧ (∀ c ∈ after, isBlank c = true) ∧
    text = before ++ word ++ after

/-! ### Integers -/

theorem readNatural?_eq_some {text : List Char} {number : Nat} :
    readNatural? text = some number ↔
      text ≠ [] ∧ (∀ c ∈ text, c.isDigit = true) ∧ Nat.ofDigitChars 10 text 0 = number := by
  unfold readNatural?
  rw [Option.ite_none_right_eq_some, List.all_eq_true, Option.some.injEq, and_assoc]

theorem SpellsNatural.read {text : List Char} {number : Nat} (spelled : SpellsNatural text number) :
    readNatural? text = some number := by
  induction spelled with
  | digit decimal =>
    simp [readNatural?_eq_some, decimal, Nat.ofDigitChars]
  | more spelled decimal ih =>
    obtain ⟨_, each, value⟩ := readNatural?_eq_some.mp ih
    refine readNatural?_eq_some.mpr ⟨by simp, ?_, ?_⟩
    · intro c member
      rcases List.mem_append.mp member with early | last
      · exact each c early
      · rw [List.mem_singleton.mp last]
        exact decimal
    · rw [Nat.ofDigitChars_append, value]
      rfl

theorem readNatural?_iff {text : List Char} {number : Nat} :
    readNatural? text = some number ↔ SpellsNatural text number := by
  refine ⟨fun read => ?_, SpellsNatural.read⟩
  induction text using List.reverseRecOn generalizing number with
  | nil => exact absurd rfl (readNatural?_eq_some.mp read).1
  | append_singleton digits digit ih =>
    obtain ⟨_, each, rfl⟩ := readNatural?_eq_some.mp read
    have decimal : digit.isDigit = true := each digit (by simp)
    have before : ∀ c ∈ digits, c.isDigit = true := fun c member =>
      each c (List.mem_append_left _ member)
    rw [Nat.ofDigitChars_append]
    by_cases alone : digits = []
    · subst alone
      simpa [Nat.ofDigitChars] using SpellsNatural.digit decimal
    · exact .more (ih (readNatural?_eq_some.mpr ⟨alone, before, rfl⟩)) decimal

theorem SpellsNatural.digits {text : List Char} {number : Nat}
    (spelled : SpellsNatural text number) : ∀ c ∈ text, c.isDigit = true :=
  (readNatural?_eq_some.mp spelled.read).2.1

theorem readInteger?_iff {text : List Char} {number : Int} :
    readInteger? text = some number ↔ SpellsInteger text number := by
  constructor
  · intro read
    unfold readInteger? at read
    split at read
    all_goals
      obtain ⟨value, digits, rfl⟩ := Option.map_eq_some_iff.mp read
      rw [readNatural?_iff] at digits
    · exact .plus digits
    · exact .minus digits
    · exact .unsigned digits
  · intro spelled
    cases spelled with
    | unsigned spelled =>
      rw [readInteger?_of_digits spelled.digits, spelled.read]
      rfl
    | plus spelled =>
      rw [readInteger?, spelled.read]
      rfl
    | minus spelled =>
      rw [readInteger?, spelled.read]
      rfl

theorem spellsInteger_integer (number : Int) : SpellsInteger (integer number) number :=
  readInteger?_iff.mp (readInteger?_integer number)

/-! ### Words -/

theorem toNat_toLower (character : Char) : character.toLower.toNat =
    if 65 ≤ character.toNat ∧ character.toNat ≤ 90 then character.toNat + 32
    else character.toNat := by
  have upper : 'A'.val ≤ character.val ∧ character.val ≤ 'Z'.val ↔
      65 ≤ character.toNat ∧ character.toNat ≤ 90 := by
    simp only [UInt32.le_iff_toNat_le]
    rfl
  unfold Char.toLower
  simp only [ge_iff_le, upper]
  split
  next inside =>
    change (character.val + 32).toNat = character.val.toNat + 32
    have small : character.val.toNat ≤ 90 := inside.2
    rw [UInt32.toNat_add]
    exact Nat.mod_eq_of_lt (by simp; omega)
  next => rfl

theorem toNat_toUpper (character : Char) : character.toUpper.toNat =
    if 97 ≤ character.toNat ∧ character.toNat ≤ 122 then character.toNat - 32
    else character.toNat := by
  have lower : 'a'.val ≤ character.val ∧ character.val ≤ 'z'.val ↔
      97 ≤ character.toNat ∧ character.toNat ≤ 122 := by
    simp only [UInt32.le_iff_toNat_le]
    rfl
  unfold Char.toUpper
  simp only [lower]
  split
  next inside =>
    change (character.val + ('A'.val - 'a'.val)).toNat = character.val.toNat - 32
    have large : 97 ≤ character.val.toNat := inside.1
    have small : character.val.toNat ≤ 122 := inside.2
    have step : ('A'.val - 'a'.val).toNat = 4294967264 := rfl
    rw [UInt32.toNat_add, step]
    omega
  next => rfl

/-- A small letter is what it and its capital become in small letters, and nothing else does. -/
theorem toLower_eq_iff {letter character : Char} (small : 97 ≤ letter.toNat)
    (last : letter.toNat ≤ 122) :
    character.toLower = letter ↔ character = letter ∨ character = letter.toUpper := by
  simp only [← Char.toNat_inj, toNat_toLower, toNat_toUpper]
  split <;> split <;> omega

theorem forall₂_letters_iff {letters text : List Char}
    (small : ∀ c ∈ letters, 97 ≤ c.toNat ∧ c.toNat ≤ 122) :
    List.Forall₂ (fun letter character => character = letter ∨ character = letter.toUpper)
      letters text ↔ text.map Char.toLower = letters := by
  induction letters generalizing text with
  | nil => rw [List.forall₂_nil_left_iff, List.map_eq_nil_iff]
  | cons letter letters ih =>
    obtain ⟨first, rest⟩ := List.forall_mem_cons.mp small
    cases text with
    | nil =>
      constructor
      · rintro ⟨⟩
      · rintro ⟨⟩
    | cons character text =>
      rw [List.forall₂_cons, ih rest, List.map_cons, List.cons.injEq,
        toLower_eq_iff first.1 first.2]

theorem spellsWord_iff {word : String}
    (small : ∀ c ∈ word.toList, 97 ≤ c.toNat ∧ c.toNat ≤ 122) {text : List Char} :
    SpellsWord word text ↔ String.ofList (text.map Char.toLower) = word := by
  unfold SpellsWord
  rw [forall₂_letters_iff small]
  constructor
  · intro letters
    rw [letters, String.ofList_toList]
  · rintro rfl
    exact String.toList_ofList.symm

theorem readBoolean?_iff {text : List Char} {value : Bool} :
    readBoolean? text = some value ↔ SpellsWord (if value then "true" else "false") text := by
  have yes : SpellsWord "true" text ↔ String.ofList (text.map Char.toLower) = "true" :=
    spellsWord_iff (by simp)
  have no : SpellsWord "false" text ↔ String.ofList (text.map Char.toLower) = "false" :=
    spellsWord_iff (by simp)
  unfold readBoolean?
  generalize String.ofList (text.map Char.toLower) = word at yes no
  cases value with
  | true =>
    rw [if_pos rfl, yes]
    by_cases same : word = "true" <;> simp [same]
  | false =>
    rw [if_neg Bool.false_ne_true, no]
    by_cases same : word = "true"
    · simp [same]
    · simp [same]

/-! ### White space -/

theorem padded_trim (text : List Char) : Padded (trim text) text := by
  refine ⟨text.takeWhile isBlank, (text.dropWhile isBlank).rtakeWhile isBlank, ?_, ?_, ?_⟩
  · intro c member
    exact List.mem_takeWhile_imp member
  · intro c member
    exact List.mem_rtakeWhile_imp member
  · calc text
      _ = text.takeWhile isBlank ++ text.dropWhile isBlank :=
        List.takeWhile_append_dropWhile.symm
      _ = text.takeWhile isBlank ++ ((text.dropWhile isBlank).rdropWhile isBlank ++
          (text.dropWhile isBlank).rtakeWhile isBlank) := by
        rw [List.rdropWhile_append_rtakeWhile]
      _ = text.takeWhile isBlank ++ trim text ++
          (text.dropWhile isBlank).rtakeWhile isBlank := (List.append_assoc _ _ _).symm

theorem dropWhile_solid {word : List Char} (solid : ∀ c ∈ word, isBlank c = false)
    (written : word ≠ []) (rest : List Char) :
    (word ++ rest).dropWhile isBlank = word ++ rest := by
  cases word with
  | nil => exact absurd rfl written
  | cons first later =>
    rw [List.cons_append, List.dropWhile_cons_of_neg]
    simp [solid first List.mem_cons_self]

/-- What is left of a text without white space at its ends, if no white space is in it, is the word
that the text pads. -/
theorem trim_eq_iff {word text : List Char} (solid : ∀ c ∈ word, isBlank c = false)
    (written : word ≠ []) : trim text = word ↔ Padded word text := by
  constructor
  · rintro rfl
    exact padded_trim text
  · rintro ⟨before, after, blankBefore, blankAfter, rfl⟩
    have blank : ∀ c ∈ after.reverse, isBlank c = true := fun c member =>
      blankAfter c (List.mem_reverse.mp member)
    have solidBack : ∀ c ∈ word.reverse, isBlank c = false := fun c member =>
      solid c (List.mem_reverse.mp member)
    have back : word.reverse.dropWhile isBlank = word.reverse := by
      simpa using dropWhile_solid solidBack (by simpa using written) []
    unfold trim
    rw [List.append_assoc, List.dropWhile_append_of_pos blankBefore,
      dropWhile_solid solid written after, List.reverse_append,
      List.dropWhile_append_of_pos blank, back, List.reverse_reverse]

/-! ### No white space in words -/

theorem not_blank_of_ascii {c : Char} (low : 33 ≤ c.toNat) (high : c.toNat ≤ 126) :
    isBlank c = false := by
  unfold isBlank
  generalize c.toNat = code at low high
  simp [Ranges.holds, blankRanges]
  omega

theorem not_blank_of_isDigit {c : Char} (digit : c.isDigit = true) : isBlank c = false := by
  unfold Char.isDigit at digit
  simp only [Bool.and_eq_true, decide_eq_true_eq, ge_iff_le, UInt32.le_iff_toNat_le] at digit
  have low : 48 ≤ c.toNat := digit.1
  have high : c.toNat ≤ 57 := digit.2
  exact not_blank_of_ascii (by omega) (by omega)

theorem SpellsNatural.solid {text : List Char} {number : Nat}
    (spelled : SpellsNatural text number) : text ≠ [] ∧ ∀ c ∈ text, isBlank c = false :=
  ⟨(readNatural?_eq_some.mp spelled.read).1, fun c member =>
    not_blank_of_isDigit (spelled.digits c member)⟩

theorem SpellsInteger.solid {text : List Char} {number : Int}
    (spelled : SpellsInteger text number) : text ≠ [] ∧ ∀ c ∈ text, isBlank c = false := by
  cases spelled with
  | unsigned spelled => exact spelled.solid
  | plus spelled =>
    exact ⟨List.cons_ne_nil _ _, List.forall_mem_cons.mpr ⟨by decide, spelled.solid.2⟩⟩
  | minus spelled =>
    exact ⟨List.cons_ne_nil _ _, List.forall_mem_cons.mpr ⟨by decide, spelled.solid.2⟩⟩

theorem SpellsWord.solid {word : String} {text : List Char} (spelled : SpellsWord word text)
    (written : word.toList ≠ []) (small : ∀ c ∈ word.toList, 97 ≤ c.toNat ∧ c.toNat ≤ 122) :
    text ≠ [] ∧ ∀ c ∈ text, isBlank c = false := by
  unfold SpellsWord at spelled
  generalize word.toList = letters at spelled written small
  constructor
  · rintro rfl
    exact written (List.forall₂_nil_right_iff.mp spelled)
  · clear written
    induction spelled with
    | nil => exact fun c member => absurd member List.not_mem_nil
    | @cons letter character _ _ same _ ih =>
      obtain ⟨⟨low, high⟩, rest⟩ := List.forall_mem_cons.mp small
      have code : 65 ≤ character.toNat ∧ character.toNat ≤ 122 := by
        rcases same with rfl | rfl
        · omega
        · rw [toNat_toUpper, if_pos ⟨low, high⟩]
          omega
      exact List.forall_mem_cons.mpr
        ⟨not_blank_of_ascii (by omega) (by omega), ih rest⟩

end TimeSeries.Text
