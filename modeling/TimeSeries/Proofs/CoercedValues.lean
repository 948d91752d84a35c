import TimeSeries.Proofs.TextSpelling

/-! Values brought to a declared type. The result has that type, or the refusal tells what did not
fit. Truth values and integers lose nothing on the way through text: they are read from exactly the
texts that spell them, and what they are shown as spells them. -/

namespace TimeSeries

def DataType.isExact : DataType → Bool
  | .boolean | .int32 | .int64 => true
  | .float | .double | .text => false

namespace Value

inductive SpelledBy : Value → List Char → Prop
  | boolean {value : Bool} {text : List Char}
    (word : Text.SpellsWord (if value then "true" else "false") text) :
    SpelledBy (.boolean value) text
  | int32 {number : Integer32} {text : List Char}
    (numeral : Text.SpellsInteger text number.val) : SpelledBy (.int32 number) text
  | int64 {number : Integer64} {text : List Char}
    (numeral : Text.SpellsInteger text number.val) : SpelledBy (.int64 number) text

/-! ### Types -/

theorem read?_typed {declared : DataType} {text : String} {value : Value}
    (read : read? declared text = some value) : value.dataType = declared := by
  cases declared with
  | text =>
    cases read
    rfl
  | _ =>
    obtain ⟨_, _, rfl⟩ := Option.map_eq_some_iff.mp read
    rfl

theorem coerce?_typed {declared : DataType} {raw value : Value}
    (coerced : raw.coerce? declared = some value) : value.dataType = declared := by
  unfold coerce? at coerced
  split at coerced
  next same =>
    cases coerced
    exact same
  · split at coerced
    · exact read?_typed coerced
    · cases coerced

variable {declared : DataType} {value : Value}

theorem coerce?_same (same : value.dataType = declared) : value.coerce? declared = some value := by
  unfold coerce?
  rw [if_pos same]

/-! ### Exact types -/

theorem readRanged?_iff {low high : Int} {text : List Char} {number : Ranged low high} :
    (Text.readInteger? text).bind Ranged.ofInt? = some number ↔
      Text.SpellsInteger text number.val := by
  rw [Option.bind_eq_some_iff]
  simp only [Text.readInteger?_iff, Ranged.ofInt?_eq_some]
  constructor
  · rintro ⟨value, spelled, rfl⟩
    exact spelled
  · intro spelled
    exact ⟨number.val, spelled, rfl⟩

theorem read?_iff (exact : declared.isExact = true) {text : String} :
    read? declared text = some value ↔
      value.dataType = declared ∧ value.SpelledBy (Text.trim text.toList) := by
  unfold read?
  constructor
  · intro read
    cases declared with
    | boolean =>
      obtain ⟨_, word, rfl⟩ := Option.map_eq_some_iff.mp read
      exact ⟨rfl, .boolean (Text.readBoolean?_iff.mp word)⟩
    | int32 =>
      obtain ⟨_, numeral, rfl⟩ := Option.map_eq_some_iff.mp read
      exact ⟨rfl, .int32 (readRanged?_iff.mp numeral)⟩
    | int64 =>
      obtain ⟨_, numeral, rfl⟩ := Option.map_eq_some_iff.mp read
      exact ⟨rfl, .int64 (readRanged?_iff.mp numeral)⟩
    | _ => cases exact
  · rintro ⟨rfl, spelled⟩
    cases spelled with
    | boolean word => exact Option.map_eq_some_iff.mpr ⟨_, Text.readBoolean?_iff.mpr word, rfl⟩
    | int32 numeral => exact Option.map_eq_some_iff.mpr ⟨_, readRanged?_iff.mpr numeral, rfl⟩
    | int64 numeral => exact Option.map_eq_some_iff.mpr ⟨_, readRanged?_iff.mpr numeral, rfl⟩

theorem SpelledBy.solid {text : List Char} (spelled : value.SpelledBy text) :
    text ≠ [] ∧ ∀ c ∈ text, Text.isBlank c = false := by
  cases spelled with
  | @boolean truth text word =>
    cases truth with
    | true => exact word.solid (by decide) (by simp)
    | false => exact word.solid (by decide) (by simp)
  | int32 numeral => exact numeral.solid
  | int64 numeral => exact numeral.solid

theorem spelledBy_display (exact : value.dataType.isExact = true) :
    value.SpelledBy value.display.toList := by
  cases value with
  | boolean truth =>
    refine .boolean ?_
    cases truth with
    | true => exact Text.readBoolean?_iff.mp (by decide)
    | false => exact Text.readBoolean?_iff.mp (by decide)
  | int32 number =>
    refine .int32 ?_
    rw [display, Ranged.text, String.toList_ofList]
    exact Text.spellsInteger_integer number.val
  | int64 number =>
    refine .int64 ?_
    rw [display, Ranged.text, String.toList_ofList]
    exact Text.spellsInteger_integer number.val
  | _ => cases exact

/-- A text is brought to an exact type exactly if it spells a value of it, white space around the
spelling aside. -/
theorem coerce?_text_iff (exact : declared.isExact = true) {text : String} :
    (Value.text text).coerce? declared = some value ↔
      value.dataType = declared ∧
        ∃ word, Text.Padded word text.toList ∧ value.SpelledBy word := by
  have other : (Value.text text).dataType ≠ declared := by
    rintro rfl
    cases exact
  unfold coerce?
  rw [if_neg other]
  change read? declared text = some value ↔ _
  rw [read?_iff exact]
  refine and_congr_right fun _ => ⟨fun spelled => ⟨_, Text.padded_trim _, spelled⟩, ?_⟩
  rintro ⟨word, padded, spelled⟩
  obtain ⟨written, solid⟩ := spelled.solid
  rwa [(Text.trim_eq_iff solid written).mpr padded]

/-! ### Every value and every type -/

/-- A value of the declared type results or the refusal of the value, and what results stays as it
is from then on. Only texts change their type. -/
structure CoercesSoundly (series : String) : Prop where
  typed : ∀ (value : Value) (declared : DataType),
    (∃ coerced, value.coerce series declared = .ok coerced ∧ coerced.dataType = declared) ∨
      value.coerce series declared = .error (.typeMismatch series declared value.display)
  unchanged : ∀ value : Value, value.coerce series value.dataType = .ok value
  refused : ∀ (value : Value) (declared : DataType), value.dataType ≠ .text →
    value.dataType ≠ declared →
      value.coerce series declared = .error (.typeMismatch series declared value.display)
  settled : ∀ (value coerced : Value) (declared : DataType),
    value.coerce series declared = .ok coerced → coerced.coerce series declared = .ok coerced

structure CoercesLosslessly (series : String) : Prop where
  spelled : ∀ (text : String) (declared : DataType) (value : Value), declared.isExact = true →
    ((Value.text text).coerce series declared = .ok value ↔ value.dataType = declared ∧
      ∃ word, Text.Padded word text.toList ∧ value.SpelledBy word)
  restored : ∀ (value : Value) (shown : String), value.dataType.isExact = true →
    Text.Padded value.display.toList shown.toList →
      (Value.text shown).coerce series value.dataType = .ok value

theorem coercesSoundly (series : String) : CoercesSoundly series where
  typed value declared := by
    unfold coerce
    cases coerced : value.coerce? declared with
    | none => exact .inr rfl
    | some result => exact .inl ⟨result, rfl, coerce?_typed coerced⟩
  unchanged value := coerce_eq_ok.mpr (coerce?_same rfl)
  refused value declared notText other := by
    unfold coerce coerce?
    rw [if_neg other]
    cases value with
    | text content => exact absurd rfl notText
    | _ => rfl
  settled value coerced declared done :=
    coerce_eq_ok.mpr (coerce?_same (coerce?_typed (coerce_eq_ok.mp done)))

theorem coercesLosslessly (series : String) : CoercesLosslessly series where
  spelled _ _ _ exact := coerce_eq_ok.trans (coerce?_text_iff exact)
  restored _ _ exact padded :=
    coerce_eq_ok.mpr ((coerce?_text_iff exact).mpr ⟨rfl, _, padded, spelledBy_display exact⟩)

/-- Bringing a value to a declared type is sound for every type and loses nothing of the exact
ones. -/
theorem coercion_is_sound_and_lossless (series : String) :
    CoercesSoundly series ∧ CoercesLosslessly series :=
  ⟨coercesSoundly series, coercesLosslessly series⟩

/-- Signs, zeros in front and white space do not count, but a sign alone is no numeral. -/
example :
    (Value.text "\t-0012 ").coerce "d1.s1" .int32 = .ok (.int32 ⟨-12, by decide, by decide⟩) ∧
      (Value.text "+").coerce "d1.s1" .int32 = .error (.typeMismatch "d1.s1" .int32 "+") := by
  decide

end Value

end TimeSeries
