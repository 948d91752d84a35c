import TimeSeries.Message.Form.Data
import TimeSeries.Proofs.JsonText
import TimeSeries.Proofs.PathText
import TimeSeries.Proofs.Traversal

/-! Things read back from their JSON texts, as long as they hold no floating point value and no
pattern in place of a path. Of whatever text something is read, the paths in it are no patterns. -/

namespace TimeSeries

open Json

/-! ### What a form depends on -/

def Value.isReal : Value → Bool
  | .float _ => true
  | .double _ => true
  | _ => false

/-- A path that is read from a text, other than a pattern. -/
def Path.Concrete (path : Path) : Prop :=
  ∃ text, Path.parse text = .ok path

inductive Part where
  | value (value : Value)
  | path (path : Path)

class Composed (α : Type) where
  parts : α → List Part

export Composed (parts)

section Portability

variable {α : Type} [Composed α] (thing : α)

def FloatFree : Prop :=
  ∀ value, .value value ∈ parts thing → value.isReal = false

def PatternFree : Prop :=
  ∀ path, .path path ∈ parts thing → path.Concrete

end Portability

instance : Composed String := ⟨fun _ => []⟩
instance : Composed Bool := ⟨fun _ => []⟩
instance {low high : Int} : Composed (Ranged low high) := ⟨fun _ => []⟩
instance : Composed DataType := ⟨fun _ => []⟩
instance : Composed Encoding := ⟨fun _ => []⟩
instance : Composed Compression := ⟨fun _ => []⟩
instance {α : Type} [Composed α] : Composed (List α) := ⟨fun items => items.flatMap parts⟩
instance : Composed Path := ⟨fun path => [.path path]⟩
instance : Composed Value := ⟨fun value => [.value value]⟩
instance : Composed Point := ⟨fun point => parts point.value⟩
instance : Composed TabletRow := ⟨fun row => parts row.values⟩
instance : Composed Tablet := ⟨fun tablet => parts tablet.rows⟩
instance : Composed Definition :=
  ⟨fun definition => [.path definition.path, .path definition.group]⟩

section Bare

variable {α : Type} [Composed α] {thing : α}

theorem floatFree_of_bare (bare : parts thing = []) : FloatFree thing := by
  intro value member
  rw [bare] at member
  cases member

theorem patternFree_of_bare (bare : parts thing = []) : PatternFree thing := by
  intro path member
  rw [bare] at member
  cases member

end Bare

/-! ### Records and alternatives -/

namespace Json

theorem plain_record {fields : List (String × Json)} (each : ∀ field ∈ fields, Plain field.2) :
    Plain (record fields) := by
  unfold record
  apply Plain.object
  · intro field member
    obtain ⟨named, _, rfl⟩ := List.mem_map.mp member
    rfl
  · intro field member
    obtain ⟨named, listed, rfl⟩ := List.mem_map.mp member
    exact each named listed

theorem plain_alternative (name : String) {content : Json} (plain : Plain content) :
    Plain (alternative name content) := by
  apply Plain.object
  · exact List.forall_mem_singleton.mpr rfl
  · exact List.forall_mem_singleton.mpr plain

theorem fieldsNamed_eq (name : String) (fields : List (String × Json)) :
    fieldsNamed name (fields.map fun (name, value) => (some name, value)) =
      (fields.filter fun field => field.1 == name).map Prod.snd := by
  unfold fieldsNamed
  rw [List.filter_map, List.map_map]
  rfl

theorem filter_name {fields : List (String × Json)} (distinct : (fields.map Prod.fst).Nodup)
    {field : String × Json} (member : field ∈ fields) :
    fields.filter (fun other => other.1 == field.1) = [field] := by
  induction fields with
  | nil => cases member
  | cons first others ih =>
    obtain ⟨fresh, distinct⟩ := List.nodup_cons.mp distinct
    rcases List.mem_cons.mp member with rfl | member
    · have none : others.filter (fun other => other.1 == field.1) = [] := by
        apply List.filter_eq_nil_iff.mpr
        intro other listed same
        exact fresh (eq_of_beq same ▸ List.mem_map_of_mem listed)
      simp [none]
    · have other : first.1 ≠ field.1 := by
        intro same
        exact fresh (same ▸ List.mem_map_of_mem member)
      rw [List.filter_cons_of_neg (by simpa using other), ih distinct member]

theorem field?_record {fields : List (String × Json)} (distinct : (fields.map Prod.fst).Nodup)
    {field : String × Json} (member : field ∈ fields) :
    field? field.1 (fields.map fun (name, value) => (some name, value)) = some field.2 := by
  unfold field?
  rw [fieldsNamed_eq, filter_name distinct member]
  rfl

/-- The fields of a record are found by their names. -/
theorem fields?_record {names : List String} {contents : List Json} (distinct : names.Nodup)
    (each : names.length = contents.length) :
    fields? names (record (names.zip contents)) = some contents := by
  have first : (names.zip contents).map Prod.fst = names := List.map_fst_zip each.le
  have second : (names.zip contents).map Prod.snd = contents := List.map_snd_zip each.ge
  have texts : ((names.zip contents).map fun (name, value) =>
      ((some name, value) : Content × Json)).all (fun field => field.1.isSome) = true := by
    simp [List.all_map]
  unfold fields? record
  dsimp only
  rw [if_pos texts]
  generalize names.zip contents = fields at first second
  subst first second
  rw [List.mapM_map]
  apply mapM_of_pure
  intro field member
  exact field?_record distinct member

end Json

/-- Something with a plain form that is read back. -/
structure ReadBack {α : Type} [JsonForm α] (thing : α) : Prop where
  plain : Plain (toJson thing)
  read : ofJson? (toJson thing) = some thing

class LawfulForm (α : Type) [JsonForm α] [Composed α] : Prop where
  readBack (thing : α) : FloatFree thing → PatternFree thing → ReadBack thing
  patternFree {document : Json} {thing : α} : ofJson? document = some thing → PatternFree thing

section Reading

variable {α β : Type} [JsonForm α] [JsonForm β] {thing : α}

theorem LawfulForm.bare [Composed α] [LawfulForm α] (thing : α) (bare : parts thing = []) :
    ReadBack thing :=
  readBack thing (floatFree_of_bare bare) (patternFree_of_bare bare)

/-- A record is read back if its fields are and go by different names, also inside of something
else. -/
theorem ReadBack.inside (outer : Json → Json)
    (keeps : ∀ content, Plain content → Plain (outer content)) (names : List String)
    (contents : List Json) {read : List Json → Option α} (distinct : names.Nodup)
    (each : names.length = contents.length)
    (written : toJson thing = outer (Json.record (names.zip contents)))
    (reads : ∀ document, ofJson? (outer document) = (fields? names document).bind read)
    (plain : ∀ content ∈ contents, Plain content) (exact : read contents = some thing) :
    ReadBack thing := by
  constructor
  · rw [written]
    apply keeps
    apply plain_record
    intro field member
    exact plain field.2 (List.of_mem_zip member).2
  · rw [written, reads, fields?_record distinct each]
    exact exact

theorem ReadBack.record (names : List String) (contents : List Json) {read : List Json → Option α}
    (distinct : names.Nodup) (each : names.length = contents.length)
    (written : toJson thing = Json.record (names.zip contents))
    (reads : ∀ document, ofJson? document = (fields? names document).bind read)
    (plain : ∀ content ∈ contents, Plain content) (exact : read contents = some thing) :
    ReadBack thing :=
  .inside id (fun _ => id) names contents distinct each written reads plain exact

theorem ReadBack.variant (name : String) (names : List String) (contents : List Json)
    {read : List Json → Option α} (distinct : names.Nodup) (each : names.length = contents.length)
    (written : toJson thing = Json.alternative name (Json.record (names.zip contents)))
    (reads : ∀ document, ofJson? (Json.alternative name document) =
      (fields? names document).bind read)
    (plain : ∀ content ∈ contents, Plain content) (exact : read contents = some thing) :
    ReadBack thing :=
  .inside (Json.alternative name) (fun _ => plain_alternative name) names contents distinct each
    written reads plain exact

theorem ReadBack.alternative {inner : β} {name : String} {wrap : β → α} (inside : ReadBack inner)
    (written : toJson (wrap inner) = alternative name (toJson inner))
    (reads : ∀ content, ofJson? (Json.alternative name content) = (ofJson? content).map wrap) :
    ReadBack (wrap inner) := by
  constructor
  · rw [written]
    exact plain_alternative name inside.plain
  · rw [written, reads, inside.read]
    rfl

end Reading

/-! ### Simple forms -/

instance : LawfulForm String where
  readBack _ _ _ := ⟨.text _, rfl⟩
  patternFree _ := patternFree_of_bare rfl

instance : LawfulForm Bool where
  readBack _ _ _ := ⟨.bool _, rfl⟩
  patternFree _ := patternFree_of_bare rfl

instance {low high : Int} : LawfulForm (Ranged low high) where
  readBack number _ _ := by
    refine ⟨.integer number.val, ?_⟩
    change (Number.integer? _).bind Ranged.ofInt? = some number
    rw [integer?_integer rfl]
    exact number.ofInt?_val
  patternFree _ := patternFree_of_bare rfl

instance {α : Type} [JsonForm α] [Composed α] [LawfulForm α] : LawfulForm (List α) where
  readBack items free concrete := by
    have each : ∀ item ∈ items, ReadBack item := by
      intro item member
      apply LawfulForm.readBack item
      · exact fun value part => free value (List.mem_flatMap_of_mem member part)
      · exact fun path part => concrete path (List.mem_flatMap_of_mem member part)
    constructor
    · apply Plain.array
      intro document member
      obtain ⟨item, listed, rfl⟩ := List.mem_map.mp member
      exact (each item listed).plain
    · change (items.map toJson).mapM ofJson? = some items
      rw [List.mapM_map]
      have read : items.mapM (ofJson? ∘ toJson) = some (items.map id) :=
        mapM_of_pure fun item member => (each item member).read
      rw [List.map_id] at read
      exact read
  patternFree {document items} read := by
    intro path member
    obtain ⟨item, listed, part⟩ := List.mem_flatMap.mp member
    cases document with
    | array documents =>
      obtain ⟨source, _, found⟩ := exists_of_mapM read listed
      exact LawfulForm.patternFree found path part
    | _ => cases read

/-- A choice is read back if its members go by different names. -/
theorem readBack_choice {α : Type} [Choice α] [JsonForm α] {member : α}
    (written : toJson member = Json.text (Choice.name member))
    (reads : ofJson? (Json.text (Choice.name member)) =
      (Choice.ofName? (Choice.name member) : Option α))
    (found : Choice.ofName? (Choice.name member) = some member) : ReadBack member := by
  constructor
  · rw [written]
    exact .text _
  · rw [written, reads, found]

instance : LawfulForm DataType where
  readBack member _ _ := readBack_choice rfl rfl (by cases member <;> decide)
  patternFree _ := patternFree_of_bare rfl

instance : LawfulForm Encoding where
  readBack member _ _ := readBack_choice rfl rfl (by cases member <;> decide)
  patternFree _ := patternFree_of_bare rfl

instance : LawfulForm Compression where
  readBack member _ _ := readBack_choice rfl rfl (by cases member <;> decide)
  patternFree _ := patternFree_of_bare rfl

theorem Path.Concrete.parse {path : Path} (concrete : path.Concrete) :
    Path.parse path.text = .ok path := by
  obtain ⟨text, parsed⟩ := concrete
  rw [Path.text_of_parse parsed, parsed]

theorem Path.Concrete.readBack {path : Path} (concrete : path.Concrete) : ReadBack path := by
  refine ⟨.text _, ?_⟩
  change (Path.parse path.text).toOption = some path
  rw [concrete.parse]
  rfl

theorem Path.concrete_of_form {document : Json} {path : Path}
    (read : ofJson? document = some path) : path.Concrete := by
  cases document with
  | string content =>
    cases content with
    | none => cases read
    | some text =>
      refine ⟨text, ?_⟩
      change (Path.parse text).toOption = some path at read
      cases parsed : Path.parse text with
      | error fault =>
        rw [parsed] at read
        cases read
      | ok found =>
        rw [parsed] at read
        cases read
        rfl
  | _ => cases read

instance : LawfulForm Path where
  readBack path _ concrete := (concrete path (List.mem_singleton_self _)).readBack
  patternFree read := by
    intro path member
    cases List.mem_singleton.mp member
    exact Path.concrete_of_form read

/-! ### Stored and declared things -/

theorem patternFree_values (values : List Value) : PatternFree values := by
  intro path member
  obtain ⟨value, _, part⟩ := List.mem_flatMap.mp member
  cases List.mem_singleton.mp part

theorem patternFree_tablet (tablet : Tablet) : PatternFree tablet := by
  intro path member
  obtain ⟨row, _, inside⟩ := List.mem_flatMap.mp member
  exact patternFree_values row.values path inside

instance : LawfulForm Value where
  readBack value free _ := by
    have exact := free value (List.mem_singleton_self _)
    cases value with
    | boolean value => exact .alternative (LawfulForm.bare value rfl) rfl fun _ => rfl
    | int32 value => exact .alternative (LawfulForm.bare value rfl) rfl fun _ => rfl
    | int64 value => exact .alternative (LawfulForm.bare value rfl) rfl fun _ => rfl
    | text content => exact .alternative (LawfulForm.bare content rfl) rfl fun _ => rfl
    | float | double => cases exact
  patternFree _ := by
    intro path member
    cases List.mem_singleton.mp member

instance : LawfulForm Point where
  readBack point free concrete := by
    have timestamp : ReadBack point.timestamp := LawfulForm.bare _ rfl
    have value : ReadBack point.value := LawfulForm.readBack _ free concrete
    apply ReadBack.record
      ["timestamp", "value"]
      [toJson point.timestamp, toJson point.value]
      (by decide) rfl rfl fun _ => rfl
    · simp [timestamp.plain, value.plain]
    · simp [timestamp.read, value.read]
  patternFree _ := by
    intro path member
    cases List.mem_singleton.mp member

instance : LawfulForm TabletRow where
  readBack row free concrete := by
    have timestamp : ReadBack row.timestamp := LawfulForm.bare _ rfl
    have values : ReadBack row.values := LawfulForm.readBack _ free concrete
    apply ReadBack.record
      ["timestamp", "values"]
      [toJson row.timestamp, toJson row.values]
      (by decide) rfl rfl fun _ => rfl
    · simp [timestamp.plain, values.plain]
    · simp [timestamp.read, values.read]
  patternFree {_ row} _ := patternFree_values row.values

instance : LawfulForm Tablet where
  readBack tablet free concrete := by
    have device : ReadBack tablet.device := LawfulForm.bare _ rfl
    have measurements : ReadBack tablet.measurements := LawfulForm.bare _ (by simp [parts])
    have rows : ReadBack tablet.rows := LawfulForm.readBack _ free concrete
    apply ReadBack.record
      ["device_id", "measurements", "rows"]
      [toJson tablet.device, toJson tablet.measurements, toJson tablet.rows]
      (by decide) rfl rfl fun _ => rfl
    · simp [device.plain, measurements.plain, rows.plain]
    · simp [device.read, measurements.read, rows.read]
  patternFree {_ tablet} _ := patternFree_tablet tablet

instance : LawfulForm Definition where
  readBack definition _ concrete := by
    have path : ReadBack definition.path := (concrete _ (by simp [parts])).readBack
    have group : ReadBack definition.group := (concrete _ (by simp [parts])).readBack
    have dataType : ReadBack definition.dataType := LawfulForm.bare _ rfl
    have encoding : ReadBack definition.encoding := LawfulForm.bare _ rfl
    have compression : ReadBack definition.compression := LawfulForm.bare _ rfl
    apply ReadBack.record
      ["path", "storage_group", "data_type", "encoding", "compression"]
      [toJson definition.path, toJson definition.group, toJson definition.dataType,
        toJson definition.encoding, toJson definition.compression]
      (by decide) rfl rfl fun _ => rfl
    · simp [path.plain, group.plain, dataType.plain, encoding.plain, compression.plain]
    · simp [path.read, group.read, dataType.read, encoding.read, compression.read]
  patternFree {document definition} read := by
    have read : (fields? ["path", "storage_group", "data_type", "encoding", "compression"]
      document).bind _ = some definition := read
    obtain ⟨contents, _, read⟩ := Option.bind_eq_some_iff.mp read
    split at read
    · simp only [Option.bind_eq_bind, Option.bind_eq_some_iff] at read
      obtain ⟨path, readPath, group, readGroup, _, _, _, _, _, _, same⟩ := read
      cases same
      rintro other member
      simp [parts] at member
      rcases member with rfl | rfl
      · exact Path.concrete_of_form readPath
      · exact Path.concrete_of_form readGroup
    · cases read

/-! ### Texts -/

section Texts

variable {α : Type} [JsonForm α] [Composed α] [LawfulForm α] {thing : α}

theorem decode_encode (free : FloatFree thing) (concrete : PatternFree thing) :
    decode? (encode thing) = some thing := by
  have exact := LawfulForm.readBack thing free concrete
  unfold decode? encode
  rw [parse_write exact.plain]
  exact exact.read

theorem patternFree_of_decode {text : String} (decoded : decode? text = some thing) :
    PatternFree thing := by
  obtain ⟨document, _, read⟩ := Option.bind_eq_some_iff.mp decoded
  exact LawfulForm.patternFree read

end Texts

end TimeSeries
