import TimeSeries.Message.Form.Exchange
import TimeSeries.Proofs.JsonForms
import TimeSeries.Session.Config

/-! All that sessions and servers say to each other comes back as it was sent. -/

namespace TimeSeries

open Json

/-! ### Failures -/

instance : Composed ConnectionError := ⟨fun _ => []⟩
instance : Composed SchemaError := ⟨fun _ => []⟩
instance : Composed WriteError := ⟨fun _ => []⟩
instance : Composed ServerError := ⟨fun _ => []⟩

instance : LawfulForm ConnectionError where
  readBack cause _ _ := by
    cases cause with
    | unreachable address =>
      exact .alternative (LawfulForm.bare address rfl) rfl fun _ => rfl
    | authentication username =>
      exact .alternative (LawfulForm.bare username rfl) rfl fun _ => rfl
    | lost address =>
      exact .alternative (LawfulForm.bare address rfl) rfl fun _ => rfl
  patternFree _ := patternFree_of_bare rfl

instance : LawfulForm SchemaError where
  readBack cause _ _ := by
    have text (content : String) : ReadBack content := LawfulForm.bare _ rfl
    cases cause with
    | malformedPath path reason =>
      apply ReadBack.variant "MalformedPath" ["path", "reason"] [toJson path, toJson reason]
        (by decide) rfl rfl fun _ => rfl
      · simp [(text path).plain, (text reason).plain]
      · simp [(text path).read, (text reason).read]
    | storageGroupOverlap path existing =>
      apply ReadBack.variant "StorageGroupOverlap" ["path", "existing"]
        [toJson path, toJson existing] (by decide) rfl rfl fun _ => rfl
      · simp [(text path).plain, (text existing).plain]
      · simp [(text path).read, (text existing).read]
    | pathConflict path existing =>
      apply ReadBack.variant "PathConflict" ["path", "existing"]
        [toJson path, toJson existing] (by decide) rfl rfl fun _ => rfl
      · simp [(text path).plain, (text existing).plain]
      · simp [(text path).read, (text existing).read]
    | unsupportedEncoding dataType encoding =>
      have type : ReadBack dataType := LawfulForm.bare _ rfl
      have coding : ReadBack encoding := LawfulForm.bare _ rfl
      apply ReadBack.variant "UnsupportedEncoding" ["data_type", "encoding"]
        [toJson dataType, toJson encoding] (by decide) rfl rfl fun _ => rfl
      · simp [type.plain, coding.plain]
      · simp [type.read, coding.read]
    | storageGroupNotFound path | noStorageGroup path | conflictingTimeseries path
      | timeseriesNotFound path => exact .alternative (text path) rfl fun _ => rfl
  patternFree _ := patternFree_of_bare rfl

instance : LawfulForm WriteError where
  readBack cause _ _ := by
    have text (content : String) : ReadBack content := LawfulForm.bare _ rfl
    cases cause with
    | arityMismatch measurements values =>
      have names : ReadBack measurements := LawfulForm.bare _ rfl
      have given : ReadBack values := LawfulForm.bare _ rfl
      apply ReadBack.variant "ArityMismatch" ["measurements", "values"]
        [toJson measurements, toJson values] (by decide) rfl rfl fun _ => rfl
      · simp [names.plain, given.plain]
      · simp [names.read, given.read]
    | emptyRow => exact ⟨.text _, rfl⟩
    | typeMismatch series expected value =>
      have type : ReadBack expected := LawfulForm.bare _ rfl
      apply ReadBack.variant "TypeMismatch" ["series", "expected", "value"]
        [toJson series, toJson expected, toJson value] (by decide) rfl rfl fun _ => rfl
      · simp [(text series).plain, type.plain, (text value).plain]
      · simp [(text series).read, type.read, (text value).read]
    | outOfWindow timestamp =>
      exact .alternative (LawfulForm.bare timestamp rfl) rfl fun _ => rfl
    | duplicateMeasurement content | undeclaredTimeseries content | malformedPath content
      | storage content => exact .alternative (text content) rfl fun _ => rfl
  patternFree _ := patternFree_of_bare rfl

instance : LawfulForm ServerError where
  readBack error _ _ := by
    cases error with
    | connection cause =>
      exact .alternative (LawfulForm.bare cause rfl) rfl fun _ => rfl
    | schema cause => exact .alternative (LawfulForm.bare cause rfl) rfl fun _ => rfl
    | write cause => exact .alternative (LawfulForm.bare cause rfl) rfl fun _ => rfl
    | internal reason =>
      exact .alternative (LawfulForm.bare reason rfl) rfl fun _ => rfl
  patternFree _ := patternFree_of_bare rfl

/-! ### Configurations -/

instance : Composed Endpoint := ⟨fun _ => []⟩
instance : Composed SessionConfig := ⟨fun _ => []⟩

instance : LawfulForm Endpoint where
  readBack endpoint _ _ := by
    have host : ReadBack endpoint.host := LawfulForm.bare _ rfl
    have port : ReadBack endpoint.port := LawfulForm.bare _ rfl
    have username : ReadBack endpoint.username := LawfulForm.bare _ rfl
    have password : ReadBack endpoint.password := LawfulForm.bare _ rfl
    apply ReadBack.record
      ["host", "port", "username", "password"]
      [toJson endpoint.host, toJson endpoint.port, toJson endpoint.username,
        toJson endpoint.password]
      (by decide) rfl rfl fun _ => rfl
    · simp [host.plain, port.plain, username.plain, password.plain]
    · simp [host.read, port.read, username.read, password.read]
  patternFree _ := patternFree_of_bare rfl

instance : LawfulForm SessionConfig where
  readBack config _ _ := by
    have endpoint : ReadBack config.endpoint := LawfulForm.bare _ rfl
    have check : ReadBack config.checkWrites := LawfulForm.bare _ rfl
    have found : fields? ["endpoint", "check_writes"] (toJson config) =
        some [toJson config.endpoint, toJson config.checkWrites] := by
      change fields? _ (Json.record (["endpoint", "check_writes"].zip
        [toJson config.endpoint, toJson config.checkWrites])) = _
      exact fields?_record (by decide) rfl
    constructor
    · apply plain_record
      simp [endpoint.plain, check.plain]
    · change (fields? ["endpoint", "check_writes"] (toJson config)).bind _ = _
      rw [found]
      simp [endpoint.read, check.read]
  patternFree _ := patternFree_of_bare rfl

/-! ### Requests and responses -/

instance : Composed Request where
  parts
    | .insert _ _ _ values => parts values
    | .insertTablet tablet => parts tablet
    | _ => []

instance : Composed Response where
  parts
    | .storageGroups paths => parts paths
    | .timeseries definitions => parts definitions
    | .dataPoints points => parts points
    | _ => []

instance : LawfulForm Request where
  readBack request free concrete := by
    have text (content : String) : ReadBack content := LawfulForm.bare _ rfl
    have texts (contents : List String) : ReadBack contents := LawfulForm.bare _ (by simp [parts])
    have time (timestamp : Timestamp) : ReadBack timestamp := LawfulForm.bare _ rfl
    cases request with
    | setStorageGroup path =>
      apply ReadBack.variant "SetStorageGroup" ["path"] [toJson path]
        (by decide) rfl rfl fun _ => rfl
      · simp [(text path).plain]
      · simp [(text path).read]
    | deleteStorageGroups paths =>
      apply ReadBack.variant "DeleteStorageGroups" ["paths"] [toJson paths]
        (by decide) rfl rfl fun _ => rfl
      · simp [(texts paths).plain]
      · simp [(texts paths).read]
    | createTimeseries path dataType encoding compression =>
      have type : ReadBack dataType := LawfulForm.bare _ rfl
      have coding : ReadBack encoding := LawfulForm.bare _ rfl
      have packing : ReadBack compression := LawfulForm.bare _ rfl
      apply ReadBack.variant "CreateTimeseries" ["path", "data_type", "encoding", "compression"]
        [toJson path, toJson dataType, toJson encoding, toJson compression]
        (by decide) rfl rfl fun _ => rfl
      · simp [(text path).plain, type.plain, coding.plain, packing.plain]
      · simp [(text path).read, type.read, coding.read, packing.read]
    | deleteTimeseries paths =>
      apply ReadBack.variant "DeleteTimeseries" ["paths"] [toJson paths]
        (by decide) rfl rfl fun _ => rfl
      · simp [(texts paths).plain]
      · simp [(texts paths).read]
    | insert device timestamp measurements values =>
      have row : ReadBack values := LawfulForm.readBack _ free concrete
      apply ReadBack.variant "Insert" ["device_id", "timestamp", "measurements", "values"]
        [toJson device, toJson timestamp, toJson measurements, toJson values]
        (by decide) rfl rfl fun _ => rfl
      · simp [(text device).plain, (time timestamp).plain, (texts measurements).plain, row.plain]
      · simp [(text device).read, (time timestamp).read, (texts measurements).read, row.read]
    | insertTablet tablet =>
      exact .alternative (LawfulForm.readBack tablet free concrete) rfl fun _ => rfl
    | deleteData paths stop =>
      apply ReadBack.variant "DeleteData" ["paths", "end_time"] [toJson paths, toJson stop]
        (by decide) rfl rfl fun _ => rfl
      · simp [(texts paths).plain, (time stop).plain]
      · simp [(texts paths).read, (time stop).read]
    | showStorageGroups | version => exact ⟨.text _, rfl⟩
    | showTimeseries pattern =>
      apply ReadBack.variant "ShowTimeseries" ["pattern"] [toJson pattern]
        (by decide) rfl rfl fun _ => rfl
      · simp [(text pattern).plain]
      · simp [(text pattern).read]
    | checkTimeseriesExists path =>
      apply ReadBack.variant "CheckTimeseriesExists" ["path"] [toJson path]
        (by decide) rfl rfl fun _ => rfl
      · simp [(text path).plain]
      · simp [(text path).read]
    | select path start stop =>
      apply ReadBack.variant "Select" ["path", "start", "end"]
        [toJson path, toJson start, toJson stop] (by decide) rfl rfl fun _ => rfl
      · simp [(text path).plain, (time start).plain, (time stop).plain]
      · simp [(text path).read, (time start).read, (time stop).read]
  patternFree {document request} _ := by
    cases request with
    | insert device timestamp measurements values => exact patternFree_values values
    | insertTablet tablet => exact patternFree_tablet tablet
    | _ => exact patternFree_of_bare rfl

instance : LawfulForm Response where
  readBack response free concrete := by
    cases response with
    | ok => exact ⟨.text _, rfl⟩
    | deleted count =>
      exact .alternative (LawfulForm.bare count rfl) rfl fun _ => rfl
    | storageGroups paths =>
      exact .alternative (LawfulForm.readBack paths free concrete) rfl fun _ => rfl
    | timeseries definitions =>
      exact .alternative (LawfulForm.readBack definitions free concrete) rfl
        fun _ => rfl
    | «exists» answer =>
      exact .alternative (LawfulForm.bare answer rfl) rfl fun _ => rfl
    | dataPoints points =>
      exact .alternative (LawfulForm.readBack points free concrete) rfl fun _ => rfl
    | version text =>
      exact .alternative (LawfulForm.bare text rfl) rfl fun _ => rfl
  patternFree {document response} read := by
    unfold instJsonFormResponse at read
    dsimp only at read
    split at read
    next =>
      cases read
      exact patternFree_of_bare rfl
    next =>
      cases read
      exact patternFree_of_bare rfl
    next =>
      obtain ⟨count, _, rfl⟩ := Option.map_eq_some_iff.mp read
      exact patternFree_of_bare rfl
    next =>
      obtain ⟨paths, found, rfl⟩ := Option.map_eq_some_iff.mp read
      exact (LawfulForm.patternFree found : PatternFree paths)
    next =>
      obtain ⟨definitions, found, rfl⟩ := Option.map_eq_some_iff.mp read
      exact (LawfulForm.patternFree found : PatternFree definitions)
    next =>
      obtain ⟨answer, _, rfl⟩ := Option.map_eq_some_iff.mp read
      exact patternFree_of_bare rfl
    next =>
      obtain ⟨points, found, rfl⟩ := Option.map_eq_some_iff.mp read
      exact (LawfulForm.patternFree found : PatternFree points)
    next =>
      obtain ⟨text, _, rfl⟩ := Option.map_eq_some_iff.mp read
      exact patternFree_of_bare rfl
    next => cases read

/-! ### The protocol -/

/-- Whatever holds no floating point value and no pattern comes back from its text. Of a text, only
things without patterns are read, and they come back too. -/
def ComesBack (α : Type) [JsonForm α] [Composed α] : Prop :=
  (∀ thing : α, FloatFree thing → PatternFree thing → decode? (encode thing) = some thing) ∧
    ∀ (text : String) (thing : α), decode? text = some thing →
      (∀ path, .path path ∈ parts thing → path.Concrete ∧ path.hasWildcard = false) ∧
        (FloatFree thing → decode? (encode thing) = some thing)

theorem comesBack_of_lawful {α : Type} [JsonForm α] [Composed α] [LawfulForm α] :
    ComesBack α := by
  refine ⟨fun thing => decode_encode, fun text thing decoded => ?_⟩
  have concrete := patternFree_of_decode decoded
  refine ⟨fun path part => ?_, fun free => decode_encode free concrete⟩
  obtain ⟨source, parsed⟩ := concrete path part
  exact ⟨⟨source, parsed⟩, Path.no_wildcard_of_parse parsed⟩

def oddTablet : Tablet where
  device := "root.\"\\\n\u0000\u001f"
  measurements := ["", "😀"]
  rows := [⟨Ranged.clamp (-9223372036854775808), [.text "/\u007f\u2028", .boolean true]⟩,
    ⟨Ranged.clamp 9223372036854775807, [.int64 (Ranged.clamp (-9223372036854775808)),
      .int32 (Ranged.clamp 0)]⟩]

def oneSeries : Response :=
  .timeseries [{
    path := ⟨[.named ⟨"halle", by decide +kernel⟩, .named ⟨"größe", by decide +kernel⟩]⟩
    group := ⟨[.named ⟨"halle", by decide +kernel⟩]⟩
    dataType := .int32
    encoding := .ts2Diff
    compression := .snappy }]

/-- Requests, responses, what they hold, what a server reports and how it is reached all come back
from their JSON texts. -/
theorem protocol_comes_back :
    ComesBack Request ∧ ComesBack Response ∧ ComesBack Tablet ∧ ComesBack Definition ∧
      ComesBack Point ∧ ComesBack Value ∧ ComesBack Endpoint ∧ ComesBack SessionConfig ∧
      ComesBack ConnectionError ∧ ComesBack SchemaError ∧ ComesBack WriteError ∧
      ComesBack ServerError :=
  ⟨comesBack_of_lawful, comesBack_of_lawful, comesBack_of_lawful, comesBack_of_lawful,
    comesBack_of_lawful, comesBack_of_lawful, comesBack_of_lawful, comesBack_of_lawful,
    comesBack_of_lawful, comesBack_of_lawful, comesBack_of_lawful, comesBack_of_lawful⟩

theorem odd_messages_come_back :
    decode? (encode (Request.insertTablet oddTablet)) = some (Request.insertTablet oddTablet) ∧
      decode? (encode oneSeries) = some oneSeries ∧
      encode (ConnectionError.lost "\t\"") = "\x7b\"Lost\":\"\\t\\\"\"\x7d" ∧
      decode? (encode (ConnectionError.lost "\t\"")) = some (ConnectionError.lost "\t\"") ∧
      (decode? "\x7b\"StorageGroups\":[\"root.*\"]\x7d" : Option Response) = none := by
  obtain ⟨⟨requests, _⟩, ⟨responses, _⟩, _, _, _, _, _, _, ⟨losses, _⟩, _⟩ := protocol_comes_back
  refine ⟨requests _ ?_ (patternFree_tablet oddTablet), responses _ ?_ ?_, ?_,
    losses _ (floatFree_of_bare rfl) (patternFree_of_bare rfl), ?_⟩
  · simp [FloatFree, parts, oddTablet, Value.isReal]
  · simp [FloatFree, parts, oneSeries]
  · simp only [PatternFree, parts, oneSeries, List.flatMap_cons, List.flatMap_nil,
      List.append_nil, List.mem_cons, Part.path.injEq, List.not_mem_nil, or_false,
      forall_eq_or_imp, forall_eq]
    exact ⟨⟨"root.halle.größe", by decide +kernel⟩, ⟨"root.halle", by decide +kernel⟩⟩
  · decide +kernel
  · decide +kernel

end TimeSeries
