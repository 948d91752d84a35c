import TimeSeries.Proofs.PathText

/-! Requests that name paths by their texts. All texts are read before any of the paths is looked
up, so the first text that is no path decides, and if there is none, the first path that is not
known. -/

namespace TimeSeries.Path

inductive Naming where
  | malformed (text : String) (fault : Fault)
  | unknown (path : Path)
  | known (paths : List Path)

def Spells (texts : List String) (paths : List Path) : Prop :=
  List.Forall₂ (fun text path => parse text = .ok path) texts paths

/-- The first failure counts, and a text that is no path counts before every path. -/
inductive Names (known : Path → Prop) (texts : List String) : Naming → Prop
  | malformed {before after : List String} {text : String} {fault : Fault}
    (split : texts = before ++ text :: after)
    (readable : ∀ earlier ∈ before, ∃ path, parse earlier = .ok path)
    (unreadable : parse text = .error ⟨text, fault⟩) : Names known texts (.malformed text fault)
  | unknown {before after : List Path} {path : Path}
    (spelled : Spells texts (before ++ path :: after))
    (found : ∀ earlier ∈ before, known earlier) (missing : ¬known path) :
    Names known texts (.unknown path)
  | known {paths : List Path} (spelled : Spells texts paths) (found : ∀ path ∈ paths, known path) :
    Names known texts (.known paths)

def Naming.answer {Failure Result : Type} (fail : Malformed → Failure) (miss : Path → Failure)
    (next : List Path → Except Failure Result) : Naming → Except Failure Result
  | .malformed text fault => .error (fail ⟨text, fault⟩)
  | .unknown path => .error (miss path)
  | .known paths => next paths

def screen {Failure Result : Type} (fail : Malformed → Failure) (check : Path → Bool)
    (miss : Path → Failure) (next : List Path → Except Failure Result) (texts : List String) :
    Except Failure Result := do
  let paths ← texts.mapM fun text => (parse text).mapError fail
  match paths.find? fun path => !check path with
  | some missing => throw (miss missing)
  | none => next paths

variable {texts : List String} {paths : List Path} {known : Path → Prop}

theorem parse_cases (text : String) :
    (∃ path, parse text = .ok path) ∨ ∃ fault, parse text = .error ⟨text, fault⟩ := by
  unfold parse
  cases read false text with
  | ok path => exact .inl ⟨path, rfl⟩
  | error fault => exact .inr ⟨fault, rfl⟩

theorem Spells.parse_text (spelled : Spells texts paths) {path : Path} (member : path ∈ paths) :
    parse path.text = .ok path := by
  induction spelled with
  | nil => cases member
  | cons first rest ih =>
    rcases List.mem_cons.mp member with rfl | member
    · rwa [text_of_parse first]
    · exact ih member

theorem spells_or_malformed (texts : List String) : (∃ paths, Spells texts paths) ∨
    ∃ before text after fault, texts = before ++ text :: after ∧
      (∀ earlier ∈ before, ∃ path, parse earlier = .ok path) ∧
        parse text = .error ⟨text, fault⟩ := by
  cases outcome : texts.mapM parse with
  | ok paths => exact .inl ⟨paths, mapM_ok_iff.mp outcome⟩
  | error malformed =>
    obtain ⟨before, text, after, split, readable, failed⟩ := mapM_error_iff.mp outcome
    rcases parse_cases text with ⟨path, read⟩ | ⟨fault, found⟩
    · rw [read] at failed
      cases failed
    · exact .inr ⟨before, text, after, fault, split, readable, found⟩

theorem exists_names (known : Path → Prop) [DecidablePred known] (texts : List String) :
    ∃ naming, Names known texts naming := by
  rcases spells_or_malformed texts with ⟨paths, spelled⟩ | ⟨_, _, _, _, split, readable, failed⟩
  · cases found : paths.find? fun path => !known path with
    | none => exact ⟨_, .known spelled (by simpa using found)⟩
    | some path =>
      obtain ⟨missing, before, after, rfl, earlier⟩ := List.find?_eq_some_iff_append.mp found
      exact ⟨_, .unknown spelled (by simpa using earlier) (by simpa using missing)⟩
  · exact ⟨_, .malformed split readable failed⟩

section Answer

variable {Failure Result : Type} {fail : Malformed → Failure} {check : Path → Bool}
  {miss : Path → Failure} {next : List Path → Except Failure Result}

theorem Spells.mapM_eq (spelled : Spells texts paths) :
    texts.mapM (fun text => (parse text).mapError fail) = .ok paths :=
  mapM_ok_iff.mpr (spelled.imp fun _ _ => mapError_ok_iff.mpr)

theorem mapM_malformed {before after : List String} {text : String} {fault : Fault}
    (readable : ∀ earlier ∈ before, ∃ path, parse earlier = .ok path)
    (unreadable : parse text = .error ⟨text, fault⟩) :
    (before ++ text :: after).mapM (fun text => (parse text).mapError fail) =
      .error (fail ⟨text, fault⟩) := by
  have reported : (parse text).mapError fail = .error (fail ⟨text, fault⟩) := by
    rw [unreadable]
    rfl
  refine mapM_error_iff.mpr ⟨before, text, after, rfl, fun earlier member => ?_, reported⟩
  obtain ⟨path, read⟩ := readable earlier member
  exact ⟨path, mapError_ok_iff.mpr read⟩

theorem Names.screen_eq {naming : Naming} (names : Names known texts naming)
    (agrees : ∀ path, check path = true ↔ known path) :
    screen fail check miss next texts = naming.answer fail miss next := by
  unfold screen
  cases names with
  | malformed split readable unreadable =>
    rw [split, mapM_malformed readable unreadable]
    rfl
  | @unknown before after path spelled found missing =>
    have first : (before ++ path :: after).find? (fun path => !check path) = some path := by
      rw [List.find?_eq_some_iff_append]
      exact ⟨by simpa [← agrees] using missing, before, after, rfl, by simpa [agrees] using found⟩
    rw [spelled.mapM_eq]
    simp only [bind, Except.bind, first]
    rfl
  | @known paths spelled found =>
    have none : paths.find? (fun path => !check path) = none := by simpa [agrees] using found
    rw [spelled.mapM_eq]
    simp only [bind, Except.bind, none]
    rfl

end Answer

end TimeSeries.Path
