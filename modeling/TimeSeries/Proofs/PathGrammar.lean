import TimeSeries.Proofs.PathText

/-! Which texts are paths. The grammar says it without reading: the root, and nodes below it, each
after a dot. The readers of paths and of patterns accept exactly what the grammar has, and of any
other text they tell what is wrong with the first node that does not fit. -/

namespace TimeSeries.Path

inductive SpellsNode (wildcards : Bool) : List Char → Prop
  | name {part : List Char} (filled : part ≠ [])
    (plain : ∀ c ∈ part, Text.isAlphanumeric c = true ∨ c = '_') : SpellsNode wildcards part
  | any (allowed : wildcards = true) : SpellsNode wildcards ['*']

def SpellsPath (wildcards : Bool) (text : List Char) : Prop :=
  ∃ parts : List (List Char), text = "root".toList ++ parts.flatMap ('.' :: ·) ∧
    ∀ part ∈ parts, SpellsNode wildcards part

inductive Misspells (wildcards : Bool) : List Char → Fault → Prop
  | empty : Misspells wildcards [] .emptyNode
  | wildcard (refused : wildcards = false) : Misspells wildcards ['*'] .wildcard
  | illegal {part : List Char} {c : Char} (other : part ≠ ['*']) (member : c ∈ part)
    (notAlphanumeric : Text.isAlphanumeric c = false) (notUnderscore : c ≠ '_') :
    Misspells wildcards part .illegalCharacter

/-- A text is a first part and more of them, each after a dot, and there are no other dots. -/
structure Cut (text first : List Char) (parts : List (List Char)) : Prop where
  joined : text = first ++ parts.flatMap ('.' :: ·)
  plain : ∀ part ∈ first :: parts, '.' ∉ part

/-- The first fault from the left. All parts before it are right. -/
inductive FirstFault (wildcards : Bool) (text : List Char) : Fault → Prop
  | notFromRoot {first : List Char} {parts : List (List Char)} (cut : Cut text first parts)
    (elsewhere : first ≠ "root".toList) : FirstFault wildcards text .notFromRoot
  | below {before after : List (List Char)} {part : List Char} {fault : Fault}
    (cut : Cut text "root".toList (before ++ part :: after))
    (earlier : ∀ node ∈ before, SpellsNode wildcards node)
    (misspelled : Misspells wildcards part fault) : FirstFault wildcards text fault

/-! ### Parts -/

theorem intercalate_cons (first : List Char) (parts : List (List Char)) :
    ['.'].intercalate (first :: parts) = first ++ parts.flatMap ('.' :: ·) := by
  induction parts generalizing first with
  | nil => rw [List.intercalate_singleton, List.flatMap_nil, List.append_nil]
  | cons next parts ih =>
    rw [List.intercalate_cons_cons, ih, List.flatMap_cons, List.append_assoc]
    rfl

theorem no_dot_of_mem_splitOn {text part : List Char} (member : part ∈ text.splitOn '.') :
    '.' ∉ part := by
  induction text generalizing part with
  | nil =>
    rw [List.mem_singleton.mp member]
    exact List.not_mem_nil
  | cons c rest ih =>
    rw [List.splitOn_cons_eq_if_modifyHead] at member
    split at member
    · rcases List.mem_cons.mp member with rfl | member
      · exact List.not_mem_nil
      · exact ih member
    next other =>
      obtain ⟨head, parts, found⟩ := List.exists_cons_of_ne_nil (List.splitOn_ne_nil '.' rest)
      rw [found] at ih member
      rcases List.mem_cons.mp member with rfl | member
      · have notDot : c ≠ '.' := by simpa using other
        exact List.not_mem_cons_of_ne_of_not_mem notDot.symm (ih List.mem_cons_self)
      · exact ih (List.mem_cons_of_mem _ member)

/-- The parts of a text are what lies between its dots. -/
theorem splitOn_eq_cons_iff {text first : List Char} {parts : List (List Char)} :
    text.splitOn '.' = first :: parts ↔ Cut text first parts := by
  constructor
  · intro found
    refine ⟨?_, fun part member => no_dot_of_mem_splitOn (found ▸ member)⟩
    rw [← intercalate_cons, ← found, List.intercalate_splitOn]
  · rintro ⟨rfl, plain⟩
    rw [← intercalate_cons]
    exact List.splitOn_intercalate '.' plain (List.cons_ne_nil _ _)

theorem exists_cut (text : List Char) : ∃ first parts, Cut text first parts := by
  obtain ⟨first, parts, found⟩ := List.exists_cons_of_ne_nil (List.splitOn_ne_nil '.' text)
  exact ⟨first, parts, splitOn_eq_cons_iff.mp found⟩

/-- A text has only one first part and only one list of further parts. -/
theorem Cut.unique {text first other : List Char} {parts others : List (List Char)}
    (cut : Cut text first parts) (again : Cut text other others) :
    first = other ∧ parts = others := by
  rw [← splitOn_eq_cons_iff] at cut again
  exact List.cons.inj (cut.symm.trans again)

/-! ### One node -/

variable {wildcards : Bool} {part : List Char} {fault : Fault}

theorem isName_iff {text : String} : IsName text ↔
    text.toList ≠ [] ∧ ∀ c ∈ text.toList, Text.isAlphanumeric c = true ∨ c = '_' := by
  simp [IsName, isNameChar]

theorem SpellsNode.no_dot (spelled : SpellsNode wildcards part) : '.' ∉ part := by
  cases spelled with
  | name filled plain =>
    intro member
    exact absurd (plain '.' member) (by decide +kernel)
  | any => decide

theorem SpellsNode.read (spelled : SpellsNode wildcards part) :
    ∃ node, readNode wildcards part = .ok node := by
  cases spelled with
  | name filled plain =>
    have valid : IsName (String.ofList part) := by
      rw [isName_iff, String.toList_ofList]
      exact ⟨filled, plain⟩
    have other : part ≠ ['*'] := by
      rintro rfl
      exact valid.ne_star rfl
    unfold readNode
    exact ⟨_, by rw [if_neg filled, if_neg other, dif_pos valid]⟩
  | any allowed =>
    subst allowed
    exact ⟨.any, rfl⟩

theorem Misspells.read (misspelled : Misspells wildcards part fault) :
    readNode wildcards part = .error fault := by
  cases misspelled with
  | empty => rfl
  | wildcard refused =>
    subst refused
    rfl
  | illegal other member notAlphanumeric notUnderscore =>
    have filled := List.ne_nil_of_mem member
    have invalid : ¬IsName (String.ofList part) := by
      rw [isName_iff, String.toList_ofList]
      rintro ⟨_, plain⟩
      simpa [notAlphanumeric, notUnderscore] using plain _ member
    unfold readNode
    rw [if_neg filled, if_neg other, dif_neg invalid]

theorem spells_or_misspells (wildcards : Bool) (part : List Char) :
    SpellsNode wildcards part ∨ ∃ fault, Misspells wildcards part fault := by
  by_cases filled : part = []
  · subst filled
    exact .inr ⟨_, .empty⟩
  by_cases star : part = ['*']
  · subst star
    cases wildcards with
    | false => exact .inr ⟨_, .wildcard rfl⟩
    | true => exact .inl (.any rfl)
  by_cases plain : ∀ c ∈ part, Text.isAlphanumeric c = true ∨ c = '_'
  · exact .inl (.name filled plain)
  · obtain ⟨c, member, bad⟩ : ∃ c ∈ part, Text.isAlphanumeric c = false ∧ c ≠ '_' := by
      simpa using plain
    exact .inr ⟨_, .illegal star member bad.1 bad.2⟩

theorem exists_readNode_iff :
    (∃ node, readNode wildcards part = .ok node) ↔ SpellsNode wildcards part := by
  refine ⟨fun ⟨node, read⟩ => ?_, SpellsNode.read⟩
  rcases spells_or_misspells wildcards part with spelled | ⟨fault, misspelled⟩
  · exact spelled
  · rw [misspelled.read] at read
    cases read

theorem readNode_error_iff :
    readNode wildcards part = .error fault ↔ Misspells wildcards part fault := by
  refine ⟨fun failed => ?_, Misspells.read⟩
  rcases spells_or_misspells wildcards part with spelled | ⟨other, misspelled⟩
  · obtain ⟨node, read⟩ := spelled.read
    rw [read] at failed
    cases failed
  · rw [misspelled.read] at failed
    cases failed
    exact misspelled

/-! ### All nodes -/

variable {parts : List (List Char)}

theorem exists_readNodes_iff : (∃ below, parts.mapM (readNode wildcards) = .ok below) ↔
    ∀ part ∈ parts, SpellsNode wildcards part := by
  simp only [exists_mapM_iff, exists_readNode_iff]

theorem readNodes_error_iff : parts.mapM (readNode wildcards) = .error fault ↔
    ∃ before part after, parts = before ++ part :: after ∧
      (∀ node ∈ before, SpellsNode wildcards node) ∧ Misspells wildcards part fault := by
  simp only [mapM_error_iff, exists_readNode_iff, readNode_error_iff]

/-! ### Texts -/

variable {text : String}

theorem spellsPath_iff {text : List Char} : SpellsPath wildcards text ↔
    ∃ parts, Cut text root.toList parts ∧ ∀ part ∈ parts, SpellsNode wildcards part := by
  constructor
  · rintro ⟨parts, joined, each⟩
    refine ⟨parts, ⟨joined, List.forall_mem_cons.mpr ⟨by decide, ?_⟩⟩, each⟩
    exact fun part member => (each part member).no_dot
  · rintro ⟨parts, cut, each⟩
    exact ⟨parts, cut.joined, each⟩

theorem exists_read_iff :
    (∃ path, read wildcards text = .ok path) ↔ SpellsPath wildcards text.toList := by
  simp only [spellsPath_iff, ← exists_readNodes_iff, read_ok_iff, splitOn_eq_cons_iff]
  constructor
  · rintro ⟨path, parts, cut, nodes⟩
    exact ⟨parts, cut, path.below, nodes⟩
  · rintro ⟨parts, cut, below, nodes⟩
    exact ⟨⟨below⟩, parts, cut, nodes⟩

/-- Reading stops at the first fault from the left. -/
theorem read_error_iff :
    read wildcards text = .error fault ↔ FirstFault wildcards text.toList fault := by
  obtain ⟨first, parts, cut⟩ := exists_cut text.toList
  unfold read
  rw [splitOn_eq_cons_iff.mpr cut]
  dsimp only
  by_cases atRoot : first = root.toList
  · subst atRoot
    rw [String.ofList_toList, if_pos rfl, bind_error_iff, readNodes_error_iff]
    constructor
    · rintro (⟨before, part, after, rfl, earlier, misspelled⟩ | ⟨_, _, ⟨⟩⟩)
      exact .below cut earlier misspelled
    · intro faulty
      cases faulty with
      | notFromRoot other elsewhere => exact absurd (other.unique cut).1 elsewhere
      | below other earlier misspelled =>
        exact .inl ⟨_, _, _, (cut.unique other).2, earlier, misspelled⟩
  · have other : String.ofList first ≠ root := fun same =>
      atRoot (by rw [← same, String.toList_ofList])
    rw [if_neg other]
    constructor
    · rintro ⟨⟩
      exact .notFromRoot cut atRoot
    · intro faulty
      cases faulty with
      | notFromRoot => rfl
      | below other => exact absurd (cut.unique other).1 atRoot

/-! ### The two readers -/

structure FollowsGrammar (wildcards : Bool) (reading : String → Except SchemaError Path) :
    Prop where
  accepts : ∀ text, (∃ path, reading text = .ok path) ↔ SpellsPath wildcards text.toList
  keeps : ∀ text path, reading text = .ok path →
    path.text = text ∧ ".".intercalate path.nodes = text ∧ path.depth = path.nodes.length ∧
      ∀ node ∈ path.nodes, '.' ∉ node.toList
  refuses : ∀ text error, reading text = .error error ↔ ∃ fault,
    FirstFault wildcards text.toList fault ∧ error = .malformedPath text fault.reason

theorem intercalate_nodes (path : Path) : ".".intercalate path.nodes = path.text := by
  rw [← String.toList_inj, String.toList_intercalate]
  exact String.toList_ofList.symm

theorem no_dot_of_mem_nodes {path : Path} {node : String} (member : node ∈ path.nodes) :
    '.' ∉ node.toList := by
  have part : node.toList ∈ path.text.toList.splitOn '.' := by
    rw [splitOn_text]
    exact List.mem_map_of_mem member
  exact no_dot_of_mem_splitOn part

theorem followsGrammar {reading : String → Except SchemaError Path}
    (reports : ∀ text, reading text =
      (read wildcards text).mapError fun fault => .malformedPath text fault.reason) :
    FollowsGrammar wildcards reading := by
  have accepted (text : String) (path : Path) :
      reading text = .ok path ↔ read wildcards text = .ok path := by
    rw [reports, mapError_ok_iff]
  refine ⟨fun text => ?_, fun text path done => ?_, fun text error => ?_⟩
  · simp only [accepted]
    exact exists_read_iff
  · have same := text_of_read ((accepted text path).mp done)
    refine ⟨same, (intercalate_nodes path).trans same, ?_, fun node => no_dot_of_mem_nodes⟩
    simp [depth, nodes]
  · simp only [← read_error_iff]
    rw [reports]
    cases read wildcards text <;> simp [Except.mapError, eq_comm]

theorem readPath_eq (text : String) : SchemaError.readPath text =
    (read false text).mapError fun fault => .malformedPath text fault.reason := by
  unfold SchemaError.readPath parse
  cases read false text <;> rfl

theorem readPattern_eq (text : String) : SchemaError.readPattern text =
    (read true text).mapError fun fault => .malformedPath text fault.reason := by
  unfold SchemaError.readPattern parsePattern
  cases read true text <;> rfl

theorem readPath_ok_iff {text : String} {path : Path} : SchemaError.readPath text = .ok path ↔
    SchemaError.readPattern text = .ok path ∧ path.hasWildcard = false := by
  rw [readPath_eq, readPattern_eq, mapError_ok_iff, mapError_ok_iff, ← parse_ok_iff]
  constructor
  · intro parsed
    obtain rfl := text_of_parse parsed
    exact ⟨read_text path, no_wildcard_of_parse parsed⟩
  · rintro ⟨found, plain⟩
    obtain rfl := text_of_read found
    exact parse_text plain

/-- Paths and patterns are read exactly as the grammar has them, and the paths are the patterns
without wildcards. -/
theorem paths_follow_grammar :
    FollowsGrammar false SchemaError.readPath ∧ FollowsGrammar true SchemaError.readPattern ∧
      ∀ text path, SchemaError.readPath text = .ok path ↔
        SchemaError.readPattern text = .ok path ∧ path.hasWildcard = false :=
  ⟨followsGrammar readPath_eq, followsGrammar readPattern_eq, fun _ _ => readPath_ok_iff⟩

/-- Of several faults the first one counts. -/
example : SchemaError.readPath "root.sg1.d-1..*" =
    .error (.malformedPath "root.sg1.d-1..*" "nodes may only contain letters, digits and `_`") := by
  decide +kernel

end TimeSeries.Path
