import Mathlib.Data.String.Basic
import Mathlib.Order.Defs.Unbundled
import TimeSeries.Proofs.Traversal
import TimeSeries.Schema.Error

/-! Paths and their texts. A path is read back from its text, so different paths have different
texts, and a text that is read is the text of the path it yields. -/

namespace TimeSeries

theorem IsName.no_dot {text : String} (valid : IsName text) : '.' ∉ text.toList := by
  intro member
  have allowed := List.all_eq_true.mp valid.2 '.' member
  exact absurd allowed (by decide +kernel)

theorem IsName.ne_star {text : String} (valid : IsName text) : text.toList ≠ ['*'] := by
  intro same
  have allowed := List.all_eq_true.mp valid.2 '*' (same ▸ List.mem_singleton_self _)
  exact absurd allowed (by decide +kernel)

namespace Path

theorem no_dot (node : Node) : '.' ∉ node.text.toList := by
  cases node with
  | any => decide
  | named name => exact name.valid.no_dot

theorem splitOn_text (path : Path) :
    path.text.toList.splitOn '.' = path.nodes.map String.toList := by
  unfold text
  rw [String.toList_ofList]
  apply List.splitOn_intercalate
  · intro part member
    obtain ⟨name, listed, rfl⟩ := List.mem_map.mp member
    rcases List.mem_cons.mp listed with rfl | listed
    · decide
    · obtain ⟨node, _, rfl⟩ := List.mem_map.mp listed
      exact no_dot node
  · simp [nodes]

/-- A node is read back from its text where wildcards are allowed or it is none. -/
theorem readNode_text {wildcards : Bool} {node : Node}
    (allowed : node = .any → wildcards = true) :
    readNode wildcards node.text.toList = .ok node := by
  cases node with
  | any =>
    rw [allowed rfl]
    rfl
  | named name =>
    have filled : name.text.toList ≠ [] := name.valid.1
    unfold readNode
    simp only [Node.text, String.ofList_toList, if_neg filled, if_neg name.valid.ne_star,
      dif_pos name.valid]

theorem text_of_readNode {wildcards : Bool} {part : List Char} {node : Node}
    (read : readNode wildcards part = .ok node) : node.text.toList = part := by
  unfold readNode at read
  split at read
  · cases read
  · split at read
    next star =>
      split at read
      · cases read
        exact star.symm
      · cases read
    · dsimp only at read
      split at read
      · cases read
        exact String.toList_ofList
      · cases read

theorem read_ok_iff {wildcards : Bool} {text : String} {path : Path} :
    read wildcards text = .ok path ↔ ∃ parts, text.toList.splitOn '.' = root.toList :: parts ∧
      parts.mapM (readNode wildcards) = .ok path.below := by
  unfold read
  cases found : text.toList.splitOn '.' with
  | nil => exact absurd found (List.splitOn_ne_nil _ _)
  | cons first parts =>
    dsimp only
    constructor
    · intro done
      split at done
      next atRoot =>
        obtain ⟨below, nodes, ⟨⟩⟩ := bind_ok_iff.mp done
        exact ⟨parts, by rw [← atRoot, String.toList_ofList], nodes⟩
      next => cases done
    · rintro ⟨_, same, nodes⟩
      cases same
      rw [String.ofList_toList, if_pos rfl, nodes]
      rfl

theorem mapError_ok_iff {Failure Report Result : Type} {report : Failure → Report}
    {outcome : Except Failure Result} {result : Result} :
    outcome.mapError report = .ok result ↔ outcome = .ok result := by
  cases outcome <;> simp [Except.mapError]

theorem parse_ok_iff {text : String} {path : Path} :
    parse text = .ok path ↔ read false text = .ok path :=
  mapError_ok_iff

theorem read_text_of_allowed {wildcards : Bool} {path : Path}
    (allowed : .any ∈ path.below → wildcards = true) : read wildcards path.text = .ok path := by
  refine read_ok_iff.mpr ⟨(path.below.map Node.text).map String.toList, splitOn_text path, ?_⟩
  rw [mapM_ok_iff, List.map_map, List.forall₂_map_left_iff, List.forall₂_same]
  exact fun node member => readNode_text fun wildcard => allowed (wildcard ▸ member)

theorem read_text (path : Path) : read true path.text = .ok path :=
  read_text_of_allowed fun _ => rfl

theorem text_injective {first second : Path} (same : first.text = second.text) :
    first = second := by
  have reads := read_text first
  rw [same, read_text second] at reads
  exact (Except.ok.inj reads).symm

/-- Only its own text is read as a path. -/
theorem text_of_read {wildcards : Bool} {text : String} {path : Path}
    (done : read wildcards text = .ok path) : path.text = text := by
  obtain ⟨parts, found, nodes⟩ := read_ok_iff.mp done
  have all : path.nodes.map String.toList = text.toList.splitOn '.' := by
    rw [found, Path.nodes, List.map_cons, List.map_map]
    exact congrArg _ (items_of_mapM nodes fun _ _ => text_of_readNode)
  unfold Path.text
  rw [all, List.intercalate_splitOn, String.ofList_toList]

theorem text_of_parse {text : String} {path : Path} (parsed : parse text = .ok path) :
    path.text = text :=
  text_of_read (parse_ok_iff.mp parsed)

theorem text_of_child {path child : Path} {node : String} (found : path.child node = .ok child) :
    child.text = path.text ++ "." ++ node := by
  unfold Path.child at found
  split at found
  · cases found
  · exact text_of_parse found

theorem readNode_named {part : List Char} {node : Node} (read : readNode false part = .ok node) :
    node ≠ .any := by
  rintro rfl
  have star : part = ['*'] := (text_of_readNode read).symm
  rw [star] at read
  cases read

theorem any_not_mem_of_readNodes {parts : List (List Char)} {below : List Node}
    (read : parts.mapM (readNode false) = .ok below) : .any ∉ below := by
  have each := mapM_ok_iff.mp read
  clear read
  induction each with
  | nil => exact List.not_mem_nil
  | cons first _ ih =>
    exact List.not_mem_cons_of_ne_of_not_mem (readNode_named first).symm ih

theorem no_wildcard_of_parse {text : String} {path : Path} (parsed : parse text = .ok path) :
    path.hasWildcard = false := by
  obtain ⟨_, _, nodes⟩ := read_ok_iff.mp (parse_ok_iff.mp parsed)
  simpa [hasWildcard] using any_not_mem_of_readNodes nodes

theorem parse_text {path : Path} (plain : path.hasWildcard = false) :
    parse path.text = .ok path := by
  refine parse_ok_iff.mpr (read_text_of_allowed fun wildcard => ?_)
  simp [hasWildcard, wildcard] at plain

instance : IsStrictTotalOrder Path (· < ·) where
  irrefl path := lt_irrefl path.text
  trans _ _ _ := lt_trans (α := String)
  trichotomous _ _ notBefore notAfter :=
    text_injective (le_antisymm (not_lt.mp notAfter) (not_lt.mp notBefore))

end Path

theorem SchemaError.text_of_readPath {text : String} {path : Path}
    (read : SchemaError.readPath text = .ok path) : path.text = text :=
  Path.text_of_parse (Path.mapError_ok_iff.mp read)

end TimeSeries
