import TimeSeries.Proofs.PathGrammar
import TimeSeries.Proofs.PathTree

/-! Paths as a tree, and patterns on it. The tree shows in the texts: a path lies above those whose
texts go on from its own with a dot. A pattern selects the paths at its depth that agree with it
wherever it has no wildcard, and with each of them all that lies below. -/

namespace TimeSeries

theorem Node.text_eq_star_iff {node : Node} : node.text = "*" ↔ node = .any :=
  ⟨fun same => text_injective same, fun same => same ▸ rfl⟩

namespace Path

variable {first second pattern path : Path}

/-! ### The tree in texts -/

theorem above_iff_text : first.Above second ↔
    second.text = first.text ∨ ∃ rest, second.text = first.text ++ "." ++ rest := by
  constructor
  · rintro ⟨rest, joined⟩
    have texts : second.text = ".".intercalate (first.nodes ++ rest) := by
      rw [joined, intercalate_nodes]
    by_cases none : rest = []
    · left
      rw [texts, none, List.append_nil, intercalate_nodes]
    · right
      refine ⟨".".intercalate rest, ?_⟩
      have nodes : first.nodes ≠ [] := List.cons_ne_nil _ _
      rw [texts, String.intercalate_append_of_ne_nil nodes none, intercalate_nodes]
  · rintro (same | ⟨rest, longer⟩)
    · rw [text_injective same]
      exact .refl first
    · have parts : second.nodes.map String.toList =
          first.nodes.map String.toList ++ rest.toList.splitOn '.' := by
        rw [← splitOn_text, ← splitOn_text, ← List.splitOn_append_cons_self, longer]
        simp
      have injective : Function.Injective String.toList := fun _ _ => String.toList_injective
      exact (List.prefix_map_iff_of_injective injective).mp ⟨_, parts.symm⟩

/-! ### Patterns -/

def Agree : List String → List String → Prop :=
  List.Forall₂ fun expected node => expected = "*" ∨ expected = node

/-- The first nodes of the path agree with the pattern. -/
def Matches (pattern path : Path) : Prop :=
  ∃ front, front <+: path.nodes ∧ Agree pattern.nodes front

theorem nodesMatch_iff {expected nodes : List Node} : nodesMatch expected nodes = true ↔
    ∃ front, front <+: nodes.map Node.text ∧ Agree (expected.map Node.text) front := by
  induction expected generalizing nodes with
  | nil => simp [nodesMatch, Agree]
  | cons first expected ih =>
    cases nodes with
    | nil => simp [nodesMatch, Agree]
    | cons node nodes =>
      simp only [nodesMatch, Bool.and_eq_true, Bool.or_eq_true, beq_iff_eq, ih, List.map_cons]
      constructor
      · rintro ⟨fits, front, part, each⟩
        refine ⟨node.text :: front, (List.prefix_cons_inj _).mpr part, .cons ?_ each⟩
        exact fits.imp Node.text_eq_star_iff.mpr (congrArg Node.text)
      · rintro ⟨_, part, each⟩
        cases each with
        | cons fits each =>
          obtain ⟨rfl, remains⟩ := List.cons_prefix_cons.mp part
          exact ⟨fits.imp Node.text_eq_star_iff.mp fun same => Node.text_injective same, _, remains,
            each⟩

theorem selects_iff : pattern.selects path = true ↔ pattern.Matches path := by
  unfold selects Matches nodes
  rw [nodesMatch_iff]
  constructor
  · rintro ⟨front, part, each⟩
    exact ⟨root :: front, (List.prefix_cons_inj _).mpr part, .cons (.inr rfl) each⟩
  · rintro ⟨_, part, each⟩
    cases each with
    | cons _ each => exact ⟨_, (List.cons_prefix_cons.mp part).2, each⟩

theorem nodesMatch_of_plain {expected : List Node} (plain : .any ∉ expected) (nodes : List Node) :
    nodesMatch expected nodes = expected.isPrefixOf nodes := by
  induction expected generalizing nodes with
  | nil => rfl
  | cons first expected ih =>
    obtain ⟨named, plain⟩ := not_or.mp (List.mem_cons.not.mp plain)
    cases nodes with
    | nil => rfl
    | cons node nodes =>
      have different : (first == .any) = false := by simpa using Ne.symm named
      simp only [nodesMatch, different, Bool.false_or, ih plain]
      rfl

theorem selects_iff_above (plain : pattern.hasWildcard = false) :
    pattern.selects path = true ↔ pattern.Above path := by
  have named : Node.any ∉ pattern.below := by simpa [hasWildcard] using plain
  rw [← isAbove_iff, selects, nodesMatch_of_plain named, isAbove]

theorem Matches.below (matched : pattern.Matches first) (above : first.Above second) :
    pattern.Matches second := by
  obtain ⟨front, part, each⟩ := matched
  exact ⟨front, part.trans above, each⟩

theorem exists_above {front : List String} (filled : front ≠ []) (part : front <+: path.nodes) :
    ∃ above : Path, above.Above path ∧ above.nodes = front := by
  cases front with
  | nil => exact absurd rfl filled
  | cons first rest =>
    obtain ⟨rfl, remains⟩ := List.cons_prefix_cons.mp part
    have same : Path.nodes ⟨path.below.take rest.length⟩ = root :: rest := by
      rw [nodes, List.map_take, ← List.prefix_iff_eq_take.mp remains]
    refine ⟨⟨path.below.take rest.length⟩, ?_, same⟩
    unfold Above
    rwa [same]

/-- What a pattern matches lies at or below a path of the same depth that agrees with the pattern
outside of the wildcards. -/
theorem matches_iff : pattern.Matches path ↔ ∃ front : Path, front.Above path ∧
    front.depth = pattern.depth ∧ Agree pattern.nodes front.nodes := by
  constructor
  · rintro ⟨nodes, part, each⟩
    have filled : nodes ≠ [] := by
      rintro rfl
      cases each
    obtain ⟨front, above, rfl⟩ := exists_above filled part
    have lengths := each.length_eq
    simp only [Path.nodes, List.length_cons, List.length_map] at lengths
    exact ⟨front, above, lengths.symm, each⟩
  · rintro ⟨front, above, _, each⟩
    exact ⟨front.nodes, above, each⟩

def widen (pattern : Path) (place : Nat) : Path :=
  ⟨pattern.below.set place .any⟩

theorem nodes_widen (pattern : Path) (place : Nat) :
    (pattern.widen place).nodes = pattern.nodes.set (place + 1) "*" := by
  simp [nodes, widen, List.map_set, Node.text]

theorem Agree.set {expected nodes : List String} (each : Agree expected nodes) (place : Nat) :
    Agree (expected.set place "*") nodes := by
  induction each generalizing place with
  | nil => exact .nil
  | cons fits each ih =>
    cases place with
    | zero => exact .cons (.inl rfl) each
    | succ place => exact .cons fits (ih place)

theorem Matches.widen (matched : pattern.Matches path) (place : Nat) :
    (pattern.widen place).Matches path := by
  obtain ⟨front, part, each⟩ := matched
  refine ⟨front, part, ?_⟩
  rw [nodes_widen]
  exact each.set (place + 1)

/-! ### Both -/

structure TreeOrder : Prop where
  spelled : ∀ first second : Path, first.isAbove second = true ↔
    second.text = first.text ∨ ∃ rest, second.text = first.text ++ "." ++ rest
  refl : ∀ path : Path, path.isAbove path = true
  antisymm : ∀ first second : Path, first.isAbove second = true → second.isAbove first = true →
    first = second
  trans : ∀ first second third : Path, first.isAbove second = true →
    second.isAbove third = true → first.isAbove third = true
  comparable : ∀ first second path : Path, first.isAbove path = true →
    second.isAbove path = true → first.isAbove second = true ∨ second.isAbove first = true

structure PatternLaws : Prop where
  selected : ∀ pattern path : Path, pattern.selects path = true ↔ ∃ front : Path,
    front.isAbove path = true ∧ front.depth = pattern.depth ∧ Agree pattern.nodes front.nodes
  below : ∀ pattern path lower : Path, pattern.selects path = true →
    path.isAbove lower = true → pattern.selects lower = true
  widened : ∀ (pattern : Path) (place : Nat), ∃ wider : Path,
    wider.nodes = pattern.nodes.set (place + 1) "*" ∧
      ∀ path, pattern.selects path = true → wider.selects path = true
  plain : ∀ pattern path : Path, pattern.hasWildcard = false →
    pattern.selects path = pattern.isAbove path

theorem treeOrder : TreeOrder where
  spelled first second := isAbove_iff.trans above_iff_text
  refl path := isAbove_iff.mpr (.refl path)
  antisymm first second above below := (isAbove_iff.mp above).antisymm (isAbove_iff.mp below)
  trans first second third above below :=
    isAbove_iff.mpr ((isAbove_iff.mp above).trans (isAbove_iff.mp below))
  comparable first second path one other := by
    rw [isAbove_iff, isAbove_iff]
    exact (isAbove_iff.mp one).comparable (isAbove_iff.mp other)

theorem patternLaws : PatternLaws where
  selected pattern path := by
    simp only [isAbove_iff]
    exact selects_iff.trans matches_iff
  below pattern path lower selected above :=
    selects_iff.mpr ((selects_iff.mp selected).below (isAbove_iff.mp above))
  widened pattern place := ⟨pattern.widen place, nodes_widen pattern place,
    fun path selected => selects_iff.mpr ((selects_iff.mp selected).widen place)⟩
  plain pattern path plain := by
    rw [Bool.eq_iff_iff, selects_iff_above plain, isAbove_iff]

/-- Paths form a tree, in which patterns select. -/
theorem patterns_select_in_tree : TreeOrder ∧ PatternLaws :=
  ⟨treeOrder, patternLaws⟩

/-- Paths are compared node by node and not character by character. -/
example : (do return (← parse "root.sg1").isAbove (← parse "root.sg10.d1")) = .ok false := by
  decide +kernel

end Path

end TimeSeries
