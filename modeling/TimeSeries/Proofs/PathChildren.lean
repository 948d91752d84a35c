import TimeSeries.Proofs.PathPatterns

/-! Parents and children of paths. A path other than the root is cut at its last dot into its parent
and its leaf, and the leaf names it among the children of that parent. A name makes one child of a
path, and different names make different ones. -/

namespace TimeSeries.Path

variable {path parent child : Path}

def extend (path : Path) (node : Node) : Path :=
  ⟨path.below ++ [node]⟩

/-! ### One node more -/

section Extend

variable (path : Path) (node : Node)

@[simp] theorem parent?_extend : (path.extend node).parent? = some path := by
  simp [extend, parent?]

@[simp] theorem leaf_extend : (path.extend node).leaf = node.text := by
  simp [extend, leaf]

@[simp] theorem depth_extend : (path.extend node).depth = path.depth + 1 := by
  simp [extend, depth]

@[simp] theorem nodes_extend : (path.extend node).nodes = path.nodes ++ [node.text] := by
  simp [extend, nodes]

theorem plain_extend_iff :
    (path.extend node).hasWildcard = false ↔ path.hasWildcard = false ∧ .any ≠ node := by
  simp [extend, hasWildcard]

theorem text_extend : (path.extend node).text = path.text ++ "." ++ node.text := by
  have filled : path.nodes ≠ [] := List.cons_ne_nil _ _
  rw [← intercalate_nodes, ← intercalate_nodes, nodes_extend,
    String.intercalate_append_of_ne_nil filled (List.cons_ne_nil _ _), String.intercalate_singleton]

theorem above_extend : path.Above (path.extend node) :=
  ⟨[node.text], (nodes_extend path node).symm⟩

end Extend

theorem root_or_extend (path : Path) :
    path = ⟨[]⟩ ∨ ∃ parent node, path = extend parent node := by
  obtain ⟨below⟩ := path
  rcases List.eq_nil_or_concat below with rfl | ⟨before, node, rfl⟩
  · exact .inl rfl
  · exact .inr ⟨⟨before⟩, node, congrArg mk List.concat_eq_append⟩

theorem parent?_eq_some_iff : path.parent? = some parent ↔ ∃ node, path = parent.extend node := by
  constructor
  · intro found
    rcases root_or_extend path with rfl | ⟨other, node, rfl⟩
    · cases found
    · rw [parent?_extend] at found
      exact ⟨node, congrArg (extend · node) (Option.some.inj found)⟩
  · rintro ⟨node, rfl⟩
    exact parent?_extend parent node

theorem depth_parent (found : path.parent? = some parent) : parent.depth + 1 = path.depth := by
  obtain ⟨node, rfl⟩ := parent?_eq_some_iff.mp found
  exact (depth_extend parent node).symm

theorem above_of_parent (found : path.parent? = some parent) : parent.Above path := by
  obtain ⟨node, rfl⟩ := parent?_eq_some_iff.mp found
  exact above_extend parent node

theorem ne_of_parent (found : path.parent? = some parent) : parent ≠ path := by
  have depths := depth_parent found
  rintro rfl
  omega

theorem parent?_eq_none_iff : path.parent? = none ↔ path.text = "root" := by
  rcases root_or_extend path with rfl | ⟨parent, node, rfl⟩
  · exact iff_of_true rfl rfl
  · have other : parent.extend node ≠ ⟨[]⟩ := by simp [extend]
    rw [parent?_extend]
    exact iff_of_false nofun fun same => other (text_injective same)

/-- The leaf is what follows the last dot of a path, and the parent is what stands before it. -/
theorem text_eq_parent_leaf (path : Path) :
    path.text = (path.parent?.elim "" fun parent => parent.text ++ ".") ++ path.leaf := by
  rcases root_or_extend path with rfl | ⟨parent, node, rfl⟩
  · rfl
  · rw [parent?_extend, leaf_extend]
    exact text_extend parent node

theorem no_dot_leaf (path : Path) : '.' ∉ path.leaf.toList := by
  rcases root_or_extend path with rfl | ⟨parent, node, rfl⟩
  · decide
  · rw [leaf_extend]
    exact no_dot node

/-! ### Children -/

theorem child_ok_iff (plain : path.hasWildcard = false) {node : String} :
    path.child node = .ok child ↔
      ∃ name : Name, name.text = node ∧ child = path.extend (.named name) := by
  constructor
  · intro found
    unfold Path.child at found
    split at found
    next => cases found
    next single =>
      have whole : '.' ∉ node.toList := by simpa using single
      have parts : child.nodes.map String.toList =
          path.nodes.map String.toList ++ [node.toList] := by
        rw [← splitOn_text, ← splitOn_text, ← List.splitOn_eq_singleton whole,
          ← List.splitOn_append_cons_self, text_of_parse found]
        simp
      rcases root_or_extend child with rfl | ⟨parent, last, rfl⟩
      · simp [nodes] at parts
      · rw [nodes_extend, List.map_append] at parts
        obtain ⟨before, final⟩ := List.append_inj' parts rfl
        have injective : Function.Injective String.toList := fun _ _ => String.toList_injective
        have same : parent = path :=
          nodes_injective (List.map_injective_iff.mpr injective before)
        have text : last.text = node := injective (List.cons.inj final).1
        cases last with
        | any => exact absurd rfl ((plain_extend_iff parent .any).mp (no_wildcard_of_parse found)).2
        | named name => exact ⟨name, text, same ▸ rfl⟩
  · rintro ⟨name, rfl, rfl⟩
    have single : name.text.toList.contains '.' = false := by simpa using name.valid.no_dot
    have noPattern := (plain_extend_iff path (.named name)).mpr ⟨plain, by simp⟩
    unfold Path.child
    rw [single, if_neg Bool.false_ne_true, ← parse_text noPattern, text_extend]
    rfl

section Families

variable (plain : path.hasWildcard = false)

include plain

theorem plain_parent (found : path.parent? = some parent) : parent.hasWildcard = false := by
  obtain ⟨node, rfl⟩ := parent?_eq_some_iff.mp found
  exact ((plain_extend_iff parent node).mp plain).1

theorem child_leaf (found : path.parent? = some parent) : parent.child path.leaf = .ok path := by
  have free := plain_parent plain found
  obtain ⟨node, rfl⟩ := parent?_eq_some_iff.mp found
  cases node with
  | any => exact absurd rfl ((plain_extend_iff parent .any).mp plain).2
  | named name => exact (child_ok_iff free).mpr ⟨name, (leaf_extend parent (.named name)).symm, rfl⟩

theorem exists_child_iff {node : String} : (∃ child, path.child node = .ok child) ↔
    node.toList ≠ [] ∧ ∀ c ∈ node.toList, Text.isAlphanumeric c = true ∨ c = '_' := by
  rw [← isName_iff]
  simp only [child_ok_iff plain]
  constructor
  · rintro ⟨_, name, rfl, _⟩
    exact name.valid
  · intro valid
    exact ⟨_, ⟨node, valid⟩, rfl, rfl⟩

theorem of_child {node : String} (found : path.child node = .ok child) :
    child.parent? = some path ∧ child.leaf = node ∧ child.depth = path.depth + 1 := by
  obtain ⟨name, rfl, rfl⟩ := (child_ok_iff plain).mp found
  exact ⟨parent?_extend path _, leaf_extend path _, depth_extend path _⟩

end Families

/-! ### Both ways -/

/-- How a path hangs together with its parent and its children. -/
structure Lineage (path : Path) : Prop where
  root : path.parent? = none ↔ path.text = "root"
  cut : '.' ∉ path.leaf.toList ∧
    path.text = (path.parent?.elim "" fun parent => parent.text ++ ".") ++ path.leaf
  parent : ∀ parent, path.parent? = some parent → parse parent.text = .ok parent ∧
    parent.depth + 1 = path.depth ∧ parent.isAbove path = true ∧ parent ≠ path ∧
      parent.child path.leaf = .ok path
  accepts : ∀ node, (∃ child, path.child node = .ok child) ↔
    node.toList ≠ [] ∧ ∀ c ∈ node.toList, Text.isAlphanumeric c = true ∨ c = '_'
  child : ∀ node child, path.child node = .ok child →
    child.parent? = some path ∧ child.leaf = node ∧ child.depth = path.depth + 1
  distinct : ∀ first second child, path.child first = .ok child →
    path.child second = .ok child → first = second

/-- Parents and children undo each other. -/
theorem child_undoes_parent {text : String} (parsed : parse text = .ok path) : Lineage path where
  root := parent?_eq_none_iff
  cut := ⟨no_dot_leaf path, text_eq_parent_leaf path⟩
  parent parent found := by
    have plain := no_wildcard_of_parse parsed
    exact ⟨parse_text (plain_parent plain found), depth_parent found,
      isAbove_iff.mpr (above_of_parent found), ne_of_parent found, child_leaf plain found⟩
  accepts _ := exists_child_iff (no_wildcard_of_parse parsed)
  child _ _ := of_child (no_wildcard_of_parse parsed)
  distinct first second child one other := by
    have plain := no_wildcard_of_parse parsed
    rw [← (of_child plain one).2.1, (of_child plain other).2.1]

def device : Path where
  below := [.named ⟨"werk_2", by decide +kernel⟩, .named ⟨"höhe", by decide +kernel⟩]

theorem device_parsed : parse "root.werk_2.höhe" = .ok device := by
  decide +kernel

/-- A name makes a child of a device, and neither two names nor a wildcard do. -/
theorem device_takes_one_name : parse "root.werk_2.höhe" = .ok device ∧ Lineage device ∧
    device.parent?.map text = some "root.werk_2" ∧
      (device.child "s1").map text = .ok "root.werk_2.höhe.s1" ∧
        device.child "s1.s2" = .error ⟨"s1.s2", .severalNodes⟩ ∧
          device.child "*" = .error ⟨"root.werk_2.höhe.*", .wildcard⟩ :=
  ⟨device_parsed, child_undoes_parent device_parsed, by decide +kernel, by decide +kernel,
    by decide +kernel, by decide +kernel⟩

end TimeSeries.Path
