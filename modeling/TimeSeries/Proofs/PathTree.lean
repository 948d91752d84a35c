import Mathlib.Data.List.Infix
import TimeSeries.Proofs.PathText

/-! The tree of paths. A path lies above those that start with its nodes, itself included. Of two
paths above a third, one lies above the other. -/

namespace TimeSeries

theorem Node.text_injective : Function.Injective Node.text := by
  intro first second same
  cases first with
  | any =>
    cases second with
    | any => rfl
    | named name => exact absurd (congrArg String.toList same).symm name.valid.ne_star
  | named name =>
    cases second with
    | any => exact absurd (congrArg String.toList same) name.valid.ne_star
    | named other =>
      cases name
      cases other
      cases same
      rfl

namespace Path

def Above (first second : Path) : Prop :=
  first.nodes <+: second.nodes

variable {first second path : Path}

theorem nodes_injective (same : first.nodes = second.nodes) : first = second := by
  have below := List.map_injective_iff.mpr Node.text_injective (List.cons.inj same).2
  cases first
  cases second
  cases below
  rfl

theorem isAbove_iff : first.isAbove second = true ↔ first.Above second := by
  unfold isAbove Above nodes
  rw [List.isPrefixOf_iff_prefix, List.prefix_cons_inj,
    List.prefix_map_iff_of_injective Node.text_injective]

theorem isAbove_eq_false_iff : first.isAbove second = false ↔ ¬first.Above second := by
  rw [← isAbove_iff, Bool.not_eq_true]

theorem Above.refl (path : Path) : path.Above path :=
  List.prefix_rfl

theorem Above.trans (above : first.Above second) (below : second.Above path) : first.Above path :=
  List.IsPrefix.trans above below

theorem Above.antisymm (above : first.Above second) (below : second.Above first) :
    first = second :=
  nodes_injective (above.eq_of_length (Nat.le_antisymm above.length_le below.length_le))

/-- Two paths on the way to a third stand one above the other. -/
theorem Above.comparable (one : first.Above path) (other : second.Above path) :
    first.Above second ∨ second.Above first :=
  List.prefix_or_prefix_of_prefix one other

end Path

end TimeSeries
