import Mathlib.Data.List.Sort
import Mathlib.Order.Defs.Unbundled
import Mathlib.Tactic.Tauto
import TimeSeries.Keyed

/-! Lists in key order as finite maps. Placing an item and leaving a key out keep the order, and a
search finds exactly the members. A condition that holds up to some item and for none after it
cuts an ordered list in two. -/

namespace TimeSeries

namespace Keyed

variable {α κ : Type} [Keyed α κ]

section Search

variable [DecidableEq κ]

theorem mem_of_find? {wanted : κ} {items : List α} {item : α}
    (found : find? wanted items = some item) : item ∈ items ∧ key item = wanted := by
  have satisfied := List.find?_some found
  exact ⟨List.mem_of_find?_eq_some found, of_decide_eq_true satisfied⟩

theorem has_iff {wanted : κ} {items : List α} :
    has wanted items = true ↔ ∃ item ∈ items, key item = wanted := by
  simp [has, find?, List.find?_isSome]

theorem mem_without {unwanted : κ} {items : List α} {item : α} :
    item ∈ without unwanted items ↔ item ∈ items ∧ key item ≠ unwanted := by
  simp [without]

end Search

variable [LT κ]

theorem Ascending.sublist {shorter items : List α} (ascending : Ascending items)
    (part : shorter.Sublist items) : Ascending shorter :=
  List.Pairwise.sublist part ascending

theorem ascending_cons {first : α} {rest : List α} :
    Ascending (first :: rest) ↔ (∀ later ∈ rest, key first < key later) ∧ Ascending rest :=
  List.pairwise_cons

theorem ascending_append {before after : List α} :
    Ascending (before ++ after) ↔ Ascending before ∧ Ascending after ∧
      ∀ first ∈ before, ∀ second ∈ after, key first < key second :=
  List.pairwise_append

/-- A list in key order is determined by its members. -/
theorem Ascending.eq_of_mem_iff [IsStrictTotalOrder κ (· < ·)] {first second : List α}
    (one : Ascending first) (other : Ascending second)
    (same : ∀ item, item ∈ first ↔ item ∈ second) : first = second := by
  have irreflexive : Std.Irrefl fun before after : α => key before < key after :=
    ⟨fun item => irrefl (key item)⟩
  have antisymmetric : Std.Antisymm fun before after : α => key before < key after :=
    ⟨fun before after less more => absurd (Trans.trans less more) (irrefl (key before))⟩
  exact List.Pairwise.eq_of_mem_iff one other same

theorem Ascending.nodup_keys [IsStrictTotalOrder κ (· < ·)] {items : List α}
    (ascending : Ascending items) : (items.map key).Nodup := by
  rw [List.Nodup, List.pairwise_map]
  refine List.Pairwise.imp (fun {before after} less same => ?_) ascending
  rw [same] at less
  exact irrefl _ less

section Lookup

variable [DecidableEq κ]

theorem Ascending.without {items : List α} (ascending : Ascending items) (unwanted : κ) :
    Ascending (Keyed.without unwanted items) :=
  ascending.sublist List.filter_sublist

variable [IsStrictTotalOrder κ (· < ·)]

theorem find?_eq_some_iff {items : List α} (ascending : Ascending items) {wanted : κ} {item : α} :
    find? wanted items = some item ↔ item ∈ items ∧ key item = wanted := by
  constructor
  · exact mem_of_find?
  · rintro ⟨member, rfl⟩
    induction items with
    | nil => simp at member
    | cons first rest ih =>
      obtain ⟨smaller, ascending⟩ := ascending_cons.mp ascending
      rw [find?_cons]
      rcases List.mem_cons.mp member with same | later
      · rw [if_pos (same ▸ rfl), same]
      · have less := smaller item later
        rw [if_neg fun same => irrefl _ (same ▸ less)]
        exact ih ascending later

theorem Ascending.eq_of_key {items : List α} (ascending : Ascending items) {first second : α}
    (firstMember : first ∈ items) (secondMember : second ∈ items) (same : key first = key second) :
    first = second := by
  have one := (find?_eq_some_iff ascending).mpr ⟨firstMember, same⟩
  have other := (find?_eq_some_iff ascending).mpr ⟨secondMember, rfl⟩
  exact Option.some.inj (one.symm.trans other)

theorem find?_filter {items : List α} (ascending : Ascending items) (keep : α → Bool) (wanted : κ) :
    find? wanted (items.filter keep) = (find? wanted items).filter keep := by
  have remaining := ascending.sublist (List.filter_sublist (p := keep))
  refine Option.ext fun item => ?_
  rw [Option.filter_eq_some_iff, find?_eq_some_iff remaining, find?_eq_some_iff ascending,
    List.mem_filter]
  tauto

end Lookup

section Place

variable [DecidableEq κ] [DecidableLT κ] [IsStrictTotalOrder κ (· < ·)]

/-- The placed item takes the seat of the one with its key and all others stay. -/
theorem mem_place {items : List α} (ascending : Ascending items) {item other : α} :
    other ∈ place item items ↔ other = item ∨ other ∈ items ∧ key other ≠ key item := by
  induction items with
  | nil => simp [place]
  | cons first rest ih =>
    obtain ⟨smaller, ascending⟩ := ascending_cons.mp ascending
    have apart : ∀ later ∈ rest, key first ≠ key later := by
      intro later member same
      have less := smaller later member
      rw [same] at less
      exact irrefl _ less
    unfold place
    split
    next before =>
      have fresh : ∀ later ∈ first :: rest, key later ≠ key item := by
        intro later member same
        rcases List.mem_cons.mp member with rfl | member
        · exact irrefl (key item) (same ▸ before)
        · have less : key item < key later := Trans.trans before (smaller later member)
          exact irrefl _ (same ▸ less)
      rw [List.mem_cons]
      exact or_congr_right ⟨fun member => ⟨member, fresh other member⟩, And.left⟩
    · split
      next same => grind
      next different =>
        rw [List.mem_cons, ih ascending]
        grind

theorem Ascending.place {items : List α} (ascending : Ascending items) (item : α) :
    Ascending (Keyed.place item items) := by
  induction items with
  | nil => exact List.pairwise_singleton _ _
  | cons first rest ih =>
    obtain ⟨smaller, tail⟩ := ascending_cons.mp ascending
    unfold Keyed.place
    split
    next before =>
      refine ascending_cons.mpr ⟨?_, ascending⟩
      intro later member
      rcases List.mem_cons.mp member with rfl | member
      · exact before
      · exact Trans.trans before (smaller later member)
    next notBefore =>
      split
      next same => exact ascending_cons.mpr ⟨fun later member => same ▸ smaller later member, tail⟩
      next different =>
        have after : key first < key item := by
          rcases trichotomous (r := (· < ·)) (key item) (key first) with less | same | more
          · exact absurd less notBefore
          · exact absurd same different
          · exact more
        refine ascending_cons.mpr ⟨?_, ih tail⟩
        intro later member
        rcases (mem_place tail).mp member with rfl | ⟨member, _⟩
        · exact after
        · exact smaller later member

theorem place_append {before middle after : List α} {item : α}
    (below : ∀ other ∈ before, key other < key item)
    (above : ∀ other ∈ after, key item < key other) :
    place item (before ++ middle ++ after) = before ++ place item middle ++ after := by
  induction before with
  | nil =>
    simp only [List.nil_append]
    induction middle with
    | nil =>
      cases after with
      | nil => rfl
      | cons next rest => simp [place, above next (by simp)]
    | cons first rest ih =>
      simp only [List.cons_append, place, ih]
      split
      · rfl
      · split <;> rfl
  | cons first rest ih =>
    have less := below first (by simp)
    have notBefore : ¬key item < key first := asymm less
    have different : key item ≠ key first := fun same => irrefl _ (same ▸ less)
    simp only [List.cons_append, place, if_neg notBefore, if_neg different]
    rw [ih fun other member => below other (List.mem_cons_of_mem _ member)]

end Place

end Keyed

section Cut

variable {α : Type} {keep : α → Bool} {items : List α}

theorem take_countP (closed : items.Pairwise fun before after => keep after → keep before) :
    items.take (items.countP keep) = items.filter keep := by
  induction items with
  | nil => rfl
  | cons first rest ih =>
    obtain ⟨earlier, closed⟩ := List.pairwise_cons.mp closed
    by_cases kept : keep first
    · simp [kept, ih closed]
    · have none : ∀ later ∈ rest, ¬keep later := fun later member holds =>
        kept (earlier later member holds)
      simp [List.countP_eq_zero.mpr none, List.filter_eq_nil_iff.mpr none, kept]

theorem drop_countP (closed : items.Pairwise fun before after => keep after → keep before) :
    items.drop (items.countP keep) = items.filter fun item => !keep item := by
  induction items with
  | nil => rfl
  | cons first rest ih =>
    obtain ⟨earlier, closed⟩ := List.pairwise_cons.mp closed
    by_cases kept : keep first
    · simp [kept, ih closed]
    · have none : ∀ later ∈ rest, ¬keep later := fun later member holds =>
        kept (earlier later member holds)
      have all : ∀ later ∈ rest, (!keep later) = true := by simpa using none
      simp [List.countP_eq_zero.mpr none, List.filter_eq_self.mpr all, kept]

theorem related_or_eq {related : α → α → Prop} (sorted : items.Pairwise related) {first second : α}
    (firstMember : first ∈ items) (secondMember : second ∈ items) :
    related first second ∨ first = second ∨ related second first := by
  induction items with
  | nil => simp at firstMember
  | cons head rest ih =>
    obtain ⟨afterHead, sorted⟩ := List.pairwise_cons.mp sorted
    rcases List.mem_cons.mp firstMember with rfl | firstLater
    · rcases List.mem_cons.mp secondMember with rfl | secondLater
      · exact .inr (.inl rfl)
      · exact .inl (afterHead second secondLater)
    · rcases List.mem_cons.mp secondMember with rfl | secondLater
      · exact .inr (.inr (afterHead first firstLater))
      · exact ih sorted firstLater secondLater

/-- The last items of an ordered list are those with few items after them. -/
theorem mem_drop_iff (later : α → α → Bool)
    (sorted : items.Pairwise fun before after => later before after)
    (asymmetric : ∀ first ∈ items, ∀ second ∈ items, later first second → ¬later second first)
    (count : Nat) {item : α} : item ∈ items.drop count ↔
      item ∈ items ∧ items.countP (later item) < items.length - count := by
  induction items generalizing count with
  | nil => simp
  | cons first rest ih =>
    obtain ⟨afterFirst, sorted⟩ := List.pairwise_cons.mp sorted
    have inside : ∀ member ∈ rest, member ∈ first :: rest := fun _ => List.mem_cons_of_mem _
    have step := ih sorted (fun one oneMember other otherMember =>
      asymmetric one (inside one oneMember) other (inside other otherMember)) (count - 1)
    have all : (first :: rest).countP (later first) = rest.length := by
      have notItself : ¬later first first := fun itself =>
        asymmetric first (by simp) first (by simp) itself itself
      rw [List.countP_cons_of_neg notItself, List.countP_eq_length]
      exact afterFirst
    have skips (member : item ∈ rest) :
        (first :: rest).countP (later item) = rest.countP (later item) := by
      apply List.countP_cons_of_neg
      exact asymmetric first (by simp) item (inside item member) (afterFirst item member)
    have bound := List.countP_le_length (p := later item) (l := rest)
    have strict (member : item ∈ rest) : rest.countP (later item) < rest.length := by
      rcases Nat.lt_or_eq_of_le bound with less | same
      · exact less
      · have itself := List.countP_eq_length.mp same item member
        exact absurd itself (asymmetric item (inside item member) item (inside item member) itself)
    cases count with
    | zero =>
      rw [List.drop_zero]
      refine ⟨fun member => ⟨member, ?_⟩, And.left⟩
      rcases List.mem_cons.mp member with rfl | member
      · rw [all]
        simp
      · rw [skips member, List.length_cons]
        have := strict member
        omega
    | succ count =>
      rw [List.drop_succ_cons]
      simp only [Nat.add_sub_cancel] at step
      rw [step, List.length_cons]
      constructor
      · rintro ⟨member, few⟩
        refine ⟨inside item member, ?_⟩
        rw [skips member]
        omega
      · rintro ⟨member, few⟩
        rcases List.mem_cons.mp member with rfl | member
        · rw [all] at few
          omega
        · rw [skips member] at few
          exact ⟨member, by omega⟩

end Cut

end TimeSeries
