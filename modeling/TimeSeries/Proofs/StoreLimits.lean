import Mathlib.Tactic.ByContra
import TimeSeries.Proofs.StoreContents

/-! What a valid configuration promises: a new store is sound, and its writable stretch, although it
is cut off at the largest timestamp, holds back the same points as the exact product. -/

namespace TimeSeries

theorem StoreConfig.validate_ok {config : StoreConfig} (valid : config.validate = .ok ()) :
    config.hot ≠ some 0 ∧ config.kept ≠ some 0 ∧ 0 < config.duration ∧
      ∀ hot ∈ config.hot, ∀ kept ∈ config.kept, hot ≤ kept := by
  unfold validate at valid
  by_cases noHot : config.hot = some 0
  · rw [if_pos noHot] at valid
    cases valid
  by_cases noKept : config.kept = some 0
  · rw [if_neg noHot, if_pos noKept] at valid
    cases valid
  by_cases noWidth : config.duration ≤ 0
  · rw [if_neg noHot, if_neg noKept, if_pos noWidth] at valid
    cases valid
  refine ⟨noHot, noKept, by omega, ?_⟩
  intro hot hotGiven kept keptGiven
  rw [if_neg noHot, if_neg noKept, if_neg noWidth, Option.mem_def.mp hotGiven,
    Option.mem_def.mp keptGiven] at valid
  by_contra less
  simp only [Nat.not_le.mp less, if_true] at valid
  cases valid

theorem StoreConfig.writableWindow_of_valid {config : StoreConfig}
    (valid : config.validate = .ok ()) : ∃ window, config.writableWindow = .ok window := by
  obtain ⟨noHot, noKept, width, narrower⟩ := validate_ok valid
  cases computed : config.writableWindow with
  | ok window => exact ⟨window, rfl⟩
  | error cause =>
    unfold validate at valid
    rw [if_neg noHot, if_neg noKept, if_neg (by omega), computed] at valid
    cases hot : config.hot with
    | none =>
      rw [hot] at valid
      cases valid
    | some hotGiven =>
      cases kept : config.kept with
      | none =>
        rw [hot, kept] at valid
        cases valid
      | some keptGiven =>
        rw [hot, kept] at valid
        have within := narrower hotGiven hot keptGiven kept
        simp only [Nat.not_lt.mpr within, if_false] at valid
        cases valid

/-- The writable stretch is cut off where it stops to matter. -/
theorem StoreConfig.writableWindow_allows {config : StoreConfig} {window : Option Nat}
    (width : 0 < config.duration) (computed : config.writableWindow = .ok window) (distance : Int) :
    InsertWindow.Allows window distance ↔
      InsertWindow.Allows (config.writable.map (· * config.duration.toNat)) distance := by
  unfold writableWindow at computed
  cases writable : config.writable with
  | none =>
    rw [writable] at computed
    cases computed
    rfl
  | some slots =>
    rw [writable] at computed
    have exact_stretch :
        ((slots * config.duration.toNat : Nat) : Int) = slots * config.duration := by
      rw [Int.natCast_mul, Int.toNat_of_nonneg (Int.le_of_lt width)]
    have positive : 0 ≤ (slots : Int) * config.duration := Int.mul_nonneg (by omega) (by omega)
    dsimp only at computed
    generalize same : (Ranged.clamp (slots * config.duration) : Timestamp) = stretch at computed
    have value : stretch.val =
        max (-9223372036854775808) (min (slots * config.duration) 9223372036854775807) := by
      rw [← same]
      rfl
    split at computed
    · cases computed
    · rw [if_neg (by omega)] at computed
      cases computed
      simp only [InsertWindow.Allows, Option.map_some, Option.mem_def, Option.some.injEq,
        forall_eq']
      rw [exact_stretch]
      omega

namespace Store

theorem create_ok {config : StoreConfig} {store : Store} (created : create config = .ok store) :
    config.validate = .ok () ∧ ∃ window, config.writableWindow = .ok window ∧ store = {
      duration := config.duration
      writable := config.writable
      kept := config.kept
      window := ⟨config.tolerance window, none⟩ } := by
  unfold create at created
  cases valid : config.validate with
  | error cause =>
    rw [valid] at created
    cases created
  | ok =>
    rw [valid] at created
    cases computed : config.writableWindow with
    | error cause =>
      rw [computed] at created
      cases created
    | ok window =>
      rw [computed] at created
      cases created
      exact ⟨rfl, window, rfl, rfl⟩

theorem create_of_valid {config : StoreConfig} (valid : config.validate = .ok ()) :
    ∃ store, create config = .ok store := by
  obtain ⟨window, computed⟩ := StoreConfig.writableWindow_of_valid valid
  unfold create
  rw [valid, computed]
  exact ⟨_, rfl⟩

theorem sound_create {config : StoreConfig} {store : Store} (created : create config = .ok store) :
    store.Sound := by
  obtain ⟨valid, window, _, rfl⟩ := create_ok created
  obtain ⟨hot, kept, width, narrower⟩ := StoreConfig.validate_ok valid
  refine ⟨width, List.Pairwise.nil, by simp, by simp, ?_, ?_⟩
  · intro writable found
    apply Nat.pos_of_ne_zero
    rintro rfl
    rcases Option.or_eq_some_iff.mp found with atHot | ⟨_, atKept⟩
    · exact hot atHot
    · exact kept atKept
  · intro most found
    cases given : config.hot with
    | none => exact ⟨most, by simpa [StoreConfig.writable, given] using found, Nat.le_refl _⟩
    | some fewer =>
      exact ⟨fewer, by simp [StoreConfig.writable, given], narrower fewer given most found⟩

end Store

end TimeSeries
