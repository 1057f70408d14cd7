import Mathlib

/-!
# Arithmetic that can leave its type

A conversion to a fixed width is undefined in C++ when the value is a floating-point number the type cannot hold, and so
are an overflow of signed integers and a division by zero.  The functions here return `none` in these cases.  Floating-point
numbers are rationals; their conversion to an integer drops the fraction.
-/

namespace Checked

/-- The integer part of a number, toward zero. -/
def truncate (q : ℚ) : ℤ := if 0 ≤ q then ⌊q⌋ else ⌈q⌉

/-- A value as an `int32`. -/
def asInt32 (x : ℤ) : Option ℤ := if -2 ^ 31 ≤ x ∧ x < 2 ^ 31 then some x else none

/-- A value as a `uint32`. -/
def asUInt32 (x : ℤ) : Option ℕ := if 0 ≤ x ∧ x < 2 ^ 32 then some x.toNat else none

/-- A quotient. -/
def div (a b : ℚ) : Option ℚ := if b = 0 then none else some (a / b)

theorem asInt32_eq_some {x y : ℤ} : asInt32 x = some y ↔ (-2 ^ 31 ≤ x ∧ x < 2 ^ 31) ∧ x = y := by
  rw [asInt32]
  split
  next h =>
    rw [Option.some_inj]
    exact ⟨fun hxy ↦ ⟨h, hxy⟩, fun hxy ↦ hxy.2⟩
  next h => exact ⟨fun hxy ↦ (by cases hxy), fun hxy ↦ absurd hxy.1 h⟩

theorem asUInt32_eq_some {x : ℤ} {n : ℕ} : asUInt32 x = some n ↔ (0 ≤ x ∧ x < 2 ^ 32) ∧ x = n := by
  rw [asUInt32]
  split
  next h =>
    rw [Option.some_inj]
    constructor
    · rintro rfl
      exact ⟨h, (Int.toNat_of_nonneg h.1).symm⟩
    · rintro ⟨-, rfl⟩
      exact Int.toNat_natCast n
  next h => exact ⟨fun hxn ↦ (by cases hxn), fun hxn ↦ absurd hxn.1 h⟩

theorem div_eq_some {a b q : ℚ} : div a b = some q ↔ b ≠ 0 ∧ a / b = q := by
  rw [div]
  split
  next h => simp [h]
  next h => simp [h]

@[simp] theorem truncate_intCast (n : ℤ) : truncate n = n := by
  rw [truncate]
  split
  · exact Int.floor_intCast n
  · exact Int.ceil_intCast n

@[simp] theorem truncate_zero : truncate 0 = 0 := by
  simp [truncate]

variable {q : ℚ}

theorem truncate_of_nonneg (h : 0 ≤ q) : truncate q = ⌊q⌋ := if_pos h

theorem truncate_of_nonpos (h : q ≤ 0) : truncate q = ⌈q⌉ := by
  rcases h.lt_or_eq with hlt | rfl
  · exact if_neg (not_le.mpr hlt)
  · simp

theorem truncate_nonneg (h : 0 ≤ q) : 0 ≤ truncate q := by
  rw [truncate_of_nonneg h]
  exact Int.floor_nonneg.mpr h

theorem truncate_nonpos (h : q ≤ 0) : truncate q ≤ 0 := by
  rw [truncate_of_nonpos h]
  exact Int.ceil_le.mpr (by simpa using h)

theorem truncate_le (h : 0 ≤ q) : (truncate q : ℚ) ≤ q := by
  rw [truncate_of_nonneg h]
  exact Int.floor_le q

theorem lt_truncate_add_one (h : 0 ≤ q) : q < truncate q + 1 := by
  rw [truncate_of_nonneg h]
  exact Int.lt_floor_add_one q

theorem truncate_nonneg_iff : 0 ≤ truncate q ↔ -1 < q := by
  rcases le_or_gt 0 q with h | h
  · exact ⟨fun _ ↦ by linarith, fun _ ↦ truncate_nonneg h⟩
  · rw [truncate_of_nonpos h.le, ← Int.sub_one_lt_iff, zero_sub, Int.lt_ceil]
    push_cast
    rfl

theorem truncate_lt_iff {n : ℤ} (hn : 0 < n) : truncate q < n ↔ q < n := by
  rcases le_or_gt 0 q with h | h
  · rw [truncate_of_nonneg h, Int.floor_lt]
  · have hnq : (0 : ℚ) < n := by exact_mod_cast hn
    exact ⟨fun _ ↦ by linarith, fun _ ↦ lt_of_le_of_lt (truncate_nonpos h.le) hn⟩

/-- What is left of a number that is not negative does not exceed an integer it does not exceed. -/
theorem truncate_le_of_le {n : ℤ} (h : 0 ≤ q) (hn : q < n + 1) : truncate q ≤ n := by
  rw [truncate_of_nonneg h]
  exact Int.lt_add_one_iff.mp (Int.floor_lt.mpr (by push_cast; exact hn))

end Checked
