import Mathlib

/-!
# The integers of C++ as 32-bit numbers

An `int32` is kept as the integer it stands for.  `int32 x` is what is left of `x` when it is
converted to, or computed in, 32 bits: the number in the range of the type that differs from `x` by a
multiple of `2 ^ 32`.
-/

namespace Gundrak

/-- What `x` becomes as an `int32`. -/
def int32 (x : ℤ) : ℤ := (x + 2 ^ 31) % 2 ^ 32 - 2 ^ 31

/-- What `x` becomes as a `uint32`. -/
def uint32 (x : ℤ) : ℕ := (x % 2 ^ 32).toNat

theorem int32_of_mem {x : ℤ} (hl : -2 ^ 31 ≤ x) (hu : x < 2 ^ 31) : int32 x = x := by
  unfold int32
  omega

theorem le_int32 (x : ℤ) : -2 ^ 31 ≤ int32 x := by
  unfold int32
  omega

theorem int32_lt (x : ℤ) : int32 x < 2 ^ 31 := by
  unfold int32
  omega

theorem uint32_natCast {n : ℕ} (hn : n < 2 ^ 32) : uint32 n = n := by
  unfold uint32
  omega

theorem uint32_le {x : ℤ} (hx : 0 ≤ x) : (uint32 x : ℤ) ≤ x := by
  unfold uint32
  omega

/-- A number and its conversion agree modulo `2 ^ 32`, so converting a sum early or late is the same. -/
theorem int32_int32_add (x y : ℤ) : int32 (int32 x + y) = int32 (x + y) := by
  unfold int32
  omega

end Gundrak
