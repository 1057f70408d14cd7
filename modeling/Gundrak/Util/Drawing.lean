import Mathlib

/-!
# Drawing without replacement

A `Choice` stands for a source of random numbers: asked for the `n`-th time, it picks an element of the set it is
shown.  `Choice.draws` takes elements out of a set one after the other.  What is drawn is always part of the set and
never drawn twice, and there are as many draws as were asked for, or as there are elements.
-/

universe u

/-- A source of random elements; `pick n s` is the `n`-th element it gives, out of the set `s`. -/
structure Choice (α : Type u) where
  pick : ℕ → Finset α → α
  pick_mem : ∀ n s, s.Nonempty → pick n s ∈ s

namespace Choice

variable {α : Type u} [DecidableEq α] (choice : Choice α)

/-- At most `k` elements, drawn out of `s` one after the other from the `n`-th pick on. -/
def draws : (k : ℕ) → Finset α → (n : ℕ) → List α
  | 0, _, _ => []
  | k + 1, s, n =>
    if s.card = 0 then [] else choice.pick n s :: draws k (s.erase (choice.pick n s)) (n + 1)

variable {choice} {k n : ℕ} {s : Finset α} {a : α}

omit [DecidableEq α] in
theorem pick_mem_of_card (n : ℕ) (h : ¬ s.card = 0) : choice.pick n s ∈ s :=
  choice.pick_mem n s (Finset.card_pos.mp (Nat.pos_of_ne_zero h))

theorem card_erase_pick (n : ℕ) (h : ¬ s.card = 0) : (s.erase (choice.pick n s)).card + 1 = s.card :=
  Finset.card_erase_add_one (pick_mem_of_card n h)

@[simp] theorem draws_empty (k n : ℕ) : choice.draws k ∅ n = [] := by
  cases k <;> simp [draws]

theorem mem_of_mem_draws (h : a ∈ choice.draws k s n) : a ∈ s := by
  induction k generalizing s n with
  | zero => cases h
  | succ k ih =>
    rw [draws] at h
    split at h
    next => cases h
    next hs =>
      rcases List.mem_cons.mp h with rfl | hrest
      · exact pick_mem_of_card n hs
      · exact Finset.mem_of_mem_erase (ih hrest)

section

variable (k : ℕ) (s : Finset α) (n : ℕ)

theorem nodup_draws : (choice.draws k s n).Nodup := by
  induction k generalizing s n with
  | zero => exact List.nodup_nil
  | succ k ih =>
    rw [draws]
    split
    next => exact List.nodup_nil
    next => exact List.nodup_cons.mpr ⟨fun h ↦ Finset.notMem_erase _ _ (mem_of_mem_draws h), ih _ _⟩

theorem length_draws : (choice.draws k s n).length = min k s.card := by
  induction k generalizing s n with
  | zero => simp [draws]
  | succ k ih =>
    rw [draws]
    split
    next hs => simp [hs]
    next hs =>
      have hcard : (s.erase (choice.pick n s)).card + 1 = s.card := card_erase_pick n hs
      rw [List.length_cons, ih]
      omega

theorem card_toFinset_draws : (choice.draws k s n).toFinset.card = min k s.card := by
  rw [List.toFinset_card_of_nodup (nodup_draws k s n), length_draws]

theorem toFinset_draws_subset : (choice.draws k s n).toFinset ⊆ s := by
  intro a ha
  exact mem_of_mem_draws (List.mem_toFinset.mp ha)

end

theorem toFinset_draws_of_card_le (h : s.card ≤ k) (n : ℕ) : (choice.draws k s n).toFinset = s := by
  refine Finset.eq_of_subset_of_card_le (toFinset_draws_subset k s n) ?_
  rw [card_toFinset_draws]
  omega

end Choice
