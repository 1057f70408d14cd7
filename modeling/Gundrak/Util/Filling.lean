import Mathlib

/-!
# Filling places in their order

Something that can be divided is put into places, each of which has some space: as much as fits goes to the
first one, what is left over to the next one, until nothing is left.  A place that comes again gets
nothing.

* `Filling.State.total_fill`: nothing is lost on the way.
* `Filling.State.left_fill`: what is left is what there is no `room` for.
* `Filling.State.mem_taken_fill_iff`: a place gets something if the places before it are too small.
-/

universe u

namespace Filling

variable {α : Type u}

/-- What has been put where so far, and what is left. -/
structure State (α : Type u) where
  put : List (α × ℕ)
  left : ℕ

variable [DecidableEq α]

/-- The room in a list of places; those in `seen` do not count, nor does a place that comes again. -/
def room (seen : List α) : List (α × ℕ) → ℕ
  | [] => 0
  | (a, space) :: places =>
    if a ∈ seen then room seen places else space + room (seen ++ [a]) places

namespace State

variable (s : State α)

omit [DecidableEq α] in
/-- The places that have got something. -/
def taken : List α := s.put.map Prod.fst

omit [DecidableEq α] in
/-- All there is. -/
def total : ℕ := (s.put.map Prod.snd).sum + s.left

/-- As much as fits goes to a place. -/
def step (place : α × ℕ) : State α :=
  if s.left = 0 ∨ place.1 ∈ s.taken then s
  else ⟨s.put ++ [(place.1, min place.2 s.left)], s.left - min place.2 s.left⟩

/-- Fill the places of a list. -/
def fill (places : List (α × ℕ)) : State α := places.foldl step s

theorem fill_nil : s.fill [] = s := rfl

theorem fill_cons (place : α × ℕ) (places : List (α × ℕ)) : s.fill (place :: places) = (s.step place).fill places := rfl

theorem fill_append (first second : List (α × ℕ)) :
    s.fill (first ++ second) = (s.fill first).fill second := List.foldl_append ..

variable {s}

theorem step_of_left_eq_zero (h : s.left = 0) (place : α × ℕ) : s.step place = s := if_pos (.inl h)

theorem step_of_mem {place : α × ℕ} (h : place.1 ∈ s.taken) : s.step place = s := if_pos (.inr h)

theorem step_of_not_mem {place : α × ℕ} (hleft : s.left ≠ 0) (h : place.1 ∉ s.taken) :
    s.step place = ⟨s.put ++ [(place.1, min place.2 s.left)], s.left - min place.2 s.left⟩ :=
  if_neg (not_or.mpr ⟨hleft, h⟩)

theorem taken_step {place : α × ℕ} (hleft : s.left ≠ 0) (h : place.1 ∉ s.taken) :
    (s.step place).taken = s.taken ++ [place.1] := by
  simp [step_of_not_mem hleft h, taken]

theorem fill_of_left_eq_zero (h : s.left = 0) (places : List (α × ℕ)) : s.fill places = s := by
  induction places with
  | nil => rfl
  | cons place places ih => rw [fill_cons, step_of_left_eq_zero h, ih]

theorem fill_induction {P : State α → Prop} (hs : P s) {places : List (α × ℕ)}
    (hstep : ∀ s, ∀ place ∈ places, P s → P (s.step place)) : P (s.fill places) := by
  induction places generalizing s with
  | nil => exact hs
  | cons place places ih =>
    exact ih (hstep s place List.mem_cons_self hs)
      fun s place hplace ↦ hstep s place (List.mem_cons_of_mem _ hplace)

/-- **Nothing is lost.** -/
theorem total_fill (s : State α) (places : List (α × ℕ)) : (s.fill places).total = s.total := by
  refine fill_induction (P := fun s' ↦ s'.total = s.total) rfl fun s' place _ h ↦ ?_
  rw [← h, step]
  split_ifs
  · rfl
  · have hle : min place.2 s'.left ≤ s'.left := Nat.min_le_right ..
    rw [total, total, List.map_append, List.sum_append]
    show (s'.put.map Prod.snd).sum + (min place.2 s'.left + 0) + (s'.left - min place.2 s'.left) = _
    omega

theorem nodup_fill (h : s.taken.Nodup) (places : List (α × ℕ)) : (s.fill places).taken.Nodup := by
  refine fill_induction (P := fun s' ↦ s'.taken.Nodup) h fun s' place _ h' ↦ ?_
  by_cases hleft : s'.left = 0
  · rwa [step_of_left_eq_zero hleft]
  by_cases hmem : place.1 ∈ s'.taken
  · rwa [step_of_mem hmem]
  · rw [taken_step hleft hmem]
    exact List.nodup_append.mpr ⟨h', List.nodup_singleton _, fun a ha b hb ↦ by
      rintro rfl
      exact hmem (List.mem_singleton.mp hb ▸ ha)⟩

theorem mem_put_fill {places : List (α × ℕ)} {x : α × ℕ} (hx : x ∈ (s.fill places).put) :
    x ∈ s.put ∨ ∃ space, (x.1, space) ∈ places ∧ x.2 ≤ space := by
  revert hx
  refine fill_induction
    (P := fun s' ↦ x ∈ s'.put → x ∈ s.put ∨ ∃ space, (x.1, space) ∈ places ∧ x.2 ≤ space)
    Or.inl fun s' place hplace h hx ↦ ?_
  rw [step] at hx
  split_ifs at hx
  · exact h hx
  · rcases List.mem_append.mp hx with hx | hx
    · exact h hx
    · obtain rfl := List.mem_singleton.mp hx
      exact .inr ⟨place.2, hplace, Nat.min_le_left ..⟩

section

variable (s : State α) (places : List (α × ℕ))

theorem taken_subset_fill : s.taken ⊆ (s.fill places).taken := by
  refine fill_induction (P := fun s' ↦ s.taken ⊆ s'.taken) (List.Subset.refl _) fun s' place _ h ↦ ?_
  by_cases hleft : s'.left = 0
  · rwa [step_of_left_eq_zero hleft]
  by_cases hmem : place.1 ∈ s'.taken
  · rwa [step_of_mem hmem]
  · rw [taken_step hleft hmem]
    exact List.Subset.trans h (List.subset_append_left ..)

/-- **What is left is what there is no room for.** -/
theorem left_fill : (s.fill places).left = s.left - room s.taken places := by
  induction places generalizing s with
  | nil => rfl
  | cons place places ih =>
    rw [fill_cons, ih, room]
    by_cases hleft : s.left = 0
    · simp [step_of_left_eq_zero hleft, hleft]
    by_cases hmem : place.1 ∈ s.taken
    · rw [step_of_mem hmem, if_pos hmem]
    · rw [taken_step hleft hmem, if_neg hmem, step_of_not_mem hleft hmem]
      show s.left - min place.2 s.left - _ = _
      omega

/-- **A place gets something** if it is among the places and those before it do not have room for all. -/
theorem mem_taken_fill_iff (a : α) : a ∈ (s.fill places).taken ↔ a ∈ s.taken ∨ a ∈ places.map Prod.fst ∧
      room s.taken (places.takeWhile fun place ↦ place.1 ≠ a) < s.left := by
  induction places generalizing s with
  | nil => simp [fill_nil]
  | cons place places ih =>
    rw [fill_cons]
    by_cases hleft : s.left = 0
    · rw [step_of_left_eq_zero hleft, fill_of_left_eq_zero hleft, hleft]
      simp
    by_cases ha : place.1 = a
    · have hnone : (place :: places).takeWhile (fun place ↦ place.1 ≠ a) = [] := by
        simp [ha]
      rw [hnone]
      have hright : a ∈ (place :: places).map Prod.fst ∧ room s.taken [] < s.left :=
        ⟨by simp [ha], Nat.pos_of_ne_zero hleft⟩
      refine iff_of_true (taken_subset_fill _ _ ?_) (.inr hright)
      by_cases hmem : place.1 ∈ s.taken
      · rw [step_of_mem hmem, ← ha]
        exact hmem
      · rw [taken_step hleft hmem, ← ha]
        exact List.mem_append_right _ (List.mem_singleton_self _)
    · have hcons : (place :: places).takeWhile (fun place ↦ place.1 ≠ a) =
          place :: places.takeWhile fun place ↦ place.1 ≠ a := by
        simp [ha]
      have hmap : a ∈ (place :: places).map Prod.fst ↔ a ∈ places.map Prod.fst := by
        simp [Ne.symm ha]
      rw [ih, hcons, hmap, room]
      by_cases hmem : place.1 ∈ s.taken
      · rw [step_of_mem hmem, if_pos hmem]
      · have htaken : a ∈ s.taken ++ [place.1] ↔ a ∈ s.taken := by
          simp [Ne.symm ha]
        rw [taken_step hleft hmem, if_neg hmem, htaken, step_of_not_mem hleft hmem]
        have hlt (n : ℕ) : n < s.left - min place.2 s.left ↔ place.2 + n < s.left := by omega
        rw [hlt]

end

end State

end Filling
