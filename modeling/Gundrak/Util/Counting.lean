import Mathlib

/-!
# Counting in lists, and loops with a condition

How `List.countP` changes when an element of the list changes, or when the predicate does: the counters
that the server keeps up to date are counts of this kind.

`AlongFold step ok s is` says that a loop `is.foldl step s` makes each of its passes in a state where
`ok` holds, and `AlongFold.invariant` is the invariant rule for such loops.
-/

universe u v

section counting

variable {α : Type u} {p q r : α → Bool} {l : List α}

/-- A count of two kinds that exclude each other is the sum of two counts. -/
theorem countP_of_disjoint (hr : ∀ a ∈ l, r a = (p a || q a)) (hpq : ∀ a ∈ l, p a → ¬ q a) :
    l.countP r = l.countP p + l.countP q := by
  induction l with
  | nil => rfl
  | cons a l ih =>
    have ih := ih (fun b hb ↦ hr b (List.mem_cons_of_mem a hb))
      (fun b hb ↦ hpq b (List.mem_cons_of_mem a hb))
    have ha := hr a List.mem_cons_self
    have hd := hpq a List.mem_cons_self
    rw [List.countP_cons, List.countP_cons, List.countP_cons, ih, ha]
    cases hp : p a
    · simp only [Bool.false_or, Bool.false_eq_true, if_false]
      omega
    · have hq : q a = false := by simpa [hp] using hd
      simp only [hq, Bool.or_false, if_true, Bool.false_eq_true, if_false]
      omega

/-- What is counted of a list can be counted of a longer list, if both have no duplicates. -/
theorem countP_range_of_subset {n : ℕ} {is : List ℕ} {p : ℕ → Bool} (hnodup : is.Nodup)
    (hlt : ∀ i ∈ is, i < n) : (List.range n).countP (fun i ↦ p i && is.contains i) = is.countP p := by
  have hperm : ((List.range n).filter fun i ↦ is.contains i).Perm is := by
    refine (List.perm_ext_iff_of_nodup (List.nodup_range.filter _) hnodup).mpr fun i ↦ ?_
    rw [List.mem_filter, List.mem_range, List.contains_iff_mem]
    exact ⟨fun h ↦ h.2, fun h ↦ ⟨hlt i h, h⟩⟩
  rw [← hperm.countP_eq p, List.countP_filter]

/-- How a count changes when the predicate does, at one place. -/
theorem countP_change [DecidableEq α] {a : α} (hnodup : l.Nodup) (ha : a ∈ l) (h : ∀ b ∈ l, b ≠ a → q b = p b) :
    l.countP q + (if p a then 1 else 0) = l.countP p + (if q a then 1 else 0) := by
  obtain ⟨l₁, l₂, rfl⟩ := List.append_of_mem ha
  have hnot := List.nodup_middle.mp hnodup
  have hne : ∀ b ∈ l₁ ++ l₂, b ≠ a := by
    rintro b hb rfl
    exact (List.nodup_cons.mp hnot).1 hb
  have h₁ : l₁.countP q = l₁.countP p := List.countP_congr fun b hb ↦ by
    rw [h b (List.mem_append_left _ hb) (hne b (List.mem_append_left _ hb))]
  have h₂ : l₂.countP q = l₂.countP p := List.countP_congr fun b hb ↦ by
    rw [h b (List.mem_append_right _ (List.mem_cons_of_mem _ hb)) (hne b (List.mem_append_right _ hb))]
  rw [List.countP_append, List.countP_append, List.countP_cons, List.countP_cons, h₁, h₂]
  omega

/-- The count drops by one when the predicate is given up at one place. -/
theorem countP_of_single [DecidableEq α] {a : α} (hnodup : l.Nodup) (ha : a ∈ l) (hpa : p a = true)
    (hqa : q a = false) (h : ∀ b ∈ l, b ≠ a → q b = p b) : l.countP q + 1 = l.countP p := by
  have hchange := countP_change hnodup ha h
  simpa [hpa, hqa] using hchange

theorem countP_modify {f : α → α} {i : ℕ} {a : α} (h : l[i]? = some a) :
    (l.modify i f).countP p + (if p a then 1 else 0) = l.countP p + (if p (f a) then 1 else 0) := by
  induction l generalizing i with
  | nil => simp at h
  | cons b l ih =>
    cases i with
    | zero =>
      obtain rfl : b = a := by simpa using h
      rw [List.modify_zero_cons, List.countP_cons, List.countP_cons]
      omega
    | succ i =>
      have ih := ih (i := i) (by simpa using h)
      rw [List.modify_succ_cons, List.countP_cons, List.countP_cons]
      omega

theorem countP_eraseIdx {i : ℕ} {a : α} (h : l[i]? = some a) :
    (l.eraseIdx i).countP p + (if p a then 1 else 0) = l.countP p := by
  obtain ⟨hi, rfl⟩ := List.getElem?_eq_some_iff.mp h
  rw [← (List.getElem_cons_eraseIdx_perm hi).countP_eq p, List.countP_cons]

/-- A change that a function does not see does not change the image of the list. -/
theorem map_modify {β : Type v} {f : α → α} {g : α → β} (hg : ∀ a, g (f a) = g a) (i : ℕ) :
    (l.modify i f).map g = l.map g := by
  induction l generalizing i with
  | nil => rw [List.modify_nil]
  | cons b l ih =>
    cases i <;> simp [hg, ih]

end counting

section folds

variable {σ : Type u} {ι : Type v} {step : σ → ι → σ} {ok : σ → ι → Prop} {P : σ → Prop}

/-- Every pass of the loop `is.foldl step s` is made in a state where `ok` holds. -/
def AlongFold (step : σ → ι → σ) (ok : σ → ι → Prop) : σ → List ι → Prop
  | _, [] => True
  | s, i :: is => ok s i ∧ AlongFold step ok (step s i) is

theorem AlongFold.invariant {s : σ} {is : List ι} (h : AlongFold step ok s is) (hs : P s)
    (hstep : ∀ s i, P s → ok s i → P (step s i)) : P (is.foldl step s) := by
  induction is generalizing s with
  | nil => exact hs
  | cons i is ih => exact ih h.2 (hstep s i hs h.1)

/-- **The invariant rule for loops.**  The invariant may speak of the passes that are left. -/
theorem foldl_rule {P : σ → List ι → Prop} {s : σ} {is : List ι}
    (hstep : ∀ s i is, P s (i :: is) → P (step s i) is) (hs : P s is) : P (is.foldl step s) [] := by
  induction is generalizing s with
  | nil => exact hs
  | cons i is ih => exact ih (hstep s i is hs)

/-- **The invariant rule for loops that can fail.**  The invariant may speak of the passes that are left. -/
theorem foldlM_rule {f : σ → ι → Option σ} {P : σ → List ι → Prop} {s t : σ} {is : List ι}
    (hstep : ∀ s i is s', P s (i :: is) → f s i = some s' → P s' is) (hs : P s is) (h : is.foldlM f s = some t) :
    P t [] := by
  induction is generalizing s with
  | nil =>
    obtain rfl := Option.some_inj.mp h
    exact hs
  | cons i is ih =>
    rw [List.foldlM_cons] at h
    obtain ⟨s', hpass, hrest⟩ := Option.bind_eq_some_iff.mp h
    exact ih (hstep s i is s' hs hpass) hrest

theorem foldlM_invariant {f : σ → ι → Option σ} {s t : σ} {is : List ι}
    (hstep : ∀ s s', ∀ i ∈ is, P s → f s i = some s' → P s') (hs : P s) (h : is.foldlM f s = some t) : P t := by
  refine (foldlM_rule (P := fun s is' ↦ is' ⊆ is ∧ P s) (fun s i is' s' hP hpass ↦ ?_) ⟨List.Subset.refl is, hs⟩ h).2
  obtain ⟨hsub, hs⟩ := hP
  exact ⟨List.subset_of_cons_subset hsub, hstep s s' i (hsub List.mem_cons_self) hs hpass⟩

instance AlongFold.decidable [∀ s i, Decidable (ok s i)] :
    (s : σ) → (is : List ι) → Decidable (AlongFold step ok s is)
  | _, [] => isTrue trivial
  | s, i :: is =>
    have := AlongFold.decidable (step s i) is
    inferInstanceAs (Decidable (_ ∧ _))

end folds
