import Mathlib

/-!
# A `std::multimap` as a list

A multimap is the list of its entries in the order in which it is walked: by their keys, and entries of
one key in the order in which they were inserted.  `insert` is what `std::multimap::insert` does, it
puts the entry behind all entries whose key is not greater.
-/

namespace Multimap

universe u

variable {α β : Type u} {q : List (ℤ × α)} {p : ℤ × α → Bool} {t : ℤ} {a : α}

/-- Put an entry behind all entries with the same or a smaller key. -/
def insert (t : ℤ) (a : α) : List (ℤ × α) → List (ℤ × α)
  | [] => [(t, a)]
  | x :: q => if t < x.1 then (t, a) :: x :: q else x :: insert t a q

/-- The entries are in the order of their keys. -/
def Sorted (q : List (ℤ × α)) : Prop := q.Pairwise fun x y ↦ x.1 ≤ y.1

theorem insert_of_lt {x : ℤ × α} (h : t < x.1) : insert t a (x :: q) = (t, a) :: x :: q := if_pos h

theorem insert_of_le {x : ℤ × α} (h : x.1 ≤ t) : insert t a (x :: q) = x :: insert t a q := if_neg (Int.not_lt.mpr h)

theorem insert_perm (t : ℤ) (a : α) (q : List (ℤ × α)) : (insert t a q).Perm ((t, a) :: q) := by
  induction q with
  | nil => exact .refl _
  | cons x q ih =>
    rw [insert]
    split
    · exact .refl _
    · exact (ih.cons x).trans (.swap _ _ _)

theorem mem_insert {x : ℤ × α} : x ∈ insert t a q ↔ x = (t, a) ∨ x ∈ q := by
  simp [(insert_perm t a q).mem_iff]

theorem Sorted.insert (h : Sorted q) : Sorted (insert t a q) := by
  induction q with
  | nil => exact List.pairwise_singleton _ _
  | cons x q ih =>
    have hx := List.pairwise_cons.mp h
    rw [Multimap.insert]
    split
    · rename_i hlt
      refine List.pairwise_cons.mpr ⟨fun y hy ↦ ?_, h⟩
      rcases List.mem_cons.mp hy with rfl | hy
      · exact Int.le_of_lt hlt
      · exact Int.le_trans (Int.le_of_lt hlt) (hx.1 y hy)
    · rename_i hle
      refine List.pairwise_cons.mpr ⟨fun y hy ↦ ?_, ih hx.2⟩
      rcases mem_insert.mp hy with rfl | hy
      · exact Int.not_lt.mp hle
      · exact hx.1 y hy

/-- The entries that `p` picks, after one that it does not pick has come in. -/
theorem filter_insert_of_neg (h : p (t, a) = false) : (insert t a q).filter p = q.filter p := by
  induction q with
  | nil => rw [insert, List.filter_cons_of_neg (by rw [h]; exact Bool.false_ne_true)]
  | cons x q ih =>
    rw [insert]
    split
    · rw [List.filter_cons_of_neg (by rw [h]; exact Bool.false_ne_true)]
    · simp [List.filter_cons, ih]

/-- The entries that `p` picks, after the first one has come in. -/
theorem filter_insert_of_pos (h : p (t, a) = true) (hq : q.filter p = []) : (insert t a q).filter p = [(t, a)] := by
  induction q with
  | nil => rw [insert, List.filter_cons_of_pos h, List.filter_nil]
  | cons x q ih =>
    rw [insert]
    split
    · rw [List.filter_cons_of_pos h, hq]
    · have hx := List.filter_eq_nil_iff.mp hq
      rw [List.filter_cons_of_neg (hx x List.mem_cons_self), ih]
      exact List.filter_eq_nil_iff.mpr fun y hy ↦ hx y (List.mem_cons_of_mem _ hy)

/-! ## Several entries -/

/-- Put all entries of a list, one after the other. -/
def insertAll (q l : List (ℤ × α)) : List (ℤ × α) := l.foldl (fun q x ↦ insert x.1 x.2 q) q

theorem insertAll_perm (q l : List (ℤ × α)) : (insertAll q l).Perm (l ++ q) := by
  induction l generalizing q with
  | nil => exact .refl _
  | cons x l ih =>
    refine (ih (insert x.1 x.2 q)).trans ?_
    exact ((insert_perm x.1 x.2 q).append_left l).trans List.perm_middle

theorem Sorted.insertAll {l : List (ℤ × α)} (h : Sorted q) : Sorted (insertAll q l) := by
  induction l generalizing q with
  | nil => exact h
  | cons x l ih => exact ih h.insert

/-! ## Iterators -/

/-- How many entries `insert` goes past. -/
def position (t : ℤ) (q : List (ℤ × α)) : ℕ := (q.takeWhile fun x ↦ decide (x.1 ≤ t)).length

/-- Where an iterator is after an entry has come in: it stays at the entry that it was at. -/
def stay (t : ℤ) (q : List (ℤ × α)) (itr : ℕ) : ℕ := if position t q ≤ itr then itr + 1 else itr

theorem position_cons_of_le {x : ℤ × α} (h : x.1 ≤ t) : position t (x :: q) = position t q + 1 := by
  rw [position, List.takeWhile_cons, decide_eq_true h]
  rfl

theorem position_cons_of_lt {x : ℤ × α} (h : t < x.1) : position t (x :: q) = 0 := by
  rw [position, List.takeWhile_cons, decide_eq_false (Int.not_le.mpr h)]
  rfl

theorem getElem?_insert_stay {itr : ℕ} (h : itr < q.length) : (insert t a q)[stay t q itr]? = q[itr]? := by
  induction q generalizing itr with
  | nil => exact absurd h (Nat.not_lt_zero _)
  | cons x q ih =>
    rcases Int.lt_or_le t x.1 with hlt | hle
    · simp [insert_of_lt hlt, stay, position_cons_of_lt hlt, (Nat.zero_le _)]
    · rw [insert_of_le hle, stay, position_cons_of_le hle]
      cases itr with
      | zero => rfl
      | succ itr =>
        have ih := ih (Nat.lt_of_succ_lt_succ h)
        rw [stay] at ih
        split
        · rename_i hpos
          simpa [(Nat.le_of_succ_le_succ hpos)] using ih
        · rename_i hpos
          rw [if_neg fun hle ↦ hpos (Nat.succ_le_succ hle)] at ih
          exact ih

/-- An entry that is not before the one at the iterator comes in behind the iterator. -/
theorem drop_insert {itr : ℕ} {x : ℤ × α} (hq : Sorted q) (hx : q[itr]? = some x) (hle : x.1 ≤ t) :
    stay t q itr = itr ∧ (insert t a q).drop itr = insert t a (q.drop itr) := by
  induction q generalizing itr with
  | nil => cases hx
  | cons y q ih =>
    have hy := List.pairwise_cons.mp hq
    cases itr with
    | zero =>
      obtain rfl := Option.some.inj hx
      refine ⟨?_, rfl⟩
      rw [stay, position_cons_of_le hle, if_neg (Nat.not_succ_le_zero _)]
    | succ itr =>
      have hyt : y.1 ≤ t := (hy.1 x (List.mem_of_getElem? hx)).trans hle
      obtain ⟨hstay, hdrop⟩ := ih hy.2 hx
      refine ⟨?_, by rw [insert_of_le hyt, List.drop_succ_cons, hdrop, List.drop_succ_cons]⟩
      have hnot : ¬ position t q ≤ itr := fun hpos ↦ by
        rw [stay, if_pos hpos] at hstay
        exact Nat.succ_ne_self itr hstay
      rw [stay, position_cons_of_le hyt, if_neg fun hpos ↦ hnot (Nat.le_of_succ_le_succ hpos)]

/-! ## Other values under the same keys -/

/-- Replace the values. -/
def mapValues (f : α → β) (q : List (ℤ × α)) : List (ℤ × β) := q.map fun x ↦ (x.1, f x.2)

theorem mapValues_insert (f : α → β) (t : ℤ) (a : α) (q : List (ℤ × α)) :
    mapValues f (insert t a q) = insert t (f a) (mapValues f q) := by
  induction q with
  | nil => rfl
  | cons x q ih =>
    rw [insert]
    split
    · rename_i hlt
      exact (insert_of_lt (x := (x.1, f x.2)) hlt).symm
    · rename_i hle
      refine (congrArg _ ih).trans ?_
      exact (insert_of_le (x := (x.1, f x.2)) (Int.not_lt.mp hle)).symm

theorem mapValues_insertAll (f : α → β) (q l : List (ℤ × α)) :
    mapValues f (insertAll q l) = insertAll (mapValues f q) (mapValues f l) := by
  induction l generalizing q with
  | nil => rfl
  | cons x l ih =>
    refine (ih (insert x.1 x.2 q)).trans ?_
    rw [mapValues_insert]
    rfl

theorem mapValues_filter {f : α → β} {p : β → Bool} {p' : α → Bool} (h : ∀ a, p (f a) = p' a) (q : List (ℤ × α)) :
    (mapValues f q).filter (fun x ↦ p x.2) = mapValues f (q.filter fun x ↦ p' x.2) := by
  rw [mapValues, List.filter_map]
  exact congrArg _ (List.filter_congr fun x _ ↦ h x.2)

end Multimap
