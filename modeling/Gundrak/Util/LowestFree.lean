import Mathlib

/-!
# The lowest number that is free

Numbers from 1 on are used and given back.  A bitset says which of them are free, as far as it goes, and the
lowest free number is kept beside it.  The first half of this file is about the numbers: how the lowest free
one moves when it is used and when a number is given back, and that it is at most one more than the count of
numbers in use.  The second half is about the bitset: what the search for the next bit that is set finds.
-/

namespace LowestFree

/-! ## Numbers in use -/

/-- The numbers that are free, next to those in use. -/
def free (used : Finset ℕ) : Set ℕ := {n | 0 < n ∧ n ∉ used}

variable {used : Finset ℕ} {n m : ℕ}

theorem mem_free : n ∈ free used ↔ 0 < n ∧ n ∉ used := Iff.rfl

section

variable (h : IsLeast (free used) n)
include h

/-- All numbers below the lowest free one are in use, so there are not many. -/
theorem le_card_add_one : n ≤ used.card + 1 := by
  have hsub : Finset.Ico 1 n ⊆ used := by
    intro i hi
    rw [Finset.mem_Ico] at hi
    by_contra hused
    exact (h.2 (mem_free.mpr ⟨hi.1, hused⟩)).not_gt hi.2
  have hcard := Finset.card_le_card hsub
  rw [Nat.card_Ico] at hcard
  omega

/-- **The lowest free number is used**: the next free one above it is the lowest then. -/
theorem isLeast_insert (hnm : n < m) (hm : m ∉ used)
    (hbetween : ∀ i, n < i → i < m → i ∈ used) : IsLeast (free (insert n used)) m := by
  refine ⟨⟨h.1.1.trans hnm, ?_⟩, fun i hi ↦ ?_⟩
  · rw [Finset.mem_insert, not_or]
    exact ⟨hnm.ne', hm⟩
  · rw [mem_free, Finset.mem_insert, not_or] at hi
    have hle : n ≤ i := h.2 ⟨hi.1, hi.2.2⟩
    by_contra hlt
    exact hi.2.2 (hbetween i (lt_of_le_of_ne hle (Ne.symm hi.2.1)) (not_le.mp hlt))

/-- **Another number is used**: the lowest free one stays. -/
theorem isLeast_insert_of_ne (hne : n ≠ m) : IsLeast (free (insert m used)) n := by
  refine ⟨⟨h.1.1, ?_⟩, fun i hi ↦ h.2 ⟨hi.1, fun hused ↦ hi.2 (Finset.mem_insert_of_mem hused)⟩⟩
  rw [Finset.mem_insert, not_or]
  exact ⟨hne, h.1.2⟩

/-- **A number is given back**: it is the lowest free one if it is below. -/
theorem isLeast_erase (hm : 0 < m) : IsLeast (free (used.erase m)) (min m n) := by
  constructor
  · rcases le_total m n with hle | hle
    · rw [min_eq_left hle]
      exact ⟨hm, Finset.notMem_erase m used⟩
    · rw [min_eq_right hle]
      exact ⟨h.1.1, fun hused ↦ h.1.2 (Finset.mem_of_mem_erase hused)⟩
  · intro i hi
    rcases eq_or_ne i m with rfl | hne
    · exact min_le_left _ _
    · have hused : i ∉ used := fun hused ↦ hi.2 (Finset.mem_erase.mpr ⟨hne, hused⟩)
      exact (min_le_right _ _).trans (h.2 ⟨hi.1, hused⟩)

end

/-! ## The bitset -/

/-- The first bit that is set, strictly after a position. -/
def findNext (bits : List Bool) (pos : ℕ) : Option ℕ := ((bits.drop (pos + 1)).findIdx? id).map (pos + 1 + ·)

variable {bits : List Bool} {pos : ℕ}

theorem findNext_eq_some (h : findNext bits pos = some n) :
    pos < n ∧ bits[n]? = some true ∧ ∀ i, pos < i → i < n → bits[i]? = some false := by
  obtain ⟨k, hk, rfl⟩ := Option.map_eq_some_iff.mp h
  obtain ⟨hlt, hset, hbefore⟩ := List.findIdx?_eq_some_iff_getElem.mp hk
  have hget : ∀ j, (bits.drop (pos + 1))[j]? = bits[pos + 1 + j]? := fun j ↦ List.getElem?_drop
  refine ⟨by omega, ?_, fun i hi hik ↦ ?_⟩
  · rw [← hget, List.getElem?_eq_getElem hlt, Option.some_inj]
    exact hset
  · have hj : i - (pos + 1) < k := by omega
    have hi' : pos + 1 + (i - (pos + 1)) = i := by omega
    have hclear := hbefore (i - (pos + 1)) hj
    rw [← hi', ← hget, List.getElem?_eq_getElem (hj.trans hlt), Option.some_inj]
    exact eq_false_of_ne_true hclear

theorem findNext_eq_none (h : findNext bits pos = none) (hpos : pos < n) (hn : n < bits.length) :
    bits[n]? = some false := by
  have hclear := List.findIdx?_eq_none_iff.mp (Option.map_eq_none_iff.mp h)
  have hget : (bits.drop (pos + 1))[n - (pos + 1)]? = bits[n]? := by
    have hn' : pos + 1 + (n - (pos + 1)) = n := by omega
    simp [hn']
  rw [List.getElem?_eq_getElem hn] at hget ⊢
  exact congrArg some (hclear _ (List.mem_of_getElem? hget))

/-- The bits that are set are those of the free numbers, and no number in use is outside. -/
structure Marks (bits : List Bool) (used : Finset ℕ) : Prop where
  bit : ∀ i < bits.length, bits[i]? = some (decide (0 < i ∧ i ∉ used))
  inside : ∀ i ∈ used, i < bits.length

namespace Marks

theorem eq_true_iff (h : Marks bits used) (hn : n < bits.length) : bits[n]? = some true ↔ n ∈ free used := by
  rw [h.bit n hn, Option.some_inj, decide_eq_true_iff]
  exact Iff.rfl

theorem mem_of_eq_false (h : Marks bits used) (hpos : 0 < n) (hclear : bits[n]? = some false) : n ∈ used := by
  have hn : n < bits.length := (List.getElem?_eq_some_iff.mp hclear).1
  by_contra hused
  simp [(h.eq_true_iff hn).mpr ⟨hpos, hused⟩] at hclear

private theorem getElem?_set_of_lt {b : Bool} (hn : n < bits.length) {i : ℕ} :
    (bits.set n b)[i]? = if n = i then some b else bits[i]? := by
  rw [List.getElem?_set, if_pos hn]

theorem insert (h : Marks bits used) (hn : n < bits.length) : Marks (bits.set n false) (insert n used) := by
  refine ⟨fun i hi ↦ ?_, fun i hi ↦ ?_⟩
  · rw [List.length_set] at hi
    rw [getElem?_set_of_lt hn, h.bit i hi]
    split
    · rename_i heq
      simp [heq]
    · rename_i hne
      simp [Ne.symm hne]
  · rw [List.length_set]
    rcases Finset.mem_insert.mp hi with rfl | hi
    · exact hn
    · exact h.inside i hi

theorem erase (h : Marks bits used) (hpos : 0 < n) (hn : n < bits.length) : Marks (bits.set n true) (used.erase n) := by
  refine ⟨fun i hi ↦ ?_, fun i hi ↦ ?_⟩
  · rw [List.length_set] at hi
    rw [getElem?_set_of_lt hn, h.bit i hi]
    split
    · rename_i heq
      simp [← heq, hpos]
    · rename_i hne
      simp [Ne.symm hne]
  · rw [List.length_set]
    exact h.inside i (Finset.mem_of_mem_erase hi)

theorem push (h : Marks bits used) (hpos : 0 < bits.length) : Marks (bits ++ [true]) used := by
  refine ⟨fun i hi ↦ ?_, fun i hi ↦ ?_⟩
  · rw [List.length_append, List.length_singleton] at hi
    rcases Nat.lt_succ_iff_lt_or_eq.mp hi with hlt | rfl
    · rw [List.getElem?_append_left hlt, h.bit i hlt]
    · have hnot : bits.length ∉ used := fun hused ↦ (h.inside _ hused).false
      simp [hpos, hnot]
  · rw [List.length_append]
    exact (h.inside i hi).trans_le (Nat.le_add_right _ _)

/-- **The next free number is searched for**, after the lowest one has been used: what is found is the lowest
one then. -/
theorem isLeast_of_findNext (h : Marks bits (Insert.insert n used)) (hleast : IsLeast (free used) n)
    (hfound : findNext bits n = some m) : IsLeast (free (Insert.insert n used)) m := by
  obtain ⟨hlt, hset, hbetween⟩ := findNext_eq_some hfound
  have hm : m < bits.length := (List.getElem?_eq_some_iff.mp hset).1
  have hfree := (h.eq_true_iff hm).mp hset
  refine isLeast_insert hleast hlt (fun hused ↦ hfree.2 (Finset.mem_insert_of_mem hused)) fun i hi him ↦ ?_
  have hused := h.mem_of_eq_false (by omega) (hbetween i hi him)
  exact (Finset.mem_insert.mp hused).resolve_left hi.ne'

/-- **No free number is found**: the first one outside the bitset is the lowest one then. -/
theorem isLeast_of_findNext_none (h : Marks bits (Insert.insert n used)) (hleast : IsLeast (free used) n)
    (hn : n < bits.length) (hnone : findNext bits n = none) :
    IsLeast (free (Insert.insert n used)) bits.length := by
  have houtside : bits.length ∉ used := fun hused ↦ (h.inside _ (Finset.mem_insert_of_mem hused)).false
  refine isLeast_insert hleast hn houtside fun i hi hlt ↦ ?_
  have hused := h.mem_of_eq_false (by omega) (findNext_eq_none hnone hi hlt)
  exact (Finset.mem_insert.mp hused).resolve_left hi.ne'

end Marks

end LowestFree
