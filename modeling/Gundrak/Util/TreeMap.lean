import Mathlib

/-!
# Reading tree maps after a write

The containers of the server are `std::map`s, modelled by `Std.ExtTreeMap`.  Its lookup lemmas speak of
the comparison of two keys; for an order that tells all keys apart they are about equality, and that
is the form the proofs use.
-/

open Std (ExtTreeMap TransCmp LawfulEqCmp)

namespace TreeMap

universe u v

variable {α : Type u} {β : Type v} {cmp : α → α → Ordering}
variable [TransCmp cmp] [LawfulEqCmp cmp] [DecidableEq α]

section

variable (m : ExtTreeMap α β cmp) (k a : α)

theorem get_insert (v : β) : (m.insert k v)[a]? = if k = a then some v else m[a]? := by
  simp [ExtTreeMap.getElem?_insert, LawfulEqCmp.compare_eq_iff_eq]

theorem get_erase : (m.erase k)[a]? = if k = a then none else m[a]? := by
  simp [ExtTreeMap.getElem?_erase, LawfulEqCmp.compare_eq_iff_eq]

theorem get_modify (f : β → β) : (m.modify k f)[a]? = if k = a then (m[k]?).map f else m[a]? := by
  rw [ExtTreeMap.getElem?_modify]
  by_cases h : k = a
  · subst h
    simp
  · simp [LawfulEqCmp.compare_eq_iff_eq, h]

end

omit [DecidableEq α] [LawfulEqCmp cmp] in
theorem mem_iff (m : ExtTreeMap α β cmp) (a : α) : a ∈ m ↔ ∃ v, m[a]? = some v := by
  rw [ExtTreeMap.mem_iff_isSome_getElem?, Option.isSome_iff_exists]

omit [DecidableEq α] [LawfulEqCmp cmp] in
theorem get_of_size_eq_zero {m : ExtTreeMap α β cmp} (h : m.size = 0) (a : α) : m[a]? = none := by
  rw [ExtTreeMap.eq_empty_iff_size_eq_zero.mpr h, ExtTreeMap.getElem?_empty]

omit [DecidableEq α] [LawfulEqCmp cmp] in
theorem size_erase_of_mem {m : ExtTreeMap α β cmp} {a : α} (h : a ∈ m) : (m.erase a).size + 1 = m.size := by
  have hpos : m.size ≠ 0 := fun h0 ↦ by
    simp [ExtTreeMap.eq_empty_iff_size_eq_zero.mpr h0, ExtTreeMap.not_mem_empty] at h
  rw [ExtTreeMap.size_erase, if_pos (ExtTreeMap.contains_iff_mem.mpr h)]
  omega

omit [DecidableEq α] in
theorem forall_get_iff (m : ExtTreeMap α β cmp) (P : α → β → Prop) :
    (∀ k v, m[k]? = some v → P k v) ↔ ∀ p ∈ m.toList, P p.1 p.2 := by
  constructor
  · intro h p hp
    exact h p.1 p.2 (ExtTreeMap.mem_toList_iff_getElem?_eq_some.mp hp)
  · intro h k v hk
    exact h (k, v) (ExtTreeMap.mem_toList_iff_getElem?_eq_some.mpr hk)

omit [DecidableEq α] in
theorem fst_toList_nodup (m : ExtTreeMap α β cmp) : (m.toList.map Prod.fst).Nodup := by
  rw [List.Nodup, List.pairwise_map]
  exact ExtTreeMap.distinct_keys_toList.imp fun hne heq ↦ hne (LawfulEqCmp.compare_eq_iff_eq.mpr heq)

/-- The entries with a value of some kind are as many as the keys that lead to such a value. -/
theorem length_filter_toList (m : ExtTreeMap α β cmp) (p : β → Bool) {s : Finset α}
    (hs : ∀ a, a ∈ s ↔ ∃ v, m[a]? = some v ∧ p v = true) :
    (m.toList.filter fun e ↦ p e.2).length = s.card := by
  have hnodup : ((m.toList.filter fun e ↦ p e.2).map Prod.fst).Nodup :=
    (fst_toList_nodup m).sublist (List.filter_sublist.map _)
  have hkeys : ((m.toList.filter fun e ↦ p e.2).map Prod.fst).toFinset = s := by
    ext a
    rw [List.mem_toFinset, List.mem_map, hs]
    constructor
    · rintro ⟨e, he, rfl⟩
      obtain ⟨hmem, hp⟩ := List.mem_filter.mp he
      exact ⟨e.2, ExtTreeMap.mem_toList_iff_getElem?_eq_some.mp hmem, hp⟩
    · rintro ⟨v, hv, hp⟩
      exact ⟨(a, v), List.mem_filter.mpr ⟨ExtTreeMap.mem_toList_iff_getElem?_eq_some.mpr hv, hp⟩, rfl⟩
  rw [← hkeys, List.toFinset_card_of_nodup hnodup, List.length_map]

end TreeMap
