import Gundrak.Util.TreeMap

/-!
# Totals over tree maps

`TreeMap.total m f` adds up `f` over the entries of a map.  An account of what is in a map is such a
total, and the rules below say what the operations on maps do to it: `total_insert` and `total_erase`
for an entry that comes or goes, `total_replace` for one that is changed where it is.  They are stated
without subtraction, so that they hold in every commutative monoid.
-/

open Std (ExtTreeMap TransCmp LawfulEqCmp)

namespace TreeMap

universe u v w

variable {α : Type u} {β : Type v} {M : Type w} {cmp : α → α → Ordering}
variable [TransCmp cmp] [LawfulEqCmp cmp]

/-- The sum of `f` over the entries of a map. -/
def total [AddCommMonoid M] (m : ExtTreeMap α β cmp) (f : α → β → M) : M := (m.toList.map fun p ↦ f p.1 p.2).sum

omit [LawfulEqCmp cmp] in
theorem nodup_toList (m : ExtTreeMap α β cmp) : m.toList.Nodup := by
  have hkeys : (m.toList.map Prod.fst).Nodup := by
    rw [ExtTreeMap.map_fst_toList_eq_keys]
    exact ExtTreeMap.nodup_keys
  exact List.Nodup.of_map Prod.fst hkeys

/-- Up to their order, the entries after an insertion are the new one and those from before. -/
theorem toList_insert_perm [DecidableEq α] {m : ExtTreeMap α β cmp} {k : α} (v : β)
    (h : m[k]? = none) : (m.insert k v).toList.Perm ((k, v) :: m.toList) := by
  have hnot : ∀ w : β, (k, w) ∉ m.toList := by
    intro w hw
    rw [ExtTreeMap.mem_toList_iff_getElem?_eq_some, h] at hw
    simp at hw
  refine (List.perm_ext_iff_of_nodup (nodup_toList _)
    (List.nodup_cons.mpr ⟨hnot v, nodup_toList m⟩)).mpr ?_
  rintro ⟨a, w⟩
  rw [List.mem_cons, ExtTreeMap.mem_toList_iff_getElem?_eq_some, ExtTreeMap.mem_toList_iff_getElem?_eq_some, get_insert]
  by_cases ha : k = a
  · subst ha
    simp [h, eq_comm]
  · simp [ha, Ne.symm ha]

section total

variable [AddCommMonoid M] {m : ExtTreeMap α β cmp} {f g : α → β → M} {k : α} {v : β}

omit [LawfulEqCmp cmp] in
@[simp] theorem total_empty : total (∅ : ExtTreeMap α β cmp) f = 0 := rfl

theorem total_congr (h : ∀ k v, m[k]? = some v → f k v = g k v) : total m f = total m g := by
  refine congrArg List.sum (List.map_congr_left ?_)
  rintro ⟨k, v⟩ hp
  exact h k v (ExtTreeMap.mem_toList_iff_getElem?_eq_some.mp hp)

omit [LawfulEqCmp cmp] in
theorem total_add : total m (fun k v ↦ f k v + g k v) = total m f + total m g := List.sum_map_add

variable [DecidableEq α]

theorem total_insert (h : m[k]? = none) : total (m.insert k v) f = total m f + f k v := by
  rw [total, ((toList_insert_perm v h).map _).sum_eq, List.map_cons, List.sum_cons, add_comm]
  rfl

theorem insert_erase (h : m[k]? = some v) : (m.erase k).insert k v = m := by
  refine ExtTreeMap.ext_getElem? fun a ↦ ?_
  rw [get_insert, get_erase]
  by_cases ha : k = a
  · rw [if_pos ha, ← ha, h]
  · simp [ha]

theorem total_erase (h : m[k]? = some v) : total (m.erase k) f + f k v = total m f := by
  have hk : (m.erase k)[k]? = none := by rw [get_erase, if_pos rfl]
  rw [← total_insert (f := f) hk, insert_erase h]

theorem total_replace (h : m[k]? = some v) (v' : β) : total (m.insert k v') f + f k v = total m f + f k v' := by
  have hk : (m.erase k)[k]? = none := by rw [get_erase, if_pos rfl]
  have hinsert : m.insert k v' = (m.erase k).insert k v' := by
    refine ExtTreeMap.ext_getElem? fun a ↦ ?_
    rw [get_insert, get_insert, get_erase]
    split_ifs <;> simp
  rw [hinsert, total_insert hk, add_right_comm, total_erase h]

theorem modify_eq_insert {g : β → β} (h : m[k]? = some v) : m.modify k g = m.insert k (g v) := by
  refine ExtTreeMap.ext_getElem? fun a ↦ ?_
  rw [get_modify, get_insert, h]
  rfl

omit [DecidableEq α] [LawfulEqCmp cmp] in
theorem total_one : total m (fun _ _ ↦ 1) = m.size := by
  simp [total, ExtTreeMap.length_toList]

omit [DecidableEq α] [LawfulEqCmp cmp] in
theorem total_le_total {f g : α → β → ℕ} (h : ∀ k v, f k v ≤ g k v) : total m f ≤ total m g :=
  List.sum_le_sum fun p _ ↦ h p.1 p.2

omit [DecidableEq α] in
theorem le_total {f : α → β → ℕ} (h : m[k]? = some v) : f k v ≤ total m f := List.single_le_sum (by simp) _
    (List.mem_map.mpr ⟨(k, v), ExtTreeMap.mem_toList_iff_getElem?_eq_some.mpr h, rfl⟩)

end total

end TreeMap
