import Mathlib

/-!
# A pool of numbers that are used again

A pool hands out numbers.  Numbers that have been given back wait in a queue and are handed out first; when
none waits, the greatest number so far is counted up.  The greatest number itself does not wait when it is
given back, the counter is set back instead.  The counter is a word that can wrap, in both directions.

`Fresh` is what holds of a pool next to the numbers that are in use, as long as only those are given back and
the word is large enough: all numbers in use and waiting are different, not zero and not above the counter.
-/

/-- The numbers that wait, the greatest number so far, and whether the counter has ever wrapped. -/
structure IdPool where
  free : List ℕ
  max : ℕ
  wrapped : Bool
  deriving DecidableEq

namespace IdPool

/-- A number is handed out.  The counter wraps at `limit`. -/
def get (limit : ℕ) (p : IdPool) : ℕ × IdPool :=
  match p.free with
  | [] =>
    ((p.max + 1) % limit,
      { p with max := (p.max + 1) % limit, wrapped := p.wrapped || (p.max + 1 == limit) })
  | id :: free => (id, { p with free := free })

/-- A number is given back. -/
def release (limit : ℕ) (p : IdPool) (id : ℕ) : IdPool :=
  if id = p.max then
    { p with max := (p.max + limit - 1) % limit, wrapped := p.wrapped || (p.max == 0) }
  else { p with free := p.free ++ [id] }

/-- A pool for numbers that are in use already: what is missing below the greatest one waits. -/
def load (ids : List ℕ) : IdPool :=
  let max := ids.foldr Nat.max 0
  ⟨(List.range max).filter fun id ↦ id ≠ 0 ∧ id ∉ ids, max, false⟩

/-- How many numbers are left. -/
def room (limit : ℕ) (p : IdPool) : ℕ := p.free.length + (limit - 1 - p.max)

/-- A pool next to the numbers in use. -/
structure Fresh (limit : ℕ) (p : IdPool) (used : List ℕ) : Prop where
  nodup : (used ++ p.free).Nodup
  ne_zero : ∀ id ∈ used ++ p.free, id ≠ 0
  le_max : ∀ id ∈ used ++ p.free, id ≤ p.max
  max_lt : p.max < limit
  wrapped : p.wrapped = false

variable {limit : ℕ} {p : IdPool} {used used' : List ℕ} {id : ℕ}

theorem room_le_get (limit : ℕ) (p : IdPool) : room limit p ≤ room limit (p.get limit).2 + 1 := by
  rw [IdPool.get, room, room]
  split
  · rename_i hfree
    have hmod : (p.max + 1) % limit ≤ p.max + 1 := Nat.mod_le _ _
    simp only [hfree, List.length_nil]
    omega
  · rename_i hfree
    simp only [hfree, List.length_cons]
    omega

namespace Fresh

theorem perm (h : Fresh limit p used) (hperm : used.Perm used') : Fresh limit p used' := by
  have hall := hperm.append_right p.free
  exact ⟨hall.nodup_iff.mp h.nodup, fun id hid ↦ h.ne_zero id (hall.mem_iff.mpr hid),
    fun id hid ↦ h.le_max id (hall.mem_iff.mpr hid), h.max_lt, h.wrapped⟩

/-- **A number that is handed out** was not in use. -/
theorem get (h : Fresh limit p used) (hroom : 0 < room limit p) :
    Fresh limit (p.get limit).2 ((p.get limit).1 :: used) := by
  rw [IdPool.get]
  split
  · rename_i hfree
    have hlt : p.max + 1 < limit := by
      rw [room, hfree, List.length_nil] at hroom
      omega
    have hused : ∀ id ∈ used, id ≤ p.max := fun id hid ↦ h.le_max id (List.mem_append_left _ hid)
    have hnodup : used.Nodup := (List.nodup_append.mp h.nodup).1
    simp only [hfree, Nat.mod_eq_of_lt hlt, h.wrapped, Bool.false_or]
    refine ⟨?_, ?_, ?_, hlt, ?_⟩
    · rw [List.append_nil]
      refine List.nodup_cons.mpr ⟨fun hmem ↦ ?_, hnodup⟩
      exact Nat.not_succ_le_self _ (hused _ hmem)
    · intro id hid
      rw [List.append_nil] at hid
      rcases List.mem_cons.mp hid with rfl | hid
      · exact Nat.succ_ne_zero _
      · exact h.ne_zero id (List.mem_append_left _ hid)
    · intro id hid
      rw [List.append_nil] at hid
      rcases List.mem_cons.mp hid with rfl | hid
      · exact le_rfl
      · exact (hused id hid).trans (Nat.le_succ _)
    · exact beq_eq_false_iff_ne.mpr hlt.ne
  · rename_i id free hfree
    have hperm : (used ++ id :: free).Perm (id :: used ++ free) := List.perm_middle
    have hnodup := h.nodup
    have hne := h.ne_zero
    have hle := h.le_max
    rw [hfree] at hnodup hne hle
    exact ⟨hperm.nodup_iff.mp hnodup, fun i hi ↦ hne i (hperm.mem_iff.mpr hi),
      fun i hi ↦ hle i (hperm.mem_iff.mpr hi), h.max_lt, h.wrapped⟩

/-- **A number that is given back** is not in use any more. -/
theorem release (h : Fresh limit p (id :: used)) : Fresh limit (p.release limit id) used := by
  have hnodup := List.nodup_cons.mp h.nodup
  have hne : ∀ i ∈ used ++ p.free, i ≠ id := fun i hi heq ↦ hnodup.1 (heq ▸ hi)
  rw [IdPool.release]
  split
  · rename_i heq
    have hpos : p.max ≠ 0 := heq ▸ h.ne_zero id List.mem_cons_self
    have hmax := h.max_lt
    have hmod : (p.max + limit - 1) % limit = p.max - 1 := by
      have hsum : p.max + limit - 1 = p.max - 1 + limit := by omega
      rw [hsum, Nat.add_mod_right, Nat.mod_eq_of_lt (by omega)]
    refine ⟨hnodup.2, fun i hi ↦ h.ne_zero i (List.mem_cons_of_mem _ hi), fun i hi ↦ ?_, ?_, ?_⟩
    · have hle := h.le_max i (List.mem_cons_of_mem _ hi)
      have hother := hne i hi
      dsimp only
      omega
    · dsimp only
      omega
    · simpa [h.wrapped] using hpos
  · have hperm : (id :: used ++ p.free).Perm (used ++ (p.free ++ [id])) := by
      rw [← List.append_assoc]
      exact (List.perm_append_singleton id (used ++ p.free)).symm
    exact ⟨hperm.nodup_iff.mp h.nodup, fun i hi ↦ h.ne_zero i (hperm.mem_iff.mpr hi),
      fun i hi ↦ h.le_max i (hperm.mem_iff.mpr hi), h.max_lt, h.wrapped⟩

theorem le_foldr_max {ids : List ℕ} (hid : id ∈ ids) : id ≤ ids.foldr Nat.max 0 := by
  induction ids with
  | nil => cases hid
  | cons i ids ih =>
    rcases List.mem_cons.mp hid with rfl | hid
    · exact Nat.le_max_left _ _
    · exact (ih hid).trans (Nat.le_max_right _ _)

theorem foldr_max_lt {ids : List ℕ} (hlimit : 0 < limit) (hlt : ∀ id ∈ ids, id < limit) :
    ids.foldr Nat.max 0 < limit := by
  induction ids with
  | nil => exact hlimit
  | cons i ids ih =>
    exact Nat.max_lt.mpr ⟨hlt i List.mem_cons_self, ih fun id hid ↦ hlt id (List.mem_cons_of_mem _ hid)⟩

/-- **A pool for numbers in use**, which are different and not zero. -/
theorem load {ids : List ℕ} (hlimit : 0 < limit) (hnodup : ids.Nodup) (hne : ∀ id ∈ ids, id ≠ 0)
    (hlt : ∀ id ∈ ids, id < limit) : Fresh limit (load ids) ids := by
  have hfree : ∀ id ∈ (IdPool.load ids).free, id < (IdPool.load ids).max ∧ id ≠ 0 ∧ id ∉ ids := by
    intro id hid
    obtain ⟨hrange, hmissing⟩ := List.mem_filter.mp hid
    exact ⟨List.mem_range.mp hrange, of_decide_eq_true hmissing⟩
  refine ⟨?_, fun id hid ↦ ?_, fun id hid ↦ ?_, foldr_max_lt hlimit hlt, rfl⟩
  · refine List.nodup_append.mpr ⟨hnodup, List.nodup_range.filter _, ?_⟩
    rintro id hid i hi rfl
    exact (hfree id hi).2.2 hid
  · rcases List.mem_append.mp hid with hid | hid
    · exact hne id hid
    · exact (hfree id hid).2.1
  · rcases List.mem_append.mp hid with hid | hid
    · exact le_foldr_max hid
    · exact (hfree id hid).1.le

end Fresh

end IdPool
