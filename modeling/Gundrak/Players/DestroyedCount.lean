import Gundrak.Players.DestroyedItems
import Gundrak.Players.StackTally
import Gundrak.Players.StoreConservation

/-!
# How much is destroyed

`DestroyItemCount` should remove the count it is asked for, or all there is, and nothing else.

`stackAt` is the stack that a search finds at a slot, and `Tracks` says that a tally of stacks is that of what
has happened to the items: `search_tracks` for one search, `foldl_search_tracks` for many, as long as no slot
is touched by the search of another one.  That is so before the equipment and from there on, and what is in
the bags when the equipment is searched is known, by `get_slotsBefore`.  **`DestroyItemCount_tracks`** puts
the two parts together.

**`DestroyItemCount_exact_iff`** is the result.  There are three ways to go wrong.  A stack in the equipment
that is larger than the rest is made smaller although it cannot be unequipped; a bag that is destroyed takes
along what is in it; and counts can be so large that a sum does not fit into 32 bits.
-/

open Std (ExtTreeMap)

namespace Gundrak.Players

/-! ## Destroying an item -/

namespace Player

section count

variable (mgr : ObjectMgr) (player : Player) (entry : ℕ)

theorem itemCount_RemoveItem (bag slot : ℕ) : itemCount (player.RemoveItem mgr bag slot).items entry +
      (((player.GetItemByPos mgr bag slot).toList.filter (·.entry = entry)).map (·.count)).sum =
      itemCount player.items entry := by
  rw [RemoveItem]
  cases hitem : player.GetItemByPos mgr bag slot with
  | none => rfl
  | some item =>
    have hslot := hasSlot_of_GetItemByPos hitem
    have hbag : bag = INVENTORY_SLOT_BAG_0 ∨ (player.GetBagByPos mgr bag).isSome = true := by
      by_cases hbag : bag = INVENTORY_SLOT_BAG_0
      · exact .inl hbag
      · exact .inr (GetBagByPos_isSome hslot hbag)
    rw [GetItemByPos_of_hasSlot hslot] at hitem
    rw [if_pos hbag]
    rw [← itemCount_erase hitem entry]
    by_cases hentry : item.entry = entry <;> simp [hentry]

end count

variable {mgr : ObjectMgr} {player : Player} {entry : ℕ}

theorem GetItemByPos_RemoveItem {bag i j : ℕ} (hbag : bag < INVENTORY_SLOT_BAG_0) (hi : i < 256) (hj : j < 256)
    (hne : i ≠ j) :
    (player.RemoveItem mgr bag i).GetItemByPos mgr bag j = player.GetItemByPos mgr bag j := by
  refine GetItemByPos_congr ?_ (.inr ?_)
  · rw [get_RemoveItem, if_neg fun h ↦ hne ?_]
    rw [← makePos_mod (i := bag) hi, h.2, makePos_mod hj]
  · rw [get_RemoveItem, if_neg fun h ↦ hbag.ne ?_]
    rw [← makePos_div (i := bag) hi, h.2, makePos_div (hbag.trans (by decide))]

variable (mgr player) in
/-- Emptying some slots of a bag leaves the other ones as they are. -/
theorem itemsIn_RemoveItem {bag i : ℕ} (hbag : bag < INVENTORY_SLOT_BAG_0) {slots : List ℕ}
    (hslots : ∀ j ∈ i :: slots, j < 256) (hi : i ∉ slots) :
    (player.RemoveItem mgr bag i).itemsIn mgr bag slots = player.itemsIn mgr bag slots :=
  List.filterMap_congr fun j hj ↦ GetItemByPos_RemoveItem hbag (hslots i List.mem_cons_self)
    (hslots j (List.mem_cons_of_mem i hj)) fun hij ↦ hi (hij ▸ hj)

variable (mgr player entry) in
theorem itemCount_foldl_RemoveItem {bag : ℕ} (hbag : bag < INVENTORY_SLOT_BAG_0) {slots : List ℕ}
    (hslots : ∀ i ∈ slots, i < 256) (hnodup : slots.Nodup) :
    itemCount (slots.foldl (fun player i ↦ player.RemoveItem mgr bag i) player).items entry +
      (((player.itemsIn mgr bag slots).filter (·.entry = entry)).map (·.count)).sum =
      itemCount player.items entry := by
  induction slots generalizing player with
  | nil => rfl
  | cons i slots ih =>
    obtain ⟨hi, hnodup⟩ := List.nodup_cons.mp hnodup
    have hrest := itemsIn_RemoveItem mgr player hbag hslots hi
    have hcons : player.itemsIn mgr bag (i :: slots) =
        (player.GetItemByPos mgr bag i).toList ++ player.itemsIn mgr bag slots := by
      rw [itemsIn, List.filterMap_cons]
      cases player.GetItemByPos mgr bag i <;> rfl
    have hone := itemCount_RemoveItem mgr player entry bag i
    have hmany := ih (player.RemoveItem mgr bag i) (fun j hj ↦ hslots j (List.mem_cons_of_mem i hj)) hnodup
    rw [hrest] at hmany
    rw [List.foldl_cons, hcons, List.filter_append, List.map_append, List.sum_append]
    omega

theorem itemsIn_all {bag : ℕ} (hbag : bag < INVENTORY_SLOT_BAG_0) : player.itemsIn mgr bag (slotRange 0 MAX_BAG_SIZE) =
      player.itemsIn mgr bag (slotRange 0 (player.GetBagSize mgr bag)) := by
  have hsize : player.GetBagSize mgr bag ≤ MAX_BAG_SIZE := GetBagSize_le bag
  have hrange : slotRange 0 MAX_BAG_SIZE = slotRange 0 (player.GetBagSize mgr bag) ++
      slotRange (player.GetBagSize mgr bag) MAX_BAG_SIZE := by
    have happend := List.range'_append_1 (s := 0) (m := player.GetBagSize mgr bag)
      (n := MAX_BAG_SIZE - player.GetBagSize mgr bag)
    rw [zero_add, Nat.add_sub_cancel' hsize] at happend
    exact happend.symm
  have hnone : (slotRange (player.GetBagSize mgr bag) MAX_BAG_SIZE).filterMap (player.GetItemByPos mgr bag) = [] := by
    refine List.filterMap_eq_nil_iff.mpr fun j hj ↦ ?_
    rw [GetItemByPos, if_neg fun h ↦ hbag.ne h.1, if_neg (not_lt.mpr (mem_slotRange.mp hj).1)]
  simp [hrange, itemsIn, hnone]

variable (player) in
theorem get_foldl_RemoveItem_or {bag : ℕ} (hbag : bag < INVENTORY_SLOT_BAG_0) {slots : List ℕ}
    (hslots : ∀ i ∈ slots, i < 256) (hnodup : slots.Nodup) (q : ℕ) :
    (slots.foldl (fun player i ↦ player.RemoveItem mgr bag i) player).items[q]? = none ∧
      (∃ item, player.items[q]? = some item ∧ item ∈ player.itemsIn mgr bag slots) ∨
    (slots.foldl (fun player i ↦ player.RemoveItem mgr bag i) player).items[q]? = player.items[q]? := by
  induction slots generalizing player with
  | nil => exact .inr rfl
  | cons i slots ih =>
    obtain ⟨hi, hnodup⟩ := List.nodup_cons.mp hnodup
    have hget : (player.RemoveItem mgr bag i).items[q]? = _ := get_RemoveItem bag i q
    have hrest := ih (player.RemoveItem mgr bag i) (fun j hj ↦ hslots j (List.mem_cons_of_mem i hj)) hnodup
    rw [List.foldl_cons]
    rcases hrest with ⟨hnone, item, hitem, hmem⟩ | hsame
    · rw [itemsIn_RemoveItem mgr player hbag hslots hi] at hmem
      rw [hget] at hitem
      split_ifs at hitem
      exact .inl ⟨hnone, item, hitem, List.mem_filterMap.mpr ((List.mem_filterMap.mp hmem).imp
        fun j hj ↦ ⟨List.mem_cons_of_mem i hj.1, hj.2⟩)⟩
    · rw [hsame, hget]
      split_ifs with hpos
      · obtain ⟨item, hitem⟩ := Option.isSome_iff_exists.mp hpos.1
        refine .inl ⟨rfl, item, ?_, List.mem_filterMap.mpr ⟨i, List.mem_cons_self, hitem⟩⟩
        rw [← hpos.2, ← GetItemByPos_of_hasSlot (hasSlot_of_GetItemByPos hitem), hitem]
      · exact .inr rfl

theorem get_foldl_RemoveItem_none {bag j : ℕ} (hbag : bag < INVENTORY_SLOT_BAG_0) {slots : List ℕ}
    (hslots : ∀ i ∈ slots, i < 256) (hnodup : slots.Nodup) (hj : j ∈ slots)
    (hsome : (player.GetItemByPos mgr bag j).isSome = true) :
    (slots.foldl (fun player i ↦ player.RemoveItem mgr bag i) player).items[makePos bag j]? = none := by
  induction slots generalizing player with
  | nil => cases hj
  | cons i slots ih =>
    obtain ⟨hi, hnodup'⟩ := List.nodup_cons.mp hnodup
    have hslots' := fun k hk ↦ hslots k (List.mem_cons_of_mem i hk)
    rw [List.foldl_cons]
    rcases List.mem_cons.mp hj with rfl | hj
    · have hnone : (player.RemoveItem mgr bag j).items[makePos bag j]? = none := by
        rw [get_RemoveItem, if_pos ⟨hsome, rfl⟩]
      rcases get_foldl_RemoveItem_or _ hbag hslots' hnodup' (makePos bag j) with h | h
      · exact h.1
      · rw [h, hnone]
    · refine ih hslots' hnodup' hj ?_
      rw [GetItemByPos_RemoveItem hbag (hslots i List.mem_cons_self) (hslots' j hj) fun hij ↦ hi (hij ▸ hj)]
      exact hsome

variable {bag slot : ℕ} {item : Item} (hitem : player.GetItemByPos mgr bag slot = some item)
include hitem

theorem slot_lt : slot < INVENTORY_SLOT_BAG_0 := by
  rcases hasSlot_of_GetItemByPos hitem with ⟨-, h | ⟨-, h⟩⟩ | ⟨-, h⟩
  · exact h.trans (by decide)
  · exact h.trans (by decide)
  · exact h.trans_le ((GetBagSize_le bag).trans (by decide))

theorem get_pos : player.items[makePos bag slot]? = some item := by
  rw [← GetItemByPos_of_hasSlot (hasSlot_of_GetItemByPos hitem), hitem]

theorem GetItemByPos_emptied (hbag : bag = INVENTORY_SLOT_BAG_0) :
    ((slotRange 0 MAX_BAG_SIZE).foldl (fun player i ↦ player.RemoveItem mgr slot i) player).GetItemByPos mgr
      bag slot = some item := by
  have hlt := slot_lt hitem
  rw [← hitem]
  refine GetItemByPos_congr (get_foldl_RemoveItem _ (fun i ↦ lt_of_mem_bag) ?_) (.inl hbag)
  rw [makePos_div (hlt.trans (by decide)), hbag]
  exact hlt.ne'

/-- What is in an item that is not empty is what is in the slots that a bag can have. -/
theorem inside_of_isNotEmptyBag (hinside : player.IsNotEmptyBag mgr bag slot = true) : bag = INVENTORY_SLOT_BAG_0 ∧
      player.itemsInside mgr bag slot = player.itemsIn mgr slot (slotRange 0 MAX_BAG_SIZE) := by
  by_cases hbag : bag = INVENTORY_SLOT_BAG_0
  · exact ⟨hbag, by rw [itemsInside, if_pos hbag, itemsIn_all (slot_lt hitem)]⟩
  · simp [IsNotEmptyBag, itemsInside, hbag] at hinside

variable (entry) in
/-- What destroying an item takes away: its count, and that of what is in it. -/
theorem itemCount_DestroyItem : itemCount (player.DestroyItem mgr bag slot).items entry +
      ((if item.entry = entry then item.count else 0) +
        (((player.itemsInside mgr bag slot).filter (·.entry = entry)).map (·.count)).sum) =
      itemCount player.items entry := by
  have hlt := slot_lt hitem
  have hone (player' : Player) (hsame : player'.GetItemByPos mgr bag slot = some item) :
      itemCount (player'.RemoveItem mgr bag slot).items entry +
        (if item.entry = entry then item.count else 0) = itemCount player'.items entry := by
    rw [← itemCount_RemoveItem mgr player' entry bag slot, hsame]
    by_cases hentry : item.entry = entry <;> simp [hentry]
  rw [DestroyItem, hitem]
  dsimp only
  split
  next hinside =>
    obtain ⟨hbag, hall⟩ := inside_of_isNotEmptyBag hitem hinside
    have hsame := hone _ (GetItemByPos_emptied hitem hbag)
    rw [← itemCount_foldl_RemoveItem mgr player entry hlt (fun i ↦ lt_of_mem_bag) List.nodup_range', hall,
      ← add_assoc, hsame]
  next hinside =>
    have hnil : player.itemsInside mgr bag slot = [] := by
      simpa [IsNotEmptyBag] using hinside
    have hsame := hone player hitem
    rw [hnil]
    simpa using hsame

/-- What destroying an item changes are the item and what is in it. -/
theorem get_DestroyItem_or (q : ℕ) : (player.DestroyItem mgr bag slot).items[q]? = none ∧
      (∃ item', player.items[q]? = some item' ∧ (item' = item ∨ item' ∈ player.itemsInside mgr bag slot)) ∨
    (player.DestroyItem mgr bag slot).items[q]? = player.items[q]? := by
  have hlt := slot_lt hitem
  rw [DestroyItem, hitem]
  rw [get_RemoveItem]
  by_cases hpos : makePos bag slot = q
  · -- the item itself is there until it is removed
    refine .inl ⟨?_, item, hpos ▸ get_pos hitem, .inl rfl⟩
    split
    next hinside =>
      have hsome := GetItemByPos_emptied hitem (inside_of_isNotEmptyBag hitem hinside).1
      rw [hsome, if_pos ⟨rfl, hpos⟩]
    next => rw [hitem, if_pos ⟨rfl, hpos⟩]
  · rw [if_neg fun h ↦ hpos h.2]
    split
    next hinside =>
      rw [(inside_of_isNotEmptyBag hitem hinside).2]
      refine (get_foldl_RemoveItem_or player hlt (fun i ↦ lt_of_mem_bag) List.nodup_range' q).imp_left ?_
      rintro ⟨hnone, item', hitem', hmem⟩
      exact ⟨hnone, item', hitem', .inr hmem⟩
    next => exact .inr rfl

theorem get_DestroyItem_inside {item' : Item} (hmem : item' ∈ player.itemsInside mgr bag slot) :
    ∃ q : ℕ, player.items[q]? = some item' ∧ (player.DestroyItem mgr bag slot).items[q]? = none := by
  have hlt := slot_lt hitem
  have hinside : player.IsNotEmptyBag mgr bag slot = true := by
    rw [IsNotEmptyBag, Bool.not_eq_true', List.isEmpty_eq_false_iff]
    exact List.ne_nil_of_mem hmem
  rw [(inside_of_isNotEmptyBag hitem hinside).2] at hmem
  obtain ⟨j, hj, hget⟩ := List.mem_filterMap.mp hmem
  refine ⟨makePos slot j, get_pos hget, ?_⟩
  rw [DestroyItem, hitem]
  rw [get_RemoveItem, if_pos hinside, get_foldl_RemoveItem_none hlt (fun i ↦ lt_of_mem_bag)
    List.nodup_range' hj (Option.isSome_of_eq_some hget), ite_self]

end Player

/-! ## Searching slots -/

section stackAt

variable (mgr : ObjectMgr) (now : Circumstances) (entry : ℕ)

/-- The stack at a slot of the player as he is `current`ly; he was another one at `first`. -/
def stackAt (first current : Player) (p : SearchedSlot) : Option Stack :=
  ((current.GetItemByPos mgr p.bag p.slot).filter (·.isSought entry)).map fun item ↦
    let inside := current.itemsInside mgr p.bag p.slot
    { count := item.count
      counted := first.mayTake mgr now p
      held := !current.mayTake mgr now p
      sameInside := ((inside.filter (·.entry = entry)).map (·.count)).sum
      otherInside := inside.any (·.entry ≠ entry) }

end stackAt

/-- A tally that goes on without a wrong sum says what has happened to the items. -/
structure Agrees (entry count : ℕ) (first : Player) (s : Destroying) (t : Tally) : Prop where
  remcount : s.remcount = t.remcount
  returned : s.returned = t.returned
  le : t.remcount ≤ count
  total : itemCount s.player.items entry + t.removed = itemCount first.items entry
  sums : ∀ x ∈ s.sums, 0 ≤ x ∧ x < 2 ^ 32
  kept : t.others = false → ∀ (pos : ℕ) (item : Item), item.entry ≠ entry →
    (s.player.items[pos]? = some item ↔ first.items[pos]? = some item)
  lost : t.others = true → ∃ (pos : ℕ) (item : Item), item.entry ≠ entry ∧
    first.items[pos]? = some item ∧ s.player.items[pos]? = none

/-- The tally is that of what has been done. -/
def Tracks (entry count : ℕ) (first : Player) (s : Destroying) (t : Tally) : Prop :=
  t.wrapped = true ∧ (∃ x ∈ s.sums, 2 ^ 32 ≤ x) ∨ t.wrapped = false ∧ Agrees entry count first s t

namespace Agrees

variable {mgr : ObjectMgr} {entry count : ℕ} {first : Player} {s : Destroying} {t : Tally}
  {p : SearchedSlot}

theorem destroyed {item : Item} {x : Stack} (h : Agrees entry count first s t)
    (hitem : s.player.GetItemByPos mgr p.bag p.slot = some item) (hentry : item.entry = entry)
    (hcount : x.count = item.count)
    (hsame : x.sameInside = (((s.player.itemsInside mgr p.bag p.slot).filter (·.entry = entry)).map (·.count)).sum)
    (hother : x.otherInside = (s.player.itemsInside mgr p.bag p.slot).any (·.entry ≠ entry)) (sums : List ℤ)
    (hle : t.remcount + x.count ≤ count) (hsums : ∀ x ∈ sums, 0 ≤ x ∧ x < 2 ^ 32) :
    Agrees entry count first
      { player := s.player.DestroyItem mgr p.bag p.slot
        remcount := t.remcount + x.count
        returned := count ≤ t.remcount + x.count
        sums }
      { t with
        remcount := t.remcount + x.count
        removed := t.removed + (x.count + x.sameInside)
        others := t.others || x.otherInside
        returned := count ≤ t.remcount + x.count } where
  remcount := rfl
  returned := rfl
  le := hle
  total := by
    have htotal := Player.itemCount_DestroyItem entry hitem
    have hold := h.total
    rw [if_pos hentry] at htotal
    dsimp only
    omega
  sums := hsums
  kept := by
    intro hothers pos item' hne
    obtain ⟨hothers, hnone⟩ := Bool.or_eq_false_iff.mp hothers
    rw [← h.kept hothers pos item' hne]
    rcases Player.get_DestroyItem_or hitem pos with ⟨hgone, old, hold, hwhere⟩ | hsame
    · have hentry' : old.entry = entry := by
        rcases hwhere with rfl | hmem
        · exact hentry
        · rw [hother, List.any_eq_false] at hnone
          simpa using hnone old hmem
      dsimp only
      rw [hgone, hold]
      constructor
      · intro hnone
        cases hnone
      · rintro h
        obtain rfl := Option.some.inj h
        exact absurd hentry' hne
    · simp [hsame]
  lost := by
    intro hothers
    dsimp only at hothers ⊢
    have hgone (pos : ℕ) (hnone : s.player.items[pos]? = none) :
        (s.player.DestroyItem mgr p.bag p.slot).items[pos]? = none := by
      rcases Player.get_DestroyItem_or hitem pos with ⟨hgone, -⟩ | hsame
      · exact hgone
      · rw [hsame, hnone]
    cases hothers' : t.others with
    | true =>
      obtain ⟨pos, item', hne, hold, hnone⟩ := h.lost hothers'
      exact ⟨pos, item', hne, hold, hgone pos hnone⟩
    | false =>
      rw [hothers', Bool.false_or, hother, List.any_eq_true] at hothers
      obtain ⟨item', hmem, hne⟩ := hothers
      have hne := of_decide_eq_true hne
      obtain ⟨pos, hold, hnone⟩ := Player.get_DestroyItem_inside hitem hmem
      exact ⟨pos, item', hne, (h.kept hothers' pos item' hne).mp hold, hnone⟩

theorem part {item : Item} (h : Agrees entry count first s t)
    (hitem : s.player.GetItemByPos mgr p.bag p.slot = some item) (hentry : item.entry = entry) (sums : List ℤ)
    (hlt : count < t.remcount + item.count) (hsums : ∀ x ∈ sums, 0 ≤ x ∧ x < 2 ^ 32) :
    Agrees entry count first
      { player := s.player.SetCount p.bag p.slot (t.remcount + item.count - count)
        remcount := t.remcount
        returned := true
        sums }
      { t with removed := t.removed + (count - t.remcount), returned := true } := by
  have hget := Player.get_pos hitem
  have hmodify : (s.player.SetCount p.bag p.slot (t.remcount + item.count - count)).items =
      s.player.items.insert (makePos p.bag p.slot) { item with count := t.remcount + item.count - count } :=
    TreeMap.modify_eq_insert hget
  have hother (pos : ℕ) (item' : Item) (hne : item'.entry ≠ entry) :
      (s.player.SetCount p.bag p.slot (t.remcount + item.count - count)).items[pos]? = some item' ↔
        s.player.items[pos]? = some item' := by
    rw [hmodify, TreeMap.get_insert]
    split_ifs with hpos
    · rw [← hpos, hget]
      constructor
      · intro hsome
        obtain rfl := Option.some.inj hsome
        exact absurd hentry hne
      · intro hsome
        obtain rfl := Option.some.inj hsome
        exact absurd hentry hne
    · rfl
  refine ⟨rfl, rfl, h.le, ?_, hsums, fun hothers pos item' hne ↦ ?_, fun hothers ↦ ?_⟩
  · have hreplace := itemCount_replace hget { item with count := t.remcount + item.count - count } entry
    have hold := h.total
    have hle := h.le
    rw [← hmodify] at hreplace
    simp only [if_pos hentry] at hreplace
    dsimp only
    omega
  · exact (hother pos item' hne).trans (h.kept hothers pos item' hne)
  · obtain ⟨pos, item', hne, hold, hnone⟩ := h.lost hothers
    refine ⟨pos, item', hne, hold, ?_⟩
    rw [hmodify, TreeMap.get_insert, if_neg, hnone]
    rintro rfl
    simp [hget] at hnone

end Agrees

namespace Destroying

variable {mgr : ObjectMgr} {now : Circumstances} {entry count : ℕ} {first : Player} {s : Destroying}
  {t : Tally} {p : SearchedSlot}

theorem search_of_returned (h : s.returned = true) : s.search mgr now entry count p = s := if_pos h

theorem search_of_stackAt_none {first : Player} (h : stackAt mgr now entry first s.player p = none) :
    s.search mgr now entry count p = s := by
  rw [stackAt, Option.map_eq_none_iff] at h
  rw [search]
  split
  · rfl
  · split
    · rfl
    next item hitem =>
      rw [hitem, Option.filter_eq_none_iff] at h
      rw [if_neg (h item rfl)]

theorem mem_sums_search {x : ℤ} (hx : x ∈ s.sums) : x ∈ (s.search mgr now entry count p).sums := by
  rw [search]
  split
  · exact hx
  · split
    · exact hx
    · dsimp only
      split_ifs <;> simp [hx]

section item

variable {item : Item} (hreturned : s.returned = false)
  (hitem : s.player.GetItemByPos mgr p.bag p.slot = some item) (hsought : item.isSought entry = true)
include hreturned hitem hsought

theorem search_eq : s.search mgr now entry count p =
    if uint32 (item.count + s.remcount) ≤ count then
      if s.player.mayTake mgr now p then
        { player := s.player.DestroyItem mgr p.bag p.slot
          remcount := uint32 (item.count + s.remcount)
          returned := count ≤ uint32 (item.count + s.remcount)
          sums := (item.count + s.remcount) :: s.sums }
      else { s with sums := (item.count + s.remcount) :: s.sums }
    else { s with
      player := s.player.SetCount p.bag p.slot (uint32 (item.count - count + s.remcount))
      returned := true
      sums := (item.count - count + s.remcount) :: (item.count + s.remcount) :: s.sums } := by
  simp [search, hreturned, hitem, hsought]

theorem mem_sums_search_self : ((item.count : ℤ) + s.remcount) ∈ (s.search mgr now entry count p).sums := by
  rw [search_eq hreturned hitem hsought]
  split_ifs <;> simp

end item

/-- **A search tracks the turn of its stack.** -/
theorem search_tracks {first' : Player} {x : Stack} (h : Tracks entry count first s t)
    (hx : stackAt mgr now entry first' s.player p = some x) (hcount : count < 2 ^ 32) :
    Tracks entry count first (s.search mgr now entry count p) (t.take count x) := by
  obtain ⟨hwrapped, y, hy, hlarge⟩ | ⟨hwrapped, h⟩ := h
  · rw [Tally.take_of_done (by rw [hwrapped, Bool.or_true])]
    exact .inl ⟨hwrapped, y, mem_sums_search hy, hlarge⟩
  cases hreturned : t.returned with
  | true =>
    rw [Tally.take_of_done (by rw [hreturned, Bool.true_or]), search_of_returned (h.returned.trans hreturned)]
    exact .inr ⟨hwrapped, h⟩
  | false =>
    have hopen : t.Open count := ⟨hreturned, hwrapped, h.le⟩
    obtain ⟨item, hfilter, hxeq⟩ := Option.map_eq_some_iff.mp hx
    obtain ⟨hitem, hsought⟩ := Option.filter_eq_some_iff.mp hfilter
    have hentry : item.entry = entry := by
      rw [Item.isSought, Bool.and_eq_true] at hsought
      exact of_decide_eq_true hsought.1
    have hxcount : x.count = item.count := by rw [← hxeq]
    have hsum : ((item.count : ℤ) + s.remcount) = ((t.remcount + x.count : ℕ) : ℤ) := by
      rw [h.remcount, hxcount]
      push_cast
      ring
    by_cases hfits : 2 ^ 32 ≤ t.remcount + x.count
    · rw [hopen.take_wrapped hfits]
      refine .inl ⟨rfl, _, mem_sums_search_self (h.returned.trans hreturned) hitem hsought, ?_⟩
      rw [hsum]
      exact_mod_cast hfits
    rw [search_eq (h.returned.trans hreturned) hitem hsought, hsum, uint32_natCast (not_le.mp hfits)]
    have hsums : ∀ y ∈ ((t.remcount + x.count : ℕ) : ℤ) :: s.sums, 0 ≤ y ∧ y < 2 ^ 32 := by
      rw [List.forall_mem_cons]
      exact ⟨by omega, h.sums⟩
    rcases Nat.lt_or_ge count (t.remcount + x.count) with hlt | hle
    · have hleft : ((item.count : ℤ) - count + s.remcount) = ((t.remcount + item.count - count : ℕ) : ℤ) := by
        omega
      rw [if_neg (not_le.mpr hlt), hleft, uint32_natCast (by omega), hopen.take_part (not_le.mp hfits) hlt, h.remcount]
      refine .inr ⟨hwrapped, h.part hitem hentry _ (hxcount ▸ hlt) ?_⟩
      exact List.forall_mem_cons.mpr ⟨by omega, hsums⟩
    · rw [if_pos hle]
      cases hmay : s.player.mayTake mgr now p with
      | true =>
        have hheld : x.held = false := by rw [← hxeq, hmay, Bool.not_true]
        rw [if_pos rfl, hopen.take_taken hcount hle hheld]
        exact .inr ⟨hwrapped, h.destroyed hitem hentry hxcount (by rw [← hxeq]) (by rw [← hxeq]) _ hle hsums⟩
      | false =>
        have hheld : x.held = true := by rw [← hxeq, hmay, Bool.not_false]
        rw [if_neg Bool.false_ne_true, hopen.take_held hcount hle hheld]
        exact .inr ⟨hwrapped, ⟨h.remcount, h.returned, h.le, h.total, hsums, h.kept, h.lost⟩⟩

end Destroying

/-! ## Searching slots one after the other -/

namespace SearchedSlot

/-- A position that the stack at a slot depends on. -/
def Reads (p : SearchedSlot) (q : ℕ) : Prop :=
  q = p.pos ∨ q = makePos INVENTORY_SLOT_BAG_0 p.owner ∨ p.bag = INVENTORY_SLOT_BAG_0 ∧ q / 256 = p.slot

/-- A search of one slot does not matter to that of another one. -/
def Apart (p p' : SearchedSlot) : Prop := ∀ q, p.Touches q → ¬p'.Reads q

end SearchedSlot

section congr

variable {mgr : ObjectMgr} {now : Circumstances} {entry : ℕ} {first player player' : Player}
  {p : SearchedSlot} (h : ∀ q, p.Reads q → player'.items[q]? = player.items[q]?)
include h

theorem GetItemByPos_congr_of_reads : player'.GetItemByPos mgr p.bag p.slot = player.GetItemByPos mgr p.bag p.slot := by
  refine Player.GetItemByPos_congr (h p.pos (.inl rfl)) ?_
  by_cases hbag : p.bag = INVENTORY_SLOT_BAG_0
  · exact .inl hbag
  · have howner : p.owner = p.bag := if_neg hbag
    exact .inr (howner ▸ h (makePos INVENTORY_SLOT_BAG_0 p.owner) (.inr (.inl rfl)))

theorem itemsInside_congr : player'.itemsInside mgr p.bag p.slot = player.itemsInside mgr p.bag p.slot := by
  rw [Player.itemsInside, Player.itemsInside]
  split_ifs with hbag
  · have hself : player'.items[makePos INVENTORY_SLOT_BAG_0 p.slot]? =
        player.items[makePos INVENTORY_SLOT_BAG_0 p.slot]? := hbag ▸ h p.pos (.inl rfl)
    rw [Player.GetBagSize_congr hself]
    refine List.filterMap_congr fun j hj ↦ Player.GetItemByPos_congr ?_ (.inr hself)
    have hsize : player.GetBagSize mgr p.slot ≤ MAX_BAG_SIZE := Player.GetBagSize_le p.slot
    have hj' : j < 256 := (Player.mem_slotRange.mp hj).2.trans_le (hsize.trans (by decide))
    exact h _ (.inr (.inr ⟨hbag, Player.makePos_div hj'⟩))
  · rfl

theorem CanUnequipItem_congr (swap : Bool) :
    player'.CanUnequipItem mgr now p.bag p.slot swap = player.CanUnequipItem mgr now p.bag p.slot swap := by
  simp [Player.CanUnequipItem, Player.IsNotEmptyBag, GetItemByPos_congr_of_reads h, itemsInside_congr h]

/-- A stack is what it is as long as nothing changes that it depends on. -/
theorem stackAt_congr : stackAt mgr now entry first player' p = stackAt mgr now entry first player p := by
  simp [stackAt, GetItemByPos_congr_of_reads h, itemsInside_congr h, Player.mayTake, CanUnequipItem_congr h]

end congr

namespace Destroying

variable {mgr : ObjectMgr} {now : Circumstances} {entry count : ℕ} {first first' : Player} {s : Destroying}
  {t : Tally}

/-- **Searching slots tracks the turns of their stacks**, when no search matters to a later one. -/
theorem foldl_search_tracks {ps : List SearchedSlot} (hapart : ps.Pairwise SearchedSlot.Apart)
    (hcount : count < 2 ^ 32) (h : Tracks entry count first s t) :
    Tracks entry count first (ps.foldl (·.search mgr now entry count) s)
      ((ps.filterMap (stackAt mgr now entry first' s.player)).foldl (Tally.take count) t) := by
  induction ps generalizing s t with
  | nil => exact h
  | cons p ps ih =>
    obtain ⟨hp, hapart⟩ := List.pairwise_cons.mp hapart
    have hrest : ps.filterMap (stackAt mgr now entry first' (s.search mgr now entry count p).player) =
        ps.filterMap (stackAt mgr now entry first' s.player) :=
      List.filterMap_congr fun p' hp' ↦ stackAt_congr fun q hq ↦
        search_frame fun htouches ↦ hp p' hp' q htouches hq
    rw [List.foldl_cons, List.filterMap_cons]
    cases hx : stackAt mgr now entry first' s.player p with
    | none =>
      rw [search_of_stackAt_none hx]
      exact ih hapart h
    | some x =>
      rw [List.foldl_cons, ← hrest]
      exact ih hapart (search_tracks h hx hcount)

end Destroying

/-! ## Which slots are apart -/

section apart

variable {mgr : ObjectMgr} {player : Player} {check : Bool} {p p' : SearchedSlot} {a b a' b' q : ℕ}

theorem SearchedSlot.Reads.owner_eq (h : p.Reads q) (hp : p.slot < INVENTORY_SLOT_BAG_0)
    (howner : p.owner < 256) : ownerOf q = p.owner := by
  rcases h with h | rfl | h
  · exact SearchedSlot.Touches.owner_eq (.inl h) hp
  · simp [ownerOf_makePos howner]
  · exact SearchedSlot.Touches.owner_eq (.inr h) hp

theorem SearchedSlot.Touches.reads (h : p.Touches q) : p.Reads q := h.imp_right .inr

theorem Owned.apart (hp : Owned a b p) (hp' : Owned a' b' p') (hb : b' ≤ 256) (hne : p.owner ≠ p'.owner) :
    p.Apart p' := fun _ htouches hreads ↦ hne <|
  (htouches.owner_eq hp.1).symm.trans (hreads.owner_eq hp'.1 (hp'.2.2.trans_le hb))

theorem pairwise_ownSlots (hb : b ≤ INVENTORY_SLOT_BAG_0) :
    (ownSlots check (slotRange a b)).Pairwise SearchedSlot.Apart := by
  rw [ownSlots, List.pairwise_map]
  refine List.Pairwise.imp_of_mem ?_ (List.nodup_range' (s := a) (n := b - a))
  intro i j hi hj hne
  exact (owned_of_mem_ownSlots hb (mem_ownSlots.mpr ⟨i, hi, rfl⟩)).apart
    (owned_of_mem_ownSlots hb (mem_ownSlots.mpr ⟨j, hj, rfl⟩)) (hb.trans (by decide)) hne

theorem pairwise_slotsOfBags (hb : b ≤ INVENTORY_SLOT_BAG_0) :
    (slotsOfBags mgr player (slotRange a b)).Pairwise SearchedSlot.Apart := by
  have howned {i j : ℕ} (hi : i ∈ slotRange a b) (hj : j ∈ slotRange 0 (player.GetBagSize mgr i)) :
      i < INVENTORY_SLOT_BAG_0 ∧ Owned a b ⟨i, j, false⟩ := by
    have hlt := (Player.mem_slotRange.mp hi).2.trans_le hb
    have hmem : (⟨i, j, false⟩ : SearchedSlot) ∈ slotsOfBags mgr player (slotRange a b) :=
      mem_slotsOfBags.mpr ⟨hi, (Player.mem_slotRange.mp hj).2, rfl⟩
    exact ⟨hlt, owned_of_mem_slotsOfBags hb hmem⟩
  rw [slotsOfBags, List.pairwise_flatMap]
  constructor
  · intro i hi
    rw [List.pairwise_map]
    refine List.Pairwise.imp_of_mem ?_ List.nodup_range'
    intro j k hj hk hne q htouches hreads
    obtain ⟨hlt, hslot, -⟩ := howned hi hj
    have hj' : j < 256 := hslot.trans (by decide)
    have hk' : k < 256 := (howned hi hk).2.1.trans (by decide)
    -- both slots are in one bag, and neither is that of the bag
    obtain rfl : q = makePos i j := htouches.resolve_right fun h ↦ hlt.ne h.1
    rcases hreads with h | h | h
    · refine hne ?_
      rw [← Player.makePos_mod (i := i) hj', h, SearchedSlot.pos, Player.makePos_mod hk']
    · have howner : SearchedSlot.owner ⟨i, k, false⟩ = i := if_neg hlt.ne
      rw [howner] at h
      refine hlt.ne ?_
      rw [← Player.makePos_div (i := i) hj', h, Player.makePos_div (hlt.trans (by decide))]
    · exact hlt.ne h.1
  · refine List.Pairwise.imp_of_mem ?_ List.nodup_range'
    intro i j hi hj hne p hp p' hp'
    obtain ⟨k, hk, rfl⟩ := List.mem_map.mp hp
    obtain ⟨k', hk', rfl⟩ := List.mem_map.mp hp'
    obtain ⟨hlt, hown⟩ := howned hi hk
    obtain ⟨hlt', hown'⟩ := howned hj hk'
    refine hown.apart hown' (hb.trans (by decide)) ?_
    simpa [SearchedSlot.owner, hlt.ne, hlt'.ne] using hne

theorem Owned.apart_of_le (hp : Owned a b p) (hp' : Owned a' b' p') (hb : b' ≤ 256)
    (h : b ≤ a' ∨ b' ≤ a) : p.Apart p' := by
  refine hp.apart hp' hb ?_
  have := hp.2
  have := hp'.2
  omega

theorem pairwise_slotsBefore : (slotsBefore mgr player).Pairwise SearchedSlot.Apart := by
  rw [slotsBefore, List.pairwise_append, List.pairwise_append]
  refine ⟨pairwise_ownSlots (by decide), ⟨pairwise_ownSlots (by decide), pairwise_slotsOfBags (by decide),
    fun p hp p' hp' ↦ ?_⟩, fun p hp p' hp' ↦ ?_⟩
  · exact (owned_of_mem_ownSlots (by decide) hp).apart_of_le (owned_of_mem_slotsOfBags (by decide) hp')
      (by decide) (.inr (by decide))
  · have hown := owned_of_mem_ownSlots (by decide) hp
    rcases List.mem_append.mp hp' with hp' | hp'
    · exact hown.apart_of_le (owned_of_mem_ownSlots (by decide) hp') (by decide) (.inl (by decide))
    · exact hown.apart_of_le (owned_of_mem_slotsOfBags (by decide) hp') (by decide) (.inr (by decide))

theorem pairwise_slotsAfter : (slotsAfter mgr player check).Pairwise SearchedSlot.Apart := by
  rw [slotsAfter, List.pairwise_append, List.pairwise_append]
  refine ⟨pairwise_ownSlots (by decide), ⟨pairwise_ownSlots (by decide), pairwise_slotsOfBags (by decide),
    fun p hp p' hp' ↦ ?_⟩, fun p hp p' hp' ↦ ?_⟩
  · exact (owned_of_mem_ownSlots (by decide) hp).apart_of_le (owned_of_mem_slotsOfBags (by decide) hp')
      (by decide) (.inl (by decide))
  · have hown := owned_of_mem_ownSlots (by decide) hp
    rcases List.mem_append.mp hp' with hp' | hp'
    · exact hown.apart_of_le (owned_of_mem_ownSlots (by decide) hp') (by decide) (.inl (by decide))
    · exact hown.apart_of_le (owned_of_mem_slotsOfBags (by decide) hp') (by decide) (.inl (by decide))

end apart

/-! ## What is left when the equipment is searched -/

namespace Player

variable (mgr : ObjectMgr) (entry : ℕ) (player : Player)

/-- The position is a slot of a bag that the player has with him. -/
def isInBag (pos : ℕ) : Bool := INVENTORY_SLOT_BAG_START ≤ pos / 256 ∧ pos / 256 < INVENTORY_SLOT_BAG_END ∧
    pos % 256 < player.GetBagSize mgr (pos / 256)

/-- The player without the stacks of the entry in his bags. -/
def afterBags : Player := ⟨player.items.filter fun pos item ↦ !(player.isInBag mgr pos && item.isSought entry)⟩

end Player

section before

variable {mgr : ObjectMgr} {now : Circumstances} {entry count : ℕ} {player : Player} {s : Destroying}
  {p : SearchedSlot} {q : ℕ}

theorem get_afterBags : (player.afterBags mgr entry).items[q]? =
    if player.isInBag mgr q then player.items[q]?.filter (!·.isSought entry) else player.items[q]? := by
  rw [Player.afterBags, ExtTreeMap.getElem?_filter']
  cases hbag : player.isInBag mgr q with
  | true => simp
  | false => cases player.items[q]? <;> simp

theorem Player.get_DestroyItem_self {bag slot : ℕ} {item : Item}
    (hitem : player.GetItemByPos mgr bag slot = some item) :
    (player.DestroyItem mgr bag slot).items[makePos bag slot]? = none := by
  rw [DestroyItem, hitem]
  dsimp only
  split
  next hinside =>
    simp [get_RemoveItem, GetItemByPos_emptied hitem (inside_of_isNotEmptyBag hitem hinside).1]
  next => rw [get_RemoveItem, hitem, if_pos ⟨rfl, rfl⟩]

namespace Destroying

theorem returned_search (h : (s.search mgr now entry count p).returned = false) : s.returned = false := by
  by_contra hreturned
  rw [Bool.not_eq_false] at hreturned
  rw [search_of_returned hreturned, hreturned] at h
  cases h

theorem returned_foldl_search {ps : List SearchedSlot}
    (h : (ps.foldl (·.search mgr now entry count) s).returned = false) : s.returned = false := by
  induction ps generalizing s with
  | nil => exact h
  | cons p ps ih => exact returned_search (ih h)

/-- A search that goes on has left nothing of the entry at its slot, if it may take what is there. -/
theorem get_search_self (h : (s.search mgr now entry count p).returned = false) (hcheck : p.check = false)
    (hslot : s.player.HasSlot mgr p.bag p.slot) :
    (s.search mgr now entry count p).player.items[p.pos]? = s.player.items[p.pos]?.filter (!·.isSought entry) := by
  have hget := Player.GetItemByPos_of_hasSlot hslot
  rw [SearchedSlot.pos, ← hget]
  cases hitem : s.player.GetItemByPos mgr p.bag p.slot with
  | none =>
    have hnone : stackAt mgr now entry s.player s.player p = none := by rw [stackAt, hitem]; rfl
    rw [search_of_stackAt_none hnone, ← hget, hitem]
    rfl
  | some item =>
    cases hsought : item.isSought entry with
    | false =>
      have hnone : stackAt mgr now entry s.player s.player p = none := by
        simp [stackAt, hitem, hsought]
      rw [search_of_stackAt_none hnone, ← hget, hitem, Option.filter_some, hsought]
      rfl
    | true =>
      have hreturned := returned_search h
      rw [search_eq hreturned hitem hsought] at h ⊢
      have hmay : s.player.mayTake mgr now p = true := by rw [Player.mayTake, hcheck]; rfl
      rw [if_pos hmay] at h ⊢
      split at h
      next hle =>
        simp [hle, Player.get_DestroyItem_self hitem, Option.filter_some, hsought]
      next => cases h

/-- **Searches that go on** have left nothing of the entry in their slots. -/
theorem get_foldl_search {ps : List SearchedSlot} (hapart : ps.Pairwise SearchedSlot.Apart)
    (h : (ps.foldl (·.search mgr now entry count) s).returned = false) (hp : p ∈ ps)
    (hcheck : p.check = false) (hslot : s.player.HasSlot mgr p.bag p.slot) :
    (ps.foldl (·.search mgr now entry count) s).player.items[p.pos]? =
      s.player.items[p.pos]?.filter (!·.isSought entry) := by
  induction ps generalizing s with
  | nil => cases hp
  | cons p' ps ih =>
    obtain ⟨hfirst, hapart⟩ := List.pairwise_cons.mp hapart
    rw [List.foldl_cons] at h ⊢
    rcases List.mem_cons.mp hp with rfl | hp
    · rw [foldl_search_frame ps fun p' hp' htouches ↦ hfirst p' hp' p.pos (.inl rfl) htouches.reads,
        get_search_self (returned_foldl_search h) hcheck hslot]
    · have hsame {q : ℕ} (hq : p.Reads q) :
          (s.search mgr now entry count p').player.items[q]? = s.player.items[q]? :=
        search_frame fun htouches ↦ hfirst p hp q htouches hq
      have hslot' : (s.search mgr now entry count p').player.HasSlot mgr p.bag p.slot := by
        refine hslot.imp_right fun ⟨hbag, hlt⟩ ↦ ⟨hbag, ?_⟩
        have howner : p.owner = p.bag := if_neg hbag
        rwa [Player.GetBagSize_congr (howner ▸ hsame (.inr (.inl rfl)))]
      rw [ih hapart h hp hslot', hsame (.inl rfl)]

/-- **What is left when the equipment is searched**, apart from the backpack, the key ring and the currency:
all but the stacks of the entry in the bags. -/
theorem get_slotsBefore (h : ((slotsBefore mgr player).foldl (·.search mgr now entry count)
      ({ player } : Destroying)).returned = false)
    (hq : ownerOf q < INVENTORY_SLOT_BAG_END ∨ BANK_SLOT_ITEM_START ≤ ownerOf q ∧ ownerOf q < BANK_SLOT_BAG_END) :
    ((slotsBefore mgr player).foldl (·.search mgr now entry count) ({ player } : Destroying)).player.items[q]? =
      (player.afterBags mgr entry).items[q]? := by
  rw [get_afterBags]
  split_ifs with hbag
  · obtain ⟨hstart, hend, hlt⟩ := of_decide_eq_true hbag
    have hmem : (⟨q / 256, q % 256, false⟩ : SearchedSlot) ∈ slotsBefore mgr player :=
      List.mem_append_right _ (List.mem_append_right _
        (mem_slotsOfBags.mpr ⟨Player.mem_slotRange.mpr ⟨hstart, hend⟩, hlt, rfl⟩))
    have hslot : player.HasSlot mgr (q / 256) (q % 256) := .inr ⟨(hend.trans (by decide)).ne, hlt⟩
    have hpos : SearchedSlot.pos ⟨q / 256, q % 256, false⟩ = q := Player.makePos_div_mod q
    simpa [hpos] using get_foldl_search pairwise_slotsBefore h hmem rfl hslot
  · refine foldl_search_frame _ fun p hp htouches ↦ ?_
    rw [slotsBefore, List.mem_append, List.mem_append] at hp
    rcases hp with hp | hp | hp
    · obtain ⟨hslot, hle, hlt⟩ := owned_of_mem_ownSlots (by decide) hp
      rw [← htouches.owner_eq hslot] at hle hlt
      simp only [INVENTORY_SLOT_ITEM_START, INVENTORY_SLOT_ITEM_END, INVENTORY_SLOT_BAG_END,
        BANK_SLOT_ITEM_START, BANK_SLOT_BAG_END] at hle hlt hq
      omega
    · obtain ⟨hslot, hle, hlt⟩ := owned_of_mem_ownSlots (by decide) hp
      rw [← htouches.owner_eq hslot] at hle hlt
      simp only [KEYRING_SLOT_START, CURRENCYTOKEN_SLOT_END, INVENTORY_SLOT_BAG_END,
        BANK_SLOT_ITEM_START, BANK_SLOT_BAG_END] at hle hlt hq
      omega
    · have hslot := (owned_of_mem_slotsOfBags (by decide) hp).1
      obtain ⟨hrange, hlt, -⟩ := mem_slotsOfBags.mp hp
      obtain ⟨hstart, hend⟩ := Player.mem_slotRange.mp hrange
      obtain rfl : q = p.pos := htouches.resolve_right fun h ↦ (hend.trans (by decide)).ne h.1
      have hslot' : p.slot < 256 := hslot.trans (by decide)
      refine hbag (decide_eq_true ?_)
      rw [SearchedSlot.pos, Player.makePos_div hslot', Player.makePos_mod hslot']
      exact ⟨hstart, hend, hlt⟩

end Destroying

end before

/-! ## What is destroyed -/

namespace Player

variable (mgr : ObjectMgr) (now : Circumstances) (entry count : ℕ) (player : Player) (unequip_check : Bool)

/-- How much of an entry can be removed: it is in a slot that is searched, not in trade, and may be taken. -/
def removable : ℕ := ((((slotsBefore mgr player ++ slotsAfter mgr player unequip_check).filter
    (player.mayTake mgr now)).filterMap fun p ↦
      (player.GetItemByPos mgr p.bag p.slot).filter (·.isSought entry)).map (·.count)).sum

/-- The stacks of an entry in the order in which they are searched, each as it is when its turn comes. -/
def soughtStacks : List Stack := (slotsBefore mgr player).filterMap (stackAt mgr now entry player player) ++
    (slotsAfter mgr player unequip_check).filterMap (stackAt mgr now entry player (player.afterBags mgr entry))

/-- `DestroyItemCount` removes the count, or what can be removed, and nothing else, and all sums fit. -/
structure DestroysExactly : Prop where
  removed : itemCount (player.DestroyItemCount mgr now entry count unequip_check).player.items entry +
    min count (player.removable mgr now entry unequip_check) = itemCount player.items entry
  others : ∀ (pos : ℕ) (item : Item), item.entry ≠ entry →
    ((player.DestroyItemCount mgr now entry count unequip_check).player.items[pos]? = some item ↔
      player.items[pos]? = some item)
  sums : ∀ x ∈ (player.DestroyItemCount mgr now entry count unequip_check).sums, 0 ≤ x ∧ x < 2 ^ 32

end Player

section exact

variable {mgr : ObjectMgr} {now : Circumstances} {entry count : ℕ} {player : Player} {unequip_check : Bool}
  {p : SearchedSlot}

/-- The slots from the equipment on are read where the bags are not. -/
theorem ownerOf_of_reads (hp : p ∈ slotsAfter mgr player unequip_check) {q : ℕ} (hq : p.Reads q) :
    ownerOf q < INVENTORY_SLOT_BAG_END ∨ BANK_SLOT_ITEM_START ≤ ownerOf q ∧ ownerOf q < BANK_SLOT_BAG_END := by
  rw [slotsAfter, List.mem_append, List.mem_append] at hp
  have howner {a b : ℕ} (h : Owned a b p) (hb : b ≤ 256) : ownerOf q = p.owner := hq.owner_eq h.1 (h.2.2.trans_le hb)
  rcases hp with hp | hp | hp
  · have h := owned_of_mem_ownSlots (by decide) hp
    rw [howner h (by decide)]
    exact .inl h.2.2
  · have h := owned_of_mem_ownSlots (by decide) hp
    rw [howner h (by decide)]
    exact .inr ⟨h.2.1, h.2.2.trans_le (by decide)⟩
  · have h := owned_of_mem_slotsOfBags (by decide) hp
    rw [howner h (by decide)]
    exact .inr ⟨le_trans (by decide) h.2.1, h.2.2⟩

theorem get_afterBags_own {slot : ℕ} (hslot : slot < 256) :
    (player.afterBags mgr entry).items[makePos INVENTORY_SLOT_BAG_0 slot]? =
      player.items[makePos INVENTORY_SLOT_BAG_0 slot]? := by
  rw [get_afterBags, if_neg]
  rw [Player.isInBag, Player.makePos_div hslot]
  exact fun h ↦ absurd (of_decide_eq_true h).2.1 (by decide)

/-- What is in the slots from the equipment on does not depend on what is in the bags. -/
theorem GetItemByPos_afterBags (hp : p ∈ slotsAfter mgr player unequip_check) :
    (player.afterBags mgr entry).GetItemByPos mgr p.bag p.slot = player.GetItemByPos mgr p.bag p.slot := by
  rw [slotsAfter, List.mem_append, List.mem_append] at hp
  have hown {check : Bool} {a b : ℕ} (hb : b ≤ INVENTORY_SLOT_BAG_0) (hp : p ∈ ownSlots check (slotRange a b)) :
      (player.afterBags mgr entry).GetItemByPos mgr p.bag p.slot = player.GetItemByPos mgr p.bag p.slot := by
    obtain ⟨i, hi, rfl⟩ := mem_ownSlots.mp hp
    have hlt := ((Player.mem_slotRange.mp hi).2.trans_le hb).trans (by decide : INVENTORY_SLOT_BAG_0 < 256)
    exact Player.GetItemByPos_congr (get_afterBags_own hlt) (.inl rfl)
  rcases hp with hp | hp | hp
  · exact hown (by decide) hp
  · exact hown (by decide) hp
  · have hslot : p.slot < 256 := (owned_of_mem_slotsOfBags (by decide) hp).1.trans (by decide)
    obtain ⟨hstart, hend⟩ := Player.mem_slotRange.mp (mem_slotsOfBags.mp hp).1
    refine Player.GetItemByPos_congr ?_ (.inr (get_afterBags_own (hend.trans (by decide))))
    rw [get_afterBags, if_neg]
    rw [Player.isInBag, Player.makePos_div hslot]
    exact fun h ↦ absurd ((of_decide_eq_true h).2.1.trans_le (le_trans (by decide) hstart)) (lt_irrefl _)

/-- A bag from which the stacks of the entry have gone is empty if it was. -/
theorem IsNotEmptyBag_afterBags {bag slot : ℕ} (hslot : slot < 256) (h : player.IsNotEmptyBag mgr bag slot = false) :
    (player.afterBags mgr entry).IsNotEmptyBag mgr bag slot = false := by
  rw [Player.IsNotEmptyBag, Bool.not_eq_false', List.isEmpty_iff, Player.itemsInside] at h ⊢
  split_ifs at h ⊢ with hbag
  · rw [Player.itemsIn, List.filterMap_eq_nil_iff] at h ⊢
    rw [Player.GetBagSize_congr (get_afterBags_own hslot)]
    intro j hj
    have hnone := h j hj
    rw [Player.GetItemByPos] at hnone ⊢
    rw [Player.GetBagSize_congr (get_afterBags_own hslot), get_afterBags]
    split_ifs at hnone ⊢ <;> simp [hnone]
  · rfl

theorem slot_lt_of_mem_slotsAfter (hp : p ∈ slotsAfter mgr player unequip_check) : p.slot < 256 := by
  rw [slotsAfter, List.mem_append, List.mem_append] at hp
  rcases hp with hp | hp | hp
  · exact (owned_of_mem_ownSlots (by decide) hp).1.trans (by decide)
  · exact (owned_of_mem_ownSlots (by decide) hp).1.trans (by decide)
  · exact (owned_of_mem_slotsOfBags (by decide) hp).1.trans (by decide)

/-- What may be taken at first may be taken when its turn comes. -/
theorem mayTake_afterBags (hp : p ∈ slotsAfter mgr player unequip_check)
    (h : player.mayTake mgr now p = true) : (player.afterBags mgr entry).mayTake mgr now p = true := by
  rw [Player.mayTake, Bool.or_eq_true] at h ⊢
  refine h.imp_right fun h ↦ ?_
  have hok := of_decide_eq_true h
  refine decide_eq_true ?_
  rw [Player.CanUnequipItem] at hok ⊢
  rw [GetItemByPos_afterBags hp]
  cases hempty : player.IsNotEmptyBag mgr p.bag p.slot with
  | false =>
    rw [IsNotEmptyBag_afterBags (slot_lt_of_mem_slotsAfter hp) hempty]
    rwa [hempty] at hok
  | true =>
    -- a bag with something in it may be taken only where that is not asked
    rw [hempty] at hok
    split at hok
    next hpos => rw [if_pos hpos]
    next hpos =>
      rw [if_neg hpos]
      split at hok
      · rfl
      · split at hok
        · cases hok
        · split_ifs at hok with _ _ _ _ hinside
          exact absurd rfl hinside

theorem sum_available {current : Player} {ps : List SearchedSlot}
    (h : ∀ p ∈ ps, current.GetItemByPos mgr p.bag p.slot = player.GetItemByPos mgr p.bag p.slot) :
    ((ps.filterMap (stackAt mgr now entry player current)).map Stack.available).sum =
      (((ps.filter (player.mayTake mgr now)).filterMap fun p ↦
        (player.GetItemByPos mgr p.bag p.slot).filter (·.isSought entry)).map (·.count)).sum := by
  induction ps with
  | nil => rfl
  | cons p ps ih =>
    have hrest := ih fun p' hp' ↦ h p' (List.mem_cons_of_mem p hp')
    have hstack : stackAt mgr now entry player current p =
        ((player.GetItemByPos mgr p.bag p.slot).filter (·.isSought entry)).map fun item ↦
          { count := item.count
            counted := player.mayTake mgr now p
            held := !current.mayTake mgr now p
            sameInside := (((current.itemsInside mgr p.bag p.slot).filter (·.entry = entry)).map (·.count)).sum
            otherInside := (current.itemsInside mgr p.bag p.slot).any (·.entry ≠ entry) } := by
      rw [stackAt, h p List.mem_cons_self]
    rw [List.filterMap_cons, List.filter_cons, hstack]
    cases hitem : (player.GetItemByPos mgr p.bag p.slot).filter (·.isSought entry) with
    | none =>
      rw [Option.map_none]
      split_ifs
      · simpa [hitem] using hrest
      · exact hrest
    | some item =>
      rw [Option.map_some, List.map_cons, List.sum_cons, hrest, Stack.available]
      split_ifs <;> simp [hitem]

theorem sum_soughtStacks : ((player.soughtStacks mgr now entry unequip_check).map Stack.available).sum =
    player.removable mgr now entry unequip_check := by
  rw [Player.soughtStacks, Player.removable, List.filter_append, List.filterMap_append, List.map_append,
    List.map_append, List.sum_append, List.sum_append, sum_available fun p hp ↦ rfl,
    sum_available fun p hp ↦ GetItemByPos_afterBags hp]

theorem held_of_counted {x : Stack} (hx : x ∈ player.soughtStacks mgr now entry unequip_check)
    (hcounted : x.counted = true) : x.held = false := by
  rcases List.mem_append.mp hx with hx | hx
  · obtain ⟨p, -, hx⟩ := List.mem_filterMap.mp hx
    obtain ⟨item, -, rfl⟩ := Option.map_eq_some_iff.mp hx
    dsimp only at hcounted ⊢
    simp [hcounted]
  · obtain ⟨p, hp, hx⟩ := List.mem_filterMap.mp hx
    obtain ⟨item, -, rfl⟩ := Option.map_eq_some_iff.mp hx
    simp [mayTake_afterBags hp hcounted]

/-- **`DestroyItemCount` does to the items what the tally does to numbers.** -/
theorem DestroyItemCount_tracks (hcount : count < 2 ^ 32) :
    Tracks entry count player (player.DestroyItemCount mgr now entry count unequip_check)
      ((player.soughtStacks mgr now entry unequip_check).foldl (Tally.take count) {}) := by
  have hstart : Tracks entry count player { player } {} :=
    .inr ⟨rfl, rfl, rfl, Nat.zero_le count, rfl, fun _ hx ↦ absurd hx List.not_mem_nil, fun _ _ _ _ ↦ Iff.rfl,
      fun h ↦ absurd h Bool.false_ne_true⟩
  have hbefore : Tracks entry count player
      ((slotsBefore mgr player).foldl (·.search mgr now entry count) ({ player } : Destroying))
      (((slotsBefore mgr player).filterMap (stackAt mgr now entry player player)).foldl (Tally.take count) {}) :=
    Destroying.foldl_search_tracks pairwise_slotsBefore hcount hstart
  rw [Destroying.DestroyItemCount_eq, Player.soughtStacks, List.foldl_append]
  generalize hs : (slotsBefore mgr player).foldl (·.search mgr now entry count)
    ({ player } : Destroying) = s at hbefore ⊢
  generalize ((slotsBefore mgr player).filterMap (stackAt mgr now entry player player)).foldl
    (Tally.take count) {} = t at hbefore ⊢
  have hafter : Tracks entry count player
      ((slotsAfter mgr player unequip_check).foldl (·.search mgr now entry count) s)
      (((slotsAfter mgr player unequip_check).filterMap (stackAt mgr now entry player s.player)).foldl
        (Tally.take count) t) :=
    Destroying.foldl_search_tracks pairwise_slotsAfter hcount hbefore
  cases hdone : t.returned || t.wrapped with
  | true =>
    simpa [Tally.foldl_take_of_done hdone] using hafter
  | false =>
    obtain ⟨hreturned, hwrapped⟩ := Bool.or_eq_false_iff.mp hdone
    obtain ⟨h, -⟩ | ⟨-, hagrees⟩ := hbefore
    · simp [h] at hwrapped
    subst hs
    have hstacks : (slotsAfter mgr player unequip_check).filterMap (stackAt mgr now entry player
        (player.afterBags mgr entry)) = (slotsAfter mgr player unequip_check).filterMap (stackAt mgr now entry
        player ((slotsBefore mgr player).foldl (·.search mgr now entry count)
          ({ player } : Destroying)).player) :=
      List.filterMap_congr fun p hp ↦ stackAt_congr fun q hq ↦
        (Destroying.get_slotsBefore (hagrees.returned.trans hreturned) (ownerOf_of_reads hp hq)).symm
    rwa [hstacks]

end exact

variable {mgr : ObjectMgr} {now : Circumstances} {entry count : ℕ} {player : Player} {unequip_check : Bool}

/-- **When `DestroyItemCount` removes what it should**: each stack of the entry whose turn comes is fine. -/
theorem DestroyItemCount_exact_iff (hcount : count < 2 ^ 32) :
    player.DestroysExactly mgr now entry count unequip_check ↔
      ∀ x b, Stack.Comes count (player.soughtStacks mgr now entry unequip_check) 0 x b →
        x.Fine count (player.removable mgr now entry unequip_check) b := by
  have htracks : Tracks entry count player (player.DestroyItemCount mgr now entry count unequip_check) _ :=
    DestroyItemCount_tracks hcount
  have htally := Tally.foldl_take_iff hcount fun x (hx : x ∈ player.soughtStacks mgr now entry unequip_check) ↦
    held_of_counted hx
  rw [sum_soughtStacks] at htally
  rw [← htally]
  generalize (player.soughtStacks mgr now entry unequip_check).foldl (Tally.take count) {} = t at htracks ⊢
  constructor
  · rintro ⟨hremoved, hothers, hsums⟩
    obtain ⟨-, x, hx, hlarge⟩ | ⟨hwrapped, h⟩ := htracks
    · exact absurd (hsums x hx).2 (not_lt.mpr hlarge)
    · have hkept : t.others = false := by
        by_contra hlost
        obtain ⟨pos, item, hne, hfirst, hnone⟩ := h.lost (Bool.not_eq_false _ ▸ hlost)
        simp [(hothers pos item hne).mpr hfirst] at hnone
      have htotal := h.total
      exact ⟨⟨hwrapped, hkept⟩, by omega⟩
  · rintro ⟨⟨hwrapped, hkept⟩, hremoved⟩
    obtain ⟨h, -⟩ | ⟨-, h⟩ := htracks
    · simp [h] at hwrapped
    · exact ⟨hremoved ▸ h.total, h.kept hkept, h.sums⟩

/-! ## Two stacks, and knives that are worn -/

/-- A player with stacks of eight and ten in his backpack. -/
def withEighteen : Player :=
  ⟨((∅ : ExtTreeMap ℕ Item).insert (makePos INVENTORY_SLOT_BAG_0 23) { guid := 1, entry := 1, count := 8 }).insert
    (makePos INVENTORY_SLOT_BAG_0 24) { guid := 2, entry := 1, count := 10 }⟩

/-- Fifteen are the stack of eight and seven of the other one. -/
theorem DestroyItemCount_exact_fifteen : withEighteen.DestroysExactly Player.twentyMgr {} 1 15 true := by
  have hstacks : withEighteen.soughtStacks Player.twentyMgr {} 1 true =
      [⟨8, true, false, 0, false⟩, ⟨10, true, false, 0, false⟩] := by decide +kernel
  have hremovable : withEighteen.removable Player.twentyMgr {} 1 true = 18 := by decide +kernel
  refine (DestroyItemCount_exact_iff (by decide)).mpr fun x b hcomes ↦ ?_
  rw [hstacks] at hcomes
  rw [hremovable]
  cases hcomes with
  | here =>
    exact ⟨by decide, fun h ↦ absurd h (by decide), fun _ _ ↦ ⟨rfl, rfl⟩, fun h ↦ absurd h (by decide)⟩
  | held hheld => cases hheld
  | taken _ _ h =>
    cases h with
    | here =>
      exact ⟨by decide, fun h ↦ absurd h (by decide), fun _ _ ↦ ⟨rfl, rfl⟩, fun h ↦ absurd h (by decide)⟩
    | held hheld => cases hheld
    | taken _ hlt => exact absurd hlt (by decide)

/-- A store with knives for throwing, of which 200 are a stack. -/
def knivesMgr : ObjectMgr where
  GetItemTemplate entry :=
    if entry = 1 then some { ItemId := 1, Class := ITEM_CLASS_WEAPON, InventoryType := 25, Stackable := 200 }
    else none
  ItemId_eq entry proto h := by
    split_ifs at h with hentry
    cases h
    exact hentry.symm
  ContainerSlots_le entry proto h := by
    split_ifs at h
    cases h
    exact Nat.zero_le _
  Stackable_lt entry proto h := by
    split_ifs at h
    cases h
    decide
  ItemLimitCategory _ := none

/-- A player who wears a stack of knives. -/
def withKnives : Player :=
  ⟨(∅ : ExtTreeMap ℕ Item).insert (makePos INVENTORY_SLOT_BAG_0 17) { guid := 1, entry := 1, count := 200 }⟩

/-- While he is charmed, he cannot unequip them, and yet fifty of them are removed. -/
theorem not_exact_of_charmed :
    ¬∀ (mgr : ObjectMgr) (now : Circumstances) (entry count : ℕ) (player : Player) (unequip_check : Bool),
      count < 2 ^ 32 → player.DestroysExactly mgr now entry count unequip_check := by
  intro h
  have hremoved := (h knivesMgr { isCharmed := true } 1 50 withKnives true (by decide)).removed
  have hremovable : withKnives.removable knivesMgr { isCharmed := true } 1 true = 0 := by decide +kernel
  have hleft : itemCount (withKnives.DestroyItemCount knivesMgr { isCharmed := true } 1 50 true).player.items 1 =
      150 := by decide +kernel
  have hfirst : itemCount withKnives.items 1 = 200 := by decide +kernel
  omega

end Gundrak.Players
