import Gundrak.Players.StoreContract

/-!
# Where something that is stored goes

What the moves of items need to know of `CanStoreItem` if it answers `OK`: that all of it has a place, that no
position comes twice, and that every position is a slot of the player with enough space.  Unlike
`storeContract_iff` this holds for every count, and whatever the phases are.

* `Search.Sound`: what all the parts of a search keep.
* **`canStoreItem_ok`**: what `OK` means.
* **`canStoreItem_swap`**: if an item is swapped, then all of it goes to the slot that is told.
-/

namespace Gundrak.Players

open Filling (State)

/-- What has been found are different good places, and nothing has been lost. -/
structure Search.Sound (Good : ℕ → ℕ → Prop) (total : ℕ) (s : Search) : Prop where
  distinct : (s.dest.map Prod.fst).Nodup
  good : ∀ x ∈ s.dest, Good x.1 x.2
  total : (s.dest.map Prod.snd).sum + s.count = total

/-- The same of what is answered; after `OK` all of it has a place. -/
structure StoreAnswer.Sound (Good : ℕ → ℕ → Prop) (no_similar total : ℕ) (answer : StoreAnswer) :
    Prop where
  distinct : (answer.dest.map Prod.fst).Nodup
  good : ∀ x ∈ answer.dest, Good x.1 x.2
  ok : answer.result = .OK → no_similar = 0 ∧ (answer.dest.map Prod.snd).sum = total

section search

variable {Good : ℕ → ℕ → Prop} {total : ℕ} {s : Search}

theorem Search.Sound.start (Good : ℕ → ℕ → Prop) (total : ℕ) : Search.Sound Good total ⟨[], total⟩ :=
  ⟨List.nodup_nil, nofun, Nat.zero_add _⟩

theorem Search.Sound.push (h : s.Sound Good total) {pos need_space : ℕ}
    (hpos : ¬ s.isContained pos = true) (hgood : ∀ n, n ≤ need_space → Good pos n) :
    (s.push pos need_space).Sound Good total := by
  have hmem : pos ∉ s.dest.map Prod.fst := by
    intro hmem
    obtain ⟨x, hx, hx'⟩ := List.mem_map.mp hmem
    exact hpos (List.any_eq_true.mpr ⟨x, hx, decide_eq_true hx'⟩)
  refine ⟨?_, ?_, ?_⟩
  · rw [Search.push, List.map_append]
    exact List.nodup_append.mpr ⟨h.distinct, List.nodup_singleton _, fun a ha b hb ↦ by
      rintro rfl
      have hsame : a = pos := List.mem_singleton.mp hb
      exact hmem (hsame ▸ ha)⟩
  · intro x hx
    rcases List.mem_append.mp hx with hx | hx
    · exact h.good x hx
    · obtain rfl := List.mem_singleton.mp hx
      exact hgood _ (Nat.min_le_left ..)
  · have htotal := h.total
    have hle : min need_space s.count ≤ s.count := Nat.min_le_right ..
    rw [Search.push, List.map_append, List.sum_append]
    show (s.dest.map Prod.snd).sum + (min need_space s.count + 0) + (s.count - min need_space s.count) = total
    omega

end search

namespace Player

variable (mgr : ObjectMgr) (player : Player)

/-- The player has such a slot. -/
def HasSlot (bag slot : ℕ) : Prop := bag = INVENTORY_SLOT_BAG_0 ∧ (slot < BANK_SLOT_BAG_END ∨
    KEYRING_SLOT_START ≤ slot ∧ slot < CURRENCYTOKEN_SLOT_END) ∨
  bag ≠ INVENTORY_SLOT_BAG_0 ∧ slot < player.GetBagSize mgr bag

/-- So much of an item can be put to a position. -/
def CanHold (proto : ItemTemplate) (pItem : Option Item) (pos count : ℕ) : Prop :=
  player.HasSlot mgr (pos / 256) (pos % 256) ∧ player.HasSpace mgr proto pItem pos count

variable {mgr player} {proto : ItemTemplate} {pItem : Option Item} {bag slot : ℕ}

/-! ## Slots -/

theorem HasSlot.lt (h : player.HasSlot mgr bag slot) : slot < 256 := by
  have hown : BANK_SLOT_BAG_END ≤ 256 ∧ CURRENCYTOKEN_SLOT_END ≤ 256 ∧ MAX_BAG_SIZE ≤ 256 := by decide
  rcases h with ⟨-, h | h⟩ | ⟨-, h⟩
  · omega
  · omega
  · have hle : player.GetBagSize mgr bag ≤ MAX_BAG_SIZE := GetBagSize_le bag
    omega

theorem GetBagSize_self : player.GetBagSize mgr INVENTORY_SLOT_BAG_0 = 0 := by
  have hnone : player.GetBagByPos mgr INVENTORY_SLOT_BAG_0 = none := by
    rw [GetBagByPos, if_neg (by decide)]
  rw [GetBagSize, hnone]
  rfl

/-- What is at a position is what is kept there, if there is such a slot. -/
theorem GetItemByPos_of_hasSlot (h : player.HasSlot mgr bag slot) :
    player.GetItemByPos mgr bag slot = player.items[makePos bag slot]? := by
  rw [GetItemByPos]
  rcases h with h | ⟨hne, hlt⟩
  · rw [if_pos h]
  · simp [hlt]

theorem hasSlot_of_GetItemByPos {item : Item} (h : player.GetItemByPos mgr bag slot = some item) :
    player.HasSlot mgr bag slot := by
  rw [GetItemByPos] at h
  split_ifs at h with hown hbag
  · exact .inl hown
  · refine .inr ⟨?_, hbag⟩
    rintro rfl
    rw [GetBagSize_self] at hbag
    exact Nat.not_lt_zero _ hbag

theorem hasSlot_of_fitsSlot (h : player.fitsSlot mgr proto bag slot = true) : player.HasSlot mgr bag slot := by
  rw [fitsSlot] at h
  split_ifs at h with hbag
  · refine .inl ⟨hbag, ?_⟩
    simp only [Bool.and_eq_true, Bool.not_eq_true', Bool.or_eq_false_iff, Bool.and_eq_false_iff,
      decide_eq_false_iff_not] at h
    have hlimits : BUYBACK_SLOT_START = BANK_SLOT_BAG_END ∧ BUYBACK_SLOT_END = KEYRING_SLOT_START ∧
      CURRENCYTOKEN_SLOT_END = PLAYER_SLOT_END := by decide
    omega
  · obtain ⟨b, hb, hlt⟩ := (Option.any_eq_true _ _).mp h
    rw [Bool.and_eq_true] at hlt
    refine .inr ⟨hbag, ?_⟩
    rw [GetBagSize, hb]
    exact of_decide_eq_true hlt.1

/-- The item at a slot that is told, or at one that is free, is there. -/
theorem hasSlot_of_specificSpace {swap : Bool} {space : ℕ}
    (h : player.specificSpace mgr proto pItem bag slot swap = .ok space) :
    player.HasSlot mgr bag slot := by
  rw [specificSpace] at h
  by_cases hbag : pItem.any (·.notEmptyBag) = true ∧ (!IsBagPos bag slot) = true
  · simp [hbag] at h
  rw [if_neg hbag] at h
  cases hother : (player.otherItem mgr pItem bag slot).filter fun _ ↦ !swap with
  | none =>
    rw [hother] at h
    split_ifs at h with hfits
    exact hasSlot_of_fitsSlot hfits
  | some item2 =>
    have hitem := (Option.filter_eq_some_iff.mp hother).1
    exact hasSlot_of_GetItemByPos (Option.filter_eq_some_iff.mp hitem).1

/-! ## The parts of the search -/

section parts

variable {total : ℕ} {s : Search}

theorem sound_searchSlots {merge : Bool} {skip : ℕ → Bool} {slots : List ℕ}
    (hslots : ∀ j ∈ slots, player.HasSlot mgr bag j)
    (h : s.Sound (player.CanHold mgr proto pItem) total) :
    (player.searchSlots mgr proto pItem merge bag skip slots s).Sound (player.CanHold mgr proto pItem) total := by
  induction slots generalizing s with
  | nil => exact h
  | cons j slots ih =>
    have hrest : ∀ i ∈ slots, player.HasSlot mgr bag i := fun i hi ↦
      hslots i (List.mem_cons_of_mem _ hi)
    have hslot := hslots j List.mem_cons_self
    rw [searchSlots]
    by_cases hskip : skip j = true
    · rw [if_pos hskip]
      exact ih hrest h
    rw [if_neg hskip]
    cases hspace : player.slotSpace mgr proto pItem merge bag j with
    | none => exact ih hrest h
    | some need_space =>
      dsimp only
      by_cases hpos : s.isContained (makePos bag j) = true
      · rw [if_pos hpos]
        exact ih hrest h
      have hgood (n : ℕ) (hn : n ≤ need_space) : player.CanHold mgr proto pItem (makePos bag j) n := by
        refine ⟨?_, hasSpace_of_slotSpace hslot.lt hspace hn⟩
        rwa [makePos_div hslot.lt, makePos_mod hslot.lt]
      have hpush := h.push hpos hgood
      rw [if_neg hpos]
      split_ifs
      · exact hpush
      · exact ih hrest hpush

/-- What a part of a search does if it keeps what there is. -/
def Keeps (mgr : ObjectMgr) (player : Player) (proto : ItemTemplate) (pItem : Option Item) (total : ℕ)
    (search : Search → InventoryResult × Search) : Prop :=
  ∀ s : Search, s.Sound (player.CanHold mgr proto pItem) total →
    (search s).2.Sound (player.CanHold mgr proto pItem) total

theorem keeps_inSpecificSlot : Keeps mgr player proto pItem total
      (player.CanStoreItem_InSpecificSlot mgr proto pItem bag slot false) := by
  intro s h
  rw [CanStoreItem_InSpecificSlot]
  cases hspace : player.specificSpace mgr proto pItem bag slot false with
  | error res => exact h
  | ok need_space =>
    have hslot := hasSlot_of_specificSpace hspace
    split_ifs with hpos
    · exact h
    · refine h.push hpos fun n hn ↦ ⟨?_, hasSpace_of_specificSpace hslot.lt hspace hn⟩
      rwa [makePos_div hslot.lt, makePos_mod hslot.lt]

theorem keeps_inBag (i : ℕ) (merge non_specialized : Bool) (skip_bag skip_slot : ℕ) : Keeps mgr player proto pItem total
      (player.CanStoreItem_InBag mgr proto pItem i merge non_specialized skip_bag skip_slot) := by
  intro s h
  rw [CanStoreItem_InBag]
  by_cases hskip : i = skip_bag
  · rw [if_pos hskip]
    exact h
  rw [if_neg hskip]
  cases hb : player.GetBagByPos mgr i with
  | none => exact h
  | some b =>
    have hne : i ≠ INVENTORY_SLOT_BAG_0 := by
      rintro rfl
      rw [GetBagByPos, if_neg (by decide)] at hb
      cases hb
    dsimp only
    split_ifs
    · exact h
    · exact h
    · exact h
    · exact h
    · exact sound_searchSlots (fun j hj ↦ .inr ⟨hne, (mem_slotRange.mp hj).2⟩) h

theorem keeps_inInventorySlots {slot_begin slot_end : ℕ}
    (hslots : ∀ j, slot_begin ≤ j → j < slot_end → player.HasSlot mgr INVENTORY_SLOT_BAG_0 j)
    (merge : Bool) (skip_bag skip_slot : ℕ) :
    Keeps mgr player proto pItem total
      (player.CanStoreItem_InInventorySlots mgr proto pItem slot_begin slot_end merge skip_bag skip_slot) := by
  intro s h
  rw [CanStoreItem_InInventorySlots]
  split_ifs
  · exact h
  · refine sound_searchSlots (fun j hj ↦ ?_) h
    have hrange := mem_slotRange.mp hj
    exact hslots j hrange.1 hrange.2

theorem keeps_inEquippedBag (i : ℕ) (merge : Bool) (skip_slot : ℕ) : Keeps mgr player proto pItem total
      (player.CanStoreItem_InEquippedBag mgr proto pItem i merge skip_slot) := by
  intro s h
  have hfirst := keeps_inBag i merge false NULL_BAG skip_slot s h
  rw [CanStoreItem_InEquippedBag]
  generalize player.CanStoreItem_InBag mgr proto pItem i merge false NULL_BAG skip_slot s = r
    at hfirst ⊢
  obtain ⟨res, s'⟩ := r
  cases res with
  | OK => exact hfirst
  | _ => exact keeps_inBag i merge true NULL_BAG skip_slot s' hfirst

end parts

/-! ## The phases -/

section phases

variable {no_similar total : ℕ} {no_space_count : Option ℕ} {next : Search → StoreAnswer}

/-- What is answered in the end is sound. -/
def Ends (mgr : ObjectMgr) (player : Player) (proto : ItemTemplate) (pItem : Option Item)
    (no_similar total : ℕ) (next : Search → StoreAnswer) : Prop :=
  ∀ s : Search, s.Sound (player.CanHold mgr proto pItem) total →
    (next s).Sound (player.CanHold mgr proto pItem) no_similar total

theorem sound_refuse {res : InventoryResult} (hres : res ≠ .OK) :
    Ends mgr player proto pItem no_similar total (refuse no_similar no_space_count res) := fun _ h ↦
  ⟨h.distinct, h.good, fun hok ↦ absurd hok hres⟩

theorem sound_finish {s : Search} (hcount : s.count = 0) (h : s.Sound (player.CanHold mgr proto pItem) total) :
    (finish no_similar no_space_count s).Sound (player.CanHold mgr proto pItem) no_similar total := by
  rw [finish]
  split_ifs with hsimilar
  · refine ⟨h.distinct, h.good, fun _ ↦ ⟨hsimilar, ?_⟩⟩
    simpa [hcount] using h.total
  · exact sound_refuse InventoryResult.noConfusion s h

theorem ends_phase {search : Search → InventoryResult × Search} (hsearch : Keeps mgr player proto pItem total search)
    (hnext : Ends mgr player proto pItem no_similar total next) :
    Ends mgr player proto pItem no_similar total (phase no_similar no_space_count search next) := by
  intro s h
  have hs := hsearch s h
  rw [phase]
  split_ifs with hres hcount
  · exact sound_refuse hres _ hs
  · exact sound_finish hcount hs
  · exact hnext _ hs

theorem ends_bagPhase {search : ℕ → Search → InventoryResult × Search}
    (hsearch : ∀ bag, Keeps mgr player proto pItem total (search bag))
    (hnext : Ends mgr player proto pItem no_similar total next) (bags : List ℕ) :
    Ends mgr player proto pItem no_similar total (bagPhase no_similar no_space_count search next bags) := by
  induction bags with
  | nil => exact hnext
  | cons bag bags ih =>
    intro s h
    have hs := hsearch bag s h
    rw [bagPhase]
    split_ifs with hres hcount
    · exact ih _ hs
    · exact sound_finish hcount hs
    · exact ih _ hs

variable (hnext : Ends mgr player proto pItem no_similar total next)

include hnext

theorem ends_ownSlots {slot_begin slot_end : ℕ}
    (hslots : ∀ j, slot_begin ≤ j → j < slot_end → player.HasSlot mgr INVENTORY_SLOT_BAG_0 j)
    (merge : Bool) :
    Ends mgr player proto pItem no_similar total
      (player.ownSlots mgr proto pItem no_similar no_space_count bag slot slot_begin slot_end merge next) :=
  ends_phase (keeps_inInventorySlots hslots merge bag slot) hnext

theorem ends_backpack (merge : Bool) : Ends mgr player proto pItem no_similar total
      (player.ownSlots mgr proto pItem no_similar no_space_count bag slot INVENTORY_SLOT_ITEM_START
        INVENTORY_SLOT_ITEM_END merge next) := by
  refine ends_ownSlots hnext (fun j _ hj ↦ .inl ⟨rfl, .inl ?_⟩) merge
  exact Nat.lt_of_lt_of_le hj (by decide)

theorem ends_family {slot_begin slot_end : ℕ} (hbegin : KEYRING_SLOT_START ≤ slot_begin)
    (hend : slot_end ≤ CURRENCYTOKEN_SLOT_END) (merge : Bool) :
    Ends mgr player proto pItem no_similar total
      (player.ownSlots mgr proto pItem no_similar no_space_count bag slot slot_begin slot_end merge next) :=
  ends_ownSlots hnext (fun _ hj hj' ↦
    .inl ⟨rfl, .inr ⟨Nat.le_trans hbegin hj, Nat.lt_of_lt_of_le hj' hend⟩⟩) merge

theorem ends_ownBags (merge non_specialized : Bool) : Ends mgr player proto pItem no_similar total
      (player.ownBags mgr proto pItem no_similar no_space_count bag slot merge non_specialized next) :=
  ends_bagPhase (fun i ↦ keeps_inBag i merge non_specialized bag slot) hnext bagSlots

theorem ends_mergeInSpecificBag : Ends mgr player proto pItem no_similar total
      (player.mergeInSpecificBag mgr proto pItem no_similar no_space_count bag slot next) := by
  rw [mergeInSpecificBag]
  split_ifs
  · exact ends_family (ends_backpack hnext true) (Nat.le_refl _) (Nat.le_refl _) true
  · exact ends_phase (keeps_inEquippedBag bag true slot) hnext
  · exact hnext

theorem ends_freeInSpecificBag : Ends mgr player proto pItem no_similar total
      (player.freeInSpecificBag mgr proto pItem no_similar no_space_count bag slot next) := by
  have hbackpack : Ends mgr player proto pItem no_similar total
      (player.ownSlots mgr proto pItem no_similar no_space_count bag slot
        INVENTORY_SLOT_ITEM_START INVENTORY_SLOT_ITEM_END false next) := ends_backpack hnext false
  rw [freeInSpecificBag]
  split_ifs
  · exact ends_family (ends_family hbackpack (by decide) (Nat.le_refl _) false) (Nat.le_refl _)
      (by decide) false
  · exact ends_family hbackpack (by decide) (Nat.le_refl _) false
  · exact hbackpack
  · exact ends_phase (keeps_inEquippedBag bag false slot) hnext

theorem ends_freeForFamily : Ends mgr player proto pItem no_similar total
      (player.freeForFamily mgr proto pItem no_similar no_space_count bag slot next) := by
  have hbags : Ends mgr player proto pItem no_similar total
      (player.ownBags mgr proto pItem no_similar no_space_count bag slot false false next) :=
    ends_ownBags hnext false false
  rw [freeForFamily]
  split_ifs
  · exact ends_family hbags (Nat.le_refl _) (by decide) false
  · exact ends_family hbags (by decide) (Nat.le_refl _) false
  · exact hbags
  · exact hnext

theorem ends_mergeAnywhere : Ends mgr player proto pItem no_similar total
      (player.mergeAnywhere mgr proto pItem no_similar no_space_count bag slot next) := by
  have hbags : Ends mgr player proto pItem no_similar total
      (player.ownBags mgr proto pItem no_similar no_space_count bag slot true true next) :=
    ends_ownBags hnext true true
  rw [mergeAnywhere]
  split_ifs
  · exact ends_family (ends_backpack (ends_ownBags hbags true false) true) (Nat.le_refl _)
      (Nat.le_refl _) true
  · exact ends_family (ends_backpack hbags true) (Nat.le_refl _) (Nat.le_refl _) true
  · exact hnext

omit hnext

theorem ends_freeAnywhere : Ends mgr player proto pItem no_similar total
      (player.freeAnywhere mgr proto pItem no_similar no_space_count bag slot) := by
  intro s h
  rw [freeAnywhere]
  split_ifs
  · exact ⟨h.distinct, h.good, InventoryResult.noConfusion⟩
  · exact ends_backpack (ends_ownBags (sound_refuse InventoryResult.noConfusion) false true) false s h

/-- **The whole search** keeps what there is. -/
theorem ends_storeSearch : Ends mgr player proto pItem no_similar total
      (player.storeSearch mgr proto pItem no_similar no_space_count bag slot false) := by
  have hanywhere : Ends mgr player proto pItem no_similar total
      (player.mergeAnywhere mgr proto pItem no_similar no_space_count bag slot
        (player.freeForFamily mgr proto pItem no_similar no_space_count bag slot
          (player.freeAnywhere mgr proto pItem no_similar no_space_count bag slot))) :=
    ends_mergeAnywhere (ends_freeForFamily ends_freeAnywhere)
  have hafter : Ends mgr player proto pItem no_similar total
      (player.afterSlot mgr proto pItem no_similar no_space_count bag slot) := by
    rw [afterSlot]
    split_ifs
    · exact ends_mergeInSpecificBag (ends_freeInSpecificBag hanywhere)
    · exact hanywhere
  rw [storeSearch]
  split_ifs
  · exact ends_phase keeps_inSpecificSlot hafter
  · exact hafter

end phases

/-! ## The answer -/

section answer

variable {entry count : ℕ} {no_space_count : Option ℕ}

/-- Without a limit that is exceeded all of the count is wanted. -/
theorem wantedCount_of_no_similar (hlt : count < 2 ^ 32)
    (h : (player.CanTakeMoreSimilarItems mgr entry count pItem).2 = 0) :
    player.wantedCount mgr entry count pItem = count := by
  rw [wantedCount, h]
  split_ifs
  · rfl
  · exact (congrArg uint32 (Int.sub_zero _)).trans (uint32_natCast hlt)

/-- **If the answer is `OK`**, then all of the item has a place. -/
theorem canStoreItem_ok (hlt : count < 2 ^ 32)
    (hok : (player.CanStoreItem mgr bag slot entry count pItem false no_space_count).result = .OK) :
    ∃ proto, mgr.GetItemTemplate entry = some proto ∧
      (player.CanStoreItem mgr bag slot entry count pItem false no_space_count).Sound
        (player.CanHold mgr proto pItem) 0 count := by
  rcases CanStoreItem_spec mgr player pItem bag slot entry count no_space_count false with
    ⟨proto, hsearched, heq⟩ | ⟨-, res, hres, heq⟩
  · have hsound : (player.CanStoreItem mgr bag slot entry count pItem false no_space_count).Sound
        (player.CanHold mgr proto pItem) (player.CanTakeMoreSimilarItems mgr entry count pItem).2
        (player.wantedCount mgr entry count pItem) := by
      rw [heq]
      exact ends_storeSearch _ (Search.Sound.start _ _)
    have hsimilar := (hsound.ok hok).1
    rw [hsimilar, wantedCount_of_no_similar hlt hsimilar] at hsound
    exact ⟨proto, hsearched.1, hsound⟩
  · simp [heq, hres] at hok

theorem specificSpace_swap {space : ℕ} (h : player.specificSpace mgr proto pItem bag slot true = .ok space) :
    space = proto.GetMaxStackSize := by
  have hnone (item : Option Item) : (item.filter fun _ ↦ !true) = none := by
    cases item <;> rfl
  rw [specificSpace, hnone] at h
  by_cases hbag : pItem.any (·.notEmptyBag) = true ∧ (!IsBagPos bag slot) = true
  · simp [hbag] at h
  rw [if_neg hbag] at h
  split_ifs at h
  exact (Except.ok.inj h).symm

/-- **An item that is swapped** goes to the slot that is told. -/
theorem canStoreItem_swap (hproto : mgr.GetItemTemplate entry = some proto) (hlt : count < 2 ^ 32)
    (hle : count ≤ proto.GetMaxStackSize) (hbag : bag ≠ NULL_BAG) (hslot : slot ≠ NULL_SLOT)
    (hok : (player.CanStoreItem mgr bag slot entry count pItem true no_space_count).result = .OK) :
    player.HasSlot mgr bag slot ∧ (player.CanStoreItem mgr bag slot entry count pItem true no_space_count).dest =
        [(makePos bag slot, count)] := by
  rcases CanStoreItem_spec mgr player pItem bag slot entry count no_space_count true with
    ⟨proto', hsearched, heq⟩ | ⟨-, res, hres, heq⟩
  swap
  · simp [heq, hres] at hok
  obtain rfl : proto = proto' := Option.some.inj (hproto.symm.trans hsearched.1)
  rw [heq] at hok ⊢
  cases hspace : player.specificSpace mgr proto pItem bag slot true with
  | error res =>
    rw [storeSearch, if_pos ⟨hbag, hslot⟩, phase, CanStoreItem_InSpecificSlot, hspace,
      if_pos (specificSpace_ne_ok hspace)] at hok
    exact absurd hok (specificSpace_ne_ok hspace)
  | ok space =>
    obtain rfl := specificSpace_swap hspace
    refine ⟨hasSlot_of_specificSpace hspace, ?_⟩
    by_cases hzero : player.wantedCount mgr entry count pItem = 0
    · -- nothing is wanted, and the slot is taken for it
      have hcount : count = 0 := by
        by_contra hcount
        exact (wantedCount_spec mgr player pItem entry (Nat.pos_of_ne_zero hcount) hlt
          hsearched.2.2.2).1 hzero
      have hpush : (Search.mk [] 0).push (makePos bag slot) proto.GetMaxStackSize = ⟨[(makePos bag slot, 0)], 0⟩ := by
        simp [Search.push]
      have hfree : ¬ (Search.mk [] 0).isContained (makePos bag slot) = true := Bool.false_ne_true
      have hsearch : player.CanStoreItem_InSpecificSlot mgr proto pItem bag slot true ⟨[], 0⟩ =
          (.OK, ⟨[(makePos bag slot, 0)], 0⟩) := by
        simp [CanStoreItem_InSpecificSlot, hspace, hfree, hpush]
      rw [hzero, hcount, storeSearch, if_pos ⟨hbag, hslot⟩, phase, hsearch, if_neg (not_not.mpr rfl),
        if_pos rfl, finish]
      split_ifs <;> rfl
    · have hanswer := follows_storeSearch mgr player proto pItem bag slot
        (player.CanTakeMoreSimilarItems mgr entry count pItem).2 no_space_count true
        ⟨[], player.wantedCount mgr entry count pItem⟩ hzero
      obtain ⟨-, hsimilar⟩ := hanswer.ok.mp hok
      have hwanted := wantedCount_of_no_similar hlt hsimilar
      have hstep : (Search.mk [] count).toState.step (makePos bag slot, proto.GetMaxStackSize) =
          ⟨[(makePos bag slot, count)], 0⟩ := by
        rw [State.step_of_not_mem (hwanted ▸ hzero) List.not_mem_nil]
        show State.mk [(makePos bag slot, min proto.GetMaxStackSize count)]
          (count - min proto.GetMaxStackSize count) = _
        rw [Nat.min_eq_right hle, Nat.sub_self]
      rw [hanswer.dest, hwanted, searchOrder, if_pos ⟨hbag, hslot⟩, hspace]
      dsimp only
      rw [State.fill_cons, hstep, State.fill_of_left_eq_zero rfl]

end answer

end Player

end Gundrak.Players
