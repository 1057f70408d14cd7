import Gundrak.Players.StoredItems

/-!
# Destroying so many of an item

`DestroyItemCount` goes through the slots of the player in six searches, one after the other: the backpack,
the key ring and the currency, the bags, the equipment with the bag slots, the bank, and the bags of the
bank.  Each of them destroys the stacks of the entry as long as they fit into the count, and takes the rest
from the first one that does not.  In the equipment it may have to leave what cannot be unequipped.

`Destroying.search` is what it does at one slot, and `searchedSlots` has the slots of all searches.

* **`DestroyItemCount_eq`**: what the six searches do is to search those slots, in two parts: destroying a
  bag changes nothing but its own slots, and those have been searched before.
* `search_frame`: what a search of one slot leaves alone.
-/

open Std (ExtTreeMap)

namespace Gundrak.Players

/-! ## Unequipping -/

def ITEM_CLASS_WEAPON : ℕ := 2
def ITEM_CLASS_PROJECTILE : ℕ := 6
def INVTYPE_SHIELD : ℕ := 14
def INVTYPE_HOLDABLE : ℕ := 23
def INVTYPE_RELIC : ℕ := 28

/-- `ItemTemplate::CanChangeEquipStateInCombat`. -/
def ItemTemplate.CanChangeEquipStateInCombat (proto : ItemTemplate) : Bool :=
  proto.InventoryType = INVTYPE_RELIC ∨ proto.InventoryType = INVTYPE_SHIELD ∨ proto.InventoryType = INVTYPE_HOLDABLE ∨
    proto.Class = ITEM_CLASS_WEAPON ∨ proto.Class = ITEM_CLASS_PROJECTILE

/-- What the player is doing, as far as it matters for his equipment; an arena is one that is in progress. -/
structure Circumstances where
  isCharmed : Bool := false
  isInCombat : Bool := false
  isInArena : Bool := false

/-- The `InventoryResult`s of `CanUnequipItem`. -/
inductive UnequipResult where
  | OK
  | ITEM_NOT_FOUND
  | ALREADY_LOOTED
  | CANT_DO_RIGHT_NOW
  | NOT_IN_COMBAT
  | NOT_DURING_ARENA_MATCH
  | CAN_ONLY_DO_WITH_EMPTY_BAGS
deriving DecidableEq

/-- `Player::IsEquipmentPos`. -/
def IsEquipmentPos (bag slot : ℕ) : Bool := bag = INVENTORY_SLOT_BAG_0 ∧ (slot < EQUIPMENT_SLOT_END ∨
    INVENTORY_SLOT_BAG_START ≤ slot ∧ slot < INVENTORY_SLOT_BAG_END)

namespace Player

variable (mgr : ObjectMgr) (now : Circumstances) (player : Player)

/-- What is in the item at a position.  Only a bag in a bag slot has slots of its own. -/
def itemsInside (bag slot : ℕ) : List Item :=
  if bag = INVENTORY_SLOT_BAG_0 then
    player.itemsIn mgr slot (slotRange 0 (player.GetBagSize mgr slot))
  else []

/-- `Item::IsNotEmptyBag`, of the item at a position. -/
def IsNotEmptyBag (bag slot : ℕ) : Bool := !(player.itemsInside mgr bag slot).isEmpty

/-- `Player::CanUnequipItem`. -/
def CanUnequipItem (bag slot : ℕ) (swap : Bool) : UnequipResult :=
  if !IsEquipmentPos bag slot && !IsBagPos bag slot then .OK
  else match player.GetItemByPos mgr bag slot with
  | none => .OK
  | some item =>
    match mgr.GetItemTemplate item.entry with
    | none => .ITEM_NOT_FOUND
    | some proto =>
      if item.lootGenerated then .ALREADY_LOOTED
      else if now.isCharmed then .CANT_DO_RIGHT_NOW
      else if !proto.CanChangeEquipStateInCombat && now.isInCombat then .NOT_IN_COMBAT
      else if !proto.CanChangeEquipStateInCombat && now.isInArena then .NOT_DURING_ARENA_MATCH
      else if !swap && player.IsNotEmptyBag mgr bag slot then .CAN_ONLY_DO_WITH_EMPTY_BAGS
      else .OK

/-! ## Destroying -/

/-- `Player::DestroyItem`, as far as it is about where the items are.  It calls itself for what is in a bag;
those items have nothing in them. -/
def DestroyItem (bag slot : ℕ) : Player :=
  match player.GetItemByPos mgr bag slot with
  | none => player
  | some _ =>
    (if player.IsNotEmptyBag mgr bag slot then
      (slotRange 0 MAX_BAG_SIZE).foldl (fun player i ↦ player.RemoveItem mgr slot i) player
    else player).RemoveItem mgr bag slot

end Player

/-- Where `DestroyItemCount` is: the player, what has been removed, whether it has returned, and the sums that
it has computed, as they are before they are cut to 32 bits. -/
structure Destroying where
  player : Player
  remcount : ℕ := 0
  returned : Bool := false
  sums : List ℤ := []

/-- A slot that is searched; what is there may have to be such that it `CanUnequipItem`. -/
structure SearchedSlot where
  bag : ℕ
  slot : ℕ
  check : Bool

/-- The items that are searched for. -/
def Item.isSought (entry : ℕ) (item : Item) : Bool := item.entry = entry && !item.inTrade

/-- The item at a slot may be taken whole. -/
def Player.mayTake (mgr : ObjectMgr) (now : Circumstances) (player : Player) (p : SearchedSlot) : Bool :=
  !p.check || player.CanUnequipItem mgr now p.bag p.slot false = .OK

section search

variable (mgr : ObjectMgr) (now : Circumstances) (entry count : ℕ)

namespace Destroying

/-- The body of the loops of `Player::DestroyItemCount`.  That of the equipment asks `CanUnequipItem` before it
destroys an item, but not before it makes a stack smaller. -/
def search (s : Destroying) (p : SearchedSlot) : Destroying :=
  if s.returned then s
  else match s.player.GetItemByPos mgr p.bag p.slot with
  | none => s
  | some item =>
    if item.isSought entry then
      let sum : ℤ := item.count + s.remcount
      if uint32 sum ≤ count then
        if s.player.mayTake mgr now p then
          { player := s.player.DestroyItem mgr p.bag p.slot
            remcount := uint32 sum
            returned := count ≤ uint32 sum
            sums := sum :: s.sums }
        else { s with sums := sum :: s.sums }
      else
        let left : ℤ := item.count - count + s.remcount
        { s with
          player := s.player.SetCount p.bag p.slot (uint32 left)
          returned := true
          sums := left :: sum :: s.sums }
    else s

/-- A loop over slots of the character. -/
def searchOwn (check : Bool) (slots : List ℕ) (s : Destroying) : Destroying :=
  slots.foldl (fun s i ↦ s.search mgr now entry count ⟨INVENTORY_SLOT_BAG_0, i, check⟩) s

/-- A loop over bags and their slots. -/
def searchBags (bags : List ℕ) (s : Destroying) : Destroying :=
  bags.foldl (fun s i ↦ (slotRange 0 (s.player.GetBagSize mgr i)).foldl
    (fun s j ↦ s.search mgr now entry count ⟨i, j, false⟩) s) s

end Destroying

/-- `Player::DestroyItemCount`. -/
def Player.DestroyItemCount (player : Player) (unequip_check : Bool) : Destroying :=
  let own := Destroying.searchOwn mgr now entry count
  let bags := Destroying.searchBags mgr now entry count
  bags (slotRange BANK_SLOT_BAG_START BANK_SLOT_BAG_END) <|
  own false (slotRange BANK_SLOT_ITEM_START BANK_SLOT_ITEM_END) <|
  own unequip_check (slotRange EQUIPMENT_SLOT_START INVENTORY_SLOT_BAG_END) <|
  bags (slotRange INVENTORY_SLOT_BAG_START INVENTORY_SLOT_BAG_END) <|
  own false (slotRange KEYRING_SLOT_START CURRENCYTOKEN_SLOT_END) <|
  own false (slotRange INVENTORY_SLOT_ITEM_START INVENTORY_SLOT_ITEM_END) { player }

end search

/-! ## What is left alone -/

namespace Player

variable {mgr : ObjectMgr} {player player' : Player}

theorem get_RemoveItem (bag slot q : ℕ) : (player.RemoveItem mgr bag slot).items[q]? =
      if (player.GetItemByPos mgr bag slot).isSome ∧ makePos bag slot = q then none
      else player.items[q]? := by
  rw [RemoveItem]
  cases hitem : player.GetItemByPos mgr bag slot with
  | none => simp
  | some item =>
    have hbag : bag = INVENTORY_SLOT_BAG_0 ∨ (player.GetBagByPos mgr bag).isSome = true := by
      by_cases hbag : bag = INVENTORY_SLOT_BAG_0
      · exact .inl hbag
      · exact .inr (GetBagByPos_isSome (hasSlot_of_GetItemByPos hitem) hbag)
    simp [hbag, TreeMap.get_erase]

section

variable {bag : ℕ}
  (h : player'.items[makePos INVENTORY_SLOT_BAG_0 bag]? = player.items[makePos INVENTORY_SLOT_BAG_0 bag]?)
include h

theorem GetBagByPos_congr : player'.GetBagByPos mgr bag = player.GetBagByPos mgr bag := by
  simp [GetBagByPos, h]

theorem GetBagSize_congr : player'.GetBagSize mgr bag = player.GetBagSize mgr bag := by
  simp [GetBagSize, GetBagByPos_congr h]

end

theorem GetItemByPos_congr {bag slot : ℕ} (h : player'.items[makePos bag slot]? = player.items[makePos bag slot]?)
    (hbag : bag = INVENTORY_SLOT_BAG_0 ∨
      player'.items[makePos INVENTORY_SLOT_BAG_0 bag]? = player.items[makePos INVENTORY_SLOT_BAG_0 bag]?) :
    player'.GetItemByPos mgr bag slot = player.GetItemByPos mgr bag slot := by
  have hsize : player'.GetBagSize mgr bag = player.GetBagSize mgr bag := by
    rcases hbag with rfl | hbag
    · simp [GetBagSize_self]
    · exact GetBagSize_congr hbag
  simp [GetItemByPos, h, hsize]

theorem get_foldl_RemoveItem {bag q : ℕ} (slots : List ℕ) (hslots : ∀ i ∈ slots, i < 256) (hq : q / 256 ≠ bag) :
    (slots.foldl (fun player i ↦ player.RemoveItem mgr bag i) player).items[q]? = player.items[q]? := by
  induction slots generalizing player with
  | nil => rfl
  | cons i slots ih =>
    have hi : ¬((player.GetItemByPos mgr bag i).isSome = true ∧ makePos bag i = q) := by
      rintro ⟨-, rfl⟩
      exact hq (makePos_div (hslots i List.mem_cons_self))
    simp [ih fun j hj ↦ hslots j (List.mem_cons_of_mem i hj), get_RemoveItem, hi]

theorem lt_of_mem_bag {i : ℕ} (hi : i ∈ slotRange 0 MAX_BAG_SIZE) : i < 256 := (mem_slotRange.mp hi).2.trans (by decide)

theorem get_DestroyItem {bag slot q : ℕ} (hq : q ≠ makePos bag slot)
    (hinside : bag = INVENTORY_SLOT_BAG_0 → q / 256 ≠ slot) :
    (player.DestroyItem mgr bag slot).items[q]? = player.items[q]? := by
  rw [DestroyItem]
  split
  · rfl
  · rw [get_RemoveItem, if_neg fun h ↦ hq h.2.symm]
    split
    next hbag =>
      refine get_foldl_RemoveItem _ (fun i ↦ lt_of_mem_bag) (hinside ?_)
      by_contra hne
      simp [IsNotEmptyBag, itemsInside, hne] at hbag
    · rfl

end Player

namespace SearchedSlot

/-- The position of a slot. -/
def pos (p : SearchedSlot) : ℕ := makePos p.bag p.slot

/-- A position that a search of the slot may change: that of the slot, or one in the item that is there. -/
def Touches (p : SearchedSlot) (q : ℕ) : Prop := q = p.pos ∨ p.bag = INVENTORY_SLOT_BAG_0 ∧ q / 256 = p.slot

/-- The slot of the character that a slot is, or that it is in the bag of. -/
def owner (p : SearchedSlot) : ℕ := if p.bag = INVENTORY_SLOT_BAG_0 then p.slot else p.bag

end SearchedSlot

/-- The slot of the character that a position is, or that it is in the bag of. -/
def ownerOf (pos : ℕ) : ℕ := if pos / 256 = INVENTORY_SLOT_BAG_0 then pos % 256 else pos / 256

theorem ownerOf_makePos {bag slot : ℕ} (hslot : slot < 256) :
    ownerOf (makePos bag slot) = if bag = INVENTORY_SLOT_BAG_0 then slot else bag := by
  rw [ownerOf, Player.makePos_div hslot, Player.makePos_mod hslot]

theorem SearchedSlot.Touches.owner_eq {p : SearchedSlot} {q : ℕ} (h : p.Touches q)
    (hp : p.slot < INVENTORY_SLOT_BAG_0) : ownerOf q = p.owner := by
  have hlt : p.slot < 256 := hp.trans (by decide)
  rcases h with rfl | ⟨hbag, hq⟩
  · rw [SearchedSlot.pos, ownerOf_makePos hlt, SearchedSlot.owner]
  · rw [ownerOf, if_neg (hq.trans_ne hp.ne), SearchedSlot.owner, if_pos hbag, hq]

namespace Destroying

variable {mgr : ObjectMgr} {now : Circumstances} {entry count : ℕ} {s : Destroying}

/-- **A search leaves alone** what is not at its slot or in the item that is there. -/
theorem search_frame {p : SearchedSlot} {q : ℕ} (hq : ¬p.Touches q) :
    (s.search mgr now entry count p).player.items[q]? = s.player.items[q]? := by
  have hne : q ≠ makePos p.bag p.slot := fun h ↦ hq (.inl h)
  have hdestroy : (s.player.DestroyItem mgr p.bag p.slot).items[q]? = s.player.items[q]? :=
    Player.get_DestroyItem hne fun hbag hslot ↦ hq (.inr ⟨hbag, hslot⟩)
  rw [search]
  split
  · rfl
  · split
    · rfl
    · dsimp only
      split_ifs
      · exact hdestroy
      · rfl
      · simp [Player.SetCount, TreeMap.get_modify, (Ne.symm hne)]
      · rfl

theorem foldl_search_frame {q : ℕ} (ps : List SearchedSlot) (hps : ∀ p ∈ ps, ¬p.Touches q) :
    (ps.foldl (·.search mgr now entry count) s).player.items[q]? = s.player.items[q]? := by
  induction ps generalizing s with
  | nil => rfl
  | cons p ps ih =>
    simp [ih fun p' hp' ↦ hps p' (List.mem_cons_of_mem p hp'), search_frame (hps p List.mem_cons_self)]

end Destroying

/-! ## The slots that are searched -/

/-- Slots of the character. -/
def ownSlots (check : Bool) (slots : List ℕ) : List SearchedSlot := slots.map fun i ↦ ⟨INVENTORY_SLOT_BAG_0, i, check⟩

/-- The slots of bags. -/
def slotsOfBags (mgr : ObjectMgr) (player : Player) (bags : List ℕ) : List SearchedSlot :=
  bags.flatMap fun i ↦ (slotRange 0 (player.GetBagSize mgr i)).map fun j ↦ ⟨i, j, false⟩

/-- The slots that are searched before the equipment. -/
def slotsBefore (mgr : ObjectMgr) (player : Player) : List SearchedSlot :=
  ownSlots false (slotRange INVENTORY_SLOT_ITEM_START INVENTORY_SLOT_ITEM_END) ++
    (ownSlots false (slotRange KEYRING_SLOT_START CURRENCYTOKEN_SLOT_END) ++
      slotsOfBags mgr player (slotRange INVENTORY_SLOT_BAG_START INVENTORY_SLOT_BAG_END))

/-- The slots of the equipment and those that are searched after it. -/
def slotsAfter (mgr : ObjectMgr) (player : Player) (unequip_check : Bool) : List SearchedSlot :=
  ownSlots unequip_check (slotRange EQUIPMENT_SLOT_START INVENTORY_SLOT_BAG_END) ++
    (ownSlots false (slotRange BANK_SLOT_ITEM_START BANK_SLOT_ITEM_END) ++
      slotsOfBags mgr player (slotRange BANK_SLOT_BAG_START BANK_SLOT_BAG_END))

section slots

variable {mgr : ObjectMgr} {now : Circumstances} {entry count : ℕ} {player player' : Player}
  {s : Destroying} {check : Bool}

theorem mem_ownSlots {slots : List ℕ} {p : SearchedSlot} :
    p ∈ ownSlots check slots ↔ ∃ i ∈ slots, p = ⟨INVENTORY_SLOT_BAG_0, i, check⟩ := by
  simp only [ownSlots, List.mem_map, eq_comm]

theorem mem_slotsOfBags {bags : List ℕ} {p : SearchedSlot} : p ∈ slotsOfBags mgr player bags ↔
      p.bag ∈ bags ∧ p.slot < player.GetBagSize mgr p.bag ∧ p.check = false := by
  obtain ⟨bag, slot, check⟩ := p
  simp only [slotsOfBags, List.mem_flatMap, List.mem_map, Player.mem_slotRange]
  constructor
  · rintro ⟨i, hi, j, ⟨-, hj⟩, h⟩
    cases h
    exact ⟨hi, hj, rfl⟩
  · rintro ⟨hi, hj, rfl⟩
    exact ⟨bag, hi, slot, ⟨Nat.zero_le slot, hj⟩, rfl⟩

/-- A slot that is one of some slots of the character, or is in the bag in one of them. -/
def Owned (first last : ℕ) (p : SearchedSlot) : Prop := p.slot < INVENTORY_SLOT_BAG_0 ∧ first ≤ p.owner ∧ p.owner < last

section

variable {first last : ℕ} (hlast : last ≤ INVENTORY_SLOT_BAG_0) {p : SearchedSlot}
include hlast

theorem owned_of_mem_ownSlots (hp : p ∈ ownSlots check (slotRange first last)) : Owned first last p := by
  obtain ⟨i, hi, rfl⟩ := mem_ownSlots.mp hp
  obtain ⟨hfirst, hlt⟩ := Player.mem_slotRange.mp hi
  exact ⟨hlt.trans_le hlast, hfirst, hlt⟩

theorem owned_of_mem_slotsOfBags (hp : p ∈ slotsOfBags mgr player (slotRange first last)) : Owned first last p := by
  obtain ⟨hbag, hslot, -⟩ := mem_slotsOfBags.mp hp
  obtain ⟨hfirst, hlt⟩ := Player.mem_slotRange.mp hbag
  have hsize : player.GetBagSize mgr p.bag ≤ MAX_BAG_SIZE := Player.GetBagSize_le p.bag
  have howner : p.owner = p.bag := if_neg (hlt.trans_le hlast).ne
  exact ⟨hslot.trans_le (hsize.trans (by decide)), howner.symm ▸ hfirst, howner.symm ▸ hlt⟩

end

theorem Owned.outside {a b first last : ℕ} {p : SearchedSlot} (h : Owned a b p) (hapart : last ≤ a ∨ b ≤ first) :
    p.slot < INVENTORY_SLOT_BAG_0 ∧ ¬(first ≤ p.owner ∧ p.owner < last) := by
  obtain ⟨hslot, hle, hlt⟩ := h
  exact ⟨hslot, by omega⟩

theorem slotsOfBags_congr {bags : List ℕ} (h : ∀ i ∈ bags, player'.items[makePos INVENTORY_SLOT_BAG_0 i]? =
      player.items[makePos INVENTORY_SLOT_BAG_0 i]?) :
    slotsOfBags mgr player' bags = slotsOfBags mgr player bags :=
  List.flatMap_congr fun i hi ↦ by rw [Player.GetBagSize_congr (h i hi)]

namespace Destroying

theorem searchOwn_eq (slots : List ℕ) : s.searchOwn mgr now entry count check slots =
      (ownSlots check slots).foldl (·.search mgr now entry count) s := by
  rw [searchOwn, ownSlots, List.foldl_map]

theorem searchBags_eq {bags : List ℕ} (hbags : ∀ i ∈ bags, i < INVENTORY_SLOT_BAG_0) :
    s.searchBags mgr now entry count bags = (slotsOfBags mgr s.player bags).foldl (·.search mgr now entry count) s := by
  induction bags generalizing s with
  | nil => rfl
  | cons i bags ih =>
    have hi := hbags i List.mem_cons_self
    rw [slotsOfBags, List.flatMap_cons, List.foldl_append, List.foldl_map]
    have hcons : s.searchBags mgr now entry count (i :: bags) =
        searchBags mgr now entry count bags ((slotRange 0 (s.player.GetBagSize mgr i)).foldl
          (fun s j ↦ s.search mgr now entry count ⟨i, j, false⟩) s) := rfl
    rw [hcons, ih fun j hj ↦ hbags j (List.mem_cons_of_mem i hj)]
    congr 1
    refine slotsOfBags_congr fun j hj ↦ ?_
    rw [← List.foldl_map (f := fun j : ℕ ↦ (⟨i, j, false⟩ : SearchedSlot))]
    refine foldl_search_frame _ fun p hp ↦ ?_
    obtain ⟨k, hk, rfl⟩ := List.mem_map.mp hp
    have hsize : s.player.GetBagSize mgr i ≤ MAX_BAG_SIZE := Player.GetBagSize_le i
    have hklt := (Player.mem_slotRange.mp hk).2
    rintro (h | ⟨h, -⟩)
    · have hown := congrArg (· / 256) h
      rw [SearchedSlot.pos, Player.makePos_div ((hbags j (List.mem_cons_of_mem i hj)).trans (by decide)),
        Player.makePos_div (hklt.trans_le (hsize.trans (by decide)))] at hown
      exact hi.ne hown.symm
    · exact hi.ne h

/-- Searching elsewhere does not change which slots bags have. -/
theorem slotsOfBags_foldl {ps : List SearchedSlot} {first last : ℕ} (hlast : last ≤ INVENTORY_SLOT_BAG_0)
    (hps : ∀ p ∈ ps, p.slot < INVENTORY_SLOT_BAG_0 ∧ ¬(first ≤ p.owner ∧ p.owner < last)) :
    slotsOfBags mgr (ps.foldl (·.search mgr now entry count) s).player (slotRange first last) =
      slotsOfBags mgr s.player (slotRange first last) := by
  refine slotsOfBags_congr fun i hi ↦ foldl_search_frame ps fun p hp htouches ↦ ?_
  have hrange := Player.mem_slotRange.mp hi
  have howner := htouches.owner_eq (hps p hp).1
  rw [ownerOf_makePos (by have : INVENTORY_SLOT_BAG_0 = 255 := rfl; omega), if_pos rfl] at howner
  rw [howner] at hrange
  exact (hps p hp).2 hrange

/-- **What `DestroyItemCount` searches**, in two parts. -/
theorem DestroyItemCount_eq : player.DestroyItemCount mgr now entry count check =
      (slotsAfter mgr player check).foldl (·.search mgr now entry count)
        ((slotsBefore mgr player).foldl (·.search mgr now entry count) { player }) := by
  have hbag : ∀ i ∈ slotRange INVENTORY_SLOT_BAG_START INVENTORY_SLOT_BAG_END, i < INVENTORY_SLOT_BAG_0 :=
    fun i hi ↦ (Player.mem_slotRange.mp hi).2.trans (by decide)
  have hbank : ∀ i ∈ slotRange BANK_SLOT_BAG_START BANK_SLOT_BAG_END, i < INVENTORY_SLOT_BAG_0 :=
    fun i hi ↦ (Player.mem_slotRange.mp hi).2.trans (by decide)
  rw [Player.DestroyItemCount, searchBags_eq hbank, searchBags_eq hbag]
  simp only [searchOwn_eq, slotsBefore, slotsAfter, ← List.foldl_append]
  rw [slotsOfBags_foldl (by decide) fun p hp ↦ ?first, slotsOfBags_foldl (by decide) fun p hp ↦ ?second]
  case first =>
    rcases List.mem_append.mp hp with hp | hp
    · exact (owned_of_mem_ownSlots (by decide) hp).outside (.inl (by decide))
    · exact (owned_of_mem_ownSlots (by decide) hp).outside (.inl (by decide))
  case second =>
    simp only [List.mem_append] at hp
    rcases hp with (((hp | hp) | hp) | hp) | hp
    · exact (owned_of_mem_ownSlots (by decide) hp).outside (.inr (by decide))
    · exact (owned_of_mem_ownSlots (by decide) hp).outside (.inl (by decide))
    · exact (owned_of_mem_slotsOfBags (by decide) hp).outside (.inr (by decide))
    · exact (owned_of_mem_ownSlots (by decide) hp).outside (.inr (by decide))
    · exact (owned_of_mem_ownSlots (by decide) hp).outside (.inr (by decide))
  simp

end Destroying

end slots

end Gundrak.Players
