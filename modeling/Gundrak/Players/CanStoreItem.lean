import Gundrak.Players.Inventory

/-!
# Where an item can be stored

`Player::CanStoreItem` looks for places in a fixed order: the slot it is told, the bag it is told, stacks of
the item, bags for its family, free slots.  Every part of the search takes what is still to be stored and
either fails, or goes on with what is left.  `phase` is what `CanStoreItem` does after each of them.
-/

namespace Gundrak.Players

/-- The positions found so far, with how much goes there, and how much is left. -/
structure Search where
  dest : List (ℕ × ℕ)
  count : ℕ
deriving DecidableEq

namespace Search

variable (s : Search)

/-- `ItemPosCount::isContainedIn`. -/
def isContained (pos : ℕ) : Bool := s.dest.any fun x ↦ x.1 = pos

/-- Add a position with as much as is needed of the space there. -/
def push (pos need_space : ℕ) : Search := ⟨s.dest ++ [(pos, min need_space s.count)], s.count - min need_space s.count⟩

end Search

/-- What `CanStoreItem` returns, and what it leaves in `dest` and in `no_space_count`, if that is given. -/
structure StoreAnswer where
  result : InventoryResult
  dest : List (ℕ × ℕ)
  no_space_count : Option ℕ
deriving DecidableEq

namespace Player

variable (mgr : ObjectMgr) (player : Player) (proto : ItemTemplate) (pSrcItem : Option Item)

/-- The item at a position, without the one that is moved. -/
def otherItem (bag slot : ℕ) : Option Item := (player.GetItemByPos mgr bag slot).filter fun item ↦ !item.isItem pSrcItem

/-- The checks of an empty slot that `CanStoreItem_InSpecificSlot` is told. -/
def fitsSlot (bag slot : ℕ) : Bool :=
  if bag = INVENTORY_SLOT_BAG_0 then
    !(KEYRING_SLOT_START ≤ slot && slot < KEYRING_SLOT_START + GetMaxKeyringSize &&
      !proto.hasFamily BAG_FAMILY_MASK_KEYS) &&
    !(CURRENCYTOKEN_SLOT_START ≤ slot && slot < CURRENCYTOKEN_SLOT_END && !proto.IsCurrencyToken) &&
    !(BUYBACK_SLOT_START ≤ slot && slot < BUYBACK_SLOT_END || PLAYER_SLOT_END ≤ slot)
  else
    (player.GetBagByPos mgr bag).any fun b ↦ slot < b.2.ContainerSlots && proto.ItemCanGoIntoBag b.2

/-- The space at the position that `CanStoreItem_InSpecificSlot` is told, or why the item cannot go there. -/
def specificSpace (bag slot : ℕ) (swap : Bool) : Except InventoryResult ℕ :=
  if pSrcItem.any (·.notEmptyBag) ∧ !IsBagPos bag slot then .error .CAN_ONLY_DO_WITH_EMPTY_BAGS
  else
    match (player.otherItem mgr pSrcItem bag slot).filter fun _ ↦ !swap with
    | none =>
      if player.fitsSlot mgr proto bag slot then .ok proto.GetMaxStackSize
      else .error .ITEM_DOESNT_GO_INTO_BAG
    | some item2 =>
      if item2.CanBeMergedPartlyWith proto ≠ .OK then .error (item2.CanBeMergedPartlyWith proto)
      else .ok (proto.GetMaxStackSize - item2.count)

/-- `Player::CanStoreItem_InSpecificSlot`. -/
def CanStoreItem_InSpecificSlot (bag slot : ℕ) (swap : Bool) (s : Search) : InventoryResult × Search :=
  match player.specificSpace mgr proto pSrcItem bag slot swap with
  | .error res => (res, s)
  | .ok need_space =>
    (.OK, if s.isContained (makePos bag slot) then s else s.push (makePos bag slot) need_space)

/-- The space of a slot for the item, in a search for stacks or in one for free slots. -/
def slotSpace (merge : Bool) (bag slot : ℕ) : Option ℕ :=
  match player.otherItem mgr pSrcItem bag slot with
  | none => if merge then none else some proto.GetMaxStackSize
  | some item2 =>
    if !merge ∨ item2.CanBeMergedPartlyWith proto ≠ .OK then none
    else some (proto.GetMaxStackSize - item2.count)

/-- The loops of `CanStoreItem_InBag` and `CanStoreItem_InInventorySlots`. -/
def searchSlots (merge : Bool) (bag : ℕ) (skip : ℕ → Bool) : List ℕ → Search → Search
  | [], s => s
  | slot :: slots, s =>
    if skip slot then searchSlots merge bag skip slots s
    else
      match player.slotSpace mgr proto pSrcItem merge bag slot with
      | none => searchSlots merge bag skip slots s
      | some need_space =>
        if s.isContained (makePos bag slot) then searchSlots merge bag skip slots s
        else if (s.push (makePos bag slot) need_space).count = 0 then
          s.push (makePos bag slot) need_space
        else searchSlots merge bag skip slots (s.push (makePos bag slot) need_space)

/-- `Player::CanStoreItem_InBag`. -/
def CanStoreItem_InBag (bag : ℕ) (merge non_specialized : Bool) (skip_bag skip_slot : ℕ)
    (s : Search) : InventoryResult × Search :=
  if bag = skip_bag then (.ITEM_DOESNT_GO_INTO_BAG, s)
  else
    match player.GetBagByPos mgr bag with
    | none => (.ITEM_DOESNT_GO_INTO_BAG, s)
    | some (pBag, bagProto) =>
      if pBag.isItem pSrcItem then (.ITEM_DOESNT_GO_INTO_BAG, s)
      else if pSrcItem.any (·.notEmptyBag) then (.CAN_ONLY_DO_WITH_EMPTY_BAGS, s)
      else if non_specialized ≠ bagProto.isPlainContainer then (.ITEM_DOESNT_GO_INTO_BAG, s)
      else if !proto.ItemCanGoIntoBag bagProto then (.ITEM_DOESNT_GO_INTO_BAG, s)
      else
        (.OK, player.searchSlots mgr proto pSrcItem merge bag (· = skip_slot)
          (slotRange 0 (player.GetBagSize mgr bag)) s)

/-- `Player::CanStoreItem_InInventorySlots`. -/
def CanStoreItem_InInventorySlots (slot_begin slot_end : ℕ) (merge : Bool) (skip_bag skip_slot : ℕ)
    (s : Search) : InventoryResult × Search :=
  if pSrcItem.any (·.notEmptyBag) then (.CAN_ONLY_DO_WITH_EMPTY_BAGS, s)
  else
    (.OK, player.searchSlots mgr proto pSrcItem merge INVENTORY_SLOT_BAG_0
      (fun slot ↦ skip_bag = INVENTORY_SLOT_BAG_0 ∧ slot = skip_slot)
      (slotRange slot_begin slot_end) s)

/-- A bag that is searched as a specialized one, and if it is none as a plain one. -/
def CanStoreItem_InEquippedBag (bag : ℕ) (merge : Bool) (skip_slot : ℕ) (s : Search) :
    InventoryResult × Search :=
  match player.CanStoreItem_InBag mgr proto pSrcItem bag merge false NULL_BAG skip_slot s with
  | (.OK, s') => (.OK, s')
  | (_, s') => player.CanStoreItem_InBag mgr proto pSrcItem bag merge true NULL_BAG skip_slot s'

/-! ## One phase after the other -/

section phases

-- `no_similar` cannot be stored in any case
variable (no_similar : ℕ) (no_space_count : Option ℕ)

/-- Return an error with what could not be stored. -/
def refuse (res : InventoryResult) (s : Search) : StoreAnswer :=
  ⟨res, s.dest, no_space_count.map fun _ ↦ uint32 (s.count + no_similar)⟩

/-- What is returned when nothing is left. -/
def finish (s : Search) : StoreAnswer :=
  if no_similar = 0 then ⟨.OK, s.dest, no_space_count⟩
  else refuse no_similar no_space_count .CANT_CARRY_MORE_OF_THIS s

/-- A part of the search that may end it, and what follows if it does not. -/
def phase (search : Search → InventoryResult × Search) (next : Search → StoreAnswer) (s : Search) :
    StoreAnswer :=
  if (search s).1 ≠ .OK then refuse no_similar no_space_count (search s).1 (search s).2
  else if (search s).2.count = 0 then finish no_similar no_space_count (search s).2
  else next (search s).2

/-- A loop over bags; those that the item does not go into are skipped. -/
def bagPhase (search : ℕ → Search → InventoryResult × Search) (next : Search → StoreAnswer) :
    List ℕ → Search → StoreAnswer
  | [], s => next s
  | bag :: bags, s =>
    if (search bag s).1 ≠ .OK then bagPhase search next bags (search bag s).2
    else if (search bag s).2.count = 0 then finish no_similar no_space_count (search bag s).2
    else bagPhase search next bags (search bag s).2

variable (bag slot : ℕ)

/-- The bag slots. -/
def bagSlots : List ℕ := slotRange INVENTORY_SLOT_BAG_START INVENTORY_SLOT_BAG_END

/-- A search of the player's own slots. -/
def ownSlots (slot_begin slot_end : ℕ) (merge : Bool) (next : Search → StoreAnswer) :
    Search → StoreAnswer :=
  phase no_similar no_space_count
    (player.CanStoreItem_InInventorySlots mgr proto pSrcItem slot_begin slot_end merge bag slot) next

/-- A search of the bags. -/
def ownBags (merge non_specialized : Bool) (next : Search → StoreAnswer) : Search → StoreAnswer :=
  bagPhase no_similar no_space_count
    (fun i ↦ player.CanStoreItem_InBag mgr proto pSrcItem i merge non_specialized bag slot) next
    bagSlots

/-- Search for stacks in the bag that is told. -/
def mergeInSpecificBag (next : Search → StoreAnswer) : Search → StoreAnswer :=
  if proto.Stackable ≠ 1 then
    if bag = INVENTORY_SLOT_BAG_0 then
      player.ownSlots mgr proto pSrcItem no_similar no_space_count bag slot KEYRING_SLOT_START
        CURRENCYTOKEN_SLOT_END true <|
      player.ownSlots mgr proto pSrcItem no_similar no_space_count bag slot
        INVENTORY_SLOT_ITEM_START INVENTORY_SLOT_ITEM_END true next
    else
      phase no_similar no_space_count
        (player.CanStoreItem_InEquippedBag mgr proto pSrcItem bag true slot) next
  else next

/-- Search for free slots in the bag that is told. -/
def freeInSpecificBag (next : Search → StoreAnswer) : Search → StoreAnswer :=
  if bag = INVENTORY_SLOT_BAG_0 then
    let backpack := player.ownSlots mgr proto pSrcItem no_similar no_space_count bag slot
      INVENTORY_SLOT_ITEM_START INVENTORY_SLOT_ITEM_END false next
    if proto.hasFamily BAG_FAMILY_MASK_KEYS then
      player.ownSlots mgr proto pSrcItem no_similar no_space_count bag slot KEYRING_SLOT_START
        (KEYRING_SLOT_START + GetMaxKeyringSize) false <|
      player.ownSlots mgr proto pSrcItem no_similar no_space_count bag slot
        CURRENCYTOKEN_SLOT_START CURRENCYTOKEN_SLOT_END false backpack
    else if proto.IsCurrencyToken then
      player.ownSlots mgr proto pSrcItem no_similar no_space_count bag slot
        CURRENCYTOKEN_SLOT_START CURRENCYTOKEN_SLOT_END false backpack
    else backpack
  else
    phase no_similar no_space_count
      (player.CanStoreItem_InEquippedBag mgr proto pSrcItem bag false slot) next

/-- Search for free slots everywhere, the last part of the search. -/
def freeAnywhere (s : Search) : StoreAnswer :=
  -- what has been given for `no_space_count` stays there
  if pSrcItem.any (·.notEmptyBag) then ⟨.NONEMPTY_BAG_OVER_OTHER_BAG, s.dest, no_space_count⟩
  else
    player.ownSlots mgr proto pSrcItem no_similar no_space_count bag slot INVENTORY_SLOT_ITEM_START
      INVENTORY_SLOT_ITEM_END false
      (player.ownBags mgr proto pSrcItem no_similar no_space_count bag slot false true
        (refuse no_similar no_space_count .INVENTORY_FULL)) s

/-- Search for free slots that are only for some families of items. -/
def freeForFamily (next : Search → StoreAnswer) : Search → StoreAnswer :=
  if proto.BagFamily ≠ 0 then
    let bags := player.ownBags mgr proto pSrcItem no_similar no_space_count bag slot false false next
    if proto.hasFamily BAG_FAMILY_MASK_KEYS then
      player.ownSlots mgr proto pSrcItem no_similar no_space_count bag slot KEYRING_SLOT_START
        (KEYRING_SLOT_START + GetMaxKeyringSize) false bags
    else if proto.IsCurrencyToken then
      player.ownSlots mgr proto pSrcItem no_similar no_space_count bag slot
        CURRENCYTOKEN_SLOT_START CURRENCYTOKEN_SLOT_END false bags
    else bags
  else next

/-- Search for stacks everywhere. -/
def mergeAnywhere (next : Search → StoreAnswer) : Search → StoreAnswer :=
  if proto.Stackable ≠ 1 then
    let bags := player.ownBags mgr proto pSrcItem no_similar no_space_count bag slot true true next
    player.ownSlots mgr proto pSrcItem no_similar no_space_count bag slot KEYRING_SLOT_START
      CURRENCYTOKEN_SLOT_END true <|
    player.ownSlots mgr proto pSrcItem no_similar no_space_count bag slot INVENTORY_SLOT_ITEM_START
      INVENTORY_SLOT_ITEM_END true <|
    if proto.BagFamily ≠ 0 then
      player.ownBags mgr proto pSrcItem no_similar no_space_count bag slot true false bags
    else bags
  else next

/-- What comes after the slot that is told: the search of the bag that is told, and the one everywhere. -/
def afterSlot : Search → StoreAnswer :=
  let anywhere := player.mergeAnywhere mgr proto pSrcItem no_similar no_space_count bag slot <|
    player.freeForFamily mgr proto pSrcItem no_similar no_space_count bag slot <|
    player.freeAnywhere mgr proto pSrcItem no_similar no_space_count bag slot
  if bag ≠ NULL_BAG then
    player.mergeInSpecificBag mgr proto pSrcItem no_similar no_space_count bag slot <|
    player.freeInSpecificBag mgr proto pSrcItem no_similar no_space_count bag slot anywhere
  else anywhere

/-- The whole search. -/
def storeSearch (swap : Bool) : Search → StoreAnswer :=
  let after := player.afterSlot mgr proto pSrcItem no_similar no_space_count bag slot
  if bag ≠ NULL_BAG ∧ slot ≠ NULL_SLOT then
    phase no_similar no_space_count
      (player.CanStoreItem_InSpecificSlot mgr proto pSrcItem bag slot swap) after
  else after

end phases

/-- `Player::CanStoreItem`, with an empty `dest`. -/
def CanStoreItem (bag slot entry count : ℕ) (pItem : Option Item) (swap : Bool)
    (no_space_count : Option ℕ) : StoreAnswer :=
  match mgr.GetItemTemplate entry with
  | none =>
    ⟨if swap then .ITEMS_CANT_BE_SWAPPED else .ITEM_NOT_FOUND, [], no_space_count.map fun _ ↦ count⟩
  | some proto =>
    if pItem.any (·.lootGenerated) then ⟨.ALREADY_LOOTED, [], no_space_count.map fun _ ↦ count⟩
    else if pItem.any (·.bindedNotWith) then
      ⟨.DONT_OWN_THAT_ITEM, [], no_space_count.map fun _ ↦ count⟩
    else
      match player.CanTakeMoreSimilarItems mgr entry count pItem with
      | (.OK, no_similar) =>
        player.storeSearch mgr proto pItem no_similar no_space_count bag slot swap ⟨[], count⟩
      | (res, no_similar) =>
        if count = no_similar then ⟨res, [], no_space_count.map fun _ ↦ no_similar⟩
        else
          -- a `uint32`: it wraps around if there is already more than one can carry
          player.storeSearch mgr proto pItem no_similar no_space_count bag slot swap
            ⟨[], uint32 (count - no_similar)⟩

end Player

end Gundrak.Players
