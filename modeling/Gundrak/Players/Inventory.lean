import Gundrak.Util.Int32

/-!
# The inventory of a player

Positions are the `uint16` ones of the source: a bag and a slot in it.  Bag 255 is the character himself, with
his equipment, bag slots, backpack, bank, key ring and currency; the other bags are the items in his bag
slots, and those have as many slots as their templates say.

`CanTakeMoreSimilarItems` is about the items that one can only carry some of.
-/

open Std (ExtTreeMap)

namespace Gundrak.Players

/-! ## Slots -/

def NULL_BAG : ℕ := 0
def NULL_SLOT : ℕ := 255
def INVENTORY_SLOT_BAG_0 : ℕ := 255
def EQUIPMENT_SLOT_START : ℕ := 0
def EQUIPMENT_SLOT_END : ℕ := 19
def INVENTORY_SLOT_BAG_START : ℕ := 19
def INVENTORY_SLOT_BAG_END : ℕ := 23
def INVENTORY_SLOT_ITEM_START : ℕ := 23
def INVENTORY_SLOT_ITEM_END : ℕ := 39
def BANK_SLOT_ITEM_START : ℕ := 39
def BANK_SLOT_ITEM_END : ℕ := 67
def BANK_SLOT_BAG_START : ℕ := 67
def BANK_SLOT_BAG_END : ℕ := 74
def BUYBACK_SLOT_START : ℕ := 74
def BUYBACK_SLOT_END : ℕ := 86
def KEYRING_SLOT_START : ℕ := 86
def KEYRING_SLOT_END : ℕ := 118
def CURRENCYTOKEN_SLOT_START : ℕ := 118
def CURRENCYTOKEN_SLOT_END : ℕ := 150
def PLAYER_SLOT_END : ℕ := 150

/-- `Player::GetMaxKeyringSize`. -/
def GetMaxKeyringSize : ℕ := KEYRING_SLOT_END - KEYRING_SLOT_START

/-- The slots from the first one to the one before the last one. -/
def slotRange (first last : ℕ) : List ℕ := List.range' first (last - first)

/-- A bag and a slot as a `uint16`. -/
def makePos (bag slot : ℕ) : ℕ := bag * 256 + slot

/-- `Player::IsBagPos`. -/
def IsBagPos (bag slot : ℕ) : Bool :=
  bag = INVENTORY_SLOT_BAG_0 ∧ (INVENTORY_SLOT_BAG_START ≤ slot ∧ slot < INVENTORY_SLOT_BAG_END ∨
    BANK_SLOT_BAG_START ≤ slot ∧ slot < BANK_SLOT_BAG_END)

/-! ## Templates -/

def MAX_BAG_SIZE : ℕ := 36
def INVTYPE_BAG : ℕ := 18
def ITEM_CLASS_CONTAINER : ℕ := 1
def ITEM_CLASS_QUIVER : ℕ := 11
def ITEM_SUBCLASS_CONTAINER : ℕ := 0

def BAG_FAMILY_MASK_ARROWS : UInt32 := 0x1
def BAG_FAMILY_MASK_BULLETS : UInt32 := 0x2
def BAG_FAMILY_MASK_SOUL_SHARDS : UInt32 := 0x4
def BAG_FAMILY_MASK_LEATHERWORKING_SUPP : UInt32 := 0x8
def BAG_FAMILY_MASK_INSCRIPTION_SUPP : UInt32 := 0x10
def BAG_FAMILY_MASK_HERBS : UInt32 := 0x20
def BAG_FAMILY_MASK_ENCHANTING_SUPP : UInt32 := 0x40
def BAG_FAMILY_MASK_ENGINEERING_SUPP : UInt32 := 0x80
def BAG_FAMILY_MASK_KEYS : UInt32 := 0x100
def BAG_FAMILY_MASK_GEMS : UInt32 := 0x200
def BAG_FAMILY_MASK_MINING_SUPP : UInt32 := 0x400
def BAG_FAMILY_MASK_CURRENCY_TOKENS : UInt32 := 0x2000

/-- What is used of an `ItemTemplate`. -/
structure ItemTemplate where
  ItemId : ℕ
  Class : ℕ := 0
  SubClass : ℕ := 0
  InventoryType : ℕ := 0
  MaxCount : ℤ := 0
  Stackable : ℤ := 1
  ContainerSlots : ℕ := 0
  BagFamily : UInt32 := 0
  ItemLimitCategory : ℕ := 0
  GemProperties : ℕ := 0
  socketColor : ℕ := 0
  Bonding : ℕ := 0
  isBoundAccountWide : Bool := false
deriving DecidableEq

namespace ItemTemplate

variable (proto : ItemTemplate)

/-- The item belongs to a family. -/
def hasFamily (mask : UInt32) : Bool := proto.BagFamily &&& mask ≠ 0

/-- `ItemTemplate::IsCurrencyToken`. -/
def IsCurrencyToken : Bool := proto.hasFamily BAG_FAMILY_MASK_CURRENCY_TOKENS

/-- `ItemTemplate::GetMaxStackSize`. -/
def GetMaxStackSize : ℕ :=
  if proto.Stackable = 2147483647 ∨ proto.Stackable ≤ 0 then 0x7FFFFFFF - 1
  else proto.Stackable.toNat

/-- The bag is a plain one, for all kinds of items. -/
def isPlainContainer : Bool := proto.Class = ITEM_CLASS_CONTAINER ∧ proto.SubClass = ITEM_SUBCLASS_CONTAINER

/-- `ItemCanGoIntoBag`. -/
def ItemCanGoIntoBag (bagProto : ItemTemplate) : Bool :=
  if bagProto.Class = ITEM_CLASS_CONTAINER then
    match bagProto.SubClass with
    | 0 => true
    | 1 => proto.hasFamily BAG_FAMILY_MASK_SOUL_SHARDS
    | 2 => proto.hasFamily BAG_FAMILY_MASK_HERBS
    | 3 => proto.hasFamily BAG_FAMILY_MASK_ENCHANTING_SUPP
    | 4 => proto.hasFamily BAG_FAMILY_MASK_ENGINEERING_SUPP
    | 5 => proto.hasFamily BAG_FAMILY_MASK_GEMS
    | 6 => proto.hasFamily BAG_FAMILY_MASK_MINING_SUPP
    | 7 => proto.hasFamily BAG_FAMILY_MASK_LEATHERWORKING_SUPP
    | 8 => proto.hasFamily BAG_FAMILY_MASK_INSCRIPTION_SUPP
    | _ => false
  else if bagProto.Class = ITEM_CLASS_QUIVER then
    match bagProto.SubClass with
    | 2 => proto.hasFamily BAG_FAMILY_MASK_ARROWS
    | 3 => proto.hasFamily BAG_FAMILY_MASK_BULLETS
    | _ => false
  else false

theorem GetMaxStackSize_pos : 0 < proto.GetMaxStackSize := by
  rw [GetMaxStackSize]
  split_ifs <;> omega

theorem GetMaxStackSize_lt (h : proto.Stackable < 2 ^ 31) : proto.GetMaxStackSize < 2 ^ 31 := by
  rw [GetMaxStackSize]
  split_ifs <;> omega

end ItemTemplate

/-- `ITEM_LIMIT_CATEGORY_MODE_HAVE` or another mode, and how many items there may be. -/
structure ItemLimitCategoryEntry where
  modeHave : Bool
  maxCount : ℕ

/-- The stores that items are looked up in; larger bags are cut down when they are loaded, and `Stackable` is an
`int32`. -/
structure ObjectMgr where
  GetItemTemplate : ℕ → Option ItemTemplate
  ItemId_eq : ∀ entry proto, GetItemTemplate entry = some proto → proto.ItemId = entry
  ContainerSlots_le : ∀ entry proto, GetItemTemplate entry = some proto → proto.ContainerSlots ≤ MAX_BAG_SIZE
  Stackable_lt : ∀ entry proto, GetItemTemplate entry = some proto → proto.Stackable < 2 ^ 31
  ItemLimitCategory : ℕ → Option ItemLimitCategoryEntry

/-! ## Items -/

/-- What is used of an item.  `notEmptyBag` and `bindedNotWith` are what the functions of these names say about
it and the player, and `canBeTraded` is what `CanBeTraded` asks besides. -/
structure Item where
  guid : ℕ
  entry : ℕ
  count : ℕ
  lootGenerated : Bool := false
  soulBound : Bool := false
  bindedNotWith : Bool := false
  notEmptyBag : Bool := false
  canBeTraded : Bool := true
  inTrade : Bool := false
  gems : List ℕ := []
deriving DecidableEq

/-- `InventoryResult`, as far as it is used here. -/
inductive InventoryResult where
  | OK
  | ITEM_DOESNT_GO_INTO_BAG
  | CANT_CARRY_MORE_OF_THIS
  | ITEM_CANT_BE_EQUIPPED
  | ITEM_CANT_STACK
  | ITEMS_CANT_BE_SWAPPED
  | ITEM_NOT_FOUND
  | DONT_OWN_THAT_ITEM
  | CAN_ONLY_DO_WITH_EMPTY_BAGS
  | NONEMPTY_BAG_OVER_OTHER_BAG
  | ALREADY_LOOTED
  | CANT_DROP_SOULBOUND
  | INVENTORY_FULL
  | BAG_FULL
  | BANK_FULL
  | ITEM_MAX_LIMIT_CATEGORY_COUNT_EXCEEDED
deriving DecidableEq

/-- `Item::CanBeMergedPartlyWith`. -/
def Item.CanBeMergedPartlyWith (item : Item) (proto : ItemTemplate) : InventoryResult :=
  if item.lootGenerated then .ALREADY_LOOTED
  else if item.entry ≠ proto.ItemId then .ITEM_CANT_STACK
  else if item.count ≥ proto.GetMaxStackSize then .ITEM_CANT_STACK
  else .OK

/-- The pointer to an item is that to another one, which may be null. -/
def Item.isItem (item : Item) (other : Option Item) : Bool := other.any (·.guid = item.guid)

/-! ## The player -/

/-- The items a player has, at their positions. -/
structure Player where
  items : ExtTreeMap ℕ Item

namespace Player

variable (mgr : ObjectMgr) (player : Player)

/-- `Player::GetBagByPos`, with the template of the bag. -/
def GetBagByPos (bag : ℕ) : Option (Item × ItemTemplate) :=
  if INVENTORY_SLOT_BAG_START ≤ bag ∧ bag < INVENTORY_SLOT_BAG_END ∨
      BANK_SLOT_BAG_START ≤ bag ∧ bag < BANK_SLOT_BAG_END then
    player.items[makePos INVENTORY_SLOT_BAG_0 bag]?.bind fun item ↦
      ((mgr.GetItemTemplate item.entry).filter (·.InventoryType = INVTYPE_BAG)).map (item, ·)
  else none

/-- `Bag::GetBagSize`. -/
def GetBagSize (bag : ℕ) : ℕ := ((player.GetBagByPos mgr bag).map fun b ↦ b.2.ContainerSlots).getD 0

/-- `Player::GetItemByPos`. -/
def GetItemByPos (bag slot : ℕ) : Option Item :=
  if bag = INVENTORY_SLOT_BAG_0 ∧ (slot < BANK_SLOT_BAG_END ∨
      KEYRING_SLOT_START ≤ slot ∧ slot < CURRENCYTOKEN_SLOT_END) then
    player.items[makePos bag slot]?
  else if slot < player.GetBagSize mgr bag then player.items[makePos bag slot]?
  else none

/-- The items in some slots of a bag. -/
def itemsIn (bag : ℕ) (slots : List ℕ) : List Item := slots.filterMap (player.GetItemByPos mgr bag)

/-- The items in some bags. -/
def itemsInBags (bags : List ℕ) : List Item :=
  bags.flatMap fun bag ↦ player.itemsIn mgr bag (slotRange 0 (player.GetBagSize mgr bag))

/-- `Player::GetItemCount`, with the bank if `inBankAlso`. -/
def GetItemCount (entry : ℕ) (inBankAlso : Bool) (skipItem : Option Item) : ℕ :=
  let count (items : List Item) : ℕ :=
    ((items.filter fun item ↦ !item.isItem skipItem && item.entry = entry).map (·.count)).sum
  let countGems (items : List Item) : ℕ :=
    if skipItem.any fun item ↦ (mgr.GetItemTemplate item.entry).any (·.GemProperties ≠ 0) then
      ((items.filter fun item ↦ !item.isItem skipItem &&
        (mgr.GetItemTemplate item.entry).any (·.socketColor ≠ 0)).map (·.gems.count entry)).sum
    else 0
  let bags := player.itemsInBags mgr (slotRange INVENTORY_SLOT_BAG_START INVENTORY_SLOT_BAG_END)
  let bankBags := player.itemsInBags mgr (slotRange BANK_SLOT_BAG_START BANK_SLOT_BAG_END)
  let own := player.itemsIn mgr INVENTORY_SLOT_BAG_0
  uint32 <| count (own (slotRange EQUIPMENT_SLOT_START INVENTORY_SLOT_ITEM_END)) +
    count (own (slotRange KEYRING_SLOT_START CURRENCYTOKEN_SLOT_END)) +
    count bags + countGems bags +
    countGems (own (slotRange EQUIPMENT_SLOT_START INVENTORY_SLOT_ITEM_END)) +
    if inBankAlso then
      count (own (slotRange BANK_SLOT_ITEM_START BANK_SLOT_BAG_END)) +
      count bankBags + countGems bankBags +
      countGems (own (slotRange BANK_SLOT_ITEM_START BANK_SLOT_ITEM_END))
    else 0

/-- `Player::GetItemCountWithLimitCategory`. -/
def GetItemCountWithLimitCategory (limitCategory : ℕ) (skipItem : Option Item) : ℕ :=
  let own := player.itemsIn mgr INVENTORY_SLOT_BAG_0
  let items := own (slotRange EQUIPMENT_SLOT_START INVENTORY_SLOT_ITEM_END) ++
    own (slotRange KEYRING_SLOT_START CURRENCYTOKEN_SLOT_END) ++
    player.itemsInBags mgr (slotRange INVENTORY_SLOT_BAG_START INVENTORY_SLOT_BAG_END) ++
    own (slotRange BANK_SLOT_ITEM_START BANK_SLOT_BAG_END) ++
    player.itemsInBags mgr (slotRange BANK_SLOT_BAG_START BANK_SLOT_BAG_END)
  uint32 ((items.filter fun item ↦ !item.isItem skipItem &&
    (mgr.GetItemTemplate item.entry).any (·.ItemLimitCategory = limitCategory)).map (·.count)).sum

/-- `Player::CanTakeMoreSimilarItems`, with what it writes to `no_space_count`. -/
def CanTakeMoreSimilarItems (entry count : ℕ) (pItem : Option Item) : InventoryResult × ℕ :=
  match mgr.GetItemTemplate entry with
  | none => (.CANT_CARRY_MORE_OF_THIS, count)
  | some proto =>
    if pItem.any (·.lootGenerated) then (.ALREADY_LOOTED, 0)
    else if proto.MaxCount ≤ 0 ∧ proto.ItemLimitCategory = 0 ∨ proto.MaxCount = 2147483647 then
      (.OK, 0)
    else
      let wanted := uint32 (player.GetItemCount mgr proto.ItemId true pItem + count)
      if 0 < proto.MaxCount ∧ wanted > proto.MaxCount.toNat then
        (.CANT_CARRY_MORE_OF_THIS, wanted - proto.MaxCount.toNat)
      else if proto.ItemLimitCategory ≠ 0 then
        match mgr.ItemLimitCategory proto.ItemLimitCategory with
        | none => (.ITEM_CANT_BE_EQUIPPED, count)
        | some limitEntry =>
          let wanted := uint32
            (player.GetItemCountWithLimitCategory mgr proto.ItemLimitCategory pItem + count)
          if limitEntry.modeHave ∧ wanted > limitEntry.maxCount then
            (.ITEM_MAX_LIMIT_CATEGORY_COUNT_EXCEEDED, wanted - limitEntry.maxCount)
          else (.OK, 0)
      else (.OK, 0)

end Player

end Gundrak.Players
