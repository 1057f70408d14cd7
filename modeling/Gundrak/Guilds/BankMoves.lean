import Gundrak.Players.StoredItems

/-!
# Moving items in and out of the guild bank

`SwapItems` moves within the bank and `SwapItemsWithInventory` between the bank and a character.  Both make two
`MoveItemData` and leave the rest to `_MoveItems`: it first tries to merge the item into the destination, or to
put it into free slots, and if there is no room it tries to swap it with the item that is there; or it splits
the stack, and moves a clone.

Every function that can refuse says whether the items have been moved.
-/

open Std (ExtTreeMap)

namespace Gundrak.Guilds

open Players

def GUILD_BANK_MAX_SLOTS : ℕ := 98

/-- The bank tabs of the guild, by `makePos` of tab and slot, the inventory of the player who moves something,
and the generator of item guids. -/
structure Holdings where
  tabs : ExtTreeMap ℕ Item
  purchasedTabs : ℕ
  player : Player
  nextGuid : ℕ

/-- What the player may do with the tabs: `_MemberHasTabRights` for deposits, and
`_GetMemberRemainingSlots`. -/
structure TabRights where
  deposit : ℕ → Bool
  remainingSlots : ℕ → ℤ

namespace Holdings

variable (mgr : ObjectMgr) (s : Holdings)

/-! ## Bank tabs -/

/-- `Guild::_GetItem`. -/
def _GetItem (tabId slotId : ℕ) : Option Item :=
  if tabId < s.purchasedTabs ∧ slotId < GUILD_BANK_MAX_SLOTS then s.tabs[makePos tabId slotId]?
  else none

/-- `Guild::BankTab::SetItem`, for a tab that there is. -/
def SetItem (tabId slotId : ℕ) (item : Option Item) : Holdings :=
  if tabId < s.purchasedTabs ∧ slotId < GUILD_BANK_MAX_SLOTS then
    { s with
      tabs := match item with
        | none => s.tabs.erase (makePos tabId slotId)
        | some item => s.tabs.insert (makePos tabId slotId) item }
  else s

/-- `Item::GetMaxStackCount`. -/
def GetMaxStackCount (item : Item) : ℕ := ((mgr.GetItemTemplate item.entry).map (·.GetMaxStackSize)).getD 0

/-- `Guild::BankMoveItemData::_ReserveSpace`, or nothing if the slot cannot be used. -/
def _ReserveSpace (slotId : ℕ) (pItem : Item) (pItemDest : Option Item) (vec : Search) :
    Option Search :=
  let reserve requiredSpace := if vec.isContained slotId then vec else vec.push slotId requiredSpace
  match pItemDest with
  | none => some (reserve (GetMaxStackCount mgr pItem))
  | some dest =>
    if dest.entry ≠ pItem.entry ∨ dest.count ≥ GetMaxStackCount mgr pItem then none
    else some (reserve (GetMaxStackCount mgr pItem - dest.count))

/-- `Guild::BankMoveItemData::CanStoreItemInTab`, for some slots. -/
def CanStoreItemInTab (container : ℕ) (pItem : Item) (skipSlotId : ℕ) (merge : Bool) :
    List ℕ → Search → Search
  | [], vec => vec
  | slotId :: slots, vec =>
    if vec.count = 0 then vec
    else if slotId = skipSlotId then CanStoreItemInTab container pItem skipSlotId merge slots vec
    else
      let pItemDest := (s._GetItem container slotId).filter fun item ↦ !item.isItem (some pItem)
      if pItemDest.isSome ≠ merge then
        CanStoreItemInTab container pItem skipSlotId merge slots vec
      else
        CanStoreItemInTab container pItem skipSlotId merge slots
          ((_ReserveSpace mgr slotId pItem pItemDest vec).getD vec)

/-- The search in `Guild::BankMoveItemData::CanStore` for stacks, and for free slots. -/
def searchTab (container slotId : ℕ) (pItem : Item) (vec : Search) : InventoryResult × Search :=
  let slots := slotRange 0 GUILD_BANK_MAX_SLOTS
  let merged := if GetMaxStackCount mgr pItem > 1 then
    s.CanStoreItemInTab mgr container pItem slotId true slots vec else vec
  let stored := s.CanStoreItemInTab mgr container pItem slotId false slots merged
  (if stored.count = 0 then .OK else .BANK_FULL, stored)

/-- `Guild::BankMoveItemData::CanStore`. -/
def bankCanStore (container slotId : ℕ) (pItem : Item) (swap : Bool) : InventoryResult × List (ℕ × ℕ) :=
  let vec : Search := ⟨[], pItem.count⟩
  if pItem.soulBound then (.CANT_DROP_SOULBOUND, [])
  else if container ≥ s.purchasedTabs then (.ITEM_DOESNT_GO_INTO_BAG, [])
  else
    let answer :=
      if slotId ≠ NULL_SLOT then
        let pItemDest := (s._GetItem container slotId).filter fun item ↦
          !(item.isItem (some pItem) || swap)
        match _ReserveSpace mgr slotId pItem pItemDest vec with
        | none => (.ITEM_CANT_STACK, vec)
        | some vec => if vec.count = 0 then (.OK, vec) else s.searchTab mgr container slotId pItem vec
      else s.searchTab mgr container slotId pItem vec
    (answer.1, answer.2.dest)

/-- `Guild::BankMoveItemData::_StoreItem`. -/
def _StoreItem (container : ℕ) (pItem : Item) (pos count : ℕ) (clone : Bool) : Holdings :=
  let slotId := pos % 256
  match s._GetItem container slotId with
  | some pItemDest =>
    { s with
      tabs := s.tabs.insert (makePos container slotId)
        { pItemDest with count := pItemDest.count + count } }
  | none =>
    match if clone then pItem.CloneItem mgr count s.nextGuid false else some { pItem with count } with
    | none => s
    | some newItem =>
      ({ s with nextGuid := if clone then s.nextGuid + 1 else s.nextGuid }).SetItem container slotId
        newItem

end Holdings

/-! ## Source and destination -/

/-- `Guild::BankMoveItemData` or `Guild::PlayerMoveItemData`. -/
structure MoveItemData where
  IsBank : Bool
  m_container : ℕ
  m_slotId : ℕ

namespace MoveItemData

variable (mgr : ObjectMgr) (data : MoveItemData) (s : Holdings)

/-- `InitItem`. -/
def InitItem : Option Item :=
  if data.IsBank then s._GetItem data.m_container data.m_slotId
  else
    (s.player.GetItemByPos mgr data.m_container data.m_slotId).filter fun item ↦
      !item.notEmptyBag && item.CanBeTraded mgr data.m_container data.m_slotId

/-- `HasStoreRights`. -/
def HasStoreRights (rights : TabRights) (pOther : MoveItemData) : Bool :=
  !data.IsBank || (pOther.IsBank && pOther.m_container = data.m_container) ||
    rights.deposit data.m_container

/-- `HasWithdrawRights`. -/
def HasWithdrawRights (rights : TabRights) (pOther : MoveItemData) : Bool :=
  !data.IsBank || (pOther.IsBank && pOther.m_container = data.m_container) ||
    rights.remainingSlots data.m_container ≠ 0

/-- `CanStore`, with the positions. -/
def CanStore (pItem : Item) (swap : Bool) : InventoryResult × List (ℕ × ℕ) :=
  if data.IsBank then s.bankCanStore mgr data.m_container data.m_slotId pItem swap
  else
    let answer := s.player.CanStoreItem mgr data.m_container data.m_slotId pItem.entry pItem.count
      (some pItem) swap none
    (answer.result, answer.dest)

/-- `RemoveItem`, of the item or of a part of it. -/
def RemoveItem (pItem : Item) (splitedAmount : ℕ) : Holdings :=
  if data.IsBank then
    if splitedAmount ≠ 0 then
      { s with
        tabs := s.tabs.modify (makePos data.m_container data.m_slotId) fun item ↦
          { item with count := pItem.count - splitedAmount } }
    else s.SetItem data.m_container data.m_slotId none
  else if splitedAmount ≠ 0 then
    let count := pItem.count - splitedAmount
    { s with player := s.player.SetCount data.m_container data.m_slotId count }
  else { s with player := s.player.RemoveItem mgr data.m_container data.m_slotId }

/-- `StoreItem`. -/
def StoreItem (pItem : Item) (vec : List (ℕ × ℕ)) : Holdings :=
  if data.IsBank then
    if data.m_container < s.purchasedTabs then
      storeLoop (fun s x clone ↦ s._StoreItem mgr data.m_container pItem x.1 x.2 clone) vec s
    else s
  else
    let stored := s.player.StoreItem mgr pItem s.nextGuid vec
    { s with player := stored.1, nextGuid := stored.2 }

end MoveItemData

namespace Holdings

variable (mgr : ObjectMgr) (rights : TabRights) (s : Holdings)

/-! ## Moves -/

/-- `Guild::_DoItemsMove`, of an item or a clone of a part of it. -/
def _DoItemsMove (pSrc pDest : MoveItemData) (pSource pSrcItem : Item) (pDestItem : Option Item)
    (splitedAmount : ℕ) : Bool × Holdings :=
  match pDest.CanStore mgr s pSrcItem pDestItem.isSome with
  | (.OK, destVec) =>
    match pDestItem with
    | none =>
      (true, pDest.StoreItem mgr (pSrc.RemoveItem mgr s pSource splitedAmount) pSrcItem destVec)
    | some pDestItem =>
      match pSrc.CanStore mgr s pDestItem true with
      | (.OK, srcVec) =>
        let removed := pDest.RemoveItem mgr (pSrc.RemoveItem mgr s pSource splitedAmount) pDestItem 0
        (true, pSrc.StoreItem mgr (pDest.StoreItem mgr removed pSrcItem destVec) pDestItem srcVec)
      | _ => (false, s)
  | _ => (false, s)

/-- `Guild::_MoveItems` without a split: merge, or else swap. -/
def moveWhole (pSrc pDest : MoveItemData) (pItem : Item) : Bool × Holdings :=
  match s._DoItemsMove mgr pSrc pDest pItem pItem none 0 with
  | (true, s') => (true, s')
  | (false, _) =>
    match pDest.InitItem mgr s with
    | none => (false, s)
    | some pDestItem =>
      if !pSrc.HasStoreRights rights pDest then (false, s)
      else if !pDest.HasWithdrawRights rights pSrc then (false, s)
      else s._DoItemsMove mgr pSrc pDest pItem pItem (some pDestItem) 0

/-- `Guild::_MoveItems` with a split. -/
def movePart (pSrc pDest : MoveItemData) (pItem : Item) (splitedAmount : ℕ) : Bool × Holdings :=
  match pItem.CloneItem mgr splitedAmount s.nextGuid false with
  | none => (false, s)
  | some cloned =>
    ({ s with nextGuid := s.nextGuid + 1 })._DoItemsMove mgr pSrc pDest pItem cloned none
      splitedAmount

/-- `Guild::_MoveItems`. -/
def _MoveItems (pSrc pDest : MoveItemData) (splitedAmount : ℕ) : Bool × Holdings :=
  match pSrc.InitItem mgr s with
  | none => (false, s)
  | some pItem =>
    if splitedAmount > pItem.count then (false, s)
    else if !pDest.HasStoreRights rights pSrc then (false, s)
    else if !pSrc.HasWithdrawRights rights pDest then (false, s)
    -- all of it is not a part of it
    else if splitedAmount ≠ 0 ∧ splitedAmount ≠ pItem.count then
      s.movePart mgr pSrc pDest pItem splitedAmount
    else s.moveWhole mgr rights pSrc pDest pItem

/-- `Guild::SwapItems`. -/
def SwapItems (tabId slotId destTabId destSlotId splitedAmount : ℕ) : Bool × Holdings :=
  if tabId ≥ s.purchasedTabs ∨ slotId ≥ GUILD_BANK_MAX_SLOTS ∨ destTabId ≥ s.purchasedTabs ∨
      destSlotId ≥ GUILD_BANK_MAX_SLOTS then (false, s)
  else if tabId = destTabId ∧ slotId = destSlotId then (false, s)
  else s._MoveItems mgr rights ⟨true, tabId, slotId⟩ ⟨true, destTabId, destSlotId⟩ splitedAmount

/-- `Guild::SwapItemsWithInventory`. -/
def SwapItemsWithInventory (toChar : Bool) (tabId slotId playerBag playerSlotId splitedAmount : ℕ) :
    Bool × Holdings :=
  if slotId ≥ GUILD_BANK_MAX_SLOTS ∧ slotId ≠ NULL_SLOT ∨ tabId ≥ s.purchasedTabs then (false, s)
  else if toChar then
    s._MoveItems mgr rights ⟨true, tabId, slotId⟩ ⟨false, playerBag, playerSlotId⟩ splitedAmount
  else
    s._MoveItems mgr rights ⟨false, playerBag, playerSlotId⟩ ⟨true, tabId, slotId⟩ splitedAmount

end Holdings

end Gundrak.Guilds
