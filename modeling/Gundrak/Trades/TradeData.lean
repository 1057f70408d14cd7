import Gundrak.Players.Money
import Gundrak.Util.Machine
import Gundrak.Util.TreeMap

/-!
# Trades between two players

`TradeData` is what one side of a trade window shows.  The items in it are kept as guids, which
`TradeData::GetItem` looks up in the inventory of the player each time.  Every setter of the window resets
both accepted flags, and so does `Item::SetCount` for an item that is in the window.

The two players are the two values of a `Bool`, and the trader of `p` is `!p`.  Of an inventory the items
and their stacks are kept; where a call is about the item at some position, the item is named here, so that
the positions are not needed.  What the server decides by other things is part of a call: whether
something can be stored and with which stacks it is merged, distances, bindings and spells.

`consents` and `exchanges` only record what happens: what the other side offered when a player accepted last,
and what was given in the trades that were completed.
-/

open Std (ExtTreeMap)

namespace Gundrak.Trading

/-! ## The trade window -/

/-- `TRADE_SLOT_COUNT`. -/
abbrev TRADE_SLOT_COUNT : ℕ := 7

/-- `TRADE_SLOT_TRADED_COUNT`. -/
abbrev TRADE_SLOT_TRADED_COUNT : ℕ := 6

/-- The slot whose item is shown but not given away. -/
def TRADE_SLOT_NONTRADED : Fin TRADE_SLOT_COUNT := 6

/-- One side of a trade.  The guid 0 is the empty one. -/
structure TradeData where
  accepted : Bool := false
  money : UInt32 := 0
  spell : ℕ := 0
  spellCastItem : ℕ := 0
  items : Fin TRADE_SLOT_COUNT → ℕ := fun _ ↦ 0
deriving DecidableEq

/-- Both sides. -/
abbrev Trade := Bool → TradeData

namespace Trade

variable (t : Trade) (p : Bool)

/-- `TradeData::SetAccepted`. -/
def SetAccepted (state : Bool) : Trade := Function.update t p { t p with accepted := state }

/-- What all setters do with the accepted flags. -/
def resetAccepted : Trade := (t.SetAccepted p false).SetAccepted (!p) false

/-- `TradeData::SetSpell`. -/
def SetSpell (spell castItem : ℕ) : Trade :=
  if (t p).spell = spell ∧ (t p).spellCastItem = castItem then t
  else
    resetAccepted (Function.update t p { t p with spell := spell, spellCastItem := castItem }) p

/-- `TradeData::SetItem`, with the guid of the item. -/
def SetItem (slot : Fin TRADE_SLOT_COUNT) (guid : ℕ) (update : Bool) : Trade :=
  if (t p).items slot = guid ∧ update = false then t
  else
    let placed := resetAccepted
      (Function.update t p { t p with items := Function.update (t p).items slot guid }) p
    let cleared := if slot = TRADE_SLOT_NONTRADED then placed.SetSpell (!p) 0 0 else placed
    cleared.SetSpell p 0 0

/-- `TradeData::SetMoney` of a player with this purse. -/
def SetMoney (money : UInt32) (purse : Purse) : Trade :=
  if (t p).money = money then t
  else if !purse.HasEnoughMoney money then t
  else resetAccepted (Function.update t p { t p with money := money }) p

/-- `TradeData::HasItem`. -/
def HasItem (guid : ℕ) : Bool := (List.finRange TRADE_SLOT_COUNT).any fun i ↦ (t p).items i = guid

/-- `TradeData::GetTradeSlotForItem`. -/
def GetTradeSlotForItem (guid : ℕ) : Option (Fin TRADE_SLOT_COUNT) :=
  (List.finRange TRADE_SLOT_COUNT).find? fun i ↦ (t p).items i = guid

end Trade

/-! ## The two players -/

/-- What is kept of an item. -/
structure Item where
  entry : ℕ
  count : ℕ
deriving DecidableEq

/-- What a player gives: the items of the six slots with their stacks, and the gold. -/
structure Offer where
  items : Fin TRADE_SLOT_TRADED_COUNT → Option (ℕ × ℕ)
  gold : ℕ
deriving DecidableEq

/-- A completed trade: what each player gave, and what he offered when the other one accepted last. -/
structure Exchange where
  given : Bool → Offer
  offered : Bool → Offer
deriving DecidableEq

/-- A position that an item is stored at: the stack there, if there is one, and how much goes there. -/
structure ItemPosCount where
  stack : Option ℕ
  count : ℕ

/-- Where an item goes that has been taken up. -/
inductive Dest where
  | store (dest : List ItemPosCount)
  | equip (stack : Option ℕ)

/-- Both players.  `outside` are the items that are in the mail, in a bank or for sale, with their owners. -/
structure Traders where
  items : Bool → ExtTreeMap ℕ Item
  outside : ExtTreeMap ℕ (Item × Option Bool)
  purses : Bool → Purse
  nextGuid : ℕ
  trade : Option Trade
  consents : Bool → Offer
  exchanges : List Exchange

namespace Traders

variable (maxStack : ℕ → ℕ) (s : Traders) (p : Bool)

/-- `TradeData::GetItem`: the guid is looked up in the inventory. -/
def GetItem (t : Trade) (slot : Fin TRADE_SLOT_COUNT) : Option (ℕ × Item) :=
  if (t p).items slot = 0 then none
  else (s.items p)[(t p).items slot]?.map ((t p).items slot, ·)

/-- What a player offers at the moment. -/
def offer (t : Trade) : Offer where
  items i := (s.GetItem p t i.castSucc).map fun x ↦ (x.1, x.2.count)
  gold := (t p).money.toNat

/-! ## Items -/

/-- Change the inventory of a player. -/
def setItems (items : ExtTreeMap ℕ Item) : Traders :=
  { s with items := Function.update s.items p items }

/-- Put an item into an inventory. -/
def putItem (guid : ℕ) (item : Item) : Traders := s.setItems p ((s.items p).insert guid item)

/-- `Player::RemoveItem`. -/
def RemoveItem (guid : ℕ) : Traders := s.setItems p ((s.items p).erase guid)

/-- What `Item::SetCount` does in the trade of the owner, if he has one. -/
def updateTrade (owner : Option Bool) (guid : ℕ) : Traders :=
  match owner with
  | none => s
  | some p =>
    { s with trade := s.trade.map fun t ↦
        match t.GetTradeSlotForItem p guid with
        | none => t
        | some slot => t.SetItem p slot guid true }

/-- `Item::SetCount` of an item in the inventory. -/
def SetCount (guid count : ℕ) : Traders :=
  (s.setItems p ((s.items p).modify guid fun item ↦ { item with count := count })).updateTrade
    (some p) guid

/-- What is stored on a stack is added to it. -/
def addCount (stack count : ℕ) : Traders :=
  match (s.items p)[stack]? with
  | none => s
  | some item2 => s.SetCount p stack (item2.count + count)

/-- `Item::CreateItem` for a player: the guid and the stack of the new item. -/
def CreateItem (entry count : ℕ) : Option (ℕ × Item) × Traders :=
  if count < 1 then (none, s)
  else
    (some (s.nextGuid, ⟨entry, min count (maxStack entry)⟩),
      ({ s with nextGuid := s.nextGuid + 1 } : Traders).updateTrade (some p) s.nextGuid)

/-- `Player::_StoreItem`. -/
def storeItemAt (pos : ItemPosCount) (guid : ℕ) (item : Item) (owner : Option Bool) (clone : Bool) :
    Traders :=
  match pos.stack with
  | none =>
    if clone then
      match s.CreateItem maxStack p item.entry pos.count with
      | (none, s') => s'
      | (some (newGuid, newItem), s') => s'.putItem p newGuid newItem
    else (s.updateTrade owner guid).putItem p guid { item with count := pos.count }
  | some stack => s.addCount p stack pos.count

/-- `Player::StoreItem`: the last position gets the item itself, the others get clones. -/
def StoreItem (s : Traders) (guid : ℕ) (item : Item) (owner : Option Bool) : List ItemPosCount → Traders
  | [] => s
  | [pos] => s.storeItemAt maxStack p pos guid item owner false
  | pos :: next :: dest =>
    StoreItem (s.storeItemAt maxStack p pos guid item owner true) guid item owner (next :: dest)

/-- `Player::EquipItem`. -/
def EquipItem (stack : Option ℕ) (guid : ℕ) (item : Item) : Traders :=
  match stack with
  | none => s.putItem p guid item
  | some stack => s.addCount p stack item.count

/-- `StoreItem`, `BankItem` or `EquipItem`, of an item that belongs to the player. -/
def place (guid : ℕ) (item : Item) : Dest → Traders
  | .store dest => s.StoreItem maxStack p guid item (some p) dest
  | .equip stack => s.EquipItem p stack guid item

/-- `Player::SplitItem`; `dest` is nothing if the new stack does not fit anywhere. -/
def SplitItem (src count : ℕ) (lootGenerated : Bool) (dest : Option Dest) : Traders :=
  match (s.items p)[src]? with
  | none => s
  | some srcItem =>
    if lootGenerated then s
    else if srcItem.count = count ∨ srcItem.count < count then s
    else if s.trade.any fun t ↦ (t.GetTradeSlotForItem p src).isSome then s
    else
      match s.CreateItem maxStack p srcItem.entry count with
      | (none, s') => s'
      | (some (newGuid, newItem), s') =>
        match dest with
        | none => (s'.SetCount p src (srcItem.count - count)).SetCount p src srcItem.count
        | some dest =>
          (s'.SetCount p src (srcItem.count - count)).place maxStack p newGuid newItem dest

/-- What `SwapItem` finds out: where the item can be moved to, or merged, or both items swapped. -/
structure SwapView where
  allowed : Bool
  move : Option Dest
  merge : Option Dest
  toDst : Option Dest
  toSrc : Option Dest

/-- `Player::SwapItem`; `dst` is the item at the other position, if there is one. -/
def SwapItem (src : ℕ) (dst : Option ℕ) (view : SwapView) : Traders :=
  match (s.items p)[src]? with
  | none => s
  | some srcItem =>
    if !view.allowed then s
    else
      match dst with
      | none =>
        match view.move with
        | none => s
        | some dest => (s.RemoveItem p src).place maxStack p src srcItem dest
      | some dst =>
        match (s.items p)[dst]?, view.merge with
        | none, _ => s
        | some dstItem, some dest =>
          if srcItem.count + dstItem.count ≤ maxStack srcItem.entry then
            (s.RemoveItem p src).place maxStack p src srcItem dest
          else
            (s.SetCount p src (srcItem.count + dstItem.count - maxStack srcItem.entry)).SetCount p
              dst (maxStack srcItem.entry)
        | some dstItem, none =>
          match view.toDst, view.toSrc with
          | some toDst, some toSrc =>
            (((s.RemoveItem p dst).RemoveItem p src).place maxStack p src srcItem toDst).place
              maxStack p dst dstItem toSrc
          | _, _ => s

/-- `Player::DestroyItemCount` of an item; destroying all of it is `DestroyItem`. -/
def DestroyItemCount (guid count : ℕ) : Traders :=
  match (s.items p)[guid]? with
  | none => s
  | some item =>
    if item.count ≤ count then s.RemoveItem p guid
    else s.SetCount p guid (item.count - count)

/-- `Player::MoveItemFromInventory`, into the mail, an auction or a guild bank; there it gets a new owner. -/
def MoveItemFromInventory (guid : ℕ) (owner : Option Bool) : Traders :=
  match (s.items p)[guid]? with
  | none => s
  | some item =>
    { s.RemoveItem p guid with outside := s.outside.insert guid (item, owner) }

/-- `Player::MoveItemToInventory`, of an item that is in the mail, in a guild bank or has been sold. -/
def MoveItemToInventory (guid : ℕ) (dest : List ItemPosCount) : Traders :=
  match s.outside[guid]? with
  | none => s
  | some (item, owner) =>
    ({ s with outside := s.outside.erase guid } : Traders).StoreItem maxStack p guid item owner dest

/-- `Player::StoreNewItem`. -/
def StoreNewItem (entry count : ℕ) (dest : List ItemPosCount) : Traders :=
  match s.CreateItem maxStack p entry count with
  | (none, s') => s'
  | (some (guid, item), s') => s'.StoreItem maxStack p guid item (some p) dest

/-- `Player::ModifyMoney`. -/
def ModifyMoney (amount : ℤ) : Traders :=
  { s with purses := Function.update s.purses p ((s.purses p).ModifyMoney amount).1 }

/-- `WorldSession::HandleSellItemOpcode`, with the price of one item; what is sold can be bought back. -/
def HandleSellItem (guid count price : ℕ) : Traders :=
  match (s.items p)[guid]? with
  | none => s
  | some item =>
    if count > item.count ∨ price = 0 then s
    else if count ≠ 0 ∧ count < item.count then
      match s.CreateItem maxStack p item.entry count with
      | (none, s') => s'
      | (some (newGuid, newItem), s') =>
        let sold := s'.SetCount p guid (item.count - count)
        ({ sold with outside := sold.outside.insert newGuid (newItem, some p) } :
          Traders).ModifyMoney p (int32 (uint32 (price * count)))
    else
      (s.MoveItemFromInventory p guid (some p)).ModifyMoney p (int32 (uint32 (price * item.count)))

/-! ## Opening and closing a trade -/

/-- `WorldSession::HandleInitiateTradeOpcode`. -/
def HandleInitiateTrade : Traders :=
  if s.trade.isSome then s else { s with trade := some fun _ ↦ {} }

/-- `Player::TradeCancel`. -/
def TradeCancel : Traders := { s with trade := none }

/-! ## Offers -/

/-- `WorldSession::HandleSetTradeGoldOpcode`. -/
def HandleSetTradeGold (gold : UInt32) : Traders :=
  { s with trade := s.trade.map fun t ↦ t.SetMoney p gold (s.purses p) }

/-- `WorldSession::HandleSetTradeItemOpcode`, with the item that is at the position, whether it can be traded
and whether it is bound to others than the trader. -/
def HandleSetTradeItem (tradeSlot guid : ℕ) (canBeTraded isBindedNotWith : Bool) : Traders :=
  { s with trade := s.trade.map fun t ↦
      if h : tradeSlot < TRADE_SLOT_COUNT then
        let slot : Fin TRADE_SLOT_COUNT := ⟨tradeSlot, h⟩
        if guid ∉ s.items p ∨ (slot ≠ TRADE_SLOT_NONTRADED ∧ !canBeTraded) then t
        else if t.HasItem p guid then t
        else if slot ≠ TRADE_SLOT_NONTRADED ∧ isBindedNotWith then t
        else t.SetItem p slot guid false
      else t }

/-- `WorldSession::HandleClearTradeItemOpcode`. -/
def HandleClearTradeItem (tradeSlot : ℕ) : Traders :=
  { s with trade := s.trade.map fun t ↦
      if h : tradeSlot < TRADE_SLOT_COUNT then t.SetItem p ⟨tradeSlot, h⟩ 0 false else t }

/-- What a spell that is cast on the item in the last slot of the trader does: `TradeData::SetSpell`. -/
def SetTradeSpell (spell castItem : ℕ) : Traders :=
  { s with trade := s.trade.map fun t ↦ t.SetSpell p spell castItem }

/-- `WorldSession::HandleUnacceptTradeOpcode`. -/
def HandleUnacceptTrade : Traders :=
  { s with trade := s.trade.map fun t ↦ t.SetAccepted p false }

/-! ## Accepting -/

/-- What `HandleAcceptTradeOpcode` finds out: whether the players are close enough, which items can be traded,
whether the spell of a player can be cast, whether `CanStoreItems` has room for what he gets, and where
`CanStoreItem` puts the item of a slot with the one who gets it, or back with the one who gave it. -/
structure AcceptView where
  inDistance : Bool
  canBeTraded : Bool → Fin TRADE_SLOT_TRADED_COUNT → Bool
  canCast : Bool → Bool
  canStoreItems : Bool → Bool
  dst : Bool → Fin TRADE_SLOT_TRADED_COUNT → Option (List ItemPosCount)
  back : Bool → Fin TRADE_SLOT_TRADED_COUNT → Option (List ItemPosCount)

/-- The items of a player that the trade is about. -/
def tradedItems (t : Trade) (slot : Fin TRADE_SLOT_TRADED_COUNT) : Option (ℕ × Item) := s.GetItem p t slot.castSucc

/-- Whether a spell in the trade has to be taken out again. -/
def spellFails (t : Trade) (view : AcceptView) : Bool :=
  (t p).spell ≠ 0 && ((s.GetItem (!p) t TRADE_SLOT_NONTRADED).isNone ||
      ((t p).spellCastItem ≠ 0 && (s.items p)[(t p).spellCastItem]?.isNone) || !view.canCast p)

/-- `MoveItemToInventory` of the item of a slot, if there is one. -/
def moveItem (taker : Bool) (item : Option (ℕ × Item)) (dest : Option (List ItemPosCount)) : Traders :=
  match item, dest with
  | some (guid, item), some dest => s.StoreItem maxStack taker guid item (some p) dest
  | _, _ => s

/-- Whether the items of a slot change hands in `moveItems`. -/
def canTrade (items : Bool → Fin TRADE_SLOT_TRADED_COUNT → Option (ℕ × Item)) (view : AcceptView)
    (slot : Fin TRADE_SLOT_TRADED_COUNT) : Bool :=
  ((items p slot).isNone || (view.dst (!p) slot).isSome) &&
    ((items (!p) slot).isNone || (view.dst p slot).isSome)

/-- `WorldSession::moveItems`; what cannot be stored goes back, or is lost. -/
def moveItems (items : Bool → Fin TRADE_SLOT_TRADED_COUNT → Option (ℕ × Item)) (view : AcceptView) :
    Traders :=
  (List.finRange TRADE_SLOT_TRADED_COUNT).foldl (fun s slot ↦
    if canTrade p items view slot then
      (s.moveItem maxStack p (!p) (items p slot) (view.dst (!p) slot)).moveItem maxStack (!p) p
        (items (!p) slot) (view.dst p slot)
    else
      (s.moveItem maxStack p p (items p slot) (view.back p slot)).moveItem maxStack (!p) (!p)
        (items (!p) slot) (view.back (!p) slot)) s

/-- What `p` gives away. -/
def given (t : Trade) (items : Bool → Fin TRADE_SLOT_TRADED_COUNT → Option (ℕ × Item))
    (view : AcceptView) : Offer where
  items slot :=
    if canTrade p items view slot then (items p slot).map fun x ↦ (x.1, x.2.count) else none
  gold := (s.purses p).money - ((s.purses p).ModifyMoney (-int32 (t p).money.toNat)).1.money

/-- The end of a trade that both have accepted: the items are taken out, moved and paid for. -/
def executeTrade (t : Trade) (view : AcceptView) : Traders :=
  let items q := s.tradedItems q t
  let removed := (List.finRange TRADE_SLOT_TRADED_COUNT).foldl (fun s slot ↦
    let s := ((items p slot).map fun x ↦ s.RemoveItem p x.1).getD s
    ((items (!p) slot).map fun x ↦ s.RemoveItem (!p) x.1).getD s) s
  let moved := removed.moveItems maxStack p items view
  let paid := (((moved.ModifyMoney p (-int32 (t p).money.toNat)).ModifyMoney p
    (int32 (t !p).money.toNat)).ModifyMoney (!p) (-int32 (t !p).money.toNat)).ModifyMoney (!p)
    (int32 (t p).money.toNat)
  { paid with
    trade := none
    exchanges := ⟨fun q ↦ s.given q t items view, fun q ↦ s.consents !q⟩ :: s.exchanges }

/-- What becomes of the trade if `HandleAcceptTradeOpcode` does not complete it, after the flag of the player
has been set. -/
def refusal (t : Trade) (view : AcceptView) : Option Trade :=
  if !view.inDistance then some (t.SetAccepted p false)
  else if !(s.purses p).HasEnoughMoney (t p).money then some (t.SetAccepted p false)
  else if !(s.purses !p).HasEnoughMoney (t !p).money then some (t.SetAccepted (!p) false)
  else if (s.purses p).money ≥ (MAX_MONEY_AMOUNT - (t !p).money).toNat then
    some (t.SetAccepted p false)
  else if (s.purses !p).money ≥ (MAX_MONEY_AMOUNT - (t p).money).toNat then
    some (t.SetAccepted (!p) false)
  -- an item that cannot be traded ends it, but the flag stays
  else if (List.finRange TRADE_SLOT_TRADED_COUNT).any fun slot ↦
      ((s.tradedItems p t slot).isSome && !view.canBeTraded p slot) ||
        ((s.tradedItems (!p) t slot).isSome && !view.canBeTraded (!p) slot) then some t
  else if !(t !p).accepted then some t
  else if s.spellFails p t view then some (t.SetSpell p 0 0)
  else if s.spellFails (!p) t view then some (t.SetSpell (!p) 0 0)
  else if !view.canStoreItems p ∨ !view.canStoreItems !p then some (t.resetAccepted p)
  else none

/-- `WorldSession::HandleAcceptTradeOpcode`. -/
def HandleAcceptTrade (view : AcceptView) : Traders :=
  match s.trade with
  | none => s
  | some t =>
    let t := t.SetAccepted p true
    let s : Traders :=
      { s with trade := some t, consents := Function.update s.consents p (s.offer (!p) t) }
    match s.refusal p t view with
    | some t => { s with trade := some t }
    | none => s.executeTrade maxStack p t view

end Traders

/-! ## The machine -/

/-- What the two players can do. -/
inductive TradeCall where
  | HandleInitiateTrade
  | TradeCancel
  | HandleSetTradeGold (p : Bool) (gold : UInt32)
  | HandleSetTradeItem (p : Bool) (tradeSlot guid : ℕ) (canBeTraded isBindedNotWith : Bool)
  | HandleClearTradeItem (p : Bool) (tradeSlot : ℕ)
  | SetTradeSpell (p : Bool) (spell castItem : ℕ)
  | HandleUnacceptTrade (p : Bool)
  | HandleAcceptTrade (p : Bool) (view : Traders.AcceptView)
  | SplitItem (p : Bool) (src count : ℕ) (lootGenerated : Bool) (dest : Option Dest)
  | SwapItem (p : Bool) (src : ℕ) (dst : Option ℕ) (view : Traders.SwapView)
  | DestroyItemCount (p : Bool) (guid count : ℕ)
  | HandleSellItem (p : Bool) (guid count price : ℕ)
  | MoveItemFromInventory (p : Bool) (guid : ℕ) (owner : Option Bool)
  | MoveItemToInventory (p : Bool) (guid : ℕ) (dest : List ItemPosCount)
  | StoreNewItem (p : Bool) (entry count : ℕ) (dest : List ItemPosCount)
  | ModifyMoney (p : Bool) (amount : ℤ)

/-- What a call does. -/
def Traders.next (maxStack : ℕ → ℕ) (s : Traders) : TradeCall → Traders
  | .HandleInitiateTrade => s.HandleInitiateTrade
  | .TradeCancel => s.TradeCancel
  | .HandleSetTradeGold p gold => s.HandleSetTradeGold p gold
  | .HandleSetTradeItem p tradeSlot guid canBeTraded isBindedNotWith =>
    s.HandleSetTradeItem p tradeSlot guid canBeTraded isBindedNotWith
  | .HandleClearTradeItem p tradeSlot => s.HandleClearTradeItem p tradeSlot
  | .SetTradeSpell p spell castItem => s.SetTradeSpell p spell castItem
  | .HandleUnacceptTrade p => s.HandleUnacceptTrade p
  | .HandleAcceptTrade p view => s.HandleAcceptTrade maxStack p view
  | .SplitItem p src count lootGenerated dest => s.SplitItem maxStack p src count lootGenerated dest
  | .SwapItem p src dst view => s.SwapItem maxStack p src dst view
  | .DestroyItemCount p guid count => s.DestroyItemCount p guid count
  | .HandleSellItem p guid count price => s.HandleSellItem maxStack p guid count price
  | .MoveItemFromInventory p guid owner => s.MoveItemFromInventory p guid owner
  | .MoveItemToInventory p guid dest => s.MoveItemToInventory maxStack p guid dest
  | .StoreNewItem p entry count dest => s.StoreNewItem maxStack p entry count dest
  | .ModifyMoney p amount => s.ModifyMoney p amount

/-- Two players who begin with some items and gold, and no trade. -/
def Traders.start (items : Bool → ExtTreeMap ℕ Item) (purses : Bool → Purse) (nextGuid : ℕ) :
    Traders where
  items := items
  outside := ∅
  purses := purses
  nextGuid := nextGuid
  trade := none
  consents _ := ⟨fun _ ↦ none, 0⟩
  exchanges := []

/-- The machine of two players. -/
def tradeMachine (maxStack : ℕ → ℕ) (items : Bool → ExtTreeMap ℕ Item) (purses : Bool → Purse)
    (nextGuid : ℕ) : Machine Traders TradeCall where
  start := Traders.start items purses nextGuid
  next s a := some (s.next maxStack a)

end Gundrak.Trading
