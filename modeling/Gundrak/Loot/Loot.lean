import Gundrak.Util.Machine
import Gundrak.Util.ObjectGuid
import Gundrak.Util.TreeMap

/-!
# Loot

A `Loot` is what a corpse or a chest holds.  Its `items` are for everybody, except that some are free
for all, so that every player who may have one gets his own, and some have conditions.  Its
`quest_items` are shown to the players who need them.  `FillNotNormalLootFor` makes, for one player,
the lists of the items that are not normal; `StoreLootItem` lets a player take an item out of a slot of
his loot window.  All the while `unlootedCount` is to say how much is left.

Whether a player may have an item depends on his quests, his skills and the conditions in the
database; it is part of a call (`Player.allowed`, `StoreView`), and so is whether his bags have room.
What the clients are told is left out.
-/

open Std (ExtTreeMap)

namespace Gundrak.Looting

/-- `MAX_NR_LOOT_ITEMS`. -/
def MAX_NR_LOOT_ITEMS : ℕ := 16
/-- `MAX_NR_QUEST_ITEMS`. -/
def MAX_NR_QUEST_ITEMS : ℕ := 32

/-- `LootMethod`. -/
inductive LootMethod where
  | FREE_FOR_ALL
  | ROUND_ROBIN
  | MASTER_LOOT
  | GROUP_LOOT
  | NEED_BEFORE_GREED
deriving DecidableEq

/-- What is asked of the template of an item. -/
structure ItemTemplate where
  MaxStackSize : ℕ
  /-- `ITEM_FLAG_MULTI_DROP` -/
  MULTI_DROP : Bool
  /-- `ITEM_FLAGS_CU_FOLLOW_LOOT_RULES` -/
  FOLLOW_LOOT_RULES : Bool
  IsCurrencyToken : Bool
  Quality : ℕ

/-- `LootStoreItem`, with the template of the item it names. -/
structure LootStoreItem where
  itemid : ℕ
  proto : ItemTemplate
  needs_quest : Bool
  /-- whether the drop has conditions, `!conditions.empty()` -/
  conditions : Bool

/-- `LootItem`, without its random properties; `proto` is the template that `itemid` names. -/
structure LootItem where
  itemid : ℕ
  proto : ItemTemplate
  conditions : Bool
  allowedGUIDs : List ObjectGuid
  rollWinnerGUID : ObjectGuid
  count : ℕ
  is_looted : Bool
  is_blocked : Bool
  freeforall : Bool
  is_underthreshold : Bool
  is_counted : Bool
  needs_quest : Bool
  follow_loot_rules : Bool

namespace LootItem

/-- The constructor of `LootItem`, with the count that `AddItem` gives it next, an `uint8`. -/
def new (li : LootStoreItem) (count : ℕ) : LootItem where
  itemid := li.itemid
  proto := li.proto
  conditions := li.conditions
  allowedGUIDs := []
  rollWinnerGUID := ObjectGuid.Empty
  count := count % 2 ^ 8
  is_looted := false
  is_blocked := false
  freeforall := li.proto.MULTI_DROP
  is_underthreshold := false
  is_counted := false
  needs_quest := li.needs_quest
  follow_loot_rules := li.proto.FOLLOW_LOOT_RULES

/-- `LootItem::AddAllowedLooter`. -/
def AddAllowedLooter (item : LootItem) (guid : ObjectGuid) : LootItem :=
  { item with allowedGUIDs := item.allowedGUIDs.insert guid }

end LootItem

/-- `NotNormalLootItem`. -/
structure NotNormalLootItem where
  index : ℕ
  is_looted : Bool
deriving DecidableEq

/-- The entry of a player who has taken the item. -/
def NotNormalLootItem.looted (entry : NotNormalLootItem) : NotNormalLootItem :=
  { entry with is_looted := true }

/-- `NotNormalLootItemMap`. -/
abbrev NotNormalLootItemMap := ExtTreeMap ObjectGuid (List NotNormalLootItem)

/-- `Loot`. -/
structure Loot where
  items : List LootItem
  quest_items : List LootItem
  gold : ℕ
  unlootedCount : UInt8
  PlayerQuestItems : NotNormalLootItemMap
  PlayerFFAItems : NotNormalLootItemMap
  PlayerNonQuestNonFFAConditionalItems : NotNormalLootItemMap

/-- A player at the time of a call: his group with its loot method and its master looter, if he has one,
and the items he is allowed to have (`LootItem::AllowedForPlayer`). -/
structure Player where
  guid : ObjectGuid
  group : Option (LootMethod × ObjectGuid)
  allowed : LootItem → Bool

/-- A player at the time he takes an item: what he is allowed to have then, and whether
`CanStoreNewItem` finds room for it. -/
structure StoreView where
  allowed : LootItem → Bool
  canStore : Bool

namespace Loot

variable (loot : Loot)

/-- `Loot::Loot`. -/
def new (gold : ℕ) : Loot := ⟨[], [], gold, 0, ∅, ∅, ∅⟩

/-- `Loot::isLooted`. -/
def isLooted : Bool := loot.gold == 0 && loot.unlootedCount == 0

/-! ## Dropping items -/

/-- The loop of `AddItem` over the stacks of one drop; `count` is what is left of it, an `uint32`. -/
def addStacks (item : LootStoreItem) : (stacksLeft count : ℕ) → Loot → Loot
  | 0, _, loot => loot
  | stacksLeft + 1, count, loot =>
    let generatedLoot := LootItem.new item (min count item.proto.MaxStackSize)
    let count := (count + 2 ^ 32 - item.proto.MaxStackSize) % 2 ^ 32
    if item.needs_quest then
      if loot.quest_items.length < MAX_NR_QUEST_ITEMS then
        addStacks item stacksLeft count { loot with quest_items := loot.quest_items ++ [generatedLoot] }
      else loot
    else if loot.items.length < MAX_NR_LOOT_ITEMS then
      addStacks item stacksLeft count { loot with
          items := loot.items ++ [generatedLoot]
          unlootedCount :=
            if !item.conditions && !item.proto.MULTI_DROP then loot.unlootedCount + 1
            else loot.unlootedCount }
    else loot

/-- `Loot::AddItem`, after `count` has been drawn. -/
def AddItem (item : LootStoreItem) (count : ℕ) : Loot :=
  let stacksLeft := count / item.proto.MaxStackSize +
    if count % item.proto.MaxStackSize ≠ 0 then 1 else 0
  loot.addStacks item stacksLeft count

/-! ## The lists of a player -/

/-- The places in `items` of those that satisfy `p`. -/
def indices (items : List LootItem) (p : LootItem → Bool) : List ℕ :=
  (List.range items.length).filter fun i ↦ (items[i]?).any p

/-- A list of items that nobody has looted yet. -/
def freshList (is : List ℕ) : List NotNormalLootItem := is.map fun i ↦ ⟨i, false⟩

/-- Put the list of a player into a map, unless it is empty. -/
def withList (m : NotNormalLootItemMap) (guid : ObjectGuid) (is : List ℕ) : NotNormalLootItemMap :=
  if is.isEmpty then m else m.insert guid (freshList is)

/-- What `FillFFALoot` lists. -/
def ffaIndices (player : Player) : List ℕ :=
  indices loot.items fun item ↦ !item.is_looted && item.freeforall && player.allowed item

/-- `Loot::FillFFALoot`. -/
def FillFFALoot (player : Player) : Loot :=
  let ql := loot.ffaIndices player
  { loot with
    unlootedCount := loot.unlootedCount + UInt8.ofNat ql.length
    PlayerFFAItems := withList loot.PlayerFFAItems player.guid ql }

/-- Who is shown a quest item that follows the loot rules: its master looter, or anybody in a group
without one. -/
def followsRules (player : Player) : Bool :=
  match player.group with
  | none => false
  | some (method, masterLooter) =>
    (method == .MASTER_LOOT && masterLooter == player.guid) || method != .MASTER_LOOT

/-- Whether the quest items that are shown to a player get blocked. -/
def blocksQuestItems (player : Player) : Bool :=
  match player.group with
  | none => true
  | some (method, _) => method != .GROUP_LOOT && method != .ROUND_ROBIN

/-- What `FillQuestLoot` lists, until the loot window is full. -/
def questIndices (player : Player) : List ℕ := (indices loot.quest_items fun item ↦
    !item.is_looted && (player.allowed item || (item.follow_loot_rules && followsRules player))).take
    (MAX_NR_LOOT_ITEMS - loot.items.length)

/-- Whether `FillQuestLoot` counts the quest item that it lists. -/
def countsQuestItem (i : ℕ) : Bool := (loot.quest_items[i]?).any fun item ↦ item.freeforall || !item.is_blocked

/-- `Loot::FillQuestLoot`. -/
def FillQuestLoot (player : Player) : Loot :=
  if loot.items.length = MAX_NR_LOOT_ITEMS then loot
  else
    let ql := loot.questIndices player
    { loot with
      unlootedCount := loot.unlootedCount + UInt8.ofNat (ql.countP loot.countsQuestItem)
      quest_items := loot.quest_items.mapIdx fun i item ↦
        if ql.contains i && blocksQuestItems player then { item with is_blocked := true } else item
      PlayerQuestItems := withList loot.PlayerQuestItems player.guid ql }

/-- The items `FillNonQuestNonFFAConditionalLoot` looks at. -/
def oneLooter (player : Player) (item : LootItem) : Bool := !item.is_looted && !item.freeforall && player.allowed item

/-- `Loot::FillNonQuestNonFFAConditionalLoot`. -/
def FillNonQuestNonFFAConditionalLoot (player : Player) (presentAtLooting : Bool) : Loot :=
  { loot with
    unlootedCount := loot.unlootedCount + UInt8.ofNat (loot.items.countP fun item ↦
        oneLooter player item && item.conditions && !item.is_counted)
    items := loot.items.map fun item ↦
      if oneLooter player item then
        let item := if presentAtLooting then item.AddAllowedLooter player.guid else item
        if item.conditions then { item with is_counted := true } else item
      else item
    PlayerNonQuestNonFFAConditionalItems := withList loot.PlayerNonQuestNonFFAConditionalItems player.guid
        (indices loot.items fun item ↦ oneLooter player item && item.conditions) }

/-- The first part of `FillNotNormalLootFor`: make the lists the player does not have yet. -/
def fillLists (player : Player) (presentAtLooting : Bool) : Loot :=
  let loot :=
    if loot.PlayerQuestItems.contains player.guid then loot else loot.FillQuestLoot player
  let loot := if loot.PlayerFFAItems.contains player.guid then loot else loot.FillFFALoot player
  if loot.PlayerNonQuestNonFFAConditionalItems.contains player.guid then loot
  else loot.FillNonQuestNonFFAConditionalLoot player presentAtLooting

/-! ## Taking an item -/

/-- Where a list of a player says that he has looted an item. -/
inductive ListEntry where
  | none
  | qitem (pos : ℕ)
  | ffaitem (pos : ℕ)
  | conditem (pos : ℕ)
deriving DecidableEq

/-- Whether the item is a quest item. -/
def ListEntry.isQitem : ListEntry → Bool
  | .qitem _ => true
  | _ => false

/-- An item that was found in a slot: its place in `items`, or in `quest_items` if the entry is a
`qitem`, and the entry of the player for it. -/
structure SlotItem where
  index : ℕ
  item : LootItem
  entry : ListEntry

/-- Find the first entry for a slot in a list of a player. -/
def findEntry (m : NotNormalLootItemMap) (guid : ObjectGuid) (lootSlot : ℕ) :
    Option (ℕ × NotNormalLootItem) :=
  match m[guid]? with
  | none => none
  | some list =>
    match list.findIdx? fun entry ↦ entry.index == lootSlot with
    | none => none
    | some pos => (list[pos]?).map fun entry ↦ (pos, entry)

/-- The item in a slot with the entry of the player for it, and whether it is looted. -/
def itemInSlot (guid : ObjectGuid) (lootSlot : ℕ) : Option (SlotItem × Bool) :=
  if loot.items.length ≤ lootSlot then
    match loot.PlayerQuestItems[guid]? with
    | none => none
    | some list =>
      match list[lootSlot - loot.items.length]? with
      | none => none
      | some entry =>
        (loot.quest_items[entry.index]?).map fun item ↦
          (⟨entry.index, item, .qitem (lootSlot - loot.items.length)⟩, entry.is_looted)
  else
    (loot.items[lootSlot]?).map fun item ↦
      if item.freeforall then
        match findEntry loot.PlayerFFAItems guid lootSlot with
        | some (pos, entry) => (⟨lootSlot, item, .ffaitem pos⟩, entry.is_looted)
        | none => (⟨lootSlot, item, .none⟩, item.is_looted)
      else if item.conditions then
        match findEntry loot.PlayerNonQuestNonFFAConditionalItems guid lootSlot with
        | some (pos, entry) => (⟨lootSlot, item, .conditem pos⟩, entry.is_looted)
        | none => (⟨lootSlot, item, .none⟩, item.is_looted)
      else (⟨lootSlot, item, .none⟩, item.is_looted)

/-- `Loot::LootItemInSlot`. -/
def LootItemInSlot (guid : ObjectGuid) (lootSlot : ℕ) : Option SlotItem :=
  match loot.itemInSlot guid lootSlot with
  | some (found, is_looted) => if is_looted then none else some found
  | none => none

/-- Set an entry of a player to looted. -/
def setLooted (m : NotNormalLootItemMap) (guid : ObjectGuid) (pos : ℕ) : NotNormalLootItemMap :=
  m.modify guid fun list ↦ list.modify pos .looted

/-- Note in the lists of the player that he has taken an item. -/
def markEntry (guid : ObjectGuid) : ListEntry → Loot
  | .none => loot
  | .qitem pos => { loot with PlayerQuestItems := setLooted loot.PlayerQuestItems guid pos }
  | .ffaitem pos => { loot with PlayerFFAItems := setLooted loot.PlayerFFAItems guid pos }
  | .conditem pos =>
    { loot with
      PlayerNonQuestNonFFAConditionalItems := setLooted loot.PlayerNonQuestNonFFAConditionalItems guid pos }

/-- Note at the item itself that it is taken, if it is not free for all. -/
def markItem (found : SlotItem) : Loot :=
  if found.item.freeforall then loot
  else
    match found.entry with
    | .qitem _ =>
      { loot with
        quest_items := loot.quest_items.modify found.index
          fun item ↦ { item with is_looted := true } }
    | _ =>
      { loot with
        items := loot.items.modify found.index fun item ↦ { item with is_looted := true } }

/-- The checks of `StoreLootItem` on the item that is in the slot. -/
def mayStore (guid : ObjectGuid) (found : SlotItem) (view : StoreView) : Bool :=
  view.allowed found.item && (found.entry.isQitem || !found.item.is_blocked) &&
    (found.item.rollWinnerGUID == ObjectGuid.Empty || found.item.rollWinnerGUID == guid) &&
    view.canStore

/-- `Player::StoreLootItem`. -/
def StoreLootItem (guid : ObjectGuid) (lootSlot : ℕ) (view : StoreView) : Loot :=
  match loot.LootItemInSlot guid lootSlot with
  | none => loot
  | some found =>
    if mayStore guid found view then
      let loot := (loot.markEntry guid found.entry).markItem found
      { loot with unlootedCount := loot.unlootedCount - 1 }
    else loot

/-! ## Filling the loot for a player -/

/-- `Loot::GetMaxSlotInLootFor`. -/
def GetMaxSlotInLootFor (guid : ObjectGuid) : ℕ :=
  loot.items.length + ((loot.PlayerQuestItems[guid]?).map List.length).getD 0

/-- The item the loop of `FillNotNormalLootFor` looks at, which for a quest item need not be the one in
that slot of the player's loot window. -/
def currencyAt (i : ℕ) : Option LootItem :=
  if i < loot.items.length then loot.items[i]?
  else loot.quest_items[i - loot.items.length]?

/-- One pass of the loop of `FillNotNormalLootFor` that processes currency items. -/
def takeCurrency (guid : ObjectGuid) (views : ℕ → StoreView) (loot : Loot) (i : ℕ) : Loot :=
  match loot.currencyAt i with
  | none => loot
  | some item =>
    if !item.is_looted && item.freeforall && (views i).allowed item && item.proto.IsCurrencyToken then
      loot.StoreLootItem guid i (views i)
    else loot

/-- `Loot::FillNotNormalLootFor`. -/
def FillNotNormalLootFor (player : Player) (presentAtLooting : Bool) (views : ℕ → StoreView) :
    Loot :=
  let loot := loot.fillLists player presentAtLooting
  if !presentAtLooting then loot
  else (List.range (loot.GetMaxSlotInLootFor player.guid)).foldl (takeCurrency player.guid views) loot

end Loot

/-! ## The machine -/

/-- The calls on a loot that has been made. -/
inductive LootCall where
  | FillNotNormalLootFor (player : Player) (presentAtLooting : Bool) (views : ℕ → StoreView)
  | StoreLootItem (guid : ObjectGuid) (lootSlot : ℕ) (view : StoreView)

/-- The loot of some drops, and what the players do with it. -/
def lootMachine (gold : ℕ) (drops : List (LootStoreItem × ℕ)) : Machine Loot LootCall where
  start := drops.foldl (fun loot drop ↦ loot.AddItem drop.1 drop.2) (.new gold)
  next loot
    | .FillNotNormalLootFor player presentAtLooting views =>
      some (loot.FillNotNormalLootFor player presentAtLooting views)
    | .StoreLootItem guid lootSlot view => some (loot.StoreLootItem guid lootSlot view)

end Gundrak.Looting
