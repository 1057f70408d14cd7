import Gundrak.Util.Int32
import Gundrak.Util.Machine

/-!
# Reforged items

The stats of an item that is equipped are added to the modifiers of the player (`_ApplyItemBonuses`), and the same
routine takes them away again.  A reforge moves two fifths of a stat of an item to a stat that the item does not have.
It is no part of the item: it is an entry of `reforgeMap` under the guid of the item, which the routine looks up whenever
it runs.  `custom_reforging` keeps the entries from one login to the next.

Modifiers are exact sums, and of the routine there are the stats, which alone depend on the map.  The items are not
broken and the player is alive and keeps the level.  A guid is the counter of an item guid, and the place of an item is a
slot of the player or a bag.
-/

namespace Gundrak.Items

/-! ## Stats -/

/-- What a stat of an item is added to: `UnitMods`, `CombatRating` and the fields of the player. -/
inductive Modifier where
  | UNIT_MOD_MANA | UNIT_MOD_HEALTH | UNIT_MOD_STAT_AGILITY | UNIT_MOD_STAT_STRENGTH | UNIT_MOD_STAT_INTELLECT
  | UNIT_MOD_STAT_SPIRIT | UNIT_MOD_STAT_STAMINA | UNIT_MOD_ATTACK_POWER | UNIT_MOD_ATTACK_POWER_RANGED
  | CR_DEFENSE_SKILL | CR_DODGE | CR_PARRY | CR_BLOCK | CR_HIT_MELEE | CR_HIT_RANGED | CR_HIT_SPELL
  | CR_CRIT_MELEE | CR_CRIT_RANGED | CR_CRIT_SPELL | CR_HIT_TAKEN_MELEE | CR_HIT_TAKEN_RANGED | CR_HIT_TAKEN_SPELL
  | CR_CRIT_TAKEN_MELEE | CR_CRIT_TAKEN_RANGED | CR_CRIT_TAKEN_SPELL | CR_HASTE_MELEE | CR_HASTE_RANGED
  | CR_HASTE_SPELL | CR_EXPERTISE | CR_ARMOR_PENETRATION
  | manaRegen | spellPower | healthRegen | spellPenetration | SHIELD_BLOCK_VALUE
deriving DecidableEq

/-- The modifiers of a stat, by the number of the stat in `ItemModType`.  The deprecated ones have none. -/
def modifiers : ℕ → List Modifier
  | 0 => [.UNIT_MOD_MANA]
  | 1 => [.UNIT_MOD_HEALTH]
  | 3 => [.UNIT_MOD_STAT_AGILITY]
  | 4 => [.UNIT_MOD_STAT_STRENGTH]
  | 5 => [.UNIT_MOD_STAT_INTELLECT]
  | 6 => [.UNIT_MOD_STAT_SPIRIT]
  | 7 => [.UNIT_MOD_STAT_STAMINA]
  | 12 => [.CR_DEFENSE_SKILL]
  | 13 => [.CR_DODGE]
  | 14 => [.CR_PARRY]
  | 15 => [.CR_BLOCK]
  | 16 => [.CR_HIT_MELEE]
  | 17 => [.CR_HIT_RANGED]
  | 18 => [.CR_HIT_SPELL]
  | 19 => [.CR_CRIT_MELEE]
  | 20 => [.CR_CRIT_RANGED]
  | 21 => [.CR_CRIT_SPELL]
  | 22 => [.CR_HIT_TAKEN_MELEE]
  | 23 => [.CR_HIT_TAKEN_RANGED]
  | 24 => [.CR_HIT_TAKEN_SPELL]
  | 25 => [.CR_CRIT_TAKEN_MELEE]
  | 26 => [.CR_CRIT_TAKEN_RANGED]
  | 27 => [.CR_CRIT_TAKEN_SPELL]
  | 28 => [.CR_HASTE_MELEE]
  | 29 => [.CR_HASTE_RANGED]
  | 30 => [.CR_HASTE_SPELL]
  | 31 => [.CR_HIT_MELEE, .CR_HIT_RANGED, .CR_HIT_SPELL]
  | 32 => [.CR_CRIT_MELEE, .CR_CRIT_RANGED, .CR_CRIT_SPELL]
  | 33 => [.CR_HIT_TAKEN_MELEE, .CR_HIT_TAKEN_RANGED, .CR_HIT_TAKEN_SPELL]
  | 34 => [.CR_CRIT_TAKEN_MELEE, .CR_CRIT_TAKEN_RANGED, .CR_CRIT_TAKEN_SPELL]
  | 35 => [.CR_CRIT_TAKEN_MELEE, .CR_CRIT_TAKEN_RANGED, .CR_CRIT_TAKEN_SPELL]
  | 36 => [.CR_HASTE_MELEE, .CR_HASTE_RANGED, .CR_HASTE_SPELL]
  | 37 => [.CR_EXPERTISE]
  | 38 => [.UNIT_MOD_ATTACK_POWER, .UNIT_MOD_ATTACK_POWER_RANGED]
  | 39 => [.UNIT_MOD_ATTACK_POWER_RANGED]
  | 43 => [.manaRegen]
  | 44 => [.CR_ARMOR_PENETRATION]
  | 45 => [.spellPower]
  | 46 => [.healthRegen]
  | 47 => [.spellPenetration]
  | 48 => [.SHIELD_BLOCK_VALUE]
  | _ => []

/-- `statTypes`, the stats that can be increased: spirit, dodge, parry, hit, expertise, attack power, stamina, armor
penetration, mana regeneration, intellect and spell power. -/
def statTypes : List ℕ := [6, 13, 14, 31, 37, 38, 7, 44, 43, 5, 45]

/-- The stats that `GetStatName` has a name of: those of `statTypes`, crit and haste. -/
def hasStatName (statType : ℕ) : Bool := statType ∈ [6, 13, 14, 31, 32, 36, 37, 38, 7, 44, 43, 5, 45]

/-- `MAX_ITEM_PROTO_STATS`. -/
def MAX_ITEM_PROTO_STATS : ℕ := 10

/-- `_ItemStat`. -/
structure ItemStat where
  ItemStatType : ℕ
  ItemStatValue : ℤ

/-- `ScalingStatDistributionEntry`. -/
structure ScalingStatDistributionEntry where
  StatMod : Fin MAX_ITEM_PROTO_STATS → ℤ
  Modifier : Fin MAX_ITEM_PROTO_STATS → ℕ
  MaxLevel : ℕ

/-- `ItemTemplate`, with what the store lookups of its scaling fields give: `ssdMultiplier` is the multiplier of a
level, if there is one. -/
structure ItemTemplate where
  StatsCount : ℕ
  ItemStat : Fin MAX_ITEM_PROTO_STATS → ItemStat
  ScalingStatDistribution : Option ScalingStatDistributionEntry
  ssdMultiplier : ℕ → Option ℕ
  SellPrice : ℕ
  /-- `ObjectMgr::LoadItemTemplates` cuts the number off. -/
  statsCount_le : StatsCount ≤ MAX_ITEM_PROTO_STATS

/-- `ReforgeData`. -/
structure ReforgeData where
  increase : ℕ
  decrease : ℕ
  stat_value : ℤ
deriving DecidableEq

/-- `floorf(value * 0.4f)`: the values of stats are read as `int16`, where this is exact. -/
def twoFifths (value : ℤ) : ℤ := 2 * value / 5

namespace ItemTemplate

variable (proto : ItemTemplate)

/-- The positions in `ItemStat`. -/
def positions : List (Fin MAX_ITEM_PROTO_STATS) := List.finRange MAX_ITEM_PROTO_STATS

/-- The positions of the stats that the template has. -/
def statPositions : List (Fin MAX_ITEM_PROTO_STATS) := positions.filter (·.val < proto.StatsCount)

/-- The stats of an item that scales with the level, if it does (`ssd && ssv`). -/
def scalingStats (level : ℕ) : Option (List (ℕ × ℤ)) := proto.ScalingStatDistribution.bind fun ssd ↦
    (proto.ssdMultiplier (min level ssd.MaxLevel)).map fun multiplier ↦
      (positions.filter (0 ≤ ssd.StatMod ·)).map fun i ↦
        ((ssd.StatMod i).toNat, ((multiplier * ssd.Modifier i % 2 ^ 32 / 10000 : ℕ) : ℤ))

/-- The stats of an item that does not, from some positions on, with `statcount` and `decreased`. -/
def reforgedStats (statcount : ℕ) (reforgeData : Option ReforgeData) :
    List (Fin MAX_ITEM_PROTO_STATS) → Bool → List (ℕ × ℤ)
  | [], _ => []
  | i :: is, decreased =>
    if statcount ≤ i.val then reforgedStats statcount reforgeData is decreased
    else
      match reforgeData with
      | none =>
        ((proto.ItemStat i).ItemStatType, (proto.ItemStat i).ItemStatValue) ::
          reforgedStats statcount reforgeData is decreased
      | some data =>
        if i.val = statcount - 1 then
          (data.increase, data.stat_value) :: reforgedStats statcount reforgeData is decreased
        else if !decreased && data.decrease = (proto.ItemStat i).ItemStatType then
          ((proto.ItemStat i).ItemStatType, (proto.ItemStat i).ItemStatValue - data.stat_value) ::
            reforgedStats statcount reforgeData is true
        else
          ((proto.ItemStat i).ItemStatType, (proto.ItemStat i).ItemStatValue) ::
            reforgedStats statcount reforgeData is decreased

/-- The stats of an item with an entry in the map, or without: the loop of `_ApplyItemBonuses`. -/
def stats (level : ℕ) (entry : Option ReforgeData) : List (ℕ × ℤ) :=
  match proto.scalingStats level with
  | some stats => stats
  | none =>
    let reforgeData := if proto.StatsCount < MAX_ITEM_PROTO_STATS then entry else none
    proto.reforgedStats (proto.StatsCount + if reforgeData.isSome then 1 else 0) reforgeData positions false

end ItemTemplate

/-! ## The player -/

/-- `EQUIPMENT_SLOT_END`. -/
def EQUIPMENT_SLOT_END : ℕ := 19
/-- `INVENTORY_SLOT_BAG_END`. -/
def INVENTORY_SLOT_BAG_END : ℕ := 23
/-- `INVENTORY_SLOT_ITEM_END`. -/
def INVENTORY_SLOT_ITEM_END : ℕ := 39
/-- `BUYBACK_SLOT_START`. -/
def BUYBACK_SLOT_START : ℕ := 74
/-- `KEYRING_SLOT_START`. -/
def KEYRING_SLOT_START : ℕ := 86
/-- `CURRENCYTOKEN_SLOT_END`. -/
def CURRENCYTOKEN_SLOT_END : ℕ := 150
/-- `10 * GOLD`. -/
def minimalPrice : ℕ := 10 * 10000
/-- `MAX_MONEY_AMOUNT`. -/
def MAX_MONEY_AMOUNT : ℕ := 0x7FFFFFFF - 1

/-- `Player`: the items in its slots and in its bags, the items it is the owner of, its reforges, its modifiers and its
money. -/
structure Player where
  m_items : ℕ → Option ℕ
  bagged : List ℕ
  owned : ℕ → Bool
  reforgeMap : ℕ → Option ReforgeData
  mods : Modifier → ℤ
  money : ℕ
  level : ℕ

/-- What adding or taking away a stat makes of the modifiers. -/
def applyStat (apply : Bool) (mods : Modifier → ℤ) (stat : ℕ × ℤ) : Modifier → ℤ :=
  if stat.2 = 0 then mods
  else (modifiers stat.1).foldl (fun mods m ↦ Function.update mods m (mods m + if apply then stat.2 else -stat.2)) mods

namespace Player

variable (GetTemplate : ℕ → ItemTemplate) (player : Player)

/-- `Player::_ApplyItemBonuses`, the stats.  The map is asked for the item that is in the slot. -/
def _ApplyItemBonuses (proto : ItemTemplate) (slot : ℕ) (apply : Bool) : Player :=
  if INVENTORY_SLOT_BAG_END ≤ slot then player
  else
    { player with
      mods := (proto.stats player.level ((player.m_items slot).bind player.reforgeMap)).foldl
        (applyStat apply) player.mods }

/-- `Player::_ApplyItemMods`. -/
def _ApplyItemMods (item slot : ℕ) (apply : Bool) : Player :=
  if INVENTORY_SLOT_BAG_END ≤ slot then player
  else player._ApplyItemBonuses (GetTemplate item) slot apply

/-- The slot of an item of the player, if it is not in a bag. -/
def slotOf (slots : List ℕ) (item : ℕ) : Option ℕ := slots.find? fun slot ↦ player.m_items slot = some item

/-- The slots that `GetItemByGuid` looks at. -/
def itemSlots : List ℕ := List.range INVENTORY_SLOT_ITEM_END ++
    (List.range' KEYRING_SLOT_START (CURRENCYTOKEN_SLOT_END - KEYRING_SLOT_START) ++
      List.range' INVENTORY_SLOT_ITEM_END (BUYBACK_SLOT_START - INVENTORY_SLOT_ITEM_END))

/-- Where `GetItemByGuid` finds an item: in a slot, or in a bag (`none`). -/
def GetItemByGuid (item : ℕ) : Option (Option ℕ) :=
  match player.slotOf itemSlots item with
  | some slot => some (some slot)
  | none => if item ∈ player.bagged then some none else none

/-- The slot of an item that is found and `Item::IsEquipped`. -/
def equippedSlot (found : Option (Option ℕ)) : Option ℕ :=
  match found with
  | some (some slot) => if slot < EQUIPMENT_SLOT_END then some slot else none
  | _ => none

/-- `_ApplyItemMods` of an item, if it is found and equipped. -/
def applyEquipped (found : Option (Option ℕ)) (item : ℕ) (apply : Bool) : Player :=
  match equippedSlot found with
  | some slot => player._ApplyItemMods GetTemplate item slot apply
  | none => player

/-- The map with another entry for an item. -/
def setReforge (item : ℕ) (entry : Option ReforgeData) : Player :=
  { player with reforgeMap := Function.update player.reforgeMap item entry }

/-- Taking an item off, changing its entry and putting it on again. -/
def changeReforge (found : Option (Option ℕ)) (item : ℕ) (entry : Option ReforgeData) : Player :=
  (((player.applyEquipped GetTemplate found item false).setReforge item entry).applyEquipped GetTemplate found item true)

/-- `RemoveReforge(player, itemguid, true)`. -/
def RemoveReforge (item : ℕ) : Player :=
  if item = 0 ∨ player.reforgeMap item = none then player
  else player.changeReforge GetTemplate (player.GetItemByGuid item) item none

/-! ### Items that come and go -/

/-- `Player::EquipItem` in a slot that is empty: the item is in the slot when its mods are applied. -/
def EquipItem (slot item : ℕ) : Player :=
  let player := { player with
    m_items := Function.update player.m_items slot (some item)
    owned := Function.update player.owned item true }
  player._ApplyItemMods GetTemplate item slot true

/-- `Player::StoreItem` in a slot that is no equipment slot. -/
def StoreItem (slot item : ℕ) : Player :=
  { player with
    m_items := Function.update player.m_items slot (some item)
    owned := Function.update player.owned item true }

/-- `Player::StoreItem` in a bag. -/
def StoreInBag (item : ℕ) : Player :=
  { player with
    bagged := item :: player.bagged
    owned := Function.update player.owned item true }

/-- `Player::RemoveItem` of an item in a slot. -/
def RemoveItem (slot item : ℕ) : Player :=
  let player := if slot < INVENTORY_SLOT_BAG_END then player._ApplyItemMods GetTemplate item slot false else player
  { player with m_items := Function.update player.m_items slot none }

/-- `Player::DestroyItem` of an item in a slot. -/
def DestroyItem (slot item : ℕ) : Player :=
  let player := if slot < INVENTORY_SLOT_BAG_END then player._ApplyItemMods GetTemplate item slot false else player
  { player with m_items := Function.update player.m_items slot none }

/-- `Player::MoveItemFromInventory` of an item in a slot. -/
def MoveItemFromInventory (slot item : ℕ) : Player :=
  (player.RemoveReforge GetTemplate item).RemoveItem GetTemplate slot item

/-- `Player::MoveItemFromInventory` of an item in a bag. -/
def MoveItemFromBag (item : ℕ) : Player :=
  let player := player.RemoveReforge GetTemplate item
  { player with bagged := player.bagged.erase item }

/-! ### Reforging -/

/-- `IsReforgable`. -/
def IsReforgable (item : ℕ) : Bool :=
  let proto := GetTemplate item
  player.owned item && proto.StatsCount ≠ 0 && proto.StatsCount < MAX_ITEM_PROTO_STATS &&
    player.reforgeMap item = none &&
    proto.statPositions.any fun i ↦
      hasStatName (proto.ItemStat i).ItemStatType && 1 < twoFifths (proto.ItemStat i).ItemStatValue

/-- The loop of `UpdatePlayerReforgeStats`: `stat_diff`, or `none` if the item has the increased stat. -/
def statDiff (proto : ItemTemplate) (decrease increase : ℕ) : List (Fin MAX_ITEM_PROTO_STATS) → ℤ → Option ℤ
  | [], stat_diff => some stat_diff
  | i :: is, stat_diff =>
    if (proto.ItemStat i).ItemStatType = increase then none
    else
      statDiff proto decrease increase is
        (if (proto.ItemStat i).ItemStatType = decrease then twoFifths (proto.ItemStat i).ItemStatValue else stat_diff)

/-- `Player::ModifyMoney`. -/
def ModifyMoney (amount : ℤ) : Player :=
  if amount < 0 then
    { player with money := if uint32 (-amount) < player.money then player.money - uint32 (-amount) else 0 }
  else if player.money < MAX_MONEY_AMOUNT - amount.toNat then { player with money := player.money + amount.toNat }
  else player

/-- `UpdatePlayerReforgeStats`, for an item that is in a slot. -/
def UpdatePlayerReforgeStats (slot item decrease increase : ℕ) : Player :=
  let proto := GetTemplate item
  match statDiff proto decrease increase proto.statPositions 0 with
  | none => player
  | some stat_diff =>
    if stat_diff ≤ 0 then player
    else
      (player.changeReforge GetTemplate (some (some slot)) item (some ⟨increase, decrease, stat_diff⟩)).ModifyMoney
        (if proto.SellPrice < minimalPrice then -minimalPrice else -int32 proto.SellPrice)

/-- `HasEnoughMoney` for the price of a reforge. -/
def HasEnoughMoney (proto : ItemTemplate) : Bool :=
  (if proto.SellPrice < minimalPrice then minimalPrice else proto.SellPrice) ≤ player.money

/-- `RESTORE`. -/
def RESTORE : ℕ := 205

/-- `OnGossipSelect`, the options that change anything: what the other menus do is to offer options. -/
def OnGossipSelect (sender melt : ℕ) : Player :=
  let menu := melt / 2 ^ 8 % 2 ^ 8
  let action := melt % 2 ^ 8
  if menu = RESTORE then
    if (player.GetItemByGuid sender).isSome then player.RemoveReforge GetTemplate sender else player
  else
    match statTypes[menu]? with
    | none => player
    | some increase =>
      match player.slotOf (List.range INVENTORY_SLOT_ITEM_END) sender with
      | none => player
      | some slot =>
        if player.IsReforgable GetTemplate sender && player.HasEnoughMoney (GetTemplate sender) then
          player.UpdatePlayerReforgeStats GetTemplate slot sender action increase
        else player

/-! ### Logging in -/

/-- `Player::_ApplyAllItemMods`, the bonuses. -/
def _ApplyAllItemMods : Player := (List.range INVENTORY_SLOT_BAG_END).foldl (fun player slot ↦
      match player.m_items slot with
      | some item => player._ApplyItemBonuses (GetTemplate item) slot true
      | none => player)
    player

/-- `REFORGE_PLAYER::OnLogin`, with the rows of the player: guids and entries. -/
def OnLogin (rows : List (ℕ × ReforgeData)) : Player :=
  rows.foldl (fun player row ↦ player.changeReforge GetTemplate (player.GetItemByGuid row.1) row.1 (some row.2)) player

/-- A player who logs in with items in slots and in bags. -/
def login (level money : ℕ) (items : List (ℕ × ℕ)) (bagged : List ℕ) (rows : List (ℕ × ReforgeData)) : Player :=
  let player : Player :=
    { m_items := fun slot ↦ (items.find? (·.1 = slot)).map (·.2)
      bagged := bagged
      owned := fun _ ↦ true
      reforgeMap := fun _ ↦ none
      mods := fun _ ↦ 0
      money := money
      level := level }
  (player._ApplyAllItemMods GetTemplate).OnLogin GetTemplate rows

end Player

/-! ## Runs -/

/-- What happens to a player. -/
inductive Call where
  | login (level money : ℕ) (items : List (ℕ × ℕ)) (bagged : List ℕ) (rows : List (ℕ × ReforgeData))
  | equip (slot item : ℕ)
  | store (slot item : ℕ)
  | storeInBag (item : ℕ)
  | remove (slot : ℕ)
  | removeFromBag (item : ℕ)
  | destroy (slot : ℕ)
  | giveAway (slot : ℕ)
  | giveAwayFromBag (item : ℕ)
  | gossip (sender melt : ℕ)

/-- Whether an item is in none of the slots. -/
def Player.lacks (player : Player) (item : ℕ) : Bool :=
  (List.range CURRENCYTOKEN_SLOT_END).all fun slot ↦ player.m_items slot ≠ some item

/-- A player and what happens to it.  An item is put into a slot that is empty from outside of the slots, and has one
slot when it is loaded. -/
def players (GetTemplate : ℕ → ItemTemplate) : Machine Player Call where
  start := Player.login GetTemplate 0 0 [] [] []
  next player
    | .login level money items bagged rows =>
      if (items.map (·.1)).Nodup ∧ (items.map (·.2)).Nodup ∧ items.all (·.1 < CURRENCYTOKEN_SLOT_END) then
        some (Player.login GetTemplate level money items bagged rows)
      else none
    | .equip slot item =>
      if slot < INVENTORY_SLOT_BAG_END ∧ player.m_items slot = none ∧ player.lacks item then
        some (player.EquipItem GetTemplate slot item)
      else none
    | .store slot item =>
      if INVENTORY_SLOT_BAG_END ≤ slot ∧ slot < CURRENCYTOKEN_SLOT_END ∧ player.m_items slot = none ∧
          player.lacks item then
        some (player.StoreItem slot item)
      else none
    | .storeInBag item => some (player.StoreInBag item)
    | .remove slot => (player.m_items slot).map (player.RemoveItem GetTemplate slot)
    | .removeFromBag item => some { player with bagged := player.bagged.erase item }
    | .destroy slot => (player.m_items slot).map (player.DestroyItem GetTemplate slot)
    | .giveAway slot => (player.m_items slot).map (player.MoveItemFromInventory GetTemplate slot)
    | .giveAwayFromBag item => some (player.MoveItemFromBag GetTemplate item)
    | .gossip sender melt => some (player.OnGossipSelect GetTemplate sender melt)

end Gundrak.Items
