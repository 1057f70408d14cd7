import Gundrak.Players.CanBankItem

/-!
# Equipping an item

`Player::CanEquipItem` asks `FindEquipSlot` for a slot, and that is not only a question: for a two-handed weapon it may
unequip what is in the off hand at once, whatever the answer is in the end.  So both take the player, with the next
guid, and give him back.

* `canEquipItem_state`: for other items `CanEquipItem` changes nothing.
* **`canEquipItem_ok`**: what is to be equipped at a slot that is told, without a swap, goes to this slot, and it is free.
-/

open Std (ExtTreeMap)

namespace Gundrak.Players

/-! ## Slots -/

def EQUIPMENT_SLOT_HEAD : ℕ := 0
def EQUIPMENT_SLOT_NECK : ℕ := 1
def EQUIPMENT_SLOT_SHOULDERS : ℕ := 2
def EQUIPMENT_SLOT_BODY : ℕ := 3
def EQUIPMENT_SLOT_CHEST : ℕ := 4
def EQUIPMENT_SLOT_WAIST : ℕ := 5
def EQUIPMENT_SLOT_LEGS : ℕ := 6
def EQUIPMENT_SLOT_FEET : ℕ := 7
def EQUIPMENT_SLOT_WRISTS : ℕ := 8
def EQUIPMENT_SLOT_HANDS : ℕ := 9
def EQUIPMENT_SLOT_FINGER1 : ℕ := 10
def EQUIPMENT_SLOT_FINGER2 : ℕ := 11
def EQUIPMENT_SLOT_TRINKET1 : ℕ := 12
def EQUIPMENT_SLOT_TRINKET2 : ℕ := 13
def EQUIPMENT_SLOT_BACK : ℕ := 14
def EQUIPMENT_SLOT_MAINHAND : ℕ := 15
def EQUIPMENT_SLOT_OFFHAND : ℕ := 16
def EQUIPMENT_SLOT_RANGED : ℕ := 17
def EQUIPMENT_SLOT_TABARD : ℕ := 18

def INVTYPE_HEAD : ℕ := 1
def INVTYPE_NECK : ℕ := 2
def INVTYPE_SHOULDERS : ℕ := 3
def INVTYPE_BODY : ℕ := 4
def INVTYPE_CHEST : ℕ := 5
def INVTYPE_WAIST : ℕ := 6
def INVTYPE_LEGS : ℕ := 7
def INVTYPE_FEET : ℕ := 8
def INVTYPE_WRISTS : ℕ := 9
def INVTYPE_HANDS : ℕ := 10
def INVTYPE_FINGER : ℕ := 11
def INVTYPE_TRINKET : ℕ := 12
def INVTYPE_WEAPON : ℕ := 13
def INVTYPE_RANGED : ℕ := 15
def INVTYPE_CLOAK : ℕ := 16
def INVTYPE_2HWEAPON : ℕ := 17
def INVTYPE_TABARD : ℕ := 19
def INVTYPE_ROBE : ℕ := 20
def INVTYPE_WEAPONMAINHAND : ℕ := 21
def INVTYPE_WEAPONOFFHAND : ℕ := 22
def INVTYPE_THROWN : ℕ := 25
def INVTYPE_RANGEDRIGHT : ℕ := 26

def ITEM_SUBCLASS_WEAPON_POLEARM : ℕ := 6
def ITEM_SUBCLASS_WEAPON_STAFF : ℕ := 10
def ITEM_SUBCLASS_ARMOR_MISC : ℕ := 0
def ITEM_SUBCLASS_ARMOR_LIBRAM : ℕ := 7
def ITEM_SUBCLASS_ARMOR_IDOL : ℕ := 8
def ITEM_SUBCLASS_ARMOR_TOTEM : ℕ := 9
def ITEM_SUBCLASS_ARMOR_SIGIL : ℕ := 10
def ITEM_SUBCLASS_AMMO_POUCH : ℕ := 3

def CLASS_PALADIN : ℕ := 2
def CLASS_DEATH_KNIGHT : ℕ := 6
def CLASS_SHAMAN : ℕ := 7
def CLASS_WARLOCK : ℕ := 9
def CLASS_DRUID : ℕ := 11

/-- The class that a relic is for. -/
def relicClass (SubClass : ℕ) : Option ℕ :=
  [(ITEM_SUBCLASS_ARMOR_LIBRAM, CLASS_PALADIN), (ITEM_SUBCLASS_ARMOR_IDOL, CLASS_DRUID),
    (ITEM_SUBCLASS_ARMOR_TOTEM, CLASS_SHAMAN), (ITEM_SUBCLASS_ARMOR_MISC, CLASS_WARLOCK),
    (ITEM_SUBCLASS_ARMOR_SIGIL, CLASS_DEATH_KNIGHT)].lookup SubClass

/-- The slots that `FindEquipSlot` has for the types of items that depend on nothing. -/
def slotsOfType : List (ℕ × List ℕ) := [(INVTYPE_HEAD, [EQUIPMENT_SLOT_HEAD]), (INVTYPE_NECK, [EQUIPMENT_SLOT_NECK]),
    (INVTYPE_SHOULDERS, [EQUIPMENT_SLOT_SHOULDERS]), (INVTYPE_BODY, [EQUIPMENT_SLOT_BODY]),
    (INVTYPE_CHEST, [EQUIPMENT_SLOT_CHEST]), (INVTYPE_ROBE, [EQUIPMENT_SLOT_CHEST]),
    (INVTYPE_WAIST, [EQUIPMENT_SLOT_WAIST]), (INVTYPE_LEGS, [EQUIPMENT_SLOT_LEGS]),
    (INVTYPE_FEET, [EQUIPMENT_SLOT_FEET]), (INVTYPE_WRISTS, [EQUIPMENT_SLOT_WRISTS]),
    (INVTYPE_HANDS, [EQUIPMENT_SLOT_HANDS]), (INVTYPE_FINGER, [EQUIPMENT_SLOT_FINGER1, EQUIPMENT_SLOT_FINGER2]),
    (INVTYPE_TRINKET, [EQUIPMENT_SLOT_TRINKET1, EQUIPMENT_SLOT_TRINKET2]), (INVTYPE_CLOAK, [EQUIPMENT_SLOT_BACK]),
    (INVTYPE_SHIELD, [EQUIPMENT_SLOT_OFFHAND]), (INVTYPE_RANGED, [EQUIPMENT_SLOT_RANGED]),
    (INVTYPE_TABARD, [EQUIPMENT_SLOT_TABARD]), (INVTYPE_WEAPONMAINHAND, [EQUIPMENT_SLOT_MAINHAND]),
    (INVTYPE_WEAPONOFFHAND, [EQUIPMENT_SLOT_OFFHAND]), (INVTYPE_HOLDABLE, [EQUIPMENT_SLOT_OFFHAND]),
    (INVTYPE_THROWN, [EQUIPMENT_SLOT_RANGED]), (INVTYPE_RANGEDRIGHT, [EQUIPMENT_SLOT_RANGED]),
    (INVTYPE_BAG, [INVENTORY_SLOT_BAG_START, INVENTORY_SLOT_BAG_START + 1, INVENTORY_SLOT_BAG_START + 2,
      INVENTORY_SLOT_BAG_START + 3])]

/-- A polearm or a staff. -/
def ItemTemplate.isLong (proto : ItemTemplate) : Bool :=
  proto.SubClass = ITEM_SUBCLASS_WEAPON_POLEARM ∨ proto.SubClass = ITEM_SUBCLASS_WEAPON_STAFF

/-- The item at a position has a template with this property. -/
def Player.hasTemplate (mgr : ObjectMgr) (player : Player) (slot : ℕ) (p : ItemTemplate → Bool) : Bool :=
  (player.GetItemByPos mgr INVENTORY_SLOT_BAG_0 slot).any fun item ↦ (mgr.GetItemTemplate item.entry).any p

/-! ## The off hand -/

section offhand

variable (mgr : ObjectMgr) (now : MoveCircumstances)

/-- `Player::IsTwoHandUsed`. -/
def Player.IsTwoHandUsed (player : Player) : Bool :=
  player.hasTemplate mgr EQUIPMENT_SLOT_MAINHAND (·.InventoryType = INVTYPE_2HWEAPON) && !now.canTitanGrip

/-- `Player::AutoUnequipOffhandIfNeed`, with the next guid.  If there is no place for the item, it leaves the inventory
and goes to a mail. -/
def AutoUnequipOffhandIfNeed (force : Bool) (s : Player × ℕ) : Player × ℕ :=
  match s.1.GetItemByPos mgr INVENTORY_SLOT_BAG_0 EQUIPMENT_SLOT_OFFHAND with
  | none => s
  | some offItem =>
    let hasType (type : ℕ) : Bool := s.1.hasTemplate mgr EQUIPMENT_SLOT_OFFHAND (·.InventoryType = type)
    -- unequip offhand weapon if player doesn't have dual wield anymore
    let force := force || !now.canDualWield && (hasType INVTYPE_WEAPONOFFHAND || hasType INVTYPE_WEAPON)
    -- need unequip offhand for 2h-weapon without TitanGrip (in any from hands)
    if !force && (now.canTitanGrip || !hasType INVTYPE_2HWEAPON && !s.1.IsTwoHandUsed mgr now) then s
    else
      let answer := s.1.CanStoreItem mgr NULL_BAG NULL_SLOT offItem.entry offItem.count (some offItem) false none
      let removed := s.1.RemoveItem mgr INVENTORY_SLOT_BAG_0 EQUIPMENT_SLOT_OFFHAND
      if answer.result = .OK then removed.StoreItem mgr offItem s.2 answer.dest else (removed, s.2)

/-! ## The slot -/

/-- The slots for a two-handed weapon.  The off hand may have to be unequipped. -/
def twoHandSlots (proto : ItemTemplate) (s : Player × ℕ) : (Player × ℕ) × List ℕ :=
  if s.1.hasTemplate mgr EQUIPMENT_SLOT_MAINHAND (·.isLong) then
    (AutoUnequipOffhandIfNeed mgr now true s, [EQUIPMENT_SLOT_MAINHAND])
  else if (s.1.GetItemByPos mgr INVENTORY_SLOT_BAG_0 EQUIPMENT_SLOT_OFFHAND).isSome && proto.isLong then
    (AutoUnequipOffhandIfNeed mgr now true s, [EQUIPMENT_SLOT_MAINHAND])
  else if now.canDualWield && now.canTitanGrip && !proto.isLong then
    (s, [EQUIPMENT_SLOT_MAINHAND, EQUIPMENT_SLOT_OFFHAND])
  else (s, [EQUIPMENT_SLOT_MAINHAND])

/-- The slots that an item can be equipped at, the array `slots` of `FindEquipSlot`. -/
def equipSlots (proto : ItemTemplate) (s : Player × ℕ) : (Player × ℕ) × List ℕ :=
  if proto.InventoryType = INVTYPE_2HWEAPON then twoHandSlots mgr now proto s
  else if proto.InventoryType = INVTYPE_WEAPON then
    -- suggest offhand slot only if know dual wielding
    (s, EQUIPMENT_SLOT_MAINHAND :: if now.canDualWield then [EQUIPMENT_SLOT_OFFHAND] else [])
  else if proto.InventoryType = INVTYPE_RELIC then
    (s, if relicClass proto.SubClass = some now.playerClass then [EQUIPMENT_SLOT_RANGED] else [])
  else (s, (slotsOfType.lookup proto.InventoryType).getD [])

/-- `Player::FindEquipSlot`. -/
def FindEquipSlot (proto : ItemTemplate) (slot : ℕ) (swap : Bool) (s : Player × ℕ) : (Player × ℕ) × ℕ :=
  let (s, slots) := equipSlots mgr now proto s
  let isFree (slot : ℕ) : Bool := (s.1.GetItemByPos mgr INVENTORY_SLOT_BAG_0 slot).isNone
  if slot ≠ NULL_SLOT then
    (s, if (swap || isFree slot) && slots.contains slot then slot else NULL_SLOT)
  else
    -- in case 2hand equipped weapon (without titan grip) offhand slot empty but not free
    match slots.find? fun slot ↦ isFree slot && (slot ≠ EQUIPMENT_SLOT_OFFHAND || !s.1.IsTwoHandUsed mgr now) with
    | some slot => (s, slot)
    | none => (s, if swap then slots.headD NULL_SLOT else NULL_SLOT)

end offhand

/-! ## Checks -/

section checks

variable (mgr : ObjectMgr) (now : MoveCircumstances) (player : Player) (pItem : Item) (proto : ItemTemplate)
  (eslot : ℕ) (swap : Bool)

/-- What the player is doing may be in the way. -/
def busyError : Option MoveResult :=
  if now.isStunned then some .YOU_ARE_STUNNED
  else if now.isCharmed then some .CANT_DO_RIGHT_NOW
  else if !proto.CanChangeEquipStateInCombat && now.isInCombat then some .NOT_IN_COMBAT
  else if !proto.CanChangeEquipStateInCombat && now.isInArena then some .NOT_DURING_ARENA_MATCH
  else if now.isInCombat && (proto.Class = ITEM_CLASS_WEAPON || proto.InventoryType = INVTYPE_RELIC) &&
      now.weaponChanged then some .CANT_DO_RIGHT_NOW
  else if now.isCasting then some .CANT_DO_RIGHT_NOW
  else none

/-- The slot whose item `CanEquipUniqueItem` leaves out. -/
def ignoredSlot : ℕ :=
  let other := ([(EQUIPMENT_SLOT_MAINHAND, EQUIPMENT_SLOT_OFFHAND), (EQUIPMENT_SLOT_OFFHAND, EQUIPMENT_SLOT_MAINHAND),
    (EQUIPMENT_SLOT_FINGER1, EQUIPMENT_SLOT_FINGER2), (EQUIPMENT_SLOT_FINGER2, EQUIPMENT_SLOT_FINGER1),
    (EQUIPMENT_SLOT_TRINKET1, EQUIPMENT_SLOT_TRINKET2), (EQUIPMENT_SLOT_TRINKET2, EQUIPMENT_SLOT_TRINKET1)].lookup
      eslot).getD NULL_SLOT
  if other = NULL_SLOT || !(player.GetItemByPos mgr INVENTORY_SLOT_BAG_0 other).any (·.isItem (some pItem)) then eslot
  else other

/-- There is only one quiver. -/
def quiverError : Option MoveResult :=
  if proto.Class = ITEM_CLASS_QUIVER then
    (Player.bagSlots.find? fun i ↦
      (player.GetItemByPos mgr INVENTORY_SLOT_BAG_0 i).any (fun pBag ↦ !pBag.isItem (some pItem)) &&
        player.hasTemplate mgr i (·.Class = proto.Class) && (!swap || i ≠ eslot)).map fun i ↦
      if player.hasTemplate mgr i (·.SubClass = ITEM_SUBCLASS_AMMO_POUCH) then .CAN_EQUIP_ONLY1_AMMOPOUCH
      else .CAN_EQUIP_ONLY1_QUIVER
  else none

/-- What is asked about the off hand. -/
def offhandError : Option MoveResult :=
  if eslot ≠ EQUIPMENT_SLOT_OFFHAND then none
  -- do not allow polearm to be equipped in the offhand
  else if proto.InventoryType = INVTYPE_WEAPON && proto.SubClass = ITEM_SUBCLASS_WEAPON_POLEARM then
    some .ITEM_DOESNT_GO_TO_SLOT
  else if (proto.InventoryType = INVTYPE_WEAPON || proto.InventoryType = INVTYPE_WEAPONOFFHAND) && !now.canDualWield then
    some .CANT_DUAL_WIELD
  else if proto.InventoryType = INVTYPE_2HWEAPON && (!now.canDualWield || !now.canTitanGrip) then some .CANT_DUAL_WIELD
  else if player.IsTwoHandUsed mgr now then some .CANT_EQUIP_WITH_TWOHANDED
  else none

/-- What is asked about a two-handed weapon, with possible unequip of two items. -/
def twoHandError : Option MoveResult :=
  if proto.InventoryType ≠ INVTYPE_2HWEAPON then none
  else if eslot = EQUIPMENT_SLOT_OFFHAND && !now.canTitanGrip then some (.of .ITEM_CANT_BE_EQUIPPED)
  else if eslot ≠ EQUIPMENT_SLOT_OFFHAND && eslot ≠ EQUIPMENT_SLOT_MAINHAND then some (.of .ITEM_CANT_BE_EQUIPPED)
  else if now.canTitanGrip then none
  else
    match player.GetItemByPos mgr INVENTORY_SLOT_BAG_0 EQUIPMENT_SLOT_OFFHAND with
    | none => none
    | some offItem =>
      -- offhand item must can be stored in inventory for offhand item and it also must be unequipped
      if player.CanUnequipItem mgr now.toCircumstances INVENTORY_SLOT_BAG_0 EQUIPMENT_SLOT_OFFHAND false ≠ .OK ∨
          (player.CanStoreItem mgr NULL_BAG NULL_SLOT offItem.entry offItem.count (some offItem) false none).result ≠
            .OK then
        some (.of (if swap then .ITEMS_CANT_BE_SWAPPED else .INVENTORY_FULL))
      else none

/-- The checks of `CanEquipItem` that come after the slot is found. -/
def equipError : Option MoveResult := (now.CanUseItem pItem).map .refused <|>
  (if !swap && (player.GetItemByPos mgr INVENTORY_SLOT_BAG_0 eslot).isSome then some .NO_EQUIPMENT_SLOT_AVAILABLE
    else none) <|>
  (now.CanEquipUniqueItem player pItem (if swap then ignoredSlot mgr player pItem eslot else NULL_SLOT)).map .refused <|>
  quiverError mgr player pItem proto eslot swap <|>
  offhandError mgr now player proto eslot <|>
  twoHandError mgr now player proto eslot swap

end checks

/-- `Player::CanEquipItem`, in the game, with the position that it writes to `dest`. -/
def CanEquipItem (mgr : ObjectMgr) (now : MoveCircumstances) (slot : ℕ) (pItem : Item) (swap : Bool) (s : Player × ℕ) :
    (Player × ℕ) × MoveResult × ℕ :=
  match mgr.GetItemTemplate pItem.entry with
  | none => (s, .of (if swap then .ITEMS_CANT_BE_SWAPPED else .ITEM_NOT_FOUND), 0)
  | some proto =>
    if pItem.lootGenerated then (s, .of .ALREADY_LOOTED, 0)
    else if pItem.bindedNotWith then (s, .of .DONT_OWN_THAT_ITEM, 0)
    else
      match (s.1.CanTakeMoreSimilarItems mgr pItem.entry pItem.count (some pItem)).1, busyError now proto with
      | .OK, none =>
        if now.isOutgrown proto then (s, .of .ITEM_CANT_BE_EQUIPPED, 0)
        else
          let (s, eslot) := FindEquipSlot mgr now proto slot swap s
          if eslot = NULL_SLOT then (s, .of .ITEM_CANT_BE_EQUIPPED, 0)
          else
            match equipError mgr now s.1 pItem proto eslot swap with
            | some res => (s, res, 0)
            | none => (s, .of .OK, makePos INVENTORY_SLOT_BAG_0 eslot)
      | .OK, some res => (s, res, 0)
      | res, _ => (s, .of res, 0)

/-- `Player::EquipItem`, as far as it is about where the items are. -/
def Player.EquipItem (mgr : ObjectMgr) (player : Player) (pos : ℕ) (pItem : Item) : Player :=
  match player.GetItemByPos mgr (pos / 256) (pos % 256) with
  | none => ⟨player.items.insert (makePos INVENTORY_SLOT_BAG_0 (pos % 256)) { pItem with
        soulBound := pItem.soulBound || (mgr.GetItemTemplate pItem.entry).any fun proto ↦
          proto.Bonding = BIND_WHEN_EQUIPED ∨ proto.Bonding = BIND_WHEN_PICKED_UP ∨ proto.Bonding = BIND_QUEST_ITEM }⟩
  | some pItem2 => ⟨player.items.insert (makePos (pos / 256) (pos % 256))
      { pItem2 with count := pItem2.count + pItem.count }⟩

/-! ## What `CanEquipItem` does -/

variable {mgr : ObjectMgr} {now : MoveCircumstances} {s : Player × ℕ} {proto : ItemTemplate} {pItem : Item} {slot : ℕ}

theorem equipSlots_state (h : proto.InventoryType ≠ INVTYPE_2HWEAPON) : (equipSlots mgr now proto s).1 = s := by
  rw [equipSlots, if_neg h]
  split
  · rfl
  · split <;> rfl

theorem findEquipSlot_state {swap : Bool} (h : proto.InventoryType ≠ INVTYPE_2HWEAPON) :
    (FindEquipSlot mgr now proto slot swap s).1 = s := by
  have hstate : (equipSlots mgr now proto s).1 = s := equipSlots_state h
  rw [FindEquipSlot]
  generalize equipSlots mgr now proto s = r at hstate ⊢
  obtain ⟨s', slots⟩ := r
  obtain rfl : s' = s := hstate
  dsimp only
  split
  · rfl
  · split <;> rfl

/-- A slot that is told is found only if it is free, without a swap. -/
theorem findEquipSlot_told (htype : proto.InventoryType ≠ INVTYPE_2HWEAPON) (hslot : slot ≠ NULL_SLOT)
    (h : (FindEquipSlot mgr now proto slot false s).2 ≠ NULL_SLOT) :
    (FindEquipSlot mgr now proto slot false s).2 = slot ∧ s.1.GetItemByPos mgr INVENTORY_SLOT_BAG_0 slot = none := by
  have hstate : (equipSlots mgr now proto s).1 = s := equipSlots_state htype
  rw [FindEquipSlot] at h ⊢
  generalize equipSlots mgr now proto s = r at hstate h ⊢
  obtain ⟨s', slots⟩ := r
  obtain rfl : s' = s := hstate
  dsimp only at h ⊢
  rw [if_pos hslot] at h ⊢
  dsimp only at h ⊢
  split at h
  · rename_i hfound
    rw [if_pos hfound]
    rw [Bool.and_eq_true, Bool.false_or] at hfound
    exact ⟨rfl, Option.isNone_iff_eq_none.mp hfound.1⟩
  · exact absurd rfl h

section errors

variable {player : Player} {eslot : ℕ} {swap : Bool}

theorem busyError_ne : busyError now proto ≠ some (.of .OK) := by
  rw [busyError]
  split_ifs <;> decide

theorem quiverError_ne : quiverError mgr player pItem proto eslot swap ≠ some (.of .OK) := by
  rw [quiverError]
  split
  · intro h
    obtain ⟨i, -, hi⟩ := Option.map_eq_some_iff.mp h
    split at hi <;> cases hi
  · decide

theorem offhandError_ne : offhandError mgr now player proto eslot ≠ some (.of .OK) := by
  rw [offhandError]
  split_ifs <;> decide

theorem twoHandError_ne : twoHandError mgr now player proto eslot swap ≠ some (.of .OK) := by
  have hfull : some (MoveResult.of (if swap = true then .ITEMS_CANT_BE_SWAPPED else .INVENTORY_FULL)) ≠
      some (.of .OK) := by
    cases swap <;> decide
  rw [twoHandError]
  split
  · decide
  · split
    · decide
    · split
      · decide
      · split
        · decide
        · split
          · decide
          · split
            · exact hfull
            · decide

theorem refused_ne (res : Option ℕ) : res.map MoveResult.refused ≠ some (.of .OK) := by
  cases res with
  | none => decide
  | some n => exact fun h ↦ by cases h

theorem equipError_ne : equipError mgr now player pItem proto eslot swap ≠ some (.of .OK) := by
  have horElse : ∀ a b : Option MoveResult, a ≠ some (.of .OK) → b ≠ some (.of .OK) → (a <|> b) ≠ some (.of .OK) := by
    intro a b ha hb
    cases a with
    | none => exact hb
    | some res => exact ha
  rw [equipError]
  refine horElse _ _ (refused_ne _) (horElse _ _ ?_ (horElse _ _ (refused_ne _) (horElse _ _ quiverError_ne
    (horElse _ _ offhandError_ne twoHandError_ne))))
  split_ifs <;> decide

end errors

/-- What `CanEquipItem` comes to, for an item that is not a two-handed weapon. -/
theorem canEquipItem_cases (mgr : ObjectMgr) (now : MoveCircumstances) (s : Player × ℕ) (pItem : Item) (slot : ℕ)
    (swap : Bool) (htype : ∀ proto, mgr.GetItemTemplate pItem.entry = some proto →
      proto.InventoryType ≠ INVTYPE_2HWEAPON) :
    (∃ res, res ≠ .of .OK ∧ CanEquipItem mgr now slot pItem swap s = (s, res, 0)) ∨
      ∃ proto, mgr.GetItemTemplate pItem.entry = some proto ∧ (FindEquipSlot mgr now proto slot swap s).2 ≠ NULL_SLOT ∧
        CanEquipItem mgr now slot pItem swap s =
          (s, .of .OK, makePos INVENTORY_SLOT_BAG_0 (FindEquipSlot mgr now proto slot swap s).2) := by
  rw [CanEquipItem]
  cases hproto : mgr.GetItemTemplate pItem.entry with
  | none =>
    refine Or.inl ⟨_, ?_, rfl⟩
    cases swap <;> decide
  | some proto =>
    have hstate : (FindEquipSlot mgr now proto slot swap s).1 = s := findEquipSlot_state (htype proto hproto)
    dsimp only
    by_cases hloot : pItem.lootGenerated = true
    · rw [if_pos hloot]
      exact Or.inl ⟨_, by decide, rfl⟩
    by_cases hbound : pItem.bindedNotWith = true
    · rw [if_neg hloot, if_pos hbound]
      exact Or.inl ⟨_, by decide, rfl⟩
    rw [if_neg hloot, if_neg hbound]
    have hbusy : busyError now proto ≠ some (.of .OK) := busyError_ne
    generalize (s.1.CanTakeMoreSimilarItems mgr pItem.entry pItem.count (some pItem)).1 = res
    generalize busyError now proto = busy at hbusy ⊢
    cases res with
    | OK =>
      cases busy with
      | some res => exact Or.inl ⟨res, fun heq ↦ hbusy (congrArg some heq), rfl⟩
      | none =>
        dsimp only
        by_cases hgrown : now.isOutgrown proto = true
        · rw [if_pos hgrown]
          exact Or.inl ⟨_, by decide, rfl⟩
        rw [if_neg hgrown]
        have herror : ∀ eslot, equipError mgr now s.1 pItem proto eslot swap ≠ some (.of .OK) := fun _ ↦ equipError_ne
        generalize hfind : FindEquipSlot mgr now proto slot swap s = r at hstate ⊢
        obtain ⟨s', eslot⟩ := r
        obtain rfl : s' = s := hstate
        dsimp only
        by_cases hnone : eslot = NULL_SLOT
        · rw [if_pos hnone]
          exact Or.inl ⟨_, by decide, rfl⟩
        rw [if_neg hnone]
        have herror := herror eslot
        generalize equipError mgr now s'.1 pItem proto eslot swap = error at herror ⊢
        cases error with
        | some res => exact Or.inl ⟨res, fun heq ↦ herror (congrArg some heq), rfl⟩
        | none => exact Or.inr ⟨proto, rfl, by rw [hfind]; exact hnone, by rw [hfind]⟩
    | _ => exact Or.inl ⟨_, by decide, rfl⟩

section

variable
  (htype : ∀ proto, mgr.GetItemTemplate pItem.entry = some proto → proto.InventoryType ≠ INVTYPE_2HWEAPON)
include htype

/-- **What is equipped at a slot that is told** goes there, and the slot is free. -/
theorem canEquipItem_ok (hslot : slot ≠ NULL_SLOT) (hok : (CanEquipItem mgr now slot pItem false s).2.1 = .of .OK) :
    (CanEquipItem mgr now slot pItem false s).2.2 = makePos INVENTORY_SLOT_BAG_0 slot ∧
      s.1.GetItemByPos mgr INVENTORY_SLOT_BAG_0 slot = none := by
  obtain ⟨res, hres, heq⟩ | ⟨proto, hproto, hfind, heq⟩ := canEquipItem_cases mgr now s pItem slot false htype
  · simp [heq, hres] at hok
  · obtain ⟨hsame, hfree⟩ := findEquipSlot_told (htype proto hproto) hslot hfind
    rw [heq, hsame]
    exact ⟨rfl, hfree⟩

/-- For an item that is not a two-handed weapon the question changes nothing. -/
theorem canEquipItem_state (swap : Bool) : (CanEquipItem mgr now slot pItem swap s).1 = s := by
  obtain ⟨res, -, heq⟩ | ⟨proto, -, -, heq⟩ := canEquipItem_cases mgr now s pItem slot swap htype
  · rw [heq]
  · rw [heq]

end

end Gundrak.Players
