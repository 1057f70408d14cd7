import Gundrak.Players.DestroyedItems
import Gundrak.Players.StoreConservation

/-!
# Where an item can be put in the bank

`Player::CanBankItem` looks for places with the same searches as `CanStoreItem`, and in a similar order, but among the
slots and bags of the bank.  So what keeps those searches sound is all that is needed here.

* `FoundPlaces`: different slots of the player with enough room for all of a count.
* **`canBankItem_places`** and `canStoreItem_places`: what `OK` means.
* `canBankItem_room` and `canStoreItem_room`: if the slot that is told has room, then everything goes there.
-/

open Std (ExtTreeMap)

namespace Gundrak.Players

/-- An `InventoryResult`, also one of those that only moves of items answer. -/
inductive MoveResult where
  | of (res : InventoryResult)
  | MUST_PURCHASE_THAT_BAG_SLOT
  | YOU_ARE_STUNNED
  | CANT_DO_RIGHT_NOW
  | NOT_IN_COMBAT
  | NOT_DURING_ARENA_MATCH
  | NO_EQUIPMENT_SLOT_AVAILABLE
  | CAN_EQUIP_ONLY1_AMMOPOUCH
  | CAN_EQUIP_ONLY1_QUIVER
  | ITEM_DOESNT_GO_TO_SLOT
  | CANT_DUAL_WIELD
  | CANT_EQUIP_WITH_TWOHANDED
  | refused (res : ℕ)
deriving DecidableEq

/-- What else matters for moves of items.  `CanUseItem` and `CanEquipUniqueItem` may refuse an item, and `isOutgrown`
compares the level with that of its scaling; these only read. -/
structure MoveCircumstances extends Circumstances where
  isStunned : Bool := false
  isCasting : Bool := false
  weaponChanged : Bool := false
  canDualWield : Bool := false
  canTitanGrip : Bool := false
  playerClass : ℕ := 1
  bankBagSlotCount : ℕ := 0
  CanUseItem : Item → Option ℕ := fun _ ↦ none
  CanEquipUniqueItem : Player → Item → ℕ → Option ℕ := fun _ _ _ ↦ none
  isOutgrown : ItemTemplate → Bool := fun _ ↦ false

/-- `Player::IsInventoryPos`. -/
def IsInventoryPos (bag slot : ℕ) : Bool := bag = INVENTORY_SLOT_BAG_0 ∧ slot = NULL_SLOT ∨
    bag = INVENTORY_SLOT_BAG_0 ∧ INVENTORY_SLOT_ITEM_START ≤ slot ∧ slot < INVENTORY_SLOT_ITEM_END ∨
    INVENTORY_SLOT_BAG_START ≤ bag ∧ bag < INVENTORY_SLOT_BAG_END ∨
    bag = INVENTORY_SLOT_BAG_0 ∧ KEYRING_SLOT_START ≤ slot ∧ slot < CURRENCYTOKEN_SLOT_END

/-- `Player::IsBankPos`. -/
def IsBankPos (bag slot : ℕ) : Bool :=
  bag = INVENTORY_SLOT_BAG_0 ∧ BANK_SLOT_ITEM_START ≤ slot ∧ slot < BANK_SLOT_ITEM_END ∨
    bag = INVENTORY_SLOT_BAG_0 ∧ BANK_SLOT_BAG_START ≤ slot ∧ slot < BANK_SLOT_BAG_END ∨
    BANK_SLOT_BAG_START ≤ bag ∧ bag < BANK_SLOT_BAG_END

namespace Player

variable (mgr : ObjectMgr) (player : Player) (proto : ItemTemplate) (pItem : Option Item) (bag slot : ℕ)

/-! ## The search -/

/-- The bag slots of the bank. -/
def bankBagSlots : List ℕ := slotRange BANK_SLOT_BAG_START BANK_SLOT_BAG_END

/-- A search of the slots of the bank. -/
def bankSlots (merge : Bool) (next : Search → StoreAnswer) : Search → StoreAnswer :=
  player.ownSlots mgr proto pItem 0 none bag slot BANK_SLOT_ITEM_START BANK_SLOT_ITEM_END merge next

/-- A search of the bags of the bank. -/
def bankBags (merge non_specialized : Bool) (next : Search → StoreAnswer) : Search → StoreAnswer :=
  bagPhase 0 none (fun i ↦ player.CanStoreItem_InBag mgr proto pItem i merge non_specialized bag slot) next bankBagSlots

/-- Search in the bag that is told, for stacks or for free slots. -/
def bankSpecificBag (merge : Bool) (next : Search → StoreAnswer) : Search → StoreAnswer :=
  if bag = INVENTORY_SLOT_BAG_0 then player.bankSlots mgr proto pItem bag slot merge next
  else phase 0 none (player.CanStoreItem_InEquippedBag mgr proto pItem bag merge slot) next

/-- Search for free space, the last part of the search. -/
def bankFree : Search → StoreAnswer := player.bankSlots mgr proto pItem bag slot false <|
  player.bankBags mgr proto pItem bag slot false true <|
  refuse 0 none .BANK_FULL

/-- Search for a free place in special bags. -/
def bankFreeForFamily (next : Search → StoreAnswer) : Search → StoreAnswer :=
  if proto.BagFamily ≠ 0 then player.bankBags mgr proto pItem bag slot false false next else next

/-- Search for stacks to merge to. -/
def bankMerge (next : Search → StoreAnswer) : Search → StoreAnswer :=
  if proto.Stackable ≠ 1 then
    let bags := player.bankBags mgr proto pItem bag slot true true next
    player.bankSlots mgr proto pItem bag slot true <|
    if proto.BagFamily ≠ 0 then player.bankBags mgr proto pItem bag slot true false bags else bags
  else next

/-- What comes after the slot that is told. -/
def bankAfterSlot (s : Search) : StoreAnswer :=
  let anywhere := player.bankMerge mgr proto pItem bag slot <| player.bankFreeForFamily mgr proto pItem bag slot <|
    player.bankFree mgr proto pItem bag slot
  if bag ≠ NULL_BAG then
    if pItem.any (·.notEmptyBag) then ⟨.NONEMPTY_BAG_OVER_OTHER_BAG, s.dest, none⟩
    else
      let free := player.bankSpecificBag mgr proto pItem bag slot false anywhere
      if proto.Stackable ≠ 1 then player.bankSpecificBag mgr proto pItem bag slot true free s else free s
  else anywhere s

/-- The whole search. -/
def bankSearch (swap : Bool) : Search → StoreAnswer :=
  let after := player.bankAfterSlot mgr proto pItem bag slot
  if bag ≠ NULL_BAG ∧ slot ≠ NULL_SLOT then
    phase 0 none (player.CanStoreItem_InSpecificSlot mgr proto pItem bag slot swap) after
  else after

end Player

/-- What is asked about a bag that goes to a bag slot of the bank. -/
def bankBagSlotError (mgr : ObjectMgr) (now : MoveCircumstances) (pItem : Item) (slot : ℕ) : Option MoveResult :=
  if BANK_SLOT_BAG_START ≤ slot ∧ slot < BANK_SLOT_BAG_END then
    if !pItem.IsBag mgr then some .ITEM_DOESNT_GO_TO_SLOT
    else if slot - BANK_SLOT_BAG_START ≥ now.bankBagSlotCount then some .MUST_PURCHASE_THAT_BAG_SLOT
    else (now.CanUseItem pItem).map .refused
  else none

/-- `Player::CanBankItem`, of an item that lies in slot `pItemslot`, with an empty `dest`. -/
def Player.CanBankItem (mgr : ObjectMgr) (now : MoveCircumstances) (player : Player) (bag slot : ℕ) (pItem : Item)
    (pItemslot : ℕ) (swap : Bool) : MoveResult × List (ℕ × ℕ) :=
  match mgr.GetItemTemplate pItem.entry with
  | none => (.of (if swap then .ITEMS_CANT_BE_SWAPPED else .ITEM_NOT_FOUND), [])
  | some proto =>
    if pItem.lootGenerated then (.of .ALREADY_LOOTED, [])
    else if pItem.bindedNotWith then (.of .DONT_OWN_THAT_ITEM, [])
    -- currency tokens are not supposed to be swapped out of their hidden bag
    else if CURRENCYTOKEN_SLOT_START ≤ pItemslot ∧ pItemslot < CURRENCYTOKEN_SLOT_END then
      (.of .ITEMS_CANT_BE_SWAPPED, [])
    else
      match (player.CanTakeMoreSimilarItems mgr pItem.entry pItem.count (some pItem)).1 with
      | .OK =>
        match if bag ≠ NULL_BAG ∧ slot ≠ NULL_SLOT then bankBagSlotError mgr now pItem slot else none with
        | some res => (res, [])
        | none =>
          let answer := player.bankSearch mgr proto (some pItem) bag slot swap ⟨[], pItem.count⟩
          (.of answer.result, answer.dest)
      | res => (.of res, [])

namespace Player

variable {mgr : ObjectMgr} {now : MoveCircumstances} {player : Player} {proto : ItemTemplate} {pItem : Option Item}
  {bag slot total : ℕ} {next : Search → StoreAnswer}

/-! ## The search is sound -/

section ends

variable (hnext : Ends mgr player proto pItem 0 total next)

include hnext

theorem ends_bankSlots (merge : Bool) :
    Ends mgr player proto pItem 0 total (player.bankSlots mgr proto pItem bag slot merge next) := by
  refine ends_ownSlots hnext (fun j _ hj ↦ .inl ⟨rfl, .inl ?_⟩) merge
  exact Nat.lt_of_lt_of_le hj (by decide)

theorem ends_bankBags (merge non_specialized : Bool) :
    Ends mgr player proto pItem 0 total (player.bankBags mgr proto pItem bag slot merge non_specialized next) :=
  ends_bagPhase (fun i ↦ keeps_inBag i merge non_specialized bag slot) hnext bankBagSlots

theorem ends_bankSpecificBag (merge : Bool) :
    Ends mgr player proto pItem 0 total (player.bankSpecificBag mgr proto pItem bag slot merge next) := by
  rw [bankSpecificBag]
  split_ifs
  · exact ends_bankSlots hnext merge
  · exact ends_phase (keeps_inEquippedBag bag merge slot) hnext

theorem ends_bankFreeForFamily :
    Ends mgr player proto pItem 0 total (player.bankFreeForFamily mgr proto pItem bag slot next) := by
  rw [bankFreeForFamily]
  split_ifs
  · exact ends_bankBags hnext false false
  · exact hnext

theorem ends_bankMerge : Ends mgr player proto pItem 0 total (player.bankMerge mgr proto pItem bag slot next) := by
  have hbags : Ends mgr player proto pItem 0 total (player.bankBags mgr proto pItem bag slot true true next) :=
    ends_bankBags hnext true true
  rw [bankMerge]
  split_ifs
  · exact ends_bankSlots (ends_bankBags hbags true false) true
  · exact ends_bankSlots hbags true
  · exact hnext

end ends

theorem ends_bankSearch : Ends mgr player proto pItem 0 total (player.bankSearch mgr proto pItem bag slot false) := by
  have hfree : Ends mgr player proto pItem 0 total (player.bankFree mgr proto pItem bag slot) :=
    ends_bankSlots (ends_bankBags (sound_refuse InventoryResult.noConfusion) false true) false
  have hanywhere : Ends mgr player proto pItem 0 total
      (player.bankMerge mgr proto pItem bag slot <| player.bankFreeForFamily mgr proto pItem bag slot <|
        player.bankFree mgr proto pItem bag slot) :=
    ends_bankMerge (ends_bankFreeForFamily hfree)
  have hspecific : Ends mgr player proto pItem 0 total (player.bankSpecificBag mgr proto pItem bag slot false _) :=
    ends_bankSpecificBag hanywhere false
  have hafter : Ends mgr player proto pItem 0 total (player.bankAfterSlot mgr proto pItem bag slot) := by
    intro s h
    rw [bankAfterSlot]
    split_ifs
    · exact ⟨h.distinct, h.good, InventoryResult.noConfusion⟩
    · exact ends_bankSpecificBag hspecific true s h
    · exact hspecific s h
    · exact hanywhere s h
  rw [bankSearch]
  split_ifs
  · exact ends_phase keeps_inSpecificSlot hafter
  · exact hafter

end Player

/-! ## What is found -/

/-- The room at a position for more of an item. -/
def roomFor (items : ExtTreeMap ℕ Item) (proto : ItemTemplate) (pos : ℕ) : ℕ :=
  match items[pos]? with
  | none => proto.GetMaxStackSize
  | some item => if item.entry = proto.ItemId then proto.GetMaxStackSize - item.count else 0

/-- Different slots of the player that have room for all of an item. -/
structure FoundPlaces (mgr : ObjectMgr) (player : Player) (pItem : Item) (dest : List (ℕ × ℕ)) : Prop where
  distinct : (dest.map Prod.fst).Nodup
  slots : ∀ x ∈ dest, player.HasSlot mgr (x.1 / 256) (x.1 % 256)
  room : ∀ proto, mgr.GetItemTemplate pItem.entry = some proto → ∀ x ∈ dest, RoomAt player.items proto pItem x.1 x.2
  total : (dest.map Prod.snd).sum = pItem.count

namespace Player

variable {mgr : ObjectMgr} {now : MoveCircumstances} {player : Player} {proto : ItemTemplate} {pItem : Item}
  {bag slot pItemslot : ℕ}

theorem foundPlaces_of_sound {answer : StoreAnswer} {no_similar : ℕ} (hnew : NotIn player.items pItem.guid)
    (hproto : mgr.GetItemTemplate pItem.entry = some proto)
    (h : answer.Sound (player.CanHold mgr proto (some pItem)) no_similar pItem.count) (hok : answer.result = .OK) :
    FoundPlaces mgr player pItem answer.dest := by
  refine ⟨h.distinct, fun x hx ↦ (h.good x hx).1, fun proto' hproto' x hx ↦ ?_, (h.ok hok).2⟩
  obtain rfl := Option.some_inj.mp (hproto.symm.trans hproto')
  exact roomAt_of_canHold hproto hnew (h.good x hx)

/-- **If `CanStoreItem` answers `OK`** for an item that is in no slot, then all of it has a place. -/
theorem canStoreItem_places (hnew : NotIn player.items pItem.guid) (hlt : pItem.count < 2 ^ 32)
    (hok : (player.CanStoreItem mgr bag slot pItem.entry pItem.count (some pItem) false none).result = .OK) :
    FoundPlaces mgr player pItem
      (player.CanStoreItem mgr bag slot pItem.entry pItem.count (some pItem) false none).dest := by
  obtain ⟨proto, hproto, hsound⟩ := canStoreItem_ok hlt hok
  exact foundPlaces_of_sound hnew hproto hsound hok

theorem bankBagSlotError_ne (res : InventoryResult) : bankBagSlotError mgr now pItem slot ≠ some (.of res) := by
  rw [bankBagSlotError]
  split_ifs
  · exact fun h ↦ MoveResult.noConfusion (Option.some_inj.mp h)
  · exact fun h ↦ MoveResult.noConfusion (Option.some_inj.mp h)
  · intro h
    obtain ⟨n, -, hn⟩ := Option.map_eq_some_iff.mp h
    cases hn
  · exact (Option.some_ne_none _).symm

theorem canBankItem_ok (hok : (player.CanBankItem mgr now bag slot pItem pItemslot false).1 = .of .OK) :
    ∃ proto, mgr.GetItemTemplate pItem.entry = some proto ∧
      (player.bankSearch mgr proto (some pItem) bag slot false ⟨[], pItem.count⟩).result = .OK ∧
      (player.CanBankItem mgr now bag slot pItem pItemslot false).2 =
        (player.bankSearch mgr proto (some pItem) bag slot false ⟨[], pItem.count⟩).dest := by
  rw [CanBankItem] at hok ⊢
  cases hproto : mgr.GetItemTemplate pItem.entry with
  | none =>
    simp [hproto] at hok
  | some proto =>
    refine ⟨proto, rfl, ?_⟩
    rw [hproto] at hok
    dsimp only at hok ⊢
    by_cases hloot : pItem.lootGenerated = true
    · simp [hloot] at hok
    by_cases hbound : pItem.bindedNotWith = true
    · simp [hloot, hbound] at hok
    by_cases hcurrency : CURRENCYTOKEN_SLOT_START ≤ pItemslot ∧ pItemslot < CURRENCYTOKEN_SLOT_END
    · simp [hloot, hbound, hcurrency] at hok
    rw [if_neg hloot, if_neg hbound, if_neg hcurrency] at hok ⊢
    have herror : (if bag ≠ NULL_BAG ∧ slot ≠ NULL_SLOT then bankBagSlotError mgr now pItem slot else none) ≠
        some (.of .OK) := by
      split_ifs
      · exact bankBagSlotError_ne .OK
      · exact (Option.some_ne_none _).symm
    generalize (player.CanTakeMoreSimilarItems mgr pItem.entry pItem.count (some pItem)).1 = res at hok ⊢
    generalize (if bag ≠ NULL_BAG ∧ slot ≠ NULL_SLOT then bankBagSlotError mgr now pItem slot else none) = error
      at hok herror ⊢
    cases res with
    | OK =>
      cases error with
      | some res => exact absurd (congrArg some hok) herror
      | none => exact ⟨MoveResult.of.inj hok, rfl⟩
    | _ => cases hok

/-- **If `CanBankItem` answers `OK`** for an item that is in no slot, then all of it has a place. -/
theorem canBankItem_places (hnew : NotIn player.items pItem.guid)
    (hok : (player.CanBankItem mgr now bag slot pItem pItemslot false).1 = .of .OK) :
    FoundPlaces mgr player pItem (player.CanBankItem mgr now bag slot pItem pItemslot false).2 := by
  obtain ⟨proto, hproto, hsearch, hdest⟩ := canBankItem_ok hok
  rw [hdest]
  exact foundPlaces_of_sound hnew hproto (ends_bankSearch _ (Search.Sound.start _ _)) hsearch

/-! ## A slot with room -/

theorem otherItem_of_notIn (hnew : NotIn player.items pItem.guid) (hslot : player.HasSlot mgr bag slot) :
    player.otherItem mgr (some pItem) bag slot = player.items[makePos bag slot]? := by
  rw [otherItem, GetItemByPos_of_hasSlot hslot]
  cases hitem : player.items[makePos bag slot]? with
  | none => rfl
  | some item =>
    have hguid : item.isItem (some pItem) = false := decide_eq_false fun heq ↦ hnew _ item hitem heq.symm
    simp [hguid]

theorem specificSpace_eq_roomFor {space : ℕ} (hnew : NotIn player.items pItem.guid)
    (h : player.specificSpace mgr proto (some pItem) bag slot false = .ok space) :
    space = roomFor player.items proto (makePos bag slot) := by
  have hspec := specificSpace_spec h
  rw [otherItem_of_notIn hnew (hasSlot_of_specificSpace h)] at hspec
  rw [roomFor]
  cases hitem : player.items[makePos bag slot]? with
  | none =>
    rw [hitem] at hspec
    exact hspec.2
  | some item =>
    rw [hitem] at hspec
    obtain ⟨hmerge, hspace⟩ := hspec
    have hentry : item.entry = proto.ItemId := by
      rw [Item.CanBeMergedPartlyWith] at hmerge
      split_ifs at hmerge with hloot hne
      exact not_not.mp hne
    dsimp only
    rw [if_pos hentry]
    exact Nat.eq_sub_of_add_eq hspace

/-- A slot that is told, with room for everything, gets everything. -/
theorem phase_room {no_similar count : ℕ} {next : Search → StoreAnswer} (hnew : NotIn player.items pItem.guid)
    (hroom : count ≤ roomFor player.items proto (makePos bag slot))
    (hok : (phase no_similar none (player.CanStoreItem_InSpecificSlot mgr proto (some pItem) bag slot false) next
      ⟨[], count⟩).result = .OK) :
    (phase no_similar none (player.CanStoreItem_InSpecificSlot mgr proto (some pItem) bag slot false) next
      ⟨[], count⟩).dest = [(makePos bag slot, count)] := by
  have hsearch : ∀ space, player.specificSpace mgr proto (some pItem) bag slot false = .ok space →
      player.CanStoreItem_InSpecificSlot mgr proto (some pItem) bag slot false ⟨[], count⟩ =
        (.OK, ⟨[(makePos bag slot, count)], 0⟩) := by
    intro space hspace
    rw [← specificSpace_eq_roomFor hnew hspace] at hroom
    rw [CanStoreItem_InSpecificSlot, hspace]
    dsimp only
    rw [Search.push, Nat.min_eq_right hroom, Nat.sub_self]
    rfl
  cases hspace : player.specificSpace mgr proto (some pItem) bag slot false with
  | error res =>
    rw [phase, CanStoreItem_InSpecificSlot, hspace] at hok
    dsimp only at hok
    have hres := specificSpace_ne_ok hspace
    rw [if_pos hres] at hok
    exact absurd hok hres
  | ok space =>
    rw [phase, hsearch space hspace, if_neg (not_not.mpr rfl), if_pos rfl] at hok ⊢
    rw [finish] at hok ⊢
    split_ifs at hok ⊢
    · rfl
    · rfl

section

variable (hbag : bag ≠ NULL_BAG) (hslot : slot ≠ NULL_SLOT) (hnew : NotIn player.items pItem.guid)
include hbag hslot hnew

theorem canStoreItem_room (hlt : pItem.count < 2 ^ 32) (hroom : ∀ proto, mgr.GetItemTemplate pItem.entry = some proto →
      pItem.count ≤ roomFor player.items proto (makePos bag slot))
    (hok : (player.CanStoreItem mgr bag slot pItem.entry pItem.count (some pItem) false none).result = .OK) :
    (player.CanStoreItem mgr bag slot pItem.entry pItem.count (some pItem) false none).dest =
      [(makePos bag slot, pItem.count)] := by
  rcases CanStoreItem_spec mgr player (some pItem) bag slot pItem.entry pItem.count none false with
    ⟨proto, hsearched, heq⟩ | ⟨-, res, hres, heq⟩
  · rw [heq] at hok ⊢
    have hsimilar := ((ends_storeSearch _ (Search.Sound.start _ _)).ok hok).1
    rw [hsimilar, wantedCount_of_no_similar hlt hsimilar, storeSearch, if_pos ⟨hbag, hslot⟩] at hok ⊢
    exact phase_room hnew (hroom proto hsearched.1) hok
  · simp [heq, hres] at hok

theorem canBankItem_room (hroom : ∀ proto, mgr.GetItemTemplate pItem.entry = some proto →
      pItem.count ≤ roomFor player.items proto (makePos bag slot))
    (hok : (player.CanBankItem mgr now bag slot pItem pItemslot false).1 = .of .OK) :
    (player.CanBankItem mgr now bag slot pItem pItemslot false).2 = [(makePos bag slot, pItem.count)] := by
  obtain ⟨proto, hproto, hsearch, hdest⟩ := canBankItem_ok hok
  rw [hdest]
  rw [bankSearch, if_pos ⟨hbag, hslot⟩] at hsearch ⊢
  exact phase_room hnew (hroom proto hproto) hsearch

end

end Player

end Gundrak.Players
