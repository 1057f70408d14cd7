import Gundrak.Players.StorePlaces
import Gundrak.Util.TreeMap

/-!
# Storing and removing items

`StoreItem` puts an item to the positions that `CanStoreItem` has found: to stacks that are there, to empty
slots a clone of it, and to the last one the item itself.  `RemoveItem` takes an item out of its slot.

* `PutAt`: what storing does at one position, in any map of items.
* **`_StoreItem_putAt`**: that is what `_StoreItem` does at a slot of the player.
* `KeepsBags`: the bags that the player wears stay what they are, and with them their slots.
-/

open Std (ExtTreeMap)

namespace Gundrak.Players

/-! ## Items -/

def BIND_WHEN_PICKED_UP : ℕ := 1
def BIND_WHEN_EQUIPED : ℕ := 2
def BIND_QUEST_ITEM : ℕ := 4

/-- An item is bound when it is stored at the position. -/
def ItemTemplate.bindsAt (proto : ItemTemplate) (bag slot : ℕ) : Bool :=
  proto.Bonding = BIND_WHEN_PICKED_UP ∨ proto.Bonding = BIND_QUEST_ITEM ∨
    proto.Bonding = BIND_WHEN_EQUIPED ∧ IsBagPos bag slot

namespace Item

variable (mgr : ObjectMgr) (item : Item)

/-- `Item::IsBag`. -/
def IsBag : Bool := (mgr.GetItemTemplate item.entry).any (·.InventoryType = INVTYPE_BAG)

/-- `Item::CanBeTraded`, of an item at a position. -/
def CanBeTraded (bag slot : ℕ) : Bool := !item.lootGenerated && !item.soulBound &&
    !(item.IsBag mgr && (IsBagPos bag slot || item.notEmptyBag)) && item.canBeTraded

/-- `Item::CloneItem`, with the guid that is generated for it; it belongs to a player or to nobody. -/
def CloneItem (count guid : ℕ) (owned : Bool) : Option Item :=
  if count < 1 then none
  else (mgr.GetItemTemplate item.entry).map fun proto ↦
    { guid, entry := item.entry, count := min count proto.GetMaxStackSize, soulBound := item.soulBound,
      bindedNotWith := !owned && item.soulBound && !proto.isBoundAccountWide }

/-- `Item::SetBinding`, for an item that is stored at the position. -/
def bindAt (bag slot : ℕ) : Item :=
  { item with
    soulBound := item.soulBound || (mgr.GetItemTemplate item.entry).any (·.bindsAt bag slot) }

end Item

/-- Store something at several positions: a clone of it, but at the last one. -/
def storeLoop {S : Type} (store : S → ℕ × ℕ → Bool → S) : List (ℕ × ℕ) → S → S
  | [], s => s
  | x :: dest, s => storeLoop store dest (store s x !dest.isEmpty)

namespace Player

variable (mgr : ObjectMgr) (player : Player)

/-! ## The player -/

/-- `Player::_StoreItem`, with the next guid. -/
def _StoreItem (pItem : Item) (guid pos count : ℕ) (clone : Bool) : Player × ℕ :=
  let bag := pos / 256
  let slot := pos % 256
  match player.GetItemByPos mgr bag slot with
  | none =>
    match if clone then pItem.CloneItem mgr count guid true else some { pItem with count } with
    | none => (player, guid)
    | some newItem =>
      let pos' := if bag ≠ INVENTORY_SLOT_BAG_0 ∧ (player.GetBagByPos mgr bag).isSome then
        makePos bag slot else makePos INVENTORY_SLOT_BAG_0 slot
      (⟨player.items.insert pos' { newItem.bindAt mgr bag slot with bindedNotWith := false }⟩,
        if clone then guid + 1 else guid)
  | some pItem2 =>
    (⟨player.items.insert (makePos bag slot)
      ({ pItem2 with count := pItem2.count + count }.bindAt mgr bag slot)⟩, guid)

/-- `Player::StoreItem`. -/
def StoreItem (pItem : Item) (guid : ℕ) (dest : List (ℕ × ℕ)) : Player × ℕ :=
  storeLoop (fun s x clone ↦ s.1._StoreItem mgr pItem s.2 x.1 x.2 clone) dest (player, guid)

/-- `Player::RemoveItem`, as far as it is about where the items are; `Player::MoveItemFromInventory` does the
same. -/
def RemoveItem (bag slot : ℕ) : Player :=
  match player.GetItemByPos mgr bag slot with
  | none => player
  | some _ =>
    if bag = INVENTORY_SLOT_BAG_0 ∨ (player.GetBagByPos mgr bag).isSome then
      ⟨player.items.erase (makePos bag slot)⟩
    else player

/-- `Item::SetCount`, for the item at a position. -/
def SetCount (bag slot count : ℕ) : Player := ⟨player.items.modify (makePos bag slot) fun item ↦ { item with count }⟩

end Player

/-! ## One position -/

/-- What is put to a position of a map of items, and the guids that are used. -/
inductive PutAt (items : ExtTreeMap ℕ Item) (pItem : Item) (guid pos count : ℕ) (clone : Bool) :
    ExtTreeMap ℕ Item → ℕ → Prop
  | merge (item2 stored : Item) (h : items[pos]? = some item2) (hguid : stored.guid = item2.guid)
      (hentry : stored.entry = item2.entry) (hcount : stored.count = item2.count + count) :
      PutAt items pItem guid pos count clone (items.insert pos stored) guid
  | whole (stored : Item) (h : items[pos]? = none) (hclone : clone = false)
      (hguid : stored.guid = pItem.guid) (hentry : stored.entry = pItem.entry)
      (hcount : stored.count = count) :
      PutAt items pItem guid pos count clone (items.insert pos stored) guid
  | cloned (stored : Item) (h : items[pos]? = none) (hclone : clone = true)
      (hguid : stored.guid = guid) (hentry : stored.entry = pItem.entry)
      (hcount : stored.count = count) :
      PutAt items pItem guid pos count clone (items.insert pos stored) (guid + 1)
  | nothing (h : items[pos]? = none) (hclone : clone = true) (hcount : count = 0) :
      PutAt items pItem guid pos count clone items guid

theorem PutAt.get_entry {items items' : ExtTreeMap ℕ Item} {pItem : Item}
    {guid guid' pos count : ℕ} {clone : Bool} (h : PutAt items pItem guid pos count clone items' guid')
    {q : ℕ} (item : Item) (hitem : items[q]? = some item) :
    ∃ item' : Item, items'[q]? = some item' ∧ item'.entry = item.entry := by
  have hother (stored : Item) (hne : pos ≠ q) : (items.insert pos stored)[q]? = some item := by
    rw [TreeMap.get_insert, if_neg hne, hitem]
  have hfree (h : items[pos]? = none) : pos ≠ q := by
    rintro rfl
    simp [h] at hitem
  cases h with
  | merge item2 stored h _ hentry =>
    by_cases hpos : pos = q
    · subst hpos
      obtain rfl : item2 = item := Option.some.inj (h.symm.trans hitem)
      exact ⟨stored, by rw [TreeMap.get_insert, if_pos rfl], hentry⟩
    · exact ⟨item, hother stored hpos, rfl⟩
  | whole stored h => exact ⟨item, hother stored (hfree h), rfl⟩
  | cloned stored h => exact ⟨item, hother stored (hfree h), rfl⟩
  | nothing => exact ⟨item, hitem, rfl⟩

theorem Item.cloneItem_eq_none {mgr : ObjectMgr} {item : Item} {proto : ItemTemplate}
    {count guid : ℕ} {owned : Bool} (hproto : mgr.GetItemTemplate item.entry = some proto)
    (h : item.CloneItem mgr count guid owned = none) : count = 0 := by
  rw [CloneItem, hproto] at h
  split_ifs at h with hcount
  · omega
  · cases h

theorem Item.cloneItem_eq_some {mgr : ObjectMgr} {item cloned : Item} {proto : ItemTemplate}
    {count guid : ℕ} {owned : Bool} (hproto : mgr.GetItemTemplate item.entry = some proto)
    (h : item.CloneItem mgr count guid owned = some cloned) :
    cloned.guid = guid ∧ cloned.entry = item.entry ∧ cloned.count = min count proto.GetMaxStackSize := by
  rw [CloneItem, hproto] at h
  split_ifs at h
  obtain rfl := Option.some.inj h
  exact ⟨rfl, rfl, rfl⟩

namespace Player

variable {mgr : ObjectMgr} {player player' : Player}

theorem makePos_div_mod (pos : ℕ) : makePos (pos / 256) (pos % 256) = pos := by
  rw [makePos]
  omega

theorem GetBagByPos_isSome {bag slot : ℕ} (h : player.HasSlot mgr bag slot)
    (hbag : bag ≠ INVENTORY_SLOT_BAG_0) : (player.GetBagByPos mgr bag).isSome = true := by
  rcases h with ⟨hself, -⟩ | ⟨-, hlt⟩
  · exact absurd hself hbag
  · rw [GetBagSize] at hlt
    cases hb : player.GetBagByPos mgr bag with
    | none =>
      rw [hb] at hlt
      exact absurd hlt (Nat.not_lt_zero _)
    | some b => rfl

/-- **Storing something at a slot** of the player. -/
theorem _StoreItem_putAt {pItem : Item} {proto : ItemTemplate} {guid pos count : ℕ} (clone : Bool)
    (hproto : mgr.GetItemTemplate pItem.entry = some proto)
    (hslot : player.HasSlot mgr (pos / 256) (pos % 256))
    (hcount : player.items[pos]? = none → count ≤ proto.GetMaxStackSize) :
    PutAt player.items pItem guid pos count clone (player._StoreItem mgr pItem guid pos count clone).1.items
      (player._StoreItem mgr pItem guid pos count clone).2 := by
  have hget := GetItemByPos_of_hasSlot hslot
  rw [makePos_div_mod] at hget
  have hpos : (if pos / 256 ≠ INVENTORY_SLOT_BAG_0 ∧ (player.GetBagByPos mgr (pos / 256)).isSome = true
      then makePos (pos / 256) (pos % 256) else makePos INVENTORY_SLOT_BAG_0 (pos % 256)) = pos := by
    by_cases hbag : pos / 256 = INVENTORY_SLOT_BAG_0
    · simp [← hbag, makePos_div_mod]
    · rw [if_pos ⟨hbag, GetBagByPos_isSome hslot hbag⟩, makePos_div_mod]
  rw [_StoreItem]
  rw [hget, hpos, makePos_div_mod]
  cases hitem : player.items[pos]? with
  | some item2 => exact .merge item2 _ hitem rfl rfl rfl
  | none =>
    have hle := hcount hitem
    cases clone with
    | false => exact .whole _ hitem rfl rfl rfl rfl
    | true =>
      cases hcloned : pItem.CloneItem mgr count guid true with
      | none =>
        exact .nothing hitem rfl (Item.cloneItem_eq_none hproto hcloned)
      | some cloned =>
        obtain ⟨hguid, hentry, hmin⟩ := Item.cloneItem_eq_some hproto hcloned
        exact .cloned _ hitem rfl hguid hentry (hmin.trans (Nat.min_eq_left hle))

/-! ## Bags -/

variable (mgr player player') in
/-- The bags that are worn are still worn, or others of their kinds. -/
def KeepsBags : Prop := ∀ bag b, player.GetBagByPos mgr bag = some b →
    ∃ b', player'.GetBagByPos mgr bag = some b' ∧ b'.2 = b.2

theorem KeepsBags.hasSlot (h : KeepsBags mgr player player') {bag slot : ℕ}
    (hslot : player.HasSlot mgr bag slot) : player'.HasSlot mgr bag slot := by
  rcases hslot with hown | ⟨hbag, hlt⟩
  · exact .inl hown
  · refine .inr ⟨hbag, ?_⟩
    obtain ⟨b, hb⟩ := Option.isSome_iff_exists.mp (GetBagByPos_isSome (.inr ⟨hbag, hlt⟩) hbag)
    obtain ⟨b', hb', heq⟩ := h bag b hb
    simpa [GetBagSize, hb, hb', heq] using hlt

/-- Bags are kept if whatever is in their slots keeps its entry. -/
theorem keepsBags_of_entry (h : ∀ bag item, player.items[makePos INVENTORY_SLOT_BAG_0 bag]? = some item →
      item.IsBag mgr = true → IsBagPos INVENTORY_SLOT_BAG_0 bag = true →
      ∃ item', player'.items[makePos INVENTORY_SLOT_BAG_0 bag]? = some item' ∧ item'.entry = item.entry) :
    KeepsBags mgr player player' := by
  intro bag b hb
  rw [GetBagByPos] at hb ⊢
  split_ifs at hb ⊢ with hbag
  obtain ⟨item, hitem, hmap⟩ := Option.bind_eq_some_iff.mp hb
  obtain ⟨proto, hproto, rfl⟩ := Option.map_eq_some_iff.mp hmap
  have hisBag : item.IsBag mgr = true := by
    obtain ⟨htemplate, htype⟩ := Option.filter_eq_some_iff.mp hproto
    rw [Item.IsBag, htemplate]
    exact htype
  obtain ⟨item', hitem', hentry⟩ := h bag item hitem hisBag (decide_eq_true ⟨rfl, hbag⟩)
  refine ⟨(item', proto), ?_, rfl⟩
  simp [hitem', hentry, hproto]

theorem keepsBags_of_putAt {pItem : Item} {guid guid' pos count : ℕ} {clone : Bool}
    (h : PutAt player.items pItem guid pos count clone player'.items guid') :
    KeepsBags mgr player player' :=
  keepsBags_of_entry fun _ item hitem _ _ ↦ h.get_entry item hitem

end Player

end Gundrak.Players
