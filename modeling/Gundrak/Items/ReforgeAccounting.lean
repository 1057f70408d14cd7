import Gundrak.Items.ReforgedStats

/-!
# What the modifiers of a player add up to

`Accounted` says that the modifiers are the sums of what the items in the slots add with the entries that the map has.
An item is put on and taken off with the same entry (`Accounted.put`, `Accounted.removeItem`), and an entry is changed
between taking the item off and putting it on again (`Accounted.changeReforge`) — if it is in an equipment slot: a bag in
its slot adds its stats too, and is not taken off.

**`sumsUp_of_reaches`** is for the runs without such a bag, without a reforge of an item that scales, and with entries in
the database that a reforge could have made.
-/

namespace Gundrak.Items

/-! ## The player -/

namespace Player

variable {GetTemplate : ℕ → ItemTemplate} {player : Player} {slot item : ℕ} {m : Modifier}

variable (GetTemplate player) in
/-- What the item in a slot adds to a modifier. -/
def amount (slot : ℕ) (m : Modifier) : ℤ :=
  match player.m_items slot with
  | none => 0
  | some item => total ((GetTemplate item).stats player.level (player.reforgeMap item)) m

variable (GetTemplate player) in
/-- The modifiers add up to what the items in the slots add, no item is in two slots, and every entry is one for the
item. -/
structure Accounted : Prop where
  inside : ∀ slot item, player.m_items slot = some item → slot < CURRENCYTOKEN_SLOT_END
  apart : ∀ slot slot' item, player.m_items slot = some item → player.m_items slot' = some item → slot = slot'
  mods_eq : ∀ m, player.mods m = ∑ slot ∈ Finset.range INVENTORY_SLOT_BAG_END, player.amount GetTemplate slot m
  fits : ∀ item data, player.reforgeMap item = some data → (GetTemplate item).Fits player.level data

theorem sum_eq_of_ne {f f' : ℕ → ℤ} (hslot : slot < INVENTORY_SLOT_BAG_END) (h : ∀ i, i ≠ slot → f' i = f i) :
    ∑ i ∈ Finset.range INVENTORY_SLOT_BAG_END, f' i =
      ∑ i ∈ Finset.range INVENTORY_SLOT_BAG_END, f i - f slot + f' slot := by
  have hmem : slot ∈ Finset.range INVENTORY_SLOT_BAG_END := Finset.mem_range.mpr hslot
  rw [← Finset.add_sum_erase _ f hmem, ← Finset.add_sum_erase _ f' hmem]
  rw [Finset.sum_congr rfl fun i hi ↦ h i (Finset.ne_of_mem_erase hi)]
  ring

/-! ### Applying the stats of an item -/

theorem _ApplyItemMods_mods (apply : Bool) (hslot : slot < INVENTORY_SLOT_BAG_END)
    (hitem : player.m_items slot = some item) (m : Modifier) :
    (player._ApplyItemMods GetTemplate item slot apply).mods m =
      player.mods m + (if apply then 1 else -1) * player.amount GetTemplate slot m := by
  rw [_ApplyItemMods, if_neg (Nat.not_le.mpr hslot), _ApplyItemBonuses, if_neg (Nat.not_le.mpr hslot), amount, hitem]
  exact foldl_applyStat apply _ player.mods m

theorem _ApplyItemMods_m_items (apply : Bool) :
    (player._ApplyItemMods GetTemplate item slot apply).m_items = player.m_items := by
  rw [_ApplyItemMods, _ApplyItemBonuses]
  split <;> rfl

theorem _ApplyItemMods_reforgeMap (apply : Bool) :
    (player._ApplyItemMods GetTemplate item slot apply).reforgeMap = player.reforgeMap := by
  rw [_ApplyItemMods, _ApplyItemBonuses]
  split <;> rfl

theorem _ApplyItemMods_level (apply : Bool) :
    (player._ApplyItemMods GetTemplate item slot apply).level = player.level := by
  rw [_ApplyItemMods, _ApplyItemBonuses]
  split <;> rfl

theorem _ApplyItemMods_money (apply : Bool) :
    (player._ApplyItemMods GetTemplate item slot apply).money = player.money := by
  rw [_ApplyItemMods, _ApplyItemBonuses]
  split <;> rfl

/-- What an item adds depends on the slot, the entry of the item and the level. -/
theorem amount_congr {player' : Player} (hitems : player'.m_items slot = player.m_items slot)
    (hlevel : player'.level = player.level)
    (hmap : ∀ item, player.m_items slot = some item → player'.reforgeMap item = player.reforgeMap item) :
    player'.amount GetTemplate slot m = player.amount GetTemplate slot m := by
  rw [amount, amount, hitems, hlevel]
  cases hitem : player.m_items slot with
  | none => rfl
  | some item =>
    simp [hmap item hitem]

theorem amount_of_none (h : player.m_items slot = none) : player.amount GetTemplate slot m = 0 := by
  rw [amount, h]

/-! ### Items that come and go -/

theorem Accounted.put (h : player.Accounted GetTemplate) (hinside : slot < CURRENCYTOKEN_SLOT_END)
    (hempty : player.m_items slot = none) (hlacks : ∀ i, player.m_items i ≠ some item) {player' : Player}
    (hitems : player'.m_items = Function.update player.m_items slot (some item))
    (hmap : player'.reforgeMap = player.reforgeMap) (hlevel : player'.level = player.level)
    (hmods : ∀ m, player'.mods m =
      player.mods m + if slot < INVENTORY_SLOT_BAG_END then player'.amount GetTemplate slot m else 0) :
    player'.Accounted GetTemplate := by
  have hne : ∀ i, i ≠ slot → player'.m_items i = player.m_items i := fun i hi ↦ by
    rw [hitems, Function.update_of_ne hi]
  have hself : player'.m_items slot = some item := by rw [hitems, Function.update_self]
  have hold : ∀ i i', i ≠ slot → i' = slot → ∀ item', player'.m_items i = some item' →
      player'.m_items i' ≠ some item' := fun i i' hi hi' item' hitem' hslot ↦ by
    rw [hi', hself] at hslot
    rw [hne i hi, ← hslot] at hitem'
    exact hlacks i hitem'
  refine ⟨fun i item' hi ↦ ?_, fun i i' item' hi hi' ↦ ?_, fun m ↦ ?_, fun item' data hdata ↦ ?_⟩
  · by_cases heq : i = slot
    · exact heq ▸ hinside
    · exact h.inside i item' (hne i heq ▸ hi)
  · by_cases heq : i = slot
    · by_cases heq' : i' = slot
      · exact heq.trans heq'.symm
      · exact absurd hi (hold i' i heq' heq item' hi')
    · by_cases heq' : i' = slot
      · exact absurd hi' (hold i i' heq heq' item' hi)
      · exact h.apart i i' item' (hne i heq ▸ hi) (hne i' heq' ▸ hi')
  · have hamount : ∀ i, i ≠ slot → player'.amount GetTemplate i m = player.amount GetTemplate i m := fun i hi ↦
      amount_congr (hne i hi) hlevel fun _ _ ↦ by rw [hmap]
    rw [hmods, h.mods_eq]
    split
    · rename_i hslot
      rw [sum_eq_of_ne hslot hamount, amount_of_none hempty]
      ring
    · rename_i hslot
      rw [add_zero]
      refine Finset.sum_congr rfl fun i hi ↦ (hamount i ?_).symm
      rintro rfl
      exact hslot (Finset.mem_range.mp hi)
  · rw [hlevel]
    exact h.fits item' data (hmap ▸ hdata)

theorem Accounted.equipItem (h : player.Accounted GetTemplate) (hslot : slot < INVENTORY_SLOT_BAG_END)
    (hempty : player.m_items slot = none) (hlacks : ∀ i, player.m_items i ≠ some item) :
    (player.EquipItem GetTemplate slot item).Accounted GetTemplate := by
  have hinside : slot < CURRENCYTOKEN_SLOT_END := hslot.trans (by decide)
  rw [EquipItem]
  refine h.put hinside hempty hlacks (_ApplyItemMods_m_items true) (_ApplyItemMods_reforgeMap true)
    (_ApplyItemMods_level true) fun m ↦ ?_
  rw [if_pos hslot, _ApplyItemMods_mods true hslot (Function.update_self ..), if_pos rfl, one_mul]
  refine congrArg _ (amount_congr ?_ ?_ fun _ _ ↦ ?_).symm
  · rw [_ApplyItemMods_m_items]
  · rw [_ApplyItemMods_level]
  · rw [_ApplyItemMods_reforgeMap]

theorem Accounted.storeItem (h : player.Accounted GetTemplate) (hslot : INVENTORY_SLOT_BAG_END ≤ slot)
    (hinside : slot < CURRENCYTOKEN_SLOT_END) (hempty : player.m_items slot = none)
    (hlacks : ∀ i, player.m_items i ≠ some item) : (player.StoreItem slot item).Accounted GetTemplate :=
  h.put hinside hempty hlacks rfl rfl rfl fun m ↦ by
    rw [if_neg (Nat.not_lt.mpr hslot), add_zero]
    rfl

variable (GetTemplate player slot item) in
theorem RemoveItem_spec : (player.RemoveItem GetTemplate slot item).m_items = Function.update player.m_items slot none ∧
      (player.RemoveItem GetTemplate slot item).reforgeMap = player.reforgeMap ∧
      (player.RemoveItem GetTemplate slot item).level = player.level ∧
      (player.RemoveItem GetTemplate slot item).mods =
        if slot < INVENTORY_SLOT_BAG_END then (player._ApplyItemMods GetTemplate item slot false).mods
        else player.mods := by
  rw [RemoveItem]
  split
  · exact ⟨by rw [_ApplyItemMods_m_items], _ApplyItemMods_reforgeMap false, _ApplyItemMods_level false, rfl⟩
  · exact ⟨rfl, rfl, rfl, rfl⟩

theorem Accounted.removeItem (h : player.Accounted GetTemplate) (hitem : player.m_items slot = some item) :
    (player.RemoveItem GetTemplate slot item).Accounted GetTemplate := by
  obtain ⟨hitems, hmap, hlevel, hmods⟩ := RemoveItem_spec GetTemplate player slot item
  generalize player.RemoveItem GetTemplate slot item = player' at hitems hmap hlevel hmods ⊢
  have hne : ∀ i, i ≠ slot → player'.m_items i = player.m_items i := fun i hi ↦ by
    rw [hitems, Function.update_of_ne hi]
  have hself : player'.m_items slot = none := by rw [hitems, Function.update_self]
  have hold : ∀ i item', player'.m_items i = some item' → player.m_items i = some item' := fun i item' hi ↦ by
    by_cases heq : i = slot
    · simp [heq, hself] at hi
    · exact hne i heq ▸ hi
  refine ⟨fun i item' hi ↦ h.inside i item' (hold i item' hi), fun i i' item' hi hi' ↦
    h.apart i i' item' (hold i item' hi) (hold i' item' hi'), fun m ↦ ?_, fun item' data hdata ↦ ?_⟩
  · have hamount : ∀ i, i ≠ slot → player'.amount GetTemplate i m = player.amount GetTemplate i m := fun i hi ↦
      amount_congr (hne i hi) hlevel fun _ _ ↦ by rw [hmap]
    rw [hmods]
    split
    · rename_i hslot
      rw [_ApplyItemMods_mods false hslot hitem, h.mods_eq, sum_eq_of_ne hslot hamount, amount_of_none hself,
        if_neg (by decide)]
      ring
    · rename_i hslot
      rw [h.mods_eq]
      refine Finset.sum_congr rfl fun i hi ↦ (hamount i ?_).symm
      rintro rfl
      exact hslot (Finset.mem_range.mp hi)
  · rw [hlevel]
    exact h.fits item' data (hmap ▸ hdata)

/-! ### Changing an entry -/

/-- An item is found in its slot, if it is equipped. -/
def FoundAt (player : Player) (item : ℕ) (found : Option (Option ℕ)) : Prop :=
  (∀ slot, equippedSlot found = some slot → slot < EQUIPMENT_SLOT_END ∧ player.m_items slot = some item) ∧
    ∀ slot, slot < EQUIPMENT_SLOT_END → player.m_items slot = some item → equippedSlot found = some slot

/-- An item that is no equipped bag. -/
def NoBag (player : Player) (item : ℕ) : Prop :=
  ∀ slot, EQUIPMENT_SLOT_END ≤ slot → slot < INVENTORY_SLOT_BAG_END → player.m_items slot ≠ some item

variable (GetTemplate player item) in
theorem applyEquipped_spec (found : Option (Option ℕ)) (apply : Bool) :
    (player.applyEquipped GetTemplate found item apply).m_items = player.m_items ∧
      (player.applyEquipped GetTemplate found item apply).reforgeMap = player.reforgeMap ∧
      (player.applyEquipped GetTemplate found item apply).level = player.level ∧
      (player.applyEquipped GetTemplate found item apply).money = player.money := by
  rw [applyEquipped]
  split
  · exact ⟨_ApplyItemMods_m_items apply, _ApplyItemMods_reforgeMap apply, _ApplyItemMods_level apply,
      _ApplyItemMods_money apply⟩
  · exact ⟨rfl, rfl, rfl, rfl⟩

variable (GetTemplate player item) in
theorem changeReforge_spec (found : Option (Option ℕ)) (entry : Option ReforgeData) :
    (player.changeReforge GetTemplate found item entry).m_items = player.m_items ∧
      (player.changeReforge GetTemplate found item entry).reforgeMap = Function.update player.reforgeMap item entry ∧
      (player.changeReforge GetTemplate found item entry).level = player.level ∧
      (player.changeReforge GetTemplate found item entry).money = player.money := by
  obtain ⟨hitems, hmap, hlevel, hmoney⟩ := applyEquipped_spec GetTemplate player item found false
  obtain ⟨hitems', hmap', hlevel', hmoney'⟩ := applyEquipped_spec GetTemplate
    ((player.applyEquipped GetTemplate found item false).setReforge item entry) item found true
  refine ⟨hitems'.trans hitems, hmap'.trans ?_, hlevel'.trans hlevel, hmoney'.trans hmoney⟩
  rw [setReforge, hmap]

/-- Taking an item off and putting it on with another entry changes the modifiers by what the entries add. -/
theorem changeReforge_mods {found : Option (Option ℕ)} (hslot : slot < INVENTORY_SLOT_BAG_END)
    (hfound : equippedSlot found = some slot) (hitem : player.m_items slot = some item)
    (entry : Option ReforgeData) (m : Modifier) :
    (player.changeReforge GetTemplate found item entry).mods m = player.mods m - player.amount GetTemplate slot m +
        (player.changeReforge GetTemplate found item entry).amount GetTemplate slot m := by
  have happly : ∀ (p : Player) (apply : Bool), p.applyEquipped GetTemplate found item apply =
      p._ApplyItemMods GetTemplate item slot apply := fun p apply ↦ by rw [applyEquipped, hfound]
  rw [changeReforge, happly, happly]
  have hoff : (player._ApplyItemMods GetTemplate item slot false).m_items slot = some item := by
    rw [_ApplyItemMods_m_items]
    exact hitem
  have hset : ((player._ApplyItemMods GetTemplate item slot false).setReforge item entry).m_items slot =
      some item := hoff
  have hon : (((player._ApplyItemMods GetTemplate item slot false).setReforge item entry)._ApplyItemMods
      GetTemplate item slot true).amount GetTemplate slot m =
      ((player._ApplyItemMods GetTemplate item slot false).setReforge item entry).amount GetTemplate slot m :=
    amount_congr (by rw [_ApplyItemMods_m_items]) (by rw [_ApplyItemMods_level]) fun _ _ ↦ by
      rw [_ApplyItemMods_reforgeMap]
  rw [hon, _ApplyItemMods_mods true hslot hset, if_pos rfl, one_mul]
  have hold : ((player._ApplyItemMods GetTemplate item slot false).setReforge item entry).mods m =
      player.mods m - player.amount GetTemplate slot m := by
    refine (_ApplyItemMods_mods false hslot hitem m).trans ?_
    rw [if_neg (by decide)]
    ring
  rw [hold]

theorem Accounted.changeReforge (h : player.Accounted GetTemplate) {found : Option (Option ℕ)}
    (hfound : player.FoundAt item found) (hbag : player.NoBag item) {entry : Option ReforgeData}
    (hentry : ∀ data, entry = some data → (GetTemplate item).Fits player.level data) :
    (player.changeReforge GetTemplate found item entry).Accounted GetTemplate := by
  obtain ⟨hitems, hmap, hlevel, _⟩ := changeReforge_spec GetTemplate player item found entry
  have hother : ∀ i m, player.m_items i ≠ some item →
      (player.changeReforge GetTemplate found item entry).amount GetTemplate i m = player.amount GetTemplate i m :=
    fun i m hi ↦ amount_congr (by rw [hitems]) hlevel fun item' hitem' ↦ by
      have hne : item' ≠ item := fun heq ↦ hi (heq ▸ hitem')
      rw [hmap, Function.update_of_ne hne]
  refine ⟨fun i item' hi ↦ h.inside i item' (hitems ▸ hi), fun i i' item' hi hi' ↦
    h.apart i i' item' (hitems ▸ hi) (hitems ▸ hi'), fun m ↦ ?_, fun item' data hdata ↦ ?_⟩
  · cases hslot : equippedSlot found with
    | none =>
      -- no slot has the item
      have hnone : ∀ i, i < INVENTORY_SLOT_BAG_END → player.m_items i ≠ some item := fun i hi hitem ↦ by
        rcases Nat.lt_or_ge i EQUIPMENT_SLOT_END with hlt | hge
        · have hsome := hfound.2 i hlt hitem
          simp [hslot] at hsome
        · exact hbag i hge hi hitem
      have hmods : (player.changeReforge GetTemplate found item entry).mods = player.mods := by
        rw [Player.changeReforge, applyEquipped, applyEquipped, hslot]
        rfl
      rw [hmods, h.mods_eq]
      exact Finset.sum_congr rfl fun i hi ↦ (hother i m (hnone i (Finset.mem_range.mp hi))).symm
    | some slot =>
      obtain ⟨hlt, hitem⟩ := hfound.1 slot hslot
      have hrange : slot < INVENTORY_SLOT_BAG_END := hlt.trans (by decide)
      have hne : ∀ i, i ≠ slot → player.m_items i ≠ some item := fun i hi hitem' ↦
        hi (h.apart i slot item hitem' hitem)
      rw [changeReforge_mods hrange hslot hitem, h.mods_eq, sum_eq_of_ne hrange fun i hi ↦ hother i m (hne i hi)]
  · rw [hlevel]
    rw [hmap] at hdata
    by_cases heq : item' = item
    · subst heq
      rw [Function.update_self] at hdata
      exact hentry data hdata
    · rw [Function.update_of_ne heq] at hdata
      exact h.fits item' data hdata

/-! ### Finding an item -/

section

variable (h : player.Accounted GetTemplate)
include h

theorem slotOf_eq_some {slots : List ℕ} (hmem : slot ∈ slots)
    (hitem : player.m_items slot = some item) : player.slotOf slots item = some slot := by
  have hsome : (player.slotOf slots item).isSome := List.find?_isSome.mpr ⟨slot, hmem, decide_eq_true hitem⟩
  obtain ⟨slot', hslot'⟩ := Option.isSome_iff_exists.mp hsome
  have hitem' := List.find?_some hslot'
  rw [hslot', h.apart slot' slot item (of_decide_eq_true hitem') hitem]

theorem foundAt_getItemByGuid (item : ℕ) : player.FoundAt item (player.GetItemByGuid item) := by
  constructor
  · intro slot hslot
    rw [GetItemByGuid] at hslot
    cases hfind : player.slotOf itemSlots item with
    | none =>
      rw [hfind] at hslot
      dsimp only at hslot
      split at hslot <;> cases hslot
    | some slot' =>
      rw [hfind] at hslot
      have hitem := List.find?_some hfind
      obtain ⟨hlt, heq⟩ := Option.ite_none_right_eq_some.mp hslot
      obtain rfl := Option.some.inj heq
      exact ⟨hlt, of_decide_eq_true hitem⟩
  · intro slot hslot hitem
    have hmem : slot ∈ itemSlots := List.mem_append_left _ (List.mem_range.mpr (hslot.trans (by decide)))
    rw [GetItemByGuid, slotOf_eq_some h hmem hitem]
    exact if_pos hslot

theorem foundAt_slot (hitem : player.m_items slot = some item)
    (hslot : slot < EQUIPMENT_SLOT_END ∨ INVENTORY_SLOT_BAG_END ≤ slot) :
    player.FoundAt item (some (some slot)) := by
  constructor
  · intro slot' hslot'
    obtain ⟨hlt, heq⟩ := Option.ite_none_right_eq_some.mp hslot'
    obtain rfl := Option.some.inj heq
    exact ⟨hlt, hitem⟩
  · intro slot' hlt hitem'
    obtain rfl := h.apart slot' slot item hitem' hitem
    exact if_pos hlt

theorem Accounted.removeReforge (hbag : player.reforgeMap item = none ∨ player.NoBag item) :
    (player.RemoveReforge GetTemplate item).Accounted GetTemplate := by
  rw [RemoveReforge]
  split
  · exact h
  · rename_i hentry
    have hbag := hbag.resolve_left fun hnone ↦ hentry (.inr hnone)
    exact h.changeReforge (foundAt_getItemByGuid h item) hbag fun data hdata ↦ by cases hdata

end

theorem RemoveReforge_m_items : (player.RemoveReforge GetTemplate item).m_items = player.m_items := by
  rw [RemoveReforge]
  split
  · rfl
  · exact (changeReforge_spec GetTemplate player item _ _).1

theorem Accounted.congr (h : player.Accounted GetTemplate) {player' : Player}
    (hitems : player'.m_items = player.m_items) (hmap : player'.reforgeMap = player.reforgeMap)
    (hmods : player'.mods = player.mods) (hlevel : player'.level = player.level) :
    player'.Accounted GetTemplate := by
  refine ⟨hitems ▸ h.inside, hitems ▸ h.apart, fun m ↦ ?_, hmap ▸ hlevel ▸ h.fits⟩
  rw [hmods, h.mods_eq]
  exact Finset.sum_congr rfl fun i _ ↦ (amount_congr (by rw [hitems]) hlevel fun _ _ ↦ by rw [hmap]).symm

/-! ### Reforging -/

section

variable {proto : ItemTemplate} {decrease increase : ℕ} {l : List (Fin MAX_ITEM_PROTO_STATS)} {stat_diff d : ℤ}
  (h : statDiff proto decrease increase l stat_diff = some d)
include h

theorem exists_of_statDiff : d = stat_diff ∨ ∃ i ∈ l, (proto.ItemStat i).ItemStatType = decrease ∧
      d = twoFifths (proto.ItemStat i).ItemStatValue := by
  induction l generalizing stat_diff with
  | nil => exact .inl (Option.some.inj h).symm
  | cons i l ih =>
    obtain ⟨_, h⟩ := Option.ite_none_left_eq_some.mp h
    rcases ih h with hd | ⟨j, hj, htype, hd⟩
    · split at hd
      · rename_i htype
        exact .inr ⟨i, List.mem_cons_self, htype, hd⟩
      · exact .inl hd
    · exact .inr ⟨j, List.mem_cons_of_mem i hj, htype, hd⟩

theorem ne_increase_of_statDiff : ∀ i ∈ l, (proto.ItemStat i).ItemStatType ≠ increase := by
  induction l generalizing stat_diff with
  | nil => exact fun i hi ↦ absurd hi List.not_mem_nil
  | cons i l ih =>
    obtain ⟨hne, h⟩ := Option.ite_none_left_eq_some.mp h
    exact List.forall_mem_cons.mpr ⟨hne, ih h⟩

end

variable (GetTemplate player) in
/-- The reforge that an option makes, if it makes one: the slot of the item and the entry. -/
def reforgeOf (sender melt : ℕ) : Option (ℕ × ReforgeData) :=
  let proto := GetTemplate sender
  statTypes[melt / 2 ^ 8 % 2 ^ 8]?.bind fun increase ↦
    (player.slotOf (List.range INVENTORY_SLOT_ITEM_END) sender).bind fun slot ↦
      if player.IsReforgable GetTemplate sender && player.HasEnoughMoney proto then
        (statDiff proto (melt % 2 ^ 8) increase proto.statPositions 0).bind fun stat_diff ↦
          if stat_diff ≤ 0 then none else some (slot, ⟨increase, melt % 2 ^ 8, stat_diff⟩)
      else none

variable (GetTemplate player) in
/-- **What choosing an option does**: it removes a reforge, or it makes one that is paid for. -/
theorem OnGossipSelect_cases (sender melt : ℕ) :
    player.OnGossipSelect GetTemplate sender melt = player ∨ (melt / 2 ^ 8 % 2 ^ 8 = RESTORE ∧
        player.OnGossipSelect GetTemplate sender melt = player.RemoveReforge GetTemplate sender) ∨
      ∃ slot data amount, player.reforgeOf GetTemplate sender melt = some (slot, data) ∧
        player.OnGossipSelect GetTemplate sender melt =
          (player.changeReforge GetTemplate (some (some slot)) sender (some data)).ModifyMoney amount := by
  rw [OnGossipSelect]
  split
  · rename_i hmenu
    split
    · exact .inr (.inl ⟨hmenu, rfl⟩)
    · exact .inl rfl
  · split
    · exact .inl rfl
    · rename_i increase hincrease
      split
      · exact .inl rfl
      · rename_i slot hslot
        split
        · rename_i hready
          rw [UpdatePlayerReforgeStats]
          split
          · exact .inl rfl
          · rename_i stat_diff hdiff
            split
            · exact .inl rfl
            · rename_i hpositive
              refine .inr (.inr ⟨slot, _, _, ?_, rfl⟩)
              rw [reforgeOf, hincrease, Option.bind_some, hslot, Option.bind_some, if_pos hready, hdiff, Option.bind_some,
                if_neg hpositive]
        · exact .inl rfl

section

variable {sender melt : ℕ} {data : ReforgeData}
  (h : player.reforgeOf GetTemplate sender melt = some (slot, data))
include h

theorem reforgeOf_spec : player.m_items slot = some sender ∧ player.reforgeMap sender = none ∧
      (GetTemplate sender).StatsCount < MAX_ITEM_PROTO_STATS ∧ 0 < data.stat_value ∧
      (∀ i ∈ (GetTemplate sender).statPositions, ((GetTemplate sender).ItemStat i).ItemStatType ≠ data.increase) ∧
      ∃ i ∈ (GetTemplate sender).statPositions, ((GetTemplate sender).ItemStat i).ItemStatType = data.decrease ∧
        data.stat_value = twoFifths ((GetTemplate sender).ItemStat i).ItemStatValue := by
  obtain ⟨increase, _, h⟩ := Option.bind_eq_some_iff.mp h
  obtain ⟨slot', hslot, h⟩ := Option.bind_eq_some_iff.mp h
  obtain ⟨hready, h⟩ := Option.ite_none_right_eq_some.mp h
  obtain ⟨stat_diff, hdiff, h⟩ := Option.bind_eq_some_iff.mp h
  obtain ⟨hpositive, h⟩ := Option.ite_none_left_eq_some.mp h
  obtain ⟨rfl, rfl⟩ := Prod.mk.inj (Option.some.inj h)
  have hitem := List.find?_some hslot
  rw [IsReforgable] at hready
  simp only [Bool.and_eq_true, decide_eq_true_eq] at hready
  have hpositive : 0 < stat_diff := not_le.mp hpositive
  refine ⟨of_decide_eq_true hitem, hready.1.1.2, hready.1.1.1.2, hpositive, ne_increase_of_statDiff hdiff, ?_⟩
  exact (exists_of_statDiff hdiff).resolve_left (ne_of_gt hpositive)

theorem reforgeOf_stats : data.increase ∈ statTypes ∧ data.decrease < 2 ^ 8 := by
  obtain ⟨increase, hincrease, h⟩ := Option.bind_eq_some_iff.mp h
  obtain ⟨slot', _, h⟩ := Option.bind_eq_some_iff.mp h
  obtain ⟨_, h⟩ := Option.ite_none_right_eq_some.mp h
  obtain ⟨stat_diff, _, h⟩ := Option.bind_eq_some_iff.mp h
  obtain ⟨_, h⟩ := Option.ite_none_left_eq_some.mp h
  obtain ⟨_, rfl⟩ := Prod.mk.inj (Option.some.inj h)
  exact ⟨List.mem_of_getElem? hincrease, Nat.mod_lt melt (by decide)⟩

end

variable (player) in
theorem ModifyMoney_spec (amount : ℤ) : (player.ModifyMoney amount).m_items = player.m_items ∧
      (player.ModifyMoney amount).reforgeMap = player.reforgeMap ∧
      (player.ModifyMoney amount).mods = player.mods ∧ (player.ModifyMoney amount).level = player.level := by
  rw [ModifyMoney]
  split
  · exact ⟨rfl, rfl, rfl, rfl⟩
  · split <;> exact ⟨rfl, rfl, rfl, rfl⟩

theorem RemoveReforge_money : (player.RemoveReforge GetTemplate item).money = player.money := by
  rw [RemoveReforge]
  split
  · rfl
  · exact (changeReforge_spec GetTemplate player item _ _).2.2.2

variable (GetTemplate player) in
/-- Which options are right: nothing is done to the reforge of a bag that is equipped, and no item is reforged that
scales with the level. -/
def RightOption (sender melt : ℕ) : Prop :=
  (melt / 2 ^ 8 % 2 ^ 8 = RESTORE → player.reforgeMap sender = none ∨ player.NoBag sender) ∧
    ∀ slot data, player.reforgeOf GetTemplate sender melt = some (slot, data) →
      player.NoBag sender ∧ (GetTemplate sender).scalingStats player.level = none

theorem Accounted.gossip (h : player.Accounted GetTemplate) {sender melt : ℕ}
    (hright : player.RightOption GetTemplate sender melt) :
    (player.OnGossipSelect GetTemplate sender melt).Accounted GetTemplate := by
  rcases OnGossipSelect_cases GetTemplate player sender melt with
    heq | ⟨hmenu, heq⟩ | ⟨slot, data, amount, hreforge, heq⟩
  · rw [heq]
    exact h
  · rw [heq]
    exact h.removeReforge (hright.1 hmenu)
  · rw [heq]
    obtain ⟨hbag, hfixed⟩ := hright.2 slot data hreforge
    obtain ⟨hitem, _, hroom, _, _, hdecrease⟩ := reforgeOf_spec hreforge
    have hslot : slot < EQUIPMENT_SLOT_END ∨ INVENTORY_SLOT_BAG_END ≤ slot := by
      by_contra hnot
      obtain ⟨hge, hlt⟩ := not_or.mp hnot
      exact hbag slot (not_lt.mp hge) (not_le.mp hlt) hitem
    have hchanged : (player.changeReforge GetTemplate (some (some slot)) sender (some data)).Accounted GetTemplate :=
      h.changeReforge (foundAt_slot h hitem hslot) hbag fun data' hdata' ↦
        Option.some.inj hdata' ▸ ⟨hfixed, hroom, hdecrease⟩
    obtain ⟨hitems, hmap, hmods, hlevel⟩ := ModifyMoney_spec
      (player.changeReforge GetTemplate (some (some slot)) sender (some data)) amount
    exact hchanged.congr hitems hmap hmods hlevel

/-! ### Logging in -/

theorem foldl_applyAll (n : ℕ) (hn : n ≤ INVENTORY_SLOT_BAG_END) {player' : Player}
    (hfold : (List.range n).foldl (fun player slot ↦
        match player.m_items slot with
        | some item => player._ApplyItemBonuses (GetTemplate item) slot true
        | none => player) player = player') :
    player'.m_items = player.m_items ∧ player'.reforgeMap = player.reforgeMap ∧ player'.level = player.level ∧
      ∀ m, player'.mods m = player.mods m + ∑ slot ∈ Finset.range n, player.amount GetTemplate slot m := by
  induction n generalizing player' with
  | zero =>
    subst hfold
    exact ⟨rfl, rfl, rfl, fun m ↦ by simp⟩
  | succ n ih =>
    rw [List.range_succ, List.foldl_append, List.foldl_cons, List.foldl_nil] at hfold
    obtain ⟨hitems, hmap, hlevel, hmods⟩ := ih (Nat.le_of_succ_le hn) rfl
    generalize (List.range n).foldl _ player = before at hfold hitems hmap hlevel hmods
    have hamount : ∀ m, before.amount GetTemplate n m = player.amount GetTemplate n m := fun m ↦
      amount_congr (by rw [hitems]) hlevel fun _ _ ↦ by rw [hmap]
    cases hitem : before.m_items n with
    | none =>
      rw [hitem] at hfold
      subst hfold
      refine ⟨hitems, hmap, hlevel, fun m ↦ ?_⟩
      rw [hmods, Finset.sum_range_succ, ← hamount, amount_of_none hitem, add_zero]
    | some item =>
      rw [hitem] at hfold
      have hslot : ¬ INVENTORY_SLOT_BAG_END ≤ n := Nat.not_le.mpr hn
      have happly : before._ApplyItemBonuses (GetTemplate item) n true =
          before._ApplyItemMods GetTemplate item n true := by rw [_ApplyItemMods, if_neg hslot]
      dsimp only at hfold
      rw [happly] at hfold
      subst hfold
      refine ⟨(_ApplyItemMods_m_items true).trans hitems, (_ApplyItemMods_reforgeMap true).trans hmap,
        (_ApplyItemMods_level true).trans hlevel, fun m ↦ ?_⟩
      rw [_ApplyItemMods_mods true hn hitem, hmods, Finset.sum_range_succ, hamount, if_pos rfl]
      ring

theorem Accounted.onLogin (h : player.Accounted GetTemplate) {rows : List (ℕ × ReforgeData)}
    (hrows : ∀ row ∈ rows, (GetTemplate row.1).Fits player.level row.2 ∧ player.NoBag row.1) :
    (player.OnLogin GetTemplate rows).Accounted GetTemplate := by
  induction rows generalizing player with
  | nil => exact h
  | cons row rows ih =>
    obtain ⟨⟨hfits, hbag⟩, hrows⟩ := List.forall_mem_cons.mp hrows
    obtain ⟨hitems, _, hlevel, _⟩ :=
      changeReforge_spec GetTemplate player row.1 (player.GetItemByGuid row.1) (some row.2)
    rw [OnLogin, List.foldl_cons]
    refine ih (h.changeReforge (foundAt_getItemByGuid h row.1) hbag fun data hdata ↦ Option.some.inj hdata ▸ hfits)
      fun row' hrow' ↦ ?_
    rw [hlevel, NoBag, hitems]
    exact hrows row' hrow'

theorem accounted_login {level money : ℕ} {items : List (ℕ × ℕ)} {bagged : List ℕ} {rows : List (ℕ × ReforgeData)}
    (hitems : (items.map (·.2)).Nodup) (hinside : ∀ p ∈ items, p.1 < CURRENCYTOKEN_SLOT_END)
    (hrows : ∀ row ∈ rows, (GetTemplate row.1).Fits level row.2 ∧
      ∀ slot, EQUIPMENT_SLOT_END ≤ slot → slot < INVENTORY_SLOT_BAG_END → (slot, row.1) ∉ items) :
    (login GetTemplate level money items bagged rows).Accounted GetTemplate := by
  rw [login]
  generalize hloaded : (⟨fun slot ↦ (items.find? (·.1 = slot)).map (·.2), bagged, fun _ ↦ true, fun _ ↦ none,
    fun _ ↦ 0, money, level⟩ : Player) = loaded
  have hmem : ∀ slot item, loaded.m_items slot = some item → (slot, item) ∈ items := fun slot item h ↦ by
    subst hloaded
    obtain ⟨p, hp, rfl⟩ := Option.map_eq_some_iff.mp h
    have hslot := List.find?_some hp
    obtain rfl : p.1 = slot := of_decide_eq_true hslot
    exact List.mem_of_find?_eq_some hp
  have hbefore : loaded.reforgeMap = fun _ ↦ none := hloaded ▸ rfl
  have hzero : loaded.mods = fun _ ↦ 0 := hloaded ▸ rfl
  have hlevel₀ : loaded.level = level := hloaded ▸ rfl
  obtain ⟨happlied, hmap, hlevel, hmods⟩ :
      (loaded._ApplyAllItemMods GetTemplate).m_items = loaded.m_items ∧
        (loaded._ApplyAllItemMods GetTemplate).reforgeMap = loaded.reforgeMap ∧
        (loaded._ApplyAllItemMods GetTemplate).level = loaded.level ∧
        ∀ m, (loaded._ApplyAllItemMods GetTemplate).mods m = loaded.mods m +
          ∑ slot ∈ Finset.range INVENTORY_SLOT_BAG_END, loaded.amount GetTemplate slot m :=
    foldl_applyAll INVENTORY_SLOT_BAG_END le_rfl rfl
  refine Accounted.onLogin ⟨fun slot item h ↦ ?_, fun slot slot' item h h' ↦ ?_, fun m ↦ ?_, fun item data h ↦ ?_⟩
    fun row hrow ↦ ?_
  · exact hinside _ (hmem slot item (happlied ▸ h))
  · have hsame := List.inj_on_of_nodup_map hitems (hmem slot item (happlied ▸ h))
      (hmem slot' item (happlied ▸ h')) rfl
    exact congrArg Prod.fst hsame
  · rw [hmods, hzero]
    refine (zero_add _).trans (Finset.sum_congr rfl fun slot _ ↦ (amount_congr ?_ hlevel fun _ _ ↦ ?_).symm)
    · rw [happlied]
    · rw [hmap]
  · simp [hmap, hbefore] at h
  · obtain ⟨hfits, hbag⟩ := hrows row hrow
    rw [hlevel, hlevel₀]
    exact ⟨hfits, fun slot hge hlt hitem ↦ hbag slot hge hlt (hmem slot row.1 (happlied ▸ hitem))⟩

/-! ## Runs -/

variable (GetTemplate player) in
/-- Which calls are right.  Entries that are loaded are ones for the items, and no item in a slot for a bag has one or
loses one. -/
def RightCall : Call → Prop
  | .login level _ items _ rows => ∀ row ∈ rows, (GetTemplate row.1).Fits level row.2 ∧
      ∀ slot, EQUIPMENT_SLOT_END ≤ slot → slot < INVENTORY_SLOT_BAG_END → (slot, row.1) ∉ items
  | .gossip sender melt => player.RightOption GetTemplate sender melt
  | .giveAway slot => ∀ item, player.m_items slot = some item → player.reforgeMap item = none ∨ player.NoBag item
  | .giveAwayFromBag item => player.reforgeMap item = none ∨ player.NoBag item
  | _ => True

theorem Accounted.lacks (h : player.Accounted GetTemplate) (hlacks : player.lacks item = true) (i : ℕ) :
    player.m_items i ≠ some item := by
  intro hitem
  have hi := List.all_eq_true.mp hlacks i (List.mem_range.mpr (h.inside i item hitem))
  exact of_decide_eq_true hi hitem

/-- **A call** keeps the account. -/
theorem Accounted.next (h : player.Accounted GetTemplate) {call : Call} (hright : player.RightCall GetTemplate call)
    {player' : Player} (hnext : (players GetTemplate).next player call = some player') :
    player'.Accounted GetTemplate := by
  cases call with
  | login level money items bagged rows =>
    obtain ⟨⟨_, hitems, hinside⟩, hnext⟩ := Option.ite_none_right_eq_some.mp hnext
    obtain rfl := Option.some.inj hnext
    have hinside : ∀ p ∈ items, p.1 < CURRENCYTOKEN_SLOT_END := fun p hp ↦
      of_decide_eq_true (List.all_eq_true.mp hinside p hp)
    exact accounted_login hitems hinside hright
  | equip slot item =>
    obtain ⟨⟨hslot, hempty, hlacks⟩, hnext⟩ := Option.ite_none_right_eq_some.mp hnext
    obtain rfl := Option.some.inj hnext
    exact h.equipItem hslot hempty (h.lacks hlacks)
  | store slot item =>
    obtain ⟨⟨hslot, hinside, hempty, hlacks⟩, hnext⟩ := Option.ite_none_right_eq_some.mp hnext
    obtain rfl := Option.some.inj hnext
    exact h.storeItem hslot hinside hempty (h.lacks hlacks)
  | storeInBag item =>
    obtain rfl := Option.some.inj hnext
    exact h.congr rfl rfl rfl rfl
  | remove slot =>
    obtain ⟨item, hitem, rfl⟩ := Option.map_eq_some_iff.mp hnext
    exact h.removeItem hitem
  | removeFromBag item =>
    obtain rfl := Option.some.inj hnext
    exact h.congr rfl rfl rfl rfl
  | destroy slot =>
    obtain ⟨item, hitem, rfl⟩ := Option.map_eq_some_iff.mp hnext
    exact h.removeItem hitem
  | giveAway slot =>
    obtain ⟨item, hitem, rfl⟩ := Option.map_eq_some_iff.mp hnext
    have hkept : (player.RemoveReforge GetTemplate item).m_items slot = some item := by
      rw [RemoveReforge_m_items]
      exact hitem
    exact (h.removeReforge (hright item hitem)).removeItem hkept
  | giveAwayFromBag item =>
    obtain rfl := Option.some.inj hnext
    exact (h.removeReforge hright).congr rfl rfl rfl rfl
  | gossip sender melt =>
    obtain rfl := Option.some.inj hnext
    exact h.gossip hright

theorem accounted_start : (players GetTemplate).start.Accounted GetTemplate := by
  dsimp only [players]
  exact accounted_login List.nodup_nil (fun _ h ↦ absurd h List.not_mem_nil) fun _ h ↦ absurd h List.not_mem_nil

/-- Two stats that are told apart have different modifiers, if one of them can be increased. -/
theorem exists_weight_ne {increase decrease : ℕ} (hincrease : increase ∈ statTypes) (hdecrease : decrease < 2 ^ 8)
    (hne : decrease ≠ increase) : ∃ m, weight increase m ≠ weight decrease m := by
  have hall : (statTypes.all fun increase ↦ (List.range (2 ^ 8)).all fun decrease ↦
      decide (decrease = increase) || (modifiers increase).any fun m ↦ weight increase m ≠ weight decrease m) =
        true := by decide +kernel
  have hone := List.all_eq_true.mp (List.all_eq_true.mp hall increase hincrease) decrease (List.mem_range.mpr hdecrease)
  rw [Bool.or_eq_true, decide_eq_true_iff, List.any_eq_true] at hone
  obtain ⟨m, _, hm⟩ := hone.resolve_left hne
  exact ⟨m, of_decide_eq_true hm⟩

variable (GetTemplate player) in
/-- Money is taken for an option only if it records a reforge with which the item adds something else. -/
def PaysForReforge (sender melt : ℕ) : Prop := (player.OnGossipSelect GetTemplate sender melt).money < player.money →
    ∃ item data, player.reforgeMap item = none ∧
      (player.OnGossipSelect GetTemplate sender melt).reforgeMap item = some data ∧
      ∃ m, total ((GetTemplate item).stats player.level (some data)) m ≠
        total ((GetTemplate item).stats player.level none) m

theorem paysForReforge {sender melt : ℕ} (hright : player.RightOption GetTemplate sender melt) :
    player.PaysForReforge GetTemplate sender melt := by
  intro hmoney
  rcases OnGossipSelect_cases GetTemplate player sender melt with heq | ⟨_, heq⟩ | ⟨slot, data, amount, hreforge, heq⟩
  · rw [heq] at hmoney
    exact absurd hmoney (lt_irrefl _)
  · rw [heq, RemoveReforge_money] at hmoney
    exact absurd hmoney (lt_irrefl _)
  · obtain ⟨_, hnone, hroom, hpositive, hincrease, i, hi, htype, hvalue⟩ := reforgeOf_spec hreforge
    refine ⟨sender, data, hnone, ?_, ?_⟩
    · simp [heq, (ModifyMoney_spec _ amount).2.1, (changeReforge_spec GetTemplate player sender _ _).2.1]
    · have hfits : (GetTemplate sender).Fits player.level data :=
        ⟨(hright.2 slot data hreforge).2, hroom, i, hi, htype, hvalue⟩
      have hne : data.decrease ≠ data.increase := htype ▸ hincrease i hi
      obtain ⟨m, hm⟩ := exists_weight_ne (reforgeOf_stats hreforge).1 (reforgeOf_stats hreforge).2 hne
      refine ⟨m, fun hsame ↦ hm ?_⟩
      rw [ItemTemplate.total_stats hfits, ItemTemplate.stats_none] at hsame
      have hzero : data.stat_value * (weight data.increase m - weight data.decrease m) = 0 := by linarith
      exact sub_eq_zero.mp ((mul_eq_zero.mp hzero).resolve_left hpositive.ne')

variable (GetTemplate player) in
/-- Every modifier is the sum of what the items in the slots are to add. -/
def SumsUp : Prop := ∃ f : ℕ → Modifier → ℤ, (∀ slot, match player.m_items slot with
      | none => ∀ m, f slot m = 0
      | some item => (GetTemplate item).Contributes player.level (player.reforgeMap item) (f slot)) ∧
    ∀ m, player.mods m = ∑ slot ∈ Finset.range INVENTORY_SLOT_BAG_END, f slot m

theorem Accounted.sumsUp (h : player.Accounted GetTemplate) : player.SumsUp GetTemplate := by
  refine ⟨fun slot m ↦ player.amount GetTemplate slot m, fun slot ↦ ?_, h.mods_eq⟩
  cases hitem : player.m_items slot with
  | none => exact fun m ↦ amount_of_none hitem
  | some item =>
    have hamount : player.amount GetTemplate slot =
        total ((GetTemplate item).stats player.level (player.reforgeMap item)) := by
      funext m
      rw [amount, hitem]
    dsimp only
    rw [hamount]
    exact ItemTemplate.contributes_stats fun data hdata ↦ h.fits item data hdata

/-- **In every run of right calls** the modifiers are the sums of what the items in the slots are to add, and money is
taken for reforges only. -/
theorem sumsUp_of_reaches
    (h : (players GetTemplate).Reaches (fun player call ↦ player.RightCall GetTemplate call) player) :
    player.SumsUp GetTemplate ∧ ∀ sender melt, player.RightCall GetTemplate (.gossip sender melt) →
        player.PaysForReforge GetTemplate sender melt := by
  have haccounted : player.Accounted GetTemplate :=
    h.invariant accounted_start fun _ _ _ hplayer hright hnext ↦ hplayer.next hright hnext
  exact ⟨haccounted.sumsUp, fun _ _ hright ↦ paysForReforge hright⟩

/-- A sword with ten points of spirit. -/
def sword : ItemTemplate where
  StatsCount := 1
  ItemStat i := if i.val = 0 then ⟨6, 10⟩ else ⟨0, 0⟩
  ScalingStatDistribution := none
  ssdMultiplier _ := none
  SellPrice := 500
  statsCount_le := by decide

/-- The same sword, whose stats scale with the level. -/
def heirloom : ItemTemplate :=
  { sword with
    ScalingStatDistribution := some ⟨fun i ↦ if i.val = 0 then 6 else -1, fun _ ↦ 10000, 80⟩
    ssdMultiplier := fun _ ↦ some 10 }

/-- The option that moves spirit to stamina. -/
def spiritToStamina : ℕ := 6 * 2 ^ 8 + 6

/-- A player with one item, the sword of guid 1, in the first slot. -/
def oneSword (GetTemplate : ℕ → ItemTemplate) : Player := login GetTemplate 80 200000 [(0, 1)] [] []

theorem next_oneSword (GetTemplate : ℕ → ItemTemplate) :
    (players GetTemplate).next (players GetTemplate).start (.login 80 200000 [(0, 1)] [] []) =
      some (oneSword GetTemplate) := by
  dsimp only [players]
  exact if_pos (by decide)

/-- The heirloom is reforged for ten pieces of gold, and adds what it did before. -/
theorem not_sumsUp :
    ¬ ∀ (GetTemplate : ℕ → ItemTemplate) (player : Player), (players GetTemplate).Reachable player →
      player.SumsUp GetTemplate ∧ ∀ sender melt, player.PaysForReforge GetTemplate sender melt := by
  intro h
  have hreach : (players fun _ ↦ heirloom).Reachable (oneSword fun _ ↦ heirloom) :=
    .step .start trivial (next_oneSword _)
  have hmoney : ((oneSword fun _ ↦ heirloom).OnGossipSelect (fun _ ↦ heirloom) 1 spiritToStamina).money <
      (oneSword fun _ ↦ heirloom).money := by decide +kernel
  obtain ⟨_, _, _, _, _, hne⟩ := (h _ _ hreach).2 1 spiritToStamina hmoney
  exact hne rfl

/-- The sword is reforged. -/
theorem sumsUp_of_reaches_oneReforge :
    ((oneSword fun _ ↦ sword).OnGossipSelect (fun _ ↦ sword) 1 spiritToStamina).money = 100000 ∧
      ((oneSword fun _ ↦ sword).OnGossipSelect (fun _ ↦ sword) 1 spiritToStamina).SumsUp fun _ ↦ sword := by
  have hlogin : (players fun _ ↦ sword).Reaches (fun player call ↦ player.RightCall (fun _ ↦ sword) call)
      (oneSword fun _ ↦ sword) := .step .start (fun _ h ↦ absurd h List.not_mem_nil) (next_oneSword _)
  have hslot : (oneSword fun _ ↦ sword).m_items 0 = some 1 := by decide +kernel
  have haccounted : (oneSword fun _ ↦ sword).Accounted fun _ ↦ sword :=
    hlogin.invariant accounted_start fun _ _ _ hplayer hright hnext ↦ hplayer.next hright hnext
  have hbag : (oneSword fun _ ↦ sword).NoBag 1 := fun slot hge _ hitem ↦ by
    rw [haccounted.apart slot 0 1 hitem hslot] at hge
    exact absurd hge (by decide)
  have hright : (oneSword fun _ ↦ sword).RightCall (fun _ ↦ sword) (.gossip 1 spiritToStamina) :=
    ⟨fun hmenu ↦ absurd hmenu (by decide), fun _ _ _ ↦ ⟨hbag, rfl⟩⟩
  refine ⟨by decide +kernel, ?_⟩
  exact (sumsUp_of_reaches (.step hlogin hright rfl)).1

end Player

end Gundrak.Items
