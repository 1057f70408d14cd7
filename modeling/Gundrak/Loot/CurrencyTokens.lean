import Gundrak.Loot.UnlootedCount
import Gundrak.Util.Elementwise

/-!
# Currency tokens that go into the bags at once

`FillNotNormalLootFor` ends with a loop over the slots of the player's loot window.  A free for all item that is a
currency token is stored for him at once, by `StoreLootItem`, so that he finds its slot looted.

Two things go wrong with it.  A slot behind the items is the player's own list of quest items, but the loop looks into
`quest_items` itself: it tests the item of another slot unless the player is shown the first quest items, in their order
(**`examined_iff`**).  And `Player::AutoStoreLoot` fills a loot for one player and then asks `LootItemInSlot` for the item
of every slot, without looking whether there is one: there is none where a token was stored before
(**`lootItemInSlot_autoStoreLoot_iff`**).

While the loop runs nothing is reordered, and what is looted stays looted (`Advances`).
-/

open Std (ExtTreeMap)

namespace Gundrak.Looting

namespace Loot

variable (loot : Loot) (guid : ObjectGuid)

/-! ## The loop -/

/-- The place of an item in a loot. -/
inductive Place where
  | item (i : ℕ)
  | questItem (i : ℕ)
deriving DecidableEq

/-- The place of the item that `LootItemInSlot` finds in a slot, looted or not. -/
def slotPlace (i : ℕ) : Option Place :=
  (loot.itemInSlot guid i).map fun p ↦ if p.1.entry.isQitem then .questItem p.1.index else .item p.1.index

/-- The place of the item that the loop tests. -/
def testedPlace (i : ℕ) : Place := if i < loot.items.length then .item i else .questItem (i - loot.items.length)

/-- Whether the loop calls `StoreLootItem` for a slot. -/
def callsStore (view : StoreView) (i : ℕ) : Bool := (loot.currencyAt i).any fun item ↦
    !item.is_looted && item.freeforall && view.allowed item && item.proto.IsCurrencyToken

/-- The loot before a pass of the loop. -/
def beforePass (views : ℕ → StoreView) (i : ℕ) : Loot := (List.range i).foldl (takeCurrency guid views) loot

/-- In a slot the loop tests the item of that slot, and it only calls `StoreLootItem` if that is a free for all
currency token. -/
structure Examined (view : StoreView) (i : ℕ) : Prop where
  place : loot.slotPlace guid i = some (loot.testedPlace i)
  token : loot.callsStore view i = true → ∃ found, loot.itemInSlot guid i = some found ∧
    found.1.item.freeforall = true ∧ found.1.item.proto.IsCurrencyToken = true

/-- The lists of quest items point to quest items. -/
def Indexed : Prop := ∀ (guid : ObjectGuid) (list : List NotNormalLootItem), loot.PlayerQuestItems[guid]? = some list →
    ∀ entry ∈ list, entry.index < loot.quest_items.length

/-- The quest items that the player is shown: those of his list, or of the one that is made for him. -/
def questList (player : Player) : List ℕ :=
  match loot.PlayerQuestItems[player.guid]? with
  | some list => list.map NotNormalLootItem.index
  | none => if loot.items.length = MAX_NR_LOOT_ITEMS then [] else loot.questIndices player

variable {loot guid} {views : ℕ → StoreView} {player : Player} {i : ℕ}

theorem takeCurrency_eq : takeCurrency guid views loot i =
      if loot.callsStore (views i) i then loot.StoreLootItem guid i (views i) else loot := by
  rw [takeCurrency, callsStore]
  cases loot.currencyAt i with
  | none => rfl
  | some item => rfl

theorem beforePass_succ :
    loot.beforePass guid views (i + 1) = takeCurrency guid views (loot.beforePass guid views i) i := by
  rw [beforePass, List.range_succ, List.foldl_append]
  rfl

theorem fillNotNormalLootFor_eq : loot.FillNotNormalLootFor player true views =
      (loot.fillLists player true).beforePass player.guid views
        ((loot.fillLists player true).GetMaxSlotInLootFor player.guid) := rfl

/-! ## What the loop keeps -/

/-- An entry of a list is the same, or looted now. -/
def EntryAdvances (entry entry' : NotNormalLootItem) : Prop :=
  entry.index = entry'.index ∧ (entry.is_looted = true → entry'.is_looted = true)

/-- An item is the same, or looted now. -/
def ItemAdvances (item item' : LootItem) : Prop :=
  item.freeforall = item'.freeforall ∧ item.conditions = item'.conditions ∧
    (item.is_looted = true → item'.is_looted = true)

/-- Nothing is reordered, and what is looted stays looted. -/
structure Advances (loot loot' : Loot) : Prop where
  items : List.Forall₂ ItemAdvances loot.items loot'.items
  quest_items : loot.quest_items.length = loot'.quest_items.length
  quest : ∀ guid : ObjectGuid,
    Option.Rel (List.Forall₂ EntryAdvances) loot.PlayerQuestItems[guid]? loot'.PlayerQuestItems[guid]?
  ffa : ∀ guid : ObjectGuid,
    Option.Rel (List.Forall₂ EntryAdvances) loot.PlayerFFAItems[guid]? loot'.PlayerFFAItems[guid]?
  conditional : ∀ guid : ObjectGuid,
    Option.Rel (List.Forall₂ EntryAdvances) loot.PlayerNonQuestNonFFAConditionalItems[guid]?
      loot'.PlayerNonQuestNonFFAConditionalItems[guid]?

theorem EntryAdvances.refl (entry : NotNormalLootItem) : EntryAdvances entry entry := ⟨rfl, id⟩

theorem ItemAdvances.refl (item : LootItem) : ItemAdvances item item := ⟨rfl, rfl, id⟩

theorem EntryAdvances.trans {a b c : NotNormalLootItem} (h : EntryAdvances a b) (h' : EntryAdvances b c) :
    EntryAdvances a c := ⟨h.1.trans h'.1, h'.2 ∘ h.2⟩

theorem ItemAdvances.trans {a b c : LootItem} (h : ItemAdvances a b) (h' : ItemAdvances b c) : ItemAdvances a c :=
  ⟨h.1.trans h'.1, h.2.1.trans h'.2.1, h'.2.2 ∘ h.2.2⟩

theorem forall₂_entry_refl (list : List NotNormalLootItem) : List.Forall₂ EntryAdvances list list :=
  List.forall₂_same.mpr fun entry _ ↦ .refl entry

theorem forall₂_entry_trans {a b c : List NotNormalLootItem} (h : List.Forall₂ EntryAdvances a b)
    (h' : List.Forall₂ EntryAdvances b c) : List.Forall₂ EntryAdvances a c :=
  Elementwise.forall₂_trans (r := EntryAdvances) EntryAdvances.trans h h'

namespace Advances

variable {loot' loot'' : Loot}

theorem refl (loot : Loot) : Advances loot loot where
  items := List.forall₂_same.mpr fun item _ ↦ .refl item
  quest_items := rfl
  quest _ := Elementwise.rel_refl forall₂_entry_refl _
  ffa _ := Elementwise.rel_refl forall₂_entry_refl _
  conditional _ := Elementwise.rel_refl forall₂_entry_refl _

theorem trans (h : Advances loot loot') (h' : Advances loot' loot'') : Advances loot loot'' where
  items := Elementwise.forall₂_trans (r := ItemAdvances) ItemAdvances.trans h.items h'.items
  quest_items := h.quest_items.trans h'.quest_items
  quest guid := Elementwise.rel_trans (r := List.Forall₂ EntryAdvances) forall₂_entry_trans (h.quest guid)
    (h'.quest guid)
  ffa guid := Elementwise.rel_trans (r := List.Forall₂ EntryAdvances) forall₂_entry_trans (h.ffa guid)
    (h'.ffa guid)
  conditional guid := Elementwise.rel_trans (r := List.Forall₂ EntryAdvances) forall₂_entry_trans (h.conditional guid)
      (h'.conditional guid)

theorem setLooted (m : NotNormalLootItemMap) (guid : ObjectGuid) (pos : ℕ) (a : ObjectGuid) :
    Option.Rel (List.Forall₂ EntryAdvances) m[a]? (Loot.setLooted m guid pos)[a]? := by
  rw [Loot.setLooted, TreeMap.get_modify]
  split
  next heq =>
    subst heq
    cases m[guid]? with
    | none => exact .none
    | some list =>
      refine .some (Elementwise.forall₂_modify (f := NotNormalLootItem.looted) EntryAdvances.refl
        (fun entry ↦ ?_) list pos)
      exact ⟨rfl, fun _ ↦ rfl⟩
  next => exact Elementwise.rel_refl forall₂_entry_refl _

section

variable (loot : Loot)

theorem markEntry (guid : ObjectGuid) (entry : ListEntry) : Advances loot (loot.markEntry guid entry) := by
  cases entry with
  | none => exact .refl loot
  | qitem pos => exact { Advances.refl loot with quest := setLooted _ guid pos }
  | ffaitem pos => exact { Advances.refl loot with ffa := setLooted _ guid pos }
  | conditem pos => exact { Advances.refl loot with conditional := setLooted _ guid pos }

theorem markItem (found : SlotItem) : Advances loot (loot.markItem found) := by
  have hitems : Advances loot
      { loot with items := loot.items.modify found.index fun item ↦ { item with is_looted := true } } :=
    { Advances.refl loot with
      items := Elementwise.forall₂_modify (f := fun item ↦ { item with is_looted := true }) ItemAdvances.refl
        (fun item ↦ ⟨rfl, rfl, fun _ ↦ rfl⟩) loot.items found.index }
  rw [Loot.markItem]
  split
  · exact .refl loot
  · cases found.entry with
    | qitem pos => exact { Advances.refl loot with quest_items := by simp }
    | _ => exact hitems

theorem storeLootItem (guid : ObjectGuid) (lootSlot : ℕ) (view : StoreView) :
    Advances loot (loot.StoreLootItem guid lootSlot view) := by
  rw [StoreLootItem]
  cases loot.LootItemInSlot guid lootSlot with
  | none => exact .refl loot
  | some found =>
    dsimp only
    split
    · have h := (markEntry loot guid found.entry).trans (markItem _ found)
      exact ⟨h.items, h.quest_items, h.quest, h.ffa, h.conditional⟩
    · exact .refl loot

theorem takeCurrency (guid : ObjectGuid) (views : ℕ → StoreView) (i : ℕ) :
    Advances loot (Loot.takeCurrency guid views loot i) := by
  rw [takeCurrency_eq]
  split
  · exact storeLootItem loot guid i (views i)
  · exact .refl loot

theorem beforePass (guid : ObjectGuid) (views : ℕ → StoreView) (i : ℕ) :
    Advances loot (loot.beforePass guid views i) := by
  induction i with
  | zero => exact .refl loot
  | succ i ih =>
    rw [beforePass_succ]
    exact ih.trans (takeCurrency _ guid views i)

theorem beforePass_of_le (guid : ObjectGuid) (views : ℕ → StoreView) {n : ℕ} (hin : i ≤ n) :
    Advances (loot.beforePass guid views i) (loot.beforePass guid views n) := by
  induction n, hin using Nat.le_induction with
  | base => exact .refl _
  | succ n _ ih =>
    rw [beforePass_succ]
    exact ih.trans (takeCurrency _ guid views n)

end

/-! ### What follows -/

theorem length_items (h : Advances loot loot') : loot.items.length = loot'.items.length := h.items.length_eq

theorem map_index {list list' : List NotNormalLootItem} (h : List.Forall₂ EntryAdvances list list') :
    list.map NotNormalLootItem.index = list'.map NotNormalLootItem.index := by
  induction h with
  | nil => rfl
  | cons h _ ih => rw [List.map_cons, List.map_cons, h.1, ih]

theorem findIdx?_index (list : List NotNormalLootItem) (lootSlot : ℕ) :
    (list.findIdx? fun entry ↦ entry.index == lootSlot) =
      (list.map NotNormalLootItem.index).findIdx? (· == lootSlot) := by
  rw [List.findIdx?_map]
  rfl

theorem findEntry {m m' : NotNormalLootItemMap} (lootSlot : ℕ)
    (h : Option.Rel (List.Forall₂ EntryAdvances) m[guid]? m'[guid]?) :
    Option.Rel (fun p p' : ℕ × NotNormalLootItem ↦ p.1 = p'.1 ∧ EntryAdvances p.2 p'.2)
      (Loot.findEntry m guid lootSlot) (Loot.findEntry m' guid lootSlot) := by
  rw [Loot.findEntry, Loot.findEntry]
  generalize m[guid]? = o at h
  generalize m'[guid]? = o' at h
  cases h with
  | none => exact .none
  | some h =>
    rename_i list list'
    dsimp only
    rw [findIdx?_index, findIdx?_index, map_index h]
    cases (list'.map NotNormalLootItem.index).findIdx? (· == lootSlot) with
    | none => exact .none
    | some pos =>
      dsimp only
      have hget := Elementwise.rel_getElem? h pos
      generalize list[pos]? = e at hget
      generalize list'[pos]? = e' at hget
      cases hget with
      | none => exact .none
      | some hget => exact .some ⟨rfl, hget⟩

theorem eq_false_of_imp {a b : Bool} (h : a = true → b = true) (hb : b = false) : a = false := by
  cases a with
  | false => rfl
  | true => rw [h rfl] at hb; cases hb

/-- A slot whose item is not looted had one that was not looted. -/
theorem itemInSlot (h : Advances loot loot') {found' : SlotItem}
    (hslot : loot'.itemInSlot guid i = some (found', false)) :
    ∃ found, loot.itemInSlot guid i = some (found, false) := by
  unfold Loot.itemInSlot at hslot ⊢
  rw [← h.length_items] at hslot
  by_cases hi : loot.items.length ≤ i
  · rw [if_pos hi] at hslot ⊢
    have hlist := h.quest guid
    generalize loot.PlayerQuestItems[guid]? = o at hlist
    generalize loot'.PlayerQuestItems[guid]? = o' at hlist hslot
    cases hlist with
    | none => cases hslot
    | some hlist =>
      rename_i list list'
      dsimp only at hslot ⊢
      have hentry := Elementwise.rel_getElem? hlist (i - loot.items.length)
      generalize list[i - loot.items.length]? = e at hentry
      generalize list'[i - loot.items.length]? = e' at hentry hslot
      cases hentry with
      | none => cases hslot
      | some hentry =>
        rename_i entry entry'
        rw [Option.map_eq_some_iff] at hslot
        obtain ⟨item', hitem', heq⟩ := hslot
        have hlooted : entry'.is_looted = false := (Prod.mk.inj heq).2
        have hlt : entry.index < loot.quest_items.length := by
          rw [hentry.1, h.quest_items]
          exact (List.getElem?_eq_some_iff.mp hitem').1
        dsimp only
        rw [List.getElem?_eq_getElem hlt, Option.map_some, eq_false_of_imp hentry.2 hlooted]
        exact ⟨_, rfl⟩
  · rw [if_neg hi] at hslot ⊢
    have hitem := Elementwise.rel_getElem? h.items i
    generalize loot.items[i]? = o at hitem
    generalize loot'.items[i]? = o' at hitem hslot
    cases hitem with
    | none => cases hslot
    | some hitem =>
      rename_i item item'
      obtain ⟨hfree, hcond, hloot⟩ := hitem
      rw [Option.map_some, Option.some_inj, ← hfree, ← hcond] at hslot
      rw [Option.map_some]
      have hffa := Advances.findEntry i (h.ffa guid)
      have hconditional := Advances.findEntry i (h.conditional guid)
      generalize Loot.findEntry loot.PlayerFFAItems guid i = f at hffa
      generalize Loot.findEntry loot'.PlayerFFAItems guid i = f' at hffa hslot
      generalize Loot.findEntry loot.PlayerNonQuestNonFFAConditionalItems guid i = c at hconditional
      generalize Loot.findEntry loot'.PlayerNonQuestNonFFAConditionalItems guid i = c' at hconditional hslot
      cases hf : item.freeforall with
      | true =>
        rw [hf, if_pos rfl] at hslot
        rw [if_pos rfl]
        cases hffa with
        | none =>
          dsimp only
          rw [eq_false_of_imp hloot (Prod.mk.inj hslot).2]
          exact ⟨_, rfl⟩
        | some hffa =>
          dsimp only
          rw [eq_false_of_imp hffa.2.2 (Prod.mk.inj hslot).2]
          exact ⟨_, rfl⟩
      | false =>
        rw [hf, if_neg Bool.false_ne_true] at hslot
        rw [if_neg Bool.false_ne_true]
        cases hc : item.conditions with
        | true =>
          rw [hc, if_pos rfl] at hslot
          rw [if_pos rfl]
          cases hconditional with
          | none =>
            dsimp only
            rw [eq_false_of_imp hloot (Prod.mk.inj hslot).2]
            exact ⟨_, rfl⟩
          | some hconditional =>
            dsimp only
            rw [eq_false_of_imp hconditional.2.2 (Prod.mk.inj hslot).2]
            exact ⟨_, rfl⟩
        | false =>
          rw [hc, if_neg Bool.false_ne_true] at hslot
          rw [if_neg Bool.false_ne_true, eq_false_of_imp hloot (Prod.mk.inj hslot).2]
          exact ⟨_, rfl⟩

theorem lootItemInSlot (h : Advances loot loot') (hnone : loot.LootItemInSlot guid i = none) :
    loot'.LootItemInSlot guid i = none := by
  rw [LootItemInSlot] at hnone ⊢
  cases hslot : loot'.itemInSlot guid i with
  | none => rfl
  | some p =>
    obtain ⟨found', is_looted⟩ := p
    cases is_looted with
    | true => rfl
    | false =>
      obtain ⟨found, hfound⟩ := h.itemInSlot hslot
      simp [hfound] at hnone

theorem indices (h : Advances loot loot') (guid : ObjectGuid) :
    (loot.PlayerQuestItems[guid]?).map (List.map NotNormalLootItem.index) =
      (loot'.PlayerQuestItems[guid]?).map (List.map NotNormalLootItem.index) := by
  have hlist := h.quest guid
  generalize loot.PlayerQuestItems[guid]? = o at hlist
  generalize loot'.PlayerQuestItems[guid]? = o' at hlist
  cases hlist with
  | none => rfl
  | some hlist => exact congrArg some (map_index hlist)

end Advances

/-! ## Which items the loop tests -/

theorem fillLists_rule {P : Loot → Prop} {presentAtLooting : Bool} (h : P loot)
    (hquest : ∀ loot, P loot → P (loot.FillQuestLoot player)) (hffa : ∀ loot, P loot → P (loot.FillFFALoot player))
    (hconditional : ∀ loot, P loot → P (loot.FillNonQuestNonFFAConditionalLoot player presentAtLooting)) :
    P (loot.fillLists player presentAtLooting) := by
  rw [fillLists]
  split_ifs
  · exact h
  · exact hconditional _ h
  · exact hffa _ h
  · exact hconditional _ (hffa _ h)
  · exact hquest _ h
  · exact hconditional _ (hquest _ h)
  · exact hffa _ (hquest _ h)
  · exact hconditional _ (hffa _ (hquest _ h))

theorem length_quest_items_fillLists (presentAtLooting : Bool) :
    (loot.fillLists player presentAtLooting).quest_items.length = loot.quest_items.length := by
  refine fillLists_rule (P := fun l ↦ l.quest_items.length = loot.quest_items.length) rfl (fun l hl ↦ ?_)
    (fun _ hl ↦ hl) fun _ hl ↦ hl
  rw [FillQuestLoot]
  split
  · exact hl
  · exact List.length_mapIdx.trans hl

theorem indices_fillLists (loot : Loot) (player : Player) (presentAtLooting : Bool) :
    (((loot.fillLists player presentAtLooting).PlayerQuestItems[player.guid]?).map
      (List.map NotNormalLootItem.index)).getD [] = loot.questList player := by
  have hkept : (loot.fillLists player presentAtLooting).PlayerQuestItems =
      if loot.PlayerQuestItems.contains player.guid then loot.PlayerQuestItems
      else (loot.FillQuestLoot player).PlayerQuestItems := by
    rw [fillLists]
    split_ifs
    all_goals rfl
  rw [hkept, questList]
  cases hlist : loot.PlayerQuestItems[player.guid]? with
  | some list =>
    have hmem : loot.PlayerQuestItems.contains player.guid = true := by
      rw [ExtTreeMap.contains_iff_mem, ExtTreeMap.mem_iff_isSome_getElem?, hlist]
      rfl
    simp [hmem, hlist]
  | none =>
    have hmem : ¬ loot.PlayerQuestItems.contains player.guid = true := by
      rw [ExtTreeMap.contains_iff_mem, ExtTreeMap.mem_iff_isSome_getElem?, hlist]
      simp
    rw [if_neg hmem, FillQuestLoot]
    by_cases hfull : loot.items.length = MAX_NR_LOOT_ITEMS
    · simp [hfull, hlist]
    · rw [if_neg hfull, if_neg hfull, get_withList]
      by_cases hnil : loot.questIndices player = []
      · simp [hlist, hnil]
      · rw [if_pos ⟨rfl, hnil⟩, Option.map_some, map_index_freshList]
        rfl

theorem getMaxSlotInLootFor_eq (loot : Loot) (guid : ObjectGuid) : loot.GetMaxSlotInLootFor guid = loot.items.length +
      (((loot.PlayerQuestItems[guid]?).map (List.map NotNormalLootItem.index)).getD []).length := by
  rw [GetMaxSlotInLootFor]
  cases loot.PlayerQuestItems[guid]? with
  | none => rfl
  | some list =>
    simp

theorem Advances.getMaxSlotInLootFor {loot' : Loot} (h : Advances loot loot') :
    loot.GetMaxSlotInLootFor guid = loot'.GetMaxSlotInLootFor guid := by
  simp [getMaxSlotInLootFor_eq, h.indices, h.length_items]

theorem Indexed.questList (h : Indexed loot) (player : Player) :
    ∀ k ∈ loot.questList player, k < loot.quest_items.length := by
  intro k hk
  rw [Loot.questList] at hk
  cases hlist : loot.PlayerQuestItems[player.guid]? with
  | some list =>
    rw [hlist, List.mem_map] at hk
    obtain ⟨entry, hentry, rfl⟩ := hk
    exact h player.guid list hlist entry hentry
  | none =>
    rw [hlist] at hk
    dsimp only at hk
    split at hk
    · cases hk
    · obtain ⟨item, hitem, -⟩ := mem_indices (List.mem_of_mem_take hk)
      exact (List.getElem?_eq_some_iff.mp hitem).1

/-- The item in a slot before the quest items is the one in that place. -/
theorem itemInSlot_item (guid : ObjectGuid) {item : LootItem} (hitem : loot.items[i]? = some item) :
    ∃ found is_looted, loot.itemInSlot guid i = some (found, is_looted) ∧ found.item = item ∧ found.index = i ∧
      found.entry.isQitem = false := by
  have hlt : ¬ loot.items.length ≤ i := not_le.mpr (List.getElem?_eq_some_iff.mp hitem).1
  rw [itemInSlot, if_neg hlt, hitem, Option.map_some]
  split_ifs
  · cases findEntry loot.PlayerFFAItems guid i with
    | none => exact ⟨_, _, rfl, rfl, rfl, rfl⟩
    | some p => exact ⟨_, _, rfl, rfl, rfl, rfl⟩
  · cases findEntry loot.PlayerNonQuestNonFFAConditionalItems guid i with
    | none => exact ⟨_, _, rfl, rfl, rfl, rfl⟩
    | some p => exact ⟨_, _, rfl, rfl, rfl, rfl⟩
  · exact ⟨_, _, rfl, rfl, rfl, rfl⟩

/-- The item in a slot behind them is the one that the list of the player says. -/
theorem itemInSlot_questItem {list : List NotNormalLootItem} {j : ℕ} {entry : NotNormalLootItem} {item : LootItem}
    (hlist : loot.PlayerQuestItems[guid]? = some list) (hentry : list[j]? = some entry)
    (hitem : loot.quest_items[entry.index]? = some item) :
    loot.itemInSlot guid (loot.items.length + j) = some (⟨entry.index, item, .qitem j⟩, entry.is_looted) := by
  simp [itemInSlot, (Nat.le_add_right _ _), hlist, hentry, hitem]

/-- A slot is examined right exactly if it is one of an item or one of the quest item in the same place. -/
theorem examined_iff_index {view : StoreView} {indices : List ℕ}
    (hindices : ((loot.PlayerQuestItems[guid]?).map (List.map NotNormalLootItem.index)).getD [] = indices)
    (hlt : ∀ k ∈ indices, k < loot.quest_items.length) (hi : i < loot.items.length + indices.length) :
    loot.Examined guid view i ↔
      (loot.items.length ≤ i → indices[i - loot.items.length]? = some (i - loot.items.length)) := by
  have htoken {item : LootItem} (hat : loot.currencyAt i = some item) (hcalls : loot.callsStore view i = true) :
      item.freeforall = true ∧ item.proto.IsCurrencyToken = true := by
    rw [callsStore, hat, Option.any_some] at hcalls
    simp only [Bool.and_eq_true] at hcalls
    exact ⟨hcalls.1.1.2, hcalls.2⟩
  rcases Nat.lt_or_ge i loot.items.length with hitem | hquest
  · obtain ⟨found, is_looted, hslot, hfound, hindex, hentry⟩ := itemInSlot_item guid (List.getElem?_eq_getElem hitem)
    have hat : loot.currencyAt i = some found.item := by
      simp [currencyAt, hitem, hfound]
    refine ⟨fun _ hle ↦ absurd hle (not_le.mpr hitem), fun _ ↦ ⟨?_, fun hcalls ↦ ⟨_, hslot, htoken hat hcalls⟩⟩⟩
    simp [slotPlace, hslot, hentry, hindex, testedPlace, hitem]
  · obtain ⟨j, rfl⟩ := Nat.exists_eq_add_of_le hquest
    rw [Nat.add_sub_cancel_left]
    have hj : j < indices.length := by omega
    cases hlist : loot.PlayerQuestItems[guid]? with
    | none =>
      rw [hlist] at hindices
      subst hindices
      cases hj
    | some list =>
      rw [hlist] at hindices
      have hmap : list.map NotNormalLootItem.index = indices := hindices
      have hjl : j < list.length := by
        simpa [← hmap] using hj
      have hget : indices[j]? = some list[j].index := by
        simp [← hmap, List.getElem?_map, List.getElem?_eq_getElem hjl]
      have hlt' : list[j].index < loot.quest_items.length := hlt _ (List.mem_of_getElem? hget)
      have hslot := itemInSlot_questItem hlist (List.getElem?_eq_getElem hjl) (List.getElem?_eq_getElem hlt')
      rw [hget, Option.some_inj]
      have hplace : loot.slotPlace guid (loot.items.length + j) = some (.questItem list[j].index) := by
        rw [slotPlace, hslot]
        rfl
      have htested : loot.testedPlace (loot.items.length + j) = .questItem j := by
        simp [testedPlace]
      constructor
      · intro hexamined _
        have heq := hexamined.place
        simpa [hplace, htested, Place.questItem.injEq] using heq
      · intro himp
        have heq := himp hquest
        refine ⟨by rw [hplace, htested, heq], fun hcalls ↦ ⟨_, hslot, htoken ?_ hcalls⟩⟩
        rw [currencyAt, if_neg (by omega), Nat.add_sub_cancel_left]
        have hlt : j < loot.quest_items.length := heq ▸ hlt'
        simp [heq]

/-! ### The lists point to quest items in every run -/

theorem Indexed.fillQuestLoot (h : Indexed loot) (player : Player) : Indexed (loot.FillQuestLoot player) := by
  intro guid list hlist entry hentry
  rw [FillQuestLoot] at hlist ⊢
  split at hlist
  next hfull =>
    rw [if_pos hfull]
    exact h guid list hlist entry hentry
  next hfull =>
    rw [if_neg hfull]
    rw [List.length_mapIdx]
    rw [get_withList] at hlist
    split at hlist
    next heq =>
      rw [Option.some_inj] at hlist
      subst hlist
      obtain ⟨k, hk, rfl⟩ := List.mem_map.mp hentry
      obtain ⟨item, hitem, -⟩ := mem_indices (List.mem_of_mem_take hk)
      exact (List.getElem?_eq_some_iff.mp hitem).1
    next => exact h guid list hlist entry hentry

theorem Indexed.fillLists (h : Indexed loot) (player : Player) (presentAtLooting : Bool) :
    Indexed (loot.fillLists player presentAtLooting) := by
  exact fillLists_rule h (fun _ h ↦ h.fillQuestLoot player) (fun _ h ↦ h) fun _ h ↦ h

/-- Nobody has a list yet, and nothing is looted. -/
structure Untouched (loot : Loot) : Prop where
  quest : loot.PlayerQuestItems = ∅
  ffa : loot.PlayerFFAItems = ∅
  conditional : loot.PlayerNonQuestNonFFAConditionalItems = ∅
  items : ∀ item ∈ loot.items, item.is_looted = false

theorem Untouched.addStacks (item : LootStoreItem) (stacksLeft count : ℕ) (h : Untouched loot) :
    Untouched (loot.addStacks item stacksLeft count) := by
  induction stacksLeft generalizing count loot with
  | zero => exact h
  | succ stacksLeft ih =>
    unfold Loot.addStacks
    split_ifs
    · exact ih _ ⟨h.quest, h.ffa, h.conditional, h.items⟩
    · exact h
    · refine ih _ ⟨h.quest, h.ffa, h.conditional, fun new hnew ↦ ?_⟩
      rcases List.mem_append.mp hnew with hnew | hnew
      · exact h.items new hnew
      · rw [List.mem_singleton.mp hnew]
        rfl
    · refine ih _ ⟨h.quest, h.ffa, h.conditional, fun new hnew ↦ ?_⟩
      rcases List.mem_append.mp hnew with hnew | hnew
      · exact h.items new hnew
      · rw [List.mem_singleton.mp hnew]
        rfl
    · exact h

theorem untouched_start (gold : ℕ) (drops : List (LootStoreItem × ℕ)) : Untouched (lootMachine gold drops).start := by
  have hdrops (loot : Loot) (h : Untouched loot) :
      Untouched (drops.foldl (fun loot drop ↦ loot.AddItem drop.1 drop.2) loot) := by
    induction drops generalizing loot with
    | nil => exact h
    | cons drop drops ih => exact ih _ (h.addStacks drop.1 _ drop.2)
  exact hdrops _ ⟨rfl, rfl, rfl, fun item hitem ↦ absurd hitem List.not_mem_nil⟩

theorem Untouched.indexed (h : Untouched loot) : Indexed loot := by
  intro guid list hlist
  simp [h.quest] at hlist

/-- **The loop tests the items of its slots exactly if the player is shown the first quest items in their order.** -/
theorem examined_iff (h : Indexed loot) (player : Player) (views : ℕ → StoreView) :
    (∀ i < (loot.fillLists player true).GetMaxSlotInLootFor player.guid,
      ((loot.fillLists player true).beforePass player.guid views i).Examined player.guid (views i) i) ↔
      loot.questList player = List.range (loot.questList player).length := by
  have hindices := indices_fillLists loot player true
  have hlt : ∀ k ∈ loot.questList player, k < (loot.fillLists player true).quest_items.length := by
    rw [length_quest_items_fillLists]
    exact h.questList player
  generalize loot.fillLists player true = filled at *
  have hpass (i : ℕ) (hi : i < filled.items.length + (loot.questList player).length) :
      (filled.beforePass player.guid views i).Examined player.guid (views i) i ↔
        (filled.items.length ≤ i → (loot.questList player)[i - filled.items.length]? =
          some (i - filled.items.length)) := by
    have hadv := Advances.beforePass filled player.guid views i
    rw [hadv.length_items] at hi ⊢
    exact examined_iff_index (by rw [← hadv.indices, hindices]) (fun k hk ↦ hadv.quest_items ▸ hlt k hk) hi
  rw [getMaxSlotInLootFor_eq, hindices]
  constructor
  · intro hall
    refine List.ext_getElem? fun j ↦ ?_
    rcases Nat.lt_or_ge j (loot.questList player).length with hj | hj
    · have hj' : filled.items.length + j < filled.items.length + (loot.questList player).length := by omega
      have heq := (hpass _ hj').mp (hall _ hj') (Nat.le_add_right _ _)
      rw [Nat.add_sub_cancel_left] at heq
      rw [heq, List.getElem?_range hj]
    · rw [List.getElem?_eq_none hj, List.getElem?_eq_none (by simpa using hj)]
  · intro hrange i hi
    refine (hpass i hi).mpr fun hle ↦ ?_
    rw [hrange, List.getElem?_range (by omega)]

/-- A drop of one item, with everything that the loop asks about it. -/
def tokenDrop (itemid : ℕ) (MULTI_DROP IsCurrencyToken needs_quest : Bool) : LootStoreItem × ℕ :=
  (⟨itemid, ⟨1, MULTI_DROP, false, IsCurrencyToken, 1⟩, needs_quest, false⟩, 1)

/-- Somebody without a group who may have everything but item 1. -/
def notTheFirst : Player := ⟨1, none, fun item ↦ item.itemid != 1⟩

/-- He has room for everything. -/
def roomForAll : ℕ → StoreView := fun _ ↦ ⟨notTheFirst.allowed, true⟩

/-- A player is shown the first one of two quest items, which is a token. -/
theorem examined_firstToken :
    ((lootMachine 0 [tokenDrop 2 true true true, tokenDrop 1 true true true]).start.fillLists notTheFirst
        true).GetMaxSlotInLootFor notTheFirst.guid = 1 ∧
      ∀ i < ((lootMachine 0 [tokenDrop 2 true true true, tokenDrop 1 true true true]).start.fillLists notTheFirst
          true).GetMaxSlotInLootFor notTheFirst.guid,
        (((lootMachine 0 [tokenDrop 2 true true true, tokenDrop 1 true true true]).start.fillLists notTheFirst
          true).beforePass notTheFirst.guid roomForAll i).Examined notTheFirst.guid (roomForAll i) i :=
  ⟨by decide +kernel, (examined_iff (untouched_start 0 _).indexed notTheFirst roomForAll).mpr (by decide +kernel)⟩

/-- He is not shown the first of these quest items; the second one is a token, the third one is not. -/
def behindAToken : Loot :=
  (lootMachine 0 [tokenDrop 1 true true true, tokenDrop 2 true true true, tokenDrop 3 false false true]).start

/-- **A player who is not shown the first quest items gets the item behind a token at once.** -/
theorem not_examined_behindAToken :
    ¬ ∀ (loot : Loot) (player : Player) (views : ℕ → StoreView), Indexed loot →
      ∀ i < (loot.fillLists player true).GetMaxSlotInLootFor player.guid,
        ((loot.fillLists player true).beforePass player.guid views i).Examined player.guid (views i) i := by
  intro h
  have hexamined := h behindAToken notTheFirst roomForAll (untouched_start 0 _).indexed 1 (by decide +kernel)
  have hcalls : ((behindAToken.fillLists notTheFirst true).beforePass notTheFirst.guid roomForAll 1).callsStore
      (roomForAll 1) 1 = true := by decide +kernel
  have hslot : (((behindAToken.fillLists notTheFirst true).beforePass notTheFirst.guid roomForAll 1).itemInSlot
      notTheFirst.guid 1).any (fun found ↦ found.1.item.proto.IsCurrencyToken) = false := by decide +kernel
  obtain ⟨found, hfound, -, htoken⟩ := hexamined.token hcalls
  simp [hfound, htoken] at hslot

/-! ## The loot of one player -/

/-- What `Player::AutoStoreLoot` fills for a player. -/
def autoLoot (drops : List (LootStoreItem × ℕ)) (player : Player) (views : ℕ → StoreView) : Loot :=
  (lootMachine 0 drops).start.FillNotNormalLootFor player true views

/-- Whether the loop stores the item of a slot and marks it as looted. -/
def marksSlot (loot : Loot) (guid : ObjectGuid) (view : StoreView) (i : ℕ) : Bool :=
  loot.callsStore view i && (loot.LootItemInSlot guid i).any fun found ↦
    mayStore guid found view && (!found.item.freeforall || found.entry != .none)

/-- Nothing is looted. -/
structure Unlooted (loot : Loot) : Prop where
  items : ∀ item ∈ loot.items, item.is_looted = false
  quest : ∀ (guid : ObjectGuid) (list : List NotNormalLootItem), loot.PlayerQuestItems[guid]? = some list →
    ∀ entry ∈ list, entry.is_looted = false
  ffa : ∀ (guid : ObjectGuid) (list : List NotNormalLootItem), loot.PlayerFFAItems[guid]? = some list →
    ∀ entry ∈ list, entry.is_looted = false
  conditional : ∀ (guid : ObjectGuid) (list : List NotNormalLootItem),
    loot.PlayerNonQuestNonFFAConditionalItems[guid]? = some list → ∀ entry ∈ list, entry.is_looted = false

namespace Unlooted

theorem of_untouched (h : Untouched loot) : Unlooted loot where
  items := h.items
  quest guid list hlist := by
    simp [h.quest] at hlist
  ffa guid list hlist := by
    simp [h.ffa] at hlist
  conditional guid list hlist := by
    simp [h.conditional] at hlist

theorem withList {m : NotNormalLootItemMap}
    (h : ∀ (guid : ObjectGuid) (list : List NotNormalLootItem), m[guid]? = some list →
      ∀ entry ∈ list, entry.is_looted = false) (guid : ObjectGuid) (is : List ℕ) :
    ∀ (a : ObjectGuid) (list : List NotNormalLootItem), (Loot.withList m guid is)[a]? = some list →
      ∀ entry ∈ list, entry.is_looted = false := by
  intro a list hlist entry hentry
  rw [get_withList] at hlist
  split at hlist
  · rw [Option.some_inj] at hlist
    subst hlist
    obtain ⟨k, -, rfl⟩ := List.mem_map.mp hentry
    rfl
  · exact h a list hlist entry hentry

section

variable (h : Unlooted loot) (player : Player)
include h

theorem fillQuestLoot : Unlooted (loot.FillQuestLoot player) := by
  rw [FillQuestLoot]
  split
  · exact h
  · exact ⟨h.items, withList h.quest player.guid _, h.ffa, h.conditional⟩

theorem fillFFALoot : Unlooted (loot.FillFFALoot player) :=
  ⟨h.items, h.quest, withList h.ffa player.guid _, h.conditional⟩

theorem fillConditional (presentAtLooting : Bool) :
    Unlooted (loot.FillNonQuestNonFFAConditionalLoot player presentAtLooting) := by
  refine ⟨fun item hitem ↦ ?_, h.quest, h.ffa, withList h.conditional player.guid _⟩
  obtain ⟨before, hbefore, rfl⟩ := List.mem_map.mp hitem
  have hnot := h.items before hbefore
  dsimp only
  split_ifs
  all_goals exact hnot

theorem fillLists (presentAtLooting : Bool) : Unlooted (loot.fillLists player presentAtLooting) := by
  exact fillLists_rule h (fun _ h ↦ h.fillQuestLoot player) (fun _ h ↦ h.fillFFALoot player)
    fun _ h ↦ h.fillConditional player presentAtLooting

end

end Unlooted

theorem Unlooted.lootItemInSlot (h : Unlooted loot) (hindexed : Indexed loot) (hi : i < loot.GetMaxSlotInLootFor guid) :
    (loot.LootItemInSlot guid i).isSome = true := by
  have hfind {m : NotNormalLootItemMap} (hm : ∀ (guid : ObjectGuid) (list : List NotNormalLootItem),
      m[guid]? = some list → ∀ entry ∈ list, entry.is_looted = false) {p : ℕ × NotNormalLootItem}
      (hp : findEntry m guid i = some p) : p.2.is_looted = false := by
    obtain ⟨list, hlist, hentry⟩ := findEntry_get hp
    exact hm guid list hlist p.2 (List.mem_of_getElem? hentry)
  have hsome {found : SlotItem} (hslot : loot.itemInSlot guid i = some (found, false)) :
      (loot.LootItemInSlot guid i).isSome = true := by
    rw [LootItemInSlot, hslot]
    rfl
  rcases Nat.lt_or_ge i loot.items.length with hitem | hquest
  · have hnot := h.items _ (List.getElem_mem hitem)
    obtain ⟨found, is_looted, hslot, -⟩ := itemInSlot_item guid (List.getElem?_eq_getElem hitem)
    have hlooted : is_looted = false := by
      rw [itemInSlot, if_neg (not_le.mpr hitem), List.getElem?_eq_getElem hitem, Option.map_some,
        Option.some_inj] at hslot
      split_ifs at hslot
      · cases hf : findEntry loot.PlayerFFAItems guid i with
        | none =>
          rw [hf] at hslot
          exact (Prod.mk.inj hslot).2.symm.trans hnot
        | some p =>
          rw [hf] at hslot
          exact (Prod.mk.inj hslot).2.symm.trans (hfind h.ffa hf)
      · cases hf : findEntry loot.PlayerNonQuestNonFFAConditionalItems guid i with
        | none =>
          rw [hf] at hslot
          exact (Prod.mk.inj hslot).2.symm.trans hnot
        | some p =>
          rw [hf] at hslot
          exact (Prod.mk.inj hslot).2.symm.trans (hfind h.conditional hf)
      · exact (Prod.mk.inj hslot).2.symm.trans hnot
    subst hlooted
    exact hsome hslot
  · obtain ⟨j, rfl⟩ := Nat.exists_eq_add_of_le hquest
    rw [GetMaxSlotInLootFor, Nat.add_lt_add_iff_left] at hi
    cases hlist : loot.PlayerQuestItems[guid]? with
    | none =>
      simp [hlist] at hi
    | some list =>
      rw [hlist] at hi
      have hj : j < list.length := hi
      have hmem : list[j] ∈ list := List.getElem_mem hj
      have hslot := itemInSlot_questItem hlist (List.getElem?_eq_getElem hj)
        (List.getElem?_eq_getElem (hindexed guid list hlist _ hmem))
      rw [h.quest guid list hlist _ hmem] at hslot
      exact hsome hslot

theorem findEntry_setLooted {m : NotNormalLootItemMap} {lootSlot pos : ℕ} {entry : NotNormalLootItem}
    (h : findEntry m guid lootSlot = some (pos, entry)) :
    findEntry (setLooted m guid pos) guid lootSlot = some (pos, entry.looted) := by
  rw [findEntry] at h ⊢
  rw [setLooted, TreeMap.get_modify, if_pos rfl]
  cases hlist : m[guid]? with
  | none =>
    simp [hlist] at h
  | some list =>
    rw [hlist] at h
    rw [Option.map_some]
    dsimp only at h ⊢
    have hidx : ((list.modify pos .looted).findIdx? fun entry ↦ entry.index == lootSlot) =
        list.findIdx? fun entry ↦ entry.index == lootSlot := by
      have hmap : (list.modify pos .looted).map NotNormalLootItem.index = list.map NotNormalLootItem.index :=
        map_modify (f := NotNormalLootItem.looted) (fun _ ↦ rfl) pos
      simp [Advances.findIdx?_index, hmap]
    rw [hidx]
    cases hfound : list.findIdx? fun entry ↦ entry.index == lootSlot with
    | none =>
      simp [hfound] at h
    | some k =>
      rw [hfound] at h
      dsimp only at h ⊢
      rw [Option.map_eq_some_iff] at h
      obtain ⟨entry', hentry', heq⟩ := h
      obtain ⟨rfl, rfl⟩ := Prod.mk.inj heq
      simp [hentry']

/-- The loop stores nothing, or an item that it marks nowhere. -/
theorem takeCurrency_of_not_marksSlot (c : UInt8) (h : loot.marksSlot guid (views i) i = false) :
    ∃ c', takeCurrency guid views { loot with unlootedCount := c } i = { loot with unlootedCount := c' } := by
  have hcalls : ({ loot with unlootedCount := c } : Loot).callsStore (views i) i = loot.callsStore (views i) i := rfl
  have hslot : ({ loot with unlootedCount := c } : Loot).LootItemInSlot guid i = loot.LootItemInSlot guid i := rfl
  rw [takeCurrency_eq, hcalls]
  cases hstore : loot.callsStore (views i) i with
  | false => exact ⟨c, rfl⟩
  | true =>
    rw [if_pos rfl, StoreLootItem, hslot]
    rw [marksSlot, hstore, Bool.true_and] at h
    cases hfound : loot.LootItemInSlot guid i with
    | none => exact ⟨c, rfl⟩
    | some found =>
      rw [hfound, Option.any_some] at h
      dsimp only
      cases hmay : mayStore guid found (views i) with
      | false => exact ⟨c, rfl⟩
      | true =>
        rw [hmay, Bool.true_and, Bool.or_eq_false_iff, Bool.not_eq_false', bne_eq_false_iff_eq] at h
        obtain ⟨hfree, hentry⟩ := h
        refine ⟨c - 1, ?_⟩
        simp [hentry, markEntry, markItem, hfree]

/-- A quest item that the list of the player says is looted. -/
theorem lootItemInSlot_of_looted {list : List NotNormalLootItem} {entry : NotNormalLootItem}
    (hquest : loot.items.length ≤ i) (hlist : loot.PlayerQuestItems[guid]? = some list)
    (hentry : list[i - loot.items.length]? = some entry) (hlooted : entry.is_looted = true) :
    loot.LootItemInSlot guid i = none := by
  rw [LootItemInSlot, itemInSlot, if_pos hquest, hlist]
  dsimp only
  rw [hentry]
  dsimp only
  rw [hlooted]
  cases loot.quest_items[entry.index]? with
  | none => rfl
  | some item => rfl

theorem takeCurrency_of_marksSlot (c : UInt8) (h : loot.marksSlot guid (views i) i = true) :
    (takeCurrency guid views { loot with unlootedCount := c } i).LootItemInSlot guid i = none := by
  have hcalls : ({ loot with unlootedCount := c } : Loot).callsStore (views i) i = loot.callsStore (views i) i := rfl
  have hslot : ({ loot with unlootedCount := c } : Loot).LootItemInSlot guid i = loot.LootItemInSlot guid i := rfl
  rw [marksSlot, Bool.and_eq_true, Option.any_eq_true] at h
  obtain ⟨hstore, found, hfound, hmark⟩ := h
  rw [Bool.and_eq_true, Bool.or_eq_true, Bool.not_eq_true', bne_iff_ne] at hmark
  obtain ⟨hmay, hentry⟩ := hmark
  rw [takeCurrency_eq, hcalls, if_pos hstore, StoreLootItem, hslot, hfound]
  dsimp only
  rw [if_pos hmay]
  rw [LootItemInSlot] at hfound
  cases hin : loot.itemInSlot guid i with
  | none =>
    simp [hin] at hfound
  | some p =>
    obtain ⟨found', is_looted⟩ := p
    rw [hin] at hfound
    cases is_looted with
    | true => cases hfound
    | false =>
      cases hfound
      rcases Nat.lt_or_ge i loot.items.length with hitem | hquest
      · have hfree : loot.items[i].freeforall = true := by
          rw [callsStore, currencyAt, if_pos hitem, List.getElem?_eq_getElem hitem, Option.any_some] at hstore
          simp only [Bool.and_eq_true] at hstore
          exact hstore.1.1.2
        rw [itemInSlot, if_neg (not_le.mpr hitem), List.getElem?_eq_getElem hitem, Option.map_some, Option.some_inj,
          if_pos hfree] at hin
        cases hentryOf : findEntry loot.PlayerFFAItems guid i with
        | none =>
          rw [hentryOf] at hin
          obtain ⟨rfl, -⟩ := Prod.mk.inj hin
          rcases hentry with hfree' | hne
          · simp [hfree] at hfree'
          · exact absurd rfl hne
        | some p =>
          rw [hentryOf] at hin
          obtain ⟨rfl, -⟩ := Prod.mk.inj hin
          rw [markEntry, markItem, if_pos hfree, LootItemInSlot, itemInSlot]
          dsimp only
          rw [if_neg (not_le.mpr hitem), List.getElem?_eq_getElem hitem, Option.map_some, if_pos hfree,
            findEntry_setLooted hentryOf]
          rfl
      · rw [itemInSlot, if_pos hquest] at hin
        cases hlist : loot.PlayerQuestItems[guid]? with
        | none =>
          simp [hlist] at hin
        | some list =>
          rw [hlist] at hin
          dsimp only at hin
          cases hlistEntry : list[i - loot.items.length]? with
          | none =>
            simp [hlistEntry] at hin
          | some entry =>
            rw [hlistEntry] at hin
            dsimp only at hin
            rw [Option.map_eq_some_iff] at hin
            obtain ⟨item, hitem, heq⟩ := hin
            obtain ⟨rfl, -⟩ := Prod.mk.inj heq
            have hget : (setLooted loot.PlayerQuestItems guid (i - loot.items.length))[guid]? =
                some (list.modify (i - loot.items.length) .looted) := by
              simp [setLooted, TreeMap.get_modify, hlist]
            have hlooted : (list.modify (i - loot.items.length) .looted)[i - loot.items.length]? = some entry.looted := by
              simp [hlistEntry]
            rw [markEntry, markItem]
            split
            · exact lootItemInSlot_of_looted hquest hget hlooted rfl
            · exact lootItemInSlot_of_looted hquest hget hlooted rfl

/-- **There is an item in every slot exactly if the loop marked none as looted.** -/
theorem lootItemInSlot_autoStoreLoot_iff (drops : List (LootStoreItem × ℕ)) (player : Player) (views : ℕ → StoreView) :
    (∀ i < (autoLoot drops player views).GetMaxSlotInLootFor player.guid,
      ((autoLoot drops player views).LootItemInSlot player.guid i).isSome = true) ↔
    ∀ i < ((lootMachine 0 drops).start.fillLists player true).GetMaxSlotInLootFor player.guid,
      ((lootMachine 0 drops).start.fillLists player true).marksSlot player.guid (views i) i = false := by
  have hfilled : Unlooted ((lootMachine 0 drops).start.fillLists player true) :=
    (Unlooted.of_untouched (untouched_start 0 drops)).fillLists player true
  have hindexed : Indexed ((lootMachine 0 drops).start.fillLists player true) :=
    (untouched_start 0 drops).indexed.fillLists player true
  rw [autoLoot, fillNotNormalLootFor_eq]
  generalize (lootMachine 0 drops).start.fillLists player true = filled at *
  rw [← (Advances.beforePass filled player.guid views _).getMaxSlotInLootFor]
  have hslots {i : ℕ} (hi : i < filled.GetMaxSlotInLootFor player.guid) :
      (filled.LootItemInSlot player.guid i).isSome = true := hfilled.lootItemInSlot hindexed hi
  generalize filled.GetMaxSlotInLootFor player.guid = n at *
  -- as long as nothing is marked, only the counter changes
  have hsame (k : ℕ) (hk : ∀ i < k, filled.marksSlot player.guid (views i) i = false) :
      ∃ c, filled.beforePass player.guid views k = { filled with unlootedCount := c } := by
    induction k with
    | zero => exact ⟨filled.unlootedCount, rfl⟩
    | succ k ih =>
      obtain ⟨c, hc⟩ := ih fun i hi ↦ hk i (Nat.lt_succ_of_lt hi)
      rw [beforePass_succ, hc]
      exact takeCurrency_of_not_marksSlot c (hk k (Nat.lt_succ_self k))
  constructor
  · intro hall i
    induction i using Nat.strong_induction_on with
    | _ i ih =>
      intro hi
      by_contra hmark
      obtain ⟨c, hc⟩ := hsame i fun k hk ↦ ih k hk (hk.trans hi)
      have hnone : (filled.beforePass player.guid views (i + 1)).LootItemInSlot player.guid i = none := by
        rw [beforePass_succ, hc]
        exact takeCurrency_of_marksSlot c (Bool.not_eq_false _ ▸ hmark)
      have hlast : (filled.beforePass player.guid views n).LootItemInSlot player.guid i = none :=
        (Advances.beforePass_of_le filled player.guid views hi).lootItemInSlot hnone
      have hsome := hall i hi
      simp [hlast] at hsome
  · intro hall i hi
    obtain ⟨c, hc⟩ := hsame n hall
    rw [hc]
    exact hslots hi

/-- **A currency token that was stored at once leaves a slot without an item.** -/
theorem not_lootItemInSlot_autoStoreLoot :
    ¬ ∀ (drops : List (LootStoreItem × ℕ)) (player : Player) (views : ℕ → StoreView),
      ∀ i < (autoLoot drops player views).GetMaxSlotInLootFor player.guid,
        ((autoLoot drops player views).LootItemInSlot player.guid i).isSome = true := by
  intro h
  have hsome := h [tokenDrop 2 true true false] notTheFirst roomForAll 0 (by decide +kernel)
  have hnone : ((autoLoot [tokenDrop 2 true true false] notTheFirst roomForAll).LootItemInSlot notTheFirst.guid
      0).isSome = false := by decide +kernel
  simp [hnone] at hsome

end Loot

end Gundrak.Looting
