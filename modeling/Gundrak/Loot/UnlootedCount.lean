import Gundrak.Loot.Loot
import Gundrak.Util.Counting
import Gundrak.Util.MapTotal

/-!
# What is left of a loot

`openCount` counts the entitlements that are still open in a loot: items that are not looted yet, free
for all items that a player has on his list, quest items that somebody is shown.  An item with
conditions is open once it has been put on a list, and a quest item that is not free for all is open
once, however many players are shown it.

`unlootedCount` is to be this number.  It is wrong after four kinds of calls: a quest item is counted
for every player of a group with group loot or round robin, but looted only once; an item on the lists
of several players is taken by a second one after it has been looted; an item is taken by a player who
does not have it on his list, or was never counted; and more than 255 entitlements are open.  `Sound`
excludes these, and **`unlootedCount_of_reaches`** proves the equation for all other runs.
-/

open Std (ExtTreeMap)

namespace Gundrak.Looting

namespace Loot

variable (loot : Loot)

/-! ## Open entitlements -/

/-- An item that one player may still take, and that has been counted. -/
def isOpen (item : LootItem) : Bool := !item.freeforall && !item.is_looted && (!item.conditions || item.is_counted)

/-- Whether an item is on the list of some player. -/
def shownIn (m : NotNormalLootItemMap) (i : ℕ) : Bool :=
  m.toList.any fun p ↦ (p.2.map NotNormalLootItem.index).contains i

/-- Whether some player is shown a quest item. -/
def isShown (i : ℕ) : Bool := shownIn loot.PlayerQuestItems i

/-- Whether a quest item is free for all. -/
def isFreeQuest (i : ℕ) : Bool := (loot.quest_items[i]?).any fun item ↦ item.freeforall

/-- A quest item that is for one player, and not looted. -/
def isSharedQuest (i : ℕ) : Bool := (loot.quest_items[i]?).any fun item ↦ !item.freeforall && !item.is_looted

/-- The open items for one player. -/
def openItems : ℕ := loot.items.countP isOpen

/-- The free for all items that are still to be looted by the players who have them on their lists. -/
def openFFA : ℕ := TreeMap.total loot.PlayerFFAItems fun _ list ↦ list.countP fun entry ↦ !entry.is_looted

/-- The quest items for one player that somebody is shown. -/
def openShared : ℕ := (List.range loot.quest_items.length).countP fun i ↦ loot.isSharedQuest i && loot.isShown i

/-- The quest items that every player who is shown one is to loot. -/
def openFreeQuest : ℕ := TreeMap.total loot.PlayerQuestItems fun _ list ↦
    list.countP fun entry ↦ !entry.is_looted && loot.isFreeQuest entry.index

/-- The number of entitlements that are open. -/
def openCount : ℕ := loot.openItems + loot.openFFA + loot.openShared + loot.openFreeQuest

/-! ## Sound calls -/

/-- The quest items that are put on a new list for a player. -/
def newQuest (player : Player) : List ℕ :=
  if loot.PlayerQuestItems.contains player.guid ∨ loot.items.length = MAX_NR_LOOT_ITEMS then []
  else loot.questIndices player

/-- The free for all items that are put on a new list for a player. -/
def newFFA (player : Player) : List ℕ :=
  if loot.PlayerFFAItems.contains player.guid then [] else loot.ffaIndices player

/-- Whether an item with conditions is put on a new list for a player, and on no list before. -/
def isNewConditional (player : Player) (item : LootItem) : Bool :=
  !loot.PlayerNonQuestNonFFAConditionalItems.contains player.guid &&
    (oneLooter player item && item.conditions && !item.is_counted)

/-- The number of entitlements that new lists for a player open. -/
def newCount (player : Player) : ℕ := (loot.newQuest player).countP (fun i ↦ loot.isFreeQuest i || !loot.isShown i) +
  (loot.newFFA player).length + loot.items.countP (loot.isNewConditional player)

/-- New lists are sound if a quest item for one player that is already shown to somebody is blocked, and
there are at most 255 open entitlements afterwards. -/
structure SoundLists (player : Player) : Prop where
  blocked : ∀ i ∈ loot.newQuest player, loot.isShown i → ∀ item, loot.quest_items[i]? = some item →
    item.freeforall ∨ item.is_blocked
  fits : loot.openCount + loot.newCount player < 256

/-- An item is taken soundly if it is open: a free for all item if the player has it on his list, any
other if it is not looted, and has been counted. -/
def SoundItem (found : SlotItem) : Prop :=
  if found.item.freeforall then found.entry ≠ .none
  else found.item.is_looted = false ∧ (found.entry.isQitem ∨ found.item.conditions = false ∨ found.item.is_counted)

/-- If an item is taken, then soundly. -/
def SoundStore (guid : ObjectGuid) (lootSlot : ℕ) (view : StoreView) : Prop :=
  ∀ found, loot.LootItemInSlot guid lootSlot = some found → mayStore guid found view → SoundItem found

/-- If a currency item is taken in a pass of the loop of `FillNotNormalLootFor`, then soundly. -/
def SoundCurrency (guid : ObjectGuid) (views : ℕ → StoreView) (loot : Loot) (i : ℕ) : Prop :=
  ∀ item, loot.currencyAt i = some item →
    !item.is_looted && item.freeforall && (views i).allowed item && item.proto.IsCurrencyToken →
    loot.SoundStore guid i (views i)

end Loot

open Loot

/-- The calls that keep `unlootedCount` right. -/
def Sound (loot : Loot) : LootCall → Prop
  | .FillNotNormalLootFor player presentAtLooting views =>
    loot.SoundLists player ∧ (presentAtLooting →
        AlongFold (takeCurrency player.guid views) (SoundCurrency player.guid views)
          (loot.fillLists player presentAtLooting)
          (List.range ((loot.fillLists player presentAtLooting).GetMaxSlotInLootFor player.guid)))
  | .StoreLootItem guid lootSlot view => loot.SoundStore guid lootSlot view

instance (loot : Loot) (player : Player) : Decidable (loot.SoundLists player) :=
  decidable_of_iff ((∀ i ∈ loot.newQuest player, loot.isShown i → ∀ item ∈ loot.quest_items[i]?,
        item.freeforall ∨ item.is_blocked) ∧ loot.openCount + loot.newCount player < 256)
    ⟨fun h ↦ ⟨h.1, h.2⟩, fun h ↦ ⟨h.1, h.2⟩⟩

instance (found : SlotItem) : Decidable (SoundItem found) := by
  unfold SoundItem
  infer_instance

instance (loot : Loot) (guid : ObjectGuid) (lootSlot : ℕ) (view : StoreView) :
    Decidable (loot.SoundStore guid lootSlot view) :=
  inferInstanceAs (Decidable (∀ found ∈ loot.LootItemInSlot guid lootSlot, _))

instance (guid : ObjectGuid) (views : ℕ → StoreView) (loot : Loot) (i : ℕ) :
    Decidable (SoundCurrency guid views loot i) := inferInstanceAs (Decidable (∀ item ∈ loot.currencyAt i, _))

instance (loot : Loot) (call : LootCall) : Decidable (Sound loot call) := by
  cases call <;> unfold Sound <;> infer_instance

/-! ## New lists -/

namespace Loot

variable {loot : Loot} {player : Player}

theorem shownIn_iff {m : NotNormalLootItemMap} {i : ℕ} :
    shownIn m i ↔ ∃ (guid : ObjectGuid) (list : List NotNormalLootItem),
      m[guid]? = some list ∧ i ∈ list.map NotNormalLootItem.index := by
  rw [shownIn, List.any_eq_true]
  constructor
  · rintro ⟨⟨guid, list⟩, hp, hi⟩
    exact ⟨guid, list, ExtTreeMap.mem_toList_iff_getElem?_eq_some.mp hp, List.contains_iff_mem.mp hi⟩
  · rintro ⟨guid, list, hlist, hi⟩
    exact ⟨(guid, list), ExtTreeMap.mem_toList_iff_getElem?_eq_some.mpr hlist, List.contains_iff_mem.mpr hi⟩

theorem countP_freshList (is : List ℕ) (p : ℕ → Bool) :
    (freshList is).countP (fun entry ↦ !entry.is_looted && p entry.index) = is.countP p := by
  rw [freshList, List.countP_map]
  rfl

theorem map_index_freshList (is : List ℕ) : (freshList is).map NotNormalLootItem.index = is := by
  rw [freshList, List.map_map]
  exact List.map_id is

section withList

variable {m : NotNormalLootItemMap} {guid : ObjectGuid}

theorem get_withList (is : List ℕ) (a : ObjectGuid) : (withList m guid is)[a]? =
      if guid = a ∧ is ≠ [] then some (freshList is) else m[a]? := by
  cases is <;> simp [withList, TreeMap.get_insert]

theorem total_withList (is : List ℕ) (h : m[guid]? = none) {f : List NotNormalLootItem → ℕ} (hf : f [] = 0) :
    TreeMap.total (withList m guid is) (fun _ list ↦ f list) =
      TreeMap.total m (fun _ list ↦ f list) + f (freshList is) := by
  cases is with
  | nil => simp [withList, freshList, hf]
  | cons i is => exact TreeMap.total_insert h

theorem shownIn_withList (is : List ℕ) (h : m[guid]? = none) (i : ℕ) :
    shownIn (withList m guid is) i = (shownIn m i || is.contains i) := by
  rw [Bool.eq_iff_iff, Bool.or_eq_true, shownIn_iff, shownIn_iff, List.contains_iff_mem]
  constructor
  · rintro ⟨a, list, hlist, hi⟩
    rw [get_withList is] at hlist
    split_ifs at hlist with ha
    · rw [← Option.some_inj.mp hlist, map_index_freshList] at hi
      exact .inr hi
    · exact .inl ⟨a, list, hlist, hi⟩
  · rintro (⟨a, list, hlist, hi⟩ | hi)
    · have ha : guid ≠ a := by
        rintro rfl
        simp [h] at hlist
      exact ⟨a, list, by rw [get_withList is, if_neg fun hg ↦ ha hg.1, hlist], hi⟩
    · have his : is ≠ [] := List.ne_nil_of_mem hi
      exact ⟨guid, freshList is, by rw [get_withList is, if_pos ⟨rfl, his⟩],
        by rwa [map_index_freshList]⟩

end withList

theorem get_of_not_contains {m : NotNormalLootItemMap} {guid : ObjectGuid}
    (h : m.contains guid = false) : m[guid]? = none := by
  refine ExtTreeMap.getElem?_eq_none fun hmem ↦ ?_
  simp [ExtTreeMap.contains_iff_mem.mpr hmem] at h

/-- A new list of free for all items opens as many entitlements. -/
theorem openCount_FillFFALoot (h : loot.PlayerFFAItems[player.guid]? = none) :
    (loot.FillFFALoot player).openCount = loot.openCount + (loot.ffaIndices player).length := by
  have hffa : (loot.FillFFALoot player).openFFA = loot.openFFA + (loot.ffaIndices player).length := by
    have hlen : (freshList (loot.ffaIndices player)).countP (fun entry ↦ !entry.is_looted) =
        (loot.ffaIndices player).length := by
      have hcount := countP_freshList (loot.ffaIndices player) fun _ ↦ true
      simpa using hcount
    rw [← hlen]
    exact total_withList (loot.ffaIndices player) h
      (f := fun list ↦ list.countP fun entry ↦ !entry.is_looted) rfl
  show loot.openItems + (loot.FillFFALoot player).openFFA + loot.openShared + loot.openFreeQuest = _
  rw [hffa, openCount]
  omega

theorem mem_indices {items : List LootItem} {p : LootItem → Bool} {i : ℕ}
    (h : i ∈ indices items p) : ∃ item, items[i]? = some item ∧ p item := by
  have hp := (List.mem_filter.mp h).2
  cases hitem : items[i]? with
  | none => simp [hitem] at hp
  | some item => exact ⟨item, rfl, by simpa [hitem] using hp⟩

theorem nodup_indices (items : List LootItem) (p : LootItem → Bool) : (indices items p).Nodup :=
  List.nodup_range.filter _

/-- The quest items after `FillQuestLoot` differ from those before in what is blocked. -/
theorem get_quest_items_FillQuestLoot (hlen : loot.items.length ≠ MAX_NR_LOOT_ITEMS) (i : ℕ) :
    (loot.FillQuestLoot player).quest_items[i]? = (loot.quest_items[i]?).map fun item ↦
      if (loot.questIndices player).contains i && blocksQuestItems player then
        { item with is_blocked := true } else item := by
  rw [FillQuestLoot, if_neg hlen]
  exact List.getElem?_mapIdx

theorem any_quest_items_FillQuestLoot (hlen : loot.items.length ≠ MAX_NR_LOOT_ITEMS) (i : ℕ)
    {p : LootItem → Bool} (hp : ∀ item : LootItem, p { item with is_blocked := true } = p item) :
    ((loot.FillQuestLoot player).quest_items[i]?).any p = (loot.quest_items[i]?).any p := by
  rw [get_quest_items_FillQuestLoot hlen]
  cases loot.quest_items[i]? with
  | none => rfl
  | some item =>
    rw [Option.map_some, Option.any_some, Option.any_some]
    split_ifs
    · exact hp item
    · rfl

/-- A new list of quest items opens those that are free for all, and those that nobody was shown. -/
theorem openCount_FillQuestLoot (h : loot.PlayerQuestItems[player.guid]? = none)
    (hlen : loot.items.length ≠ MAX_NR_LOOT_ITEMS) :
    (loot.FillQuestLoot player).openCount = loot.openCount +
      (loot.questIndices player).countP fun i ↦ loot.isFreeQuest i || !loot.isShown i := by
  have hmap : (loot.FillQuestLoot player).PlayerQuestItems =
      withList loot.PlayerQuestItems player.guid (loot.questIndices player) := by
    rw [FillQuestLoot, if_neg hlen]
  have hfree : (loot.FillQuestLoot player).isFreeQuest = loot.isFreeQuest :=
    funext fun i ↦ any_quest_items_FillQuestLoot hlen i fun _ ↦ rfl
  have hshared : (loot.FillQuestLoot player).isSharedQuest = loot.isSharedQuest :=
    funext fun i ↦ any_quest_items_FillQuestLoot hlen i fun _ ↦ rfl
  have hlength : (loot.FillQuestLoot player).quest_items.length = loot.quest_items.length := by
    simp [FillQuestLoot, hlen]
  have hitems : (loot.FillQuestLoot player).openItems = loot.openItems := by
    rw [FillQuestLoot, if_neg hlen]
    rfl
  have hffa : (loot.FillQuestLoot player).openFFA = loot.openFFA := by
    rw [FillQuestLoot, if_neg hlen]
    rfl
  -- what is listed is not looted
  have hlisted : ∀ i ∈ loot.questIndices player, i < loot.quest_items.length ∧
      loot.isSharedQuest i = !loot.isFreeQuest i := by
    intro i hi
    obtain ⟨item, hitem, hp⟩ := mem_indices (List.mem_of_mem_take hi)
    have hnot : item.is_looted = false := by
      cases hl : item.is_looted <;> simp_all
    refine ⟨(List.getElem?_eq_some_iff.mp hitem).1, ?_⟩
    simp [isSharedQuest, isFreeQuest, hitem, hnot]
  have hnodup : (loot.questIndices player).Nodup := (nodup_indices _ _).sublist (List.take_sublist _ _)
  have hfreeQuest : (loot.FillQuestLoot player).openFreeQuest =
      loot.openFreeQuest + (loot.questIndices player).countP loot.isFreeQuest := by
    rw [openFreeQuest, hmap, hfree, ← countP_freshList]
    exact total_withList (loot.questIndices player) h
      (f := fun list ↦ list.countP fun entry ↦ !entry.is_looted && loot.isFreeQuest entry.index)
      rfl
  have hopenShared : (loot.FillQuestLoot player).openShared = loot.openShared +
      (loot.questIndices player).countP fun i ↦ loot.isSharedQuest i && !loot.isShown i := by
    rw [openShared, hshared, hlength, ← countP_range_of_subset hnodup fun i hi ↦ (hlisted i hi).1]
    refine countP_of_disjoint (fun i _ ↦ ?_) fun i _ ↦ ?_
    · rw [isShown, hmap, shownIn_withList _ h, isShown]
      cases loot.isSharedQuest i <;> cases shownIn loot.PlayerQuestItems i <;> simp
    · cases loot.isShown i <;> simp
  have hsplit : ((loot.questIndices player).countP fun i ↦
        loot.isFreeQuest i || !loot.isShown i) =
      (loot.questIndices player).countP loot.isFreeQuest +
        (loot.questIndices player).countP fun i ↦ loot.isSharedQuest i && !loot.isShown i := by
    refine countP_of_disjoint (fun i hi ↦ ?_) fun i hi ↦ ?_
    · rw [(hlisted i hi).2]
      cases loot.isFreeQuest i <;> simp
    · rw [(hlisted i hi).2]
      cases loot.isFreeQuest i <;> simp
  rw [openCount, hitems, hffa, hopenShared, hfreeQuest, hsplit, openCount]
  omega

/-- `FillNonQuestNonFFAConditionalLoot` opens the items with conditions that it lists first. -/
theorem openCount_FillConditional (presentAtLooting : Bool) :
    (loot.FillNonQuestNonFFAConditionalLoot player presentAtLooting).openCount =
      loot.openCount + loot.items.countP fun item ↦ oneLooter player item && item.conditions && !item.is_counted := by
  have hitems : (loot.FillNonQuestNonFFAConditionalLoot player presentAtLooting).openItems =
      loot.openItems + loot.items.countP fun item ↦
        oneLooter player item && item.conditions && !item.is_counted := by
    rw [openItems, FillNonQuestNonFFAConditionalLoot, List.countP_map]
    refine countP_of_disjoint (fun item _ ↦ ?_) fun item _ ↦ ?_
    · cases hone : oneLooter player item with
      | false => simp [hone]
      | true =>
        have hopen : item.is_looted = false ∧ item.freeforall = false := by
          simp only [oneLooter, Bool.and_eq_true, Bool.not_eq_true'] at hone
          exact hone.1
        cases hc : item.conditions <;> cases hn : item.is_counted <;> cases presentAtLooting <;>
          simp [hone, hc, hn, isOpen, hopen, LootItem.AddAllowedLooter]
    · cases hc : item.conditions <;> cases hn : item.is_counted <;> simp [isOpen, hc, hn]
  show _ + loot.openFFA + loot.openShared + loot.openFreeQuest = _
  rw [hitems, openCount]
  omega

end Loot

/-! ## The invariant -/

/-- What holds of a loot in a sound run: the counter is right, and a quest item is only blocked after
somebody has been shown it. -/
structure Accurate (loot : Loot) : Prop where
  count : loot.unlootedCount = UInt8.ofNat loot.openCount
  fits : loot.openCount < 256
  shown : ∀ (i : ℕ) (item : LootItem), loot.quest_items[i]? = some item → item.is_blocked → loot.isShown i

namespace Accurate

variable {loot : Loot} {player : Player}

theorem fillQuest (ha : Accurate loot) (hs : loot.SoundLists player)
    (h : loot.PlayerQuestItems.contains player.guid = false) :
    (loot.FillQuestLoot player).unlootedCount = UInt8.ofNat (loot.FillQuestLoot player).openCount ∧
      (∀ (i : ℕ) (item : LootItem), (loot.FillQuestLoot player).quest_items[i]? = some item →
        item.is_blocked → (loot.FillQuestLoot player).isShown i) ∧
      (loot.FillQuestLoot player).openCount = loot.openCount + (loot.newQuest player).countP
        fun i ↦ loot.isFreeQuest i || !loot.isShown i := by
  have hget := get_of_not_contains h
  by_cases hlen : loot.items.length = MAX_NR_LOOT_ITEMS
  · rw [FillQuestLoot, if_pos hlen, newQuest, if_pos (.inr hlen)]
    exact ⟨ha.count, ha.shown, rfl⟩
  · have hnew : loot.newQuest player = loot.questIndices player := by
      simp [newQuest, h, hlen]
    have hcounts : (loot.questIndices player).countP loot.countsQuestItem =
        (loot.questIndices player).countP fun i ↦ loot.isFreeQuest i || !loot.isShown i := by
      refine List.countP_congr fun i hi ↦ ?_
      obtain ⟨item, hitem, -⟩ := mem_indices (List.mem_of_mem_take hi)
      have hblocked := hs.blocked i (hnew ▸ hi)
      have hshown := ha.shown i item hitem
      rw [countsQuestItem, isFreeQuest, hitem, Option.any_some, Option.any_some]
      cases hfree : item.freeforall with
      | true => simp
      | false =>
        cases hb : item.is_blocked with
        | true => simp [hshown hb]
        | false =>
          cases hi : loot.isShown i with
          | false => simp
          | true =>
            have := hblocked hi item hitem
            simp [hfree, hb] at this
    have hopen := openCount_FillQuestLoot hget hlen
    refine ⟨?_, fun i item hitem hb ↦ ?_, hnew ▸ hopen⟩
    · rw [hopen, UInt8.ofNat_add, ← ha.count, ← hcounts, FillQuestLoot, if_neg hlen]
    · have hmap : (loot.FillQuestLoot player).isShown i =
          (loot.isShown i || (loot.questIndices player).contains i) := by
        rw [isShown, FillQuestLoot, if_neg hlen]
        exact shownIn_withList _ hget i
      rw [get_quest_items_FillQuestLoot hlen, Option.map_eq_some_iff] at hitem
      obtain ⟨before, hbefore, rfl⟩ := hitem
      rw [hmap]
      split_ifs at hb with hlisted
      · rw [(Bool.and_eq_true_iff.mp hlisted).1, Bool.or_true]
      · simp [ha.shown i before hbefore hb]

theorem fillLists (ha : Accurate loot) (hs : loot.SoundLists player) (presentAtLooting : Bool) :
    Accurate (loot.fillLists player presentAtLooting) := by
  -- first the quest items
  obtain ⟨loot₁, hloot₁, hcount₁, hshown₁, hopen₁, hitems₁, hffa₁, hcond₁⟩ :
      ∃ loot₁, (if loot.PlayerQuestItems.contains player.guid then loot
          else loot.FillQuestLoot player) = loot₁ ∧
        loot₁.unlootedCount = UInt8.ofNat loot₁.openCount ∧
        (∀ (i : ℕ) (item : LootItem), loot₁.quest_items[i]? = some item → item.is_blocked → loot₁.isShown i) ∧
        loot₁.openCount = loot.openCount + (loot.newQuest player).countP
          (fun i ↦ loot.isFreeQuest i || !loot.isShown i) ∧
        loot₁.items = loot.items ∧ loot₁.PlayerFFAItems = loot.PlayerFFAItems ∧
        loot₁.PlayerNonQuestNonFFAConditionalItems = loot.PlayerNonQuestNonFFAConditionalItems := by
    cases hq : loot.PlayerQuestItems.contains player.guid with
    | true =>
      refine ⟨loot, rfl, ha.count, ha.shown, ?_, rfl, rfl, rfl⟩
      rw [newQuest, if_pos (.inl hq)]
      rfl
    | false =>
      obtain ⟨hcount, hshown, hopen⟩ := ha.fillQuest hs hq
      refine ⟨_, rfl, hcount, hshown, hopen, ?_⟩
      rw [if_neg (by simp), FillQuestLoot]
      split_ifs <;> exact ⟨rfl, rfl, rfl⟩
  -- then the free for all items
  obtain ⟨loot₂, hloot₂, hcount₂, hshown₂, hopen₂, hitems₂, hcond₂⟩ :
      ∃ loot₂, (if loot₁.PlayerFFAItems.contains player.guid then loot₁
          else loot₁.FillFFALoot player) = loot₂ ∧
        loot₂.unlootedCount = UInt8.ofNat loot₂.openCount ∧
        (∀ (i : ℕ) (item : LootItem), loot₂.quest_items[i]? = some item → item.is_blocked → loot₂.isShown i) ∧
        loot₂.openCount = loot₁.openCount + (loot.newFFA player).length ∧
        loot₂.items = loot.items ∧ loot₂.PlayerNonQuestNonFFAConditionalItems =
          loot.PlayerNonQuestNonFFAConditionalItems := by
    have hnew : loot₁.ffaIndices player = loot.ffaIndices player := by
      simp [ffaIndices, hitems₁]
    rw [newFFA, ← hffa₁]
    cases hf : loot₁.PlayerFFAItems.contains player.guid with
    | true => exact ⟨loot₁, rfl, hcount₁, hshown₁, rfl, hitems₁, hcond₁⟩
    | false =>
      have hopen := openCount_FillFFALoot (get_of_not_contains hf)
      refine ⟨_, rfl, ?_, hshown₁, hnew ▸ hopen, hitems₁, hcond₁⟩
      rw [if_neg (by simp), hopen, UInt8.ofNat_add, ← hcount₁]
      rfl
  -- and last the items with conditions
  have hfits := hs.fits
  rw [newCount, ← add_assoc, ← add_assoc, ← hopen₁, ← hopen₂] at hfits
  have hstart : loot.fillLists player presentAtLooting =
      if loot₂.PlayerNonQuestNonFFAConditionalItems.contains player.guid then loot₂
      else loot₂.FillNonQuestNonFFAConditionalLoot player presentAtLooting := by
    rw [← hloot₂, ← hloot₁]
    rfl
  rw [hstart, hcond₂]
  cases hc : loot.PlayerNonQuestNonFFAConditionalItems.contains player.guid with
  | true => exact ⟨hcount₂, by rw [if_pos rfl]; omega, hshown₂⟩
  | false =>
    have hopen : (loot₂.FillNonQuestNonFFAConditionalLoot player presentAtLooting).openCount = _ :=
      openCount_FillConditional presentAtLooting
    have hnew : loot.items.countP (loot.isNewConditional player) = loot₂.items.countP fun item ↦
          oneLooter player item && item.conditions && !item.is_counted := by
      rw [hitems₂]
      refine List.countP_congr fun item _ ↦ ?_
      rw [isNewConditional, hc]
      simp
    refine ⟨?_, ?_, hshown₂⟩
    · rw [if_neg (by simp), hopen, UInt8.ofNat_add, ← hcount₂]
      rfl
    · rw [if_neg (by simp), hopen]
      omega

end Accurate

/-! ## Taking an item -/

namespace Loot

variable {loot : Loot} {guid : ObjectGuid}

theorem findEntry_get {m : NotNormalLootItemMap} {lootSlot pos : ℕ} {entry : NotNormalLootItem}
    (h : findEntry m guid lootSlot = some (pos, entry)) :
    ∃ list, m[guid]? = some list ∧ list[pos]? = some entry := by
  unfold findEntry at h
  cases hm : m[guid]? with
  | none => simp [hm] at h
  | some list =>
    simp only [hm] at h
    cases hf : list.findIdx? fun entry ↦ entry.index == lootSlot with
    | none => simp [hf] at h
    | some i =>
      simp only [hf, Option.map_eq_some_iff, Prod.mk.injEq] at h
      obtain ⟨a, ha, rfl, rfl⟩ := h
      exact ⟨list, rfl, ha⟩

/-- What is in a slot: a quest item on the list of the player, a free for all item, with or without an
entry for the player, or an item for one player. -/
theorem itemInSlot_cases {lootSlot : ℕ} {found : SlotItem} {is_looted : Bool}
    (h : loot.itemInSlot guid lootSlot = some (found, is_looted)) :
    (∃ pos list entry, found.entry = .qitem pos ∧ loot.PlayerQuestItems[guid]? = some list ∧
      list[pos]? = some entry ∧ entry.index = found.index ∧ entry.is_looted = is_looted ∧
      loot.quest_items[found.index]? = some found.item) ∨
    (loot.items[found.index]? = some found.item ∧
      ((∃ pos list entry, found.item.freeforall = true ∧ found.entry = .ffaitem pos ∧
        loot.PlayerFFAItems[guid]? = some list ∧ list[pos]? = some entry ∧
        entry.is_looted = is_looted) ∨
      (found.item.freeforall = true ∧ found.entry = .none) ∨
      (found.item.freeforall = false ∧ (found.entry = .none ∨ ∃ pos, found.entry = .conditem pos)))) := by
  unfold itemInSlot at h
  by_cases hslot : loot.items.length ≤ lootSlot
  · left
    rw [if_pos hslot] at h
    cases hq : loot.PlayerQuestItems[guid]? with
    | none => simp [hq] at h
    | some list =>
      cases hl : list[lootSlot - loot.items.length]? with
      | none => simp [hq, hl] at h
      | some entry =>
        simp only [hq, hl, Option.map_eq_some_iff, Prod.mk.injEq] at h
        obtain ⟨item, hitem, rfl, rfl⟩ := h
        exact ⟨_, list, entry, rfl, rfl, hl, rfl, rfl, hitem⟩
  · right
    rw [if_neg hslot, Option.map_eq_some_iff] at h
    obtain ⟨item, hitem, h⟩ := h
    cases hfree : item.freeforall with
    | true =>
      cases hf : findEntry loot.PlayerFFAItems guid lootSlot with
      | none =>
        simp only [hfree, hf, if_true, Prod.mk.injEq] at h
        obtain ⟨rfl, -⟩ := h
        exact ⟨hitem, .inr (.inl ⟨hfree, rfl⟩)⟩
      | some p =>
        simp only [hfree, hf, if_true, Prod.mk.injEq] at h
        obtain ⟨rfl, rfl⟩ := h
        obtain ⟨list, hlist, hentry⟩ := findEntry_get hf
        exact ⟨hitem, .inl ⟨p.1, list, p.2, hfree, rfl, hlist, hentry, rfl⟩⟩
    | false =>
      simp only [hfree, Bool.false_eq_true, if_false] at h
      split_ifs at h
      · cases hf : findEntry loot.PlayerNonQuestNonFFAConditionalItems guid lootSlot with
        | none =>
          simp only [hf, Prod.mk.injEq] at h
          obtain ⟨rfl, -⟩ := h
          exact ⟨hitem, .inr (.inr ⟨hfree, .inl rfl⟩)⟩
        | some p =>
          simp only [hf, Prod.mk.injEq] at h
          obtain ⟨rfl, -⟩ := h
          exact ⟨hitem, .inr (.inr ⟨hfree, .inr ⟨p.1, rfl⟩⟩)⟩
      · obtain ⟨rfl, -⟩ := Prod.mk.injEq .. ▸ h
        exact ⟨hitem, .inr (.inr ⟨hfree, .inl rfl⟩)⟩

section setLooted

variable {m : NotNormalLootItemMap} {list : List NotNormalLootItem} {pos : ℕ}
  {entry : NotNormalLootItem}

theorem total_setLooted (hlist : m[guid]? = some list) (hentry : list[pos]? = some entry)
    (hopen : entry.is_looted = false) (p : ℕ → Bool) :
    TreeMap.total (setLooted m guid pos) (fun _ list ↦ list.countP fun entry ↦ !entry.is_looted && p entry.index) +
      (if p entry.index then 1 else 0) =
    TreeMap.total m fun _ list ↦ list.countP fun entry ↦ !entry.is_looted && p entry.index := by
  have hcount := countP_modify (p := fun entry ↦ !entry.is_looted && p entry.index)
    (f := NotNormalLootItem.looted) hentry
  simp only [NotNormalLootItem.looted, hopen, Bool.not_false, Bool.true_and, Bool.not_true,
    Bool.false_and, Bool.false_eq_true, if_false] at hcount
  have htotal := TreeMap.total_replace
    (f := fun _ list ↦ list.countP fun entry ↦ !entry.is_looted && p entry.index) hlist
    (list.modify pos .looted)
  rw [setLooted, TreeMap.modify_eq_insert hlist]
  beta_reduce at htotal
  omega

theorem shownIn_setLooted (i : ℕ) : shownIn (setLooted m guid pos) i = shownIn m i := by
  have hmap (list : List NotNormalLootItem) :
      (list.modify pos .looted).map NotNormalLootItem.index = list.map NotNormalLootItem.index :=
    map_modify (f := NotNormalLootItem.looted) (fun _ ↦ rfl) pos
  rw [Bool.eq_iff_iff, shownIn_iff, shownIn_iff]
  constructor
  · rintro ⟨a, list, hlist, hi⟩
    rw [setLooted, TreeMap.get_modify] at hlist
    split_ifs at hlist with ha
    · obtain ⟨before, hbefore, rfl⟩ := Option.map_eq_some_iff.mp hlist
      exact ⟨guid, before, hbefore, hmap before ▸ hi⟩
    · exact ⟨a, list, hlist, hi⟩
  · rintro ⟨a, list, hlist, hi⟩
    by_cases ha : guid = a
    · refine ⟨a, list.modify pos .looted, ?_, ?_⟩
      · simp [setLooted, ha, hlist]
      · rwa [hmap]
    · exact ⟨a, list, by rw [setLooted, TreeMap.get_modify, if_neg ha, hlist], hi⟩

end setLooted

/-- The loot after an item is taken, before it is counted. -/
def taken (loot : Loot) (guid : ObjectGuid) (found : SlotItem) : Loot :=
  (loot.markEntry guid found.entry).markItem found

section take

variable {loot' : Loot} {list : List NotNormalLootItem} {pos : ℕ} {entry : NotNormalLootItem}

/-- Taking a quest item that is free for all closes the entitlement of the player. -/
theorem openCount_take_freeQuest (hitems : loot'.items = loot.items) (hffa : loot'.PlayerFFAItems = loot.PlayerFFAItems)
    (hquest : loot'.quest_items = loot.quest_items)
    (hmap : loot'.PlayerQuestItems = setLooted loot.PlayerQuestItems guid pos)
    (hlist : loot.PlayerQuestItems[guid]? = some list) (hentry : list[pos]? = some entry)
    (hopen : entry.is_looted = false) (hfree : loot.isFreeQuest entry.index = true) :
    loot'.openCount + 1 = loot.openCount := by
  have hfreeQuest : loot'.openFreeQuest + 1 = loot.openFreeQuest := by
    have htotal := total_setLooted hlist hentry hopen loot.isFreeQuest
    have hsame : loot'.isFreeQuest = loot.isFreeQuest := by
      funext i
      simp [isFreeQuest, hquest]
    rw [if_pos hfree] at htotal
    rw [openFreeQuest, hmap, hsame, htotal]
    rfl
  have hshared : loot'.openShared = loot.openShared := by
    rw [openShared, hquest]
    refine List.countP_congr fun i _ ↦ ?_
    rw [isShown, hmap, shownIn_setLooted, isSharedQuest, hquest]
    rfl
  rw [openCount, openItems, openFFA, hitems, hffa, hshared, openCount, ← hfreeQuest]
  rfl

theorem openCount_take_shared {item : LootItem} (hitems : loot'.items = loot.items)
    (hffa : loot'.PlayerFFAItems = loot.PlayerFFAItems)
    (hquest : loot'.quest_items = loot.quest_items.modify entry.index
      fun item ↦ { item with is_looted := true })
    (hmap : loot'.PlayerQuestItems = setLooted loot.PlayerQuestItems guid pos)
    (hlist : loot.PlayerQuestItems[guid]? = some list) (hentry : list[pos]? = some entry)
    (hopen : entry.is_looted = false) (hitem : loot.quest_items[entry.index]? = some item)
    (hfree : item.freeforall = false) (hlooted : item.is_looted = false) :
    loot'.openCount + 1 = loot.openCount := by
  have hsameFree : loot'.isFreeQuest = loot.isFreeQuest := by
    funext i
    rw [isFreeQuest, hquest, List.getElem?_modify, isFreeQuest]
    cases loot.quest_items[i]? with
    | none => rfl
    | some item =>
      show (some (if entry.index = i then { item with is_looted := true } else item)).any _ = _
      split_ifs <;> rfl
  have hfreeQuest : loot'.openFreeQuest = loot.openFreeQuest := by
    have htotal := total_setLooted hlist hentry hopen loot.isFreeQuest
    rw [if_neg (by simp [isFreeQuest, hitem, hfree])] at htotal
    rw [openFreeQuest, hmap, hsameFree, ← add_zero (TreeMap.total _ _), htotal]
    rfl
  have hshared : loot'.openShared + 1 = loot.openShared := by
    have hshown : loot'.isShown = loot.isShown := by
      funext i
      rw [isShown, hmap, shownIn_setLooted, isShown]
    have hmem : loot.isShown entry.index = true :=
      shownIn_iff.mpr ⟨guid, list, hlist, List.mem_map.mpr ⟨entry, List.mem_of_getElem? hentry, rfl⟩⟩
    rw [openShared, hquest, List.length_modify, hshown]
    refine countP_of_single List.nodup_range
      (List.mem_range.mpr (List.getElem?_eq_some_iff.mp hitem).1) ?_ ?_ fun i _ hi ↦ ?_
    · simp [isSharedQuest, hitem, hfree, hlooted, hmem]
    · simp [isSharedQuest, hquest, hitem]
    · simp [isSharedQuest, hquest, List.getElem?_modify_ne _ _ (Ne.symm hi)]
  rw [openCount, openItems, openFFA, hitems, hffa, hfreeQuest, openCount, ← hshared]
  show loot.openItems + loot.openFFA + _ + _ + 1 = _
  omega

/-- Taking a free for all item closes the entitlement of the player. -/
theorem openCount_take_ffa (hitems : loot'.items = loot.items)
    (hffa : loot'.PlayerFFAItems = setLooted loot.PlayerFFAItems guid pos)
    (hquest : loot'.quest_items = loot.quest_items)
    (hmap : loot'.PlayerQuestItems = loot.PlayerQuestItems)
    (hlist : loot.PlayerFFAItems[guid]? = some list) (hentry : list[pos]? = some entry)
    (hopen : entry.is_looted = false) : loot'.openCount + 1 = loot.openCount := by
  have hopenFFA : loot'.openFFA + 1 = loot.openFFA := by
    have htotal := total_setLooted hlist hentry hopen fun _ ↦ true
    simp only [Bool.and_true, if_true] at htotal
    rw [openFFA, hffa, htotal]
    rfl
  have hrest : loot'.openShared = loot.openShared ∧ loot'.openFreeQuest = loot.openFreeQuest := by
    simp [openShared, isShown, isSharedQuest, hquest, hmap, openFreeQuest, isFreeQuest]
  rw [openCount, openItems, hitems, hrest.1, hrest.2, openCount, ← hopenFFA]
  show loot.openItems + _ + _ + _ + 1 = _
  omega

theorem openCount_take_item {i : ℕ} {item : LootItem}
    (hitems : loot'.items = loot.items.modify i fun item ↦ { item with is_looted := true })
    (hffa : loot'.PlayerFFAItems = loot.PlayerFFAItems)
    (hquest : loot'.quest_items = loot.quest_items)
    (hmap : loot'.PlayerQuestItems = loot.PlayerQuestItems)
    (hitem : loot.items[i]? = some item) (hopen : isOpen item = true) :
    loot'.openCount + 1 = loot.openCount := by
  have hopenItems : loot'.openItems + 1 = loot.openItems := by
    have hcount := countP_modify (p := isOpen) (f := fun item ↦ { item with is_looted := true })
      hitem
    have hclosed : isOpen { item with is_looted := true } = false := by simp [isOpen]
    rw [openItems, hitems, openItems]
    simpa [hopen, hclosed] using hcount
  have hrest : loot'.openFFA = loot.openFFA ∧ loot'.openShared = loot.openShared ∧
      loot'.openFreeQuest = loot.openFreeQuest := by
    simp [openFFA, hffa, openShared, isShown, isSharedQuest, hquest, hmap, openFreeQuest, isFreeQuest]
  rw [openCount, hrest.1, hrest.2.1, hrest.2.2, openCount, ← hopenItems]
  omega

end take

/-- What taking an item soundly does: one entitlement is closed, and neither what is shown nor what is
blocked changes. -/
theorem take_effect {lootSlot : ℕ} {found : SlotItem}
    (h : loot.LootItemInSlot guid lootSlot = some found) (hs : SoundItem found) :
    (loot.taken guid found).openCount + 1 = loot.openCount ∧
      (loot.taken guid found).unlootedCount = loot.unlootedCount ∧
      (∀ i, (loot.taken guid found).isShown i = loot.isShown i) ∧
      ∀ (i : ℕ) (item : LootItem), (loot.taken guid found).quest_items[i]? = some item →
        ∃ before, loot.quest_items[i]? = some before ∧ item.is_blocked = before.is_blocked := by
  have hslot : loot.itemInSlot guid lootSlot = some (found, false) := by
    unfold LootItemInSlot at h
    cases hi : loot.itemInSlot guid lootSlot with
    | none => simp [hi] at h
    | some p =>
      obtain ⟨found', looted⟩ := p
      simp only [hi] at h
      split_ifs at h with hlooted
      rw [Option.some_inj.mp h, Bool.eq_false_iff.mpr hlooted]
  have hkeep : ∀ (i : ℕ) (item : LootItem), loot.quest_items[i]? = some item →
      ∃ before, loot.quest_items[i]? = some before ∧ item.is_blocked = before.is_blocked :=
    fun _ item hitem ↦ ⟨item, hitem, rfl⟩
  unfold SoundItem at hs
  obtain ⟨index, item, slotEntry⟩ := found
  rcases itemInSlot_cases hslot with
    ⟨pos, list, entry, rfl, hlist, hentry, rfl, hopen, hitem⟩ |
    ⟨hitem, ⟨pos, list, entry, hfree, rfl, hlist, hentry, hopen⟩ | ⟨hfree, rfl⟩ |
      ⟨hfree, rfl | ⟨pos, rfl⟩⟩⟩
  · -- a quest item
    cases hfree : item.freeforall with
    | true =>
      have htaken : loot.taken guid ⟨entry.index, item, .qitem pos⟩ =
          { loot with PlayerQuestItems := setLooted loot.PlayerQuestItems guid pos } := by
        simp [taken, markEntry, markItem, hfree]
      rw [htaken]
      refine ⟨openCount_take_freeQuest rfl rfl rfl rfl hlist hentry hopen ?_, rfl, fun i ↦ shownIn_setLooted i, hkeep⟩
      rw [isFreeQuest, hitem]
      exact hfree
    | false =>
      have htaken : loot.taken guid ⟨entry.index, item, .qitem pos⟩ = { loot with
            PlayerQuestItems := setLooted loot.PlayerQuestItems guid pos
            quest_items := loot.quest_items.modify entry.index
              fun item ↦ { item with is_looted := true } } := by
        simp [taken, markEntry, markItem, hfree]
      simp only [hfree, Bool.false_eq_true, if_false] at hs
      rw [htaken]
      refine ⟨openCount_take_shared rfl rfl rfl rfl hlist hentry hopen hitem hfree hs.1, rfl,
        fun i ↦ shownIn_setLooted i, fun i item hi ↦ ?_⟩
      rw [List.getElem?_modify, Option.map_eq_map, Option.map_eq_some_iff] at hi
      obtain ⟨before, hbefore, rfl⟩ := hi
      refine ⟨before, hbefore, ?_⟩
      split_ifs <;> rfl
  · -- a free for all item on the list of the player
    have htaken : loot.taken guid ⟨index, item, .ffaitem pos⟩ =
        { loot with PlayerFFAItems := setLooted loot.PlayerFFAItems guid pos } := by
      simp only at hfree
      simp [taken, markEntry, markItem, hfree]
    rw [htaken]
    exact ⟨openCount_take_ffa rfl rfl rfl rfl hlist hentry hopen, rfl, fun _ ↦ rfl, hkeep⟩
  · -- a free for all item that is not on the list of the player
    simp only at hfree
    simp [hfree] at hs
  · -- an item for one player without an entry
    simp only at hfree hitem
    have htaken : loot.taken guid ⟨index, item, .none⟩ = { loot with
          items := loot.items.modify index fun item ↦ { item with is_looted := true } } := by
      simp [taken, markEntry, markItem, hfree]
    rw [htaken]
    refine ⟨openCount_take_item rfl rfl rfl rfl hitem ?_, rfl, fun _ ↦ rfl, hkeep⟩
    simp only [hfree, Bool.false_eq_true, if_false, ListEntry.isQitem, false_or] at hs
    rcases hs with ⟨hl, hc | hc⟩ <;> simp [isOpen, hfree, hl, hc]
  · -- an item with conditions on the list of the player
    simp only at hfree hitem
    have htaken : loot.taken guid ⟨index, item, .conditem pos⟩ = { loot with
          items := loot.items.modify index fun item ↦ { item with is_looted := true }
          PlayerNonQuestNonFFAConditionalItems := setLooted loot.PlayerNonQuestNonFFAConditionalItems guid pos } := by
      simp [taken, markEntry, markItem, hfree]
    rw [htaken]
    refine ⟨openCount_take_item rfl rfl rfl rfl hitem ?_, rfl, fun _ ↦ rfl, hkeep⟩
    simp only [hfree, Bool.false_eq_true, if_false, ListEntry.isQitem, false_or] at hs
    rcases hs with ⟨hl, hc | hc⟩ <;> simp [isOpen, hfree, hl, hc]

end Loot

namespace Accurate

variable {loot : Loot} {guid : ObjectGuid}

theorem storeLootItem (ha : Accurate loot) {lootSlot : ℕ} {view : StoreView} (hs : loot.SoundStore guid lootSlot view) :
    Accurate (loot.StoreLootItem guid lootSlot view) := by
  unfold StoreLootItem
  cases h : loot.LootItemInSlot guid lootSlot with
  | none => exact ha
  | some found =>
    dsimp only
    by_cases hmay : mayStore guid found view = true
    · obtain ⟨hopen, hcount, hshown, hquest⟩ := take_effect h (hs found h hmay)
      rw [if_pos hmay]
      refine ⟨?_, ?_, fun i item hitem hb ↦ ?_⟩
      · show (loot.taken guid found).unlootedCount - 1 = UInt8.ofNat (loot.taken guid found).openCount
        rw [hcount, ha.count, ← hopen, UInt8.ofNat_add]
        exact UInt8.add_sub_cancel _ _
      · show (loot.taken guid found).openCount < 256
        have := ha.fits
        omega
      · obtain ⟨before, hbefore, hblocked⟩ := hquest i item hitem
        exact (hshown i).trans (ha.shown i before hbefore (hblocked ▸ hb))
    · simpa [hmay] using ha

theorem fillNotNormalLootFor (ha : Accurate loot) {player : Player} {presentAtLooting : Bool} {views : ℕ → StoreView}
    (hs : Sound loot (.FillNotNormalLootFor player presentAtLooting views)) :
    Accurate (loot.FillNotNormalLootFor player presentAtLooting views) := by
  have hlists := ha.fillLists hs.1 presentAtLooting
  cases presentAtLooting with
  | false => exact hlists
  | true =>
    refine (hs.2 rfl).invariant (P := Accurate) hlists fun loot i ha hcurrency ↦ ?_
    unfold takeCurrency
    cases hitem : loot.currencyAt i with
    | none => exact ha
    | some item =>
      dsimp only
      split_ifs with hcheck
      · exact ha.storeLootItem (hcurrency item hitem hcheck)
      · exact ha

end Accurate

/-! ## The start and the runs -/

/-- A loot that has just been made: nobody has a list, and the items for one player without conditions
are counted. -/
structure Fresh (loot : Loot) : Prop where
  quest : loot.PlayerQuestItems = ∅
  ffa : loot.PlayerFFAItems = ∅
  count : loot.unlootedCount = UInt8.ofNat loot.openItems
  length_le : loot.items.length ≤ MAX_NR_LOOT_ITEMS
  notBlocked : ∀ item ∈ loot.quest_items, item.is_blocked = false

theorem Fresh.addStacks (item : LootStoreItem) (stacksLeft count : ℕ) {loot : Loot} (h : Fresh loot) :
    Fresh (loot.addStacks item stacksLeft count) := by
  induction stacksLeft generalizing count loot with
  | zero => exact h
  | succ stacksLeft ih =>
    unfold Loot.addStacks
    by_cases hquest : item.needs_quest = true
    · rw [if_pos hquest]
      split_ifs
      · refine ih _ ⟨h.quest, h.ffa, h.count, h.length_le, fun new hnew ↦ ?_⟩
        rcases List.mem_append.mp hnew with hnew | hnew
        · exact h.notBlocked new hnew
        · rw [List.mem_singleton.mp hnew]
          rfl
      · exact h
    · rw [if_neg hquest]
      by_cases hroom : loot.items.length < MAX_NR_LOOT_ITEMS
      · rw [if_pos hroom]
        refine ih _ ⟨h.quest, h.ffa, ?_, ?_, h.notBlocked⟩
        · show _ = UInt8.ofNat (List.countP isOpen (_ ++ [_]))
          rw [List.countP_append, List.countP_singleton, UInt8.ofNat_add]
          show _ = UInt8.ofNat loot.openItems + _
          rw [← h.count]
          cases hc : item.conditions <;> cases hm : item.proto.MULTI_DROP <;>
            simp [isOpen, LootItem.new, hc, hm]
        · show (loot.items ++ [_]).length ≤ _
          rw [List.length_append, List.length_singleton]
          omega
      · simpa [hroom] using h

theorem Fresh.accurate {loot : Loot} (h : Fresh loot) : Accurate loot := by
  have hshared : loot.openShared = 0 := by
    refine List.countP_eq_zero.mpr fun i _ ↦ ?_
    rw [isShown, h.quest]
    simp [shownIn]
  have hopen : loot.openCount = loot.openItems := by
    simp [openCount, hshared, openFFA, h.ffa, openFreeQuest, h.quest, TreeMap.total_empty]
  have hle : loot.openItems ≤ MAX_NR_LOOT_ITEMS := List.countP_le_length.trans h.length_le
  refine ⟨hopen ▸ h.count, ?_, fun i item hitem hb ↦ ?_⟩
  · rw [hopen]
    exact Nat.lt_of_le_of_lt hle (by decide)
  · simp [h.notBlocked item (List.mem_of_getElem? hitem)] at hb

theorem accurate_start (gold : ℕ) (drops : List (LootStoreItem × ℕ)) : Accurate (lootMachine gold drops).start := by
  have hnew : Fresh (Loot.new gold) := ⟨rfl, rfl, rfl, Nat.zero_le _, by simp [Loot.new]⟩
  have hfresh (loot : Loot) (h : Fresh loot) :
      Fresh (drops.foldl (fun loot drop ↦ loot.AddItem drop.1 drop.2) loot) := by
    induction drops generalizing loot with
    | nil => exact h
    | cons drop drops ih => exact ih _ (h.addStacks drop.1 _ drop.2)
  exact (hfresh _ hnew).accurate

/-- **`unlootedCount` counts the open entitlements.**  In every run whose calls are sound the counter is
the number of entitlements that are open, and the loot is reported as looted when there is neither one
nor any gold. -/
theorem unlootedCount_of_reaches {gold : ℕ} {drops : List (LootStoreItem × ℕ)} {loot : Loot}
    (h : (lootMachine gold drops).Reaches Sound loot) :
    loot.unlootedCount.toNat = loot.openCount ∧
      (loot.isLooted ↔ loot.gold = 0 ∧ loot.openCount = 0) := by
  have ha : Accurate loot := by
    refine h.invariant (accurate_start gold drops) fun loot call loot' ha hs hnext ↦ ?_
    cases call with
    | FillNotNormalLootFor player presentAtLooting views =>
      obtain rfl := Option.some_inj.mp hnext
      exact ha.fillNotNormalLootFor hs
    | StoreLootItem guid lootSlot view =>
      obtain rfl := Option.some_inj.mp hnext
      exact ha.storeLootItem hs
  have hcount : loot.unlootedCount.toNat = loot.openCount := by
    rw [ha.count, UInt8.toNat_ofNat', Nat.mod_eq_of_lt ha.fits]
  refine ⟨hcount, ?_⟩
  simp [isLooted, beq_iff_eq, ← hcount, ← UInt8.toNat_inj]

/-! ## Two runs -/

/-- A drop of one item without conditions. -/
def oneDrop (itemid : ℕ) (MULTI_DROP needs_quest : Bool) : LootStoreItem × ℕ :=
  (⟨itemid, ⟨1, MULTI_DROP, false, false, 2⟩, needs_quest, false⟩, 1)

/-- A member of a free for all group who may have everything. -/
def anybody (guid : ObjectGuid) : Player := ⟨guid, some (.FREE_FOR_ALL, 0), fun _ ↦ true⟩

/-- He has room for an item. -/
def withRoom : StoreView := ⟨fun _ ↦ true, true⟩

/-- Two members of a group find a plain item, a free for all item and a quest item.  One takes the plain
and the quest item, and both take the free for all item. -/
def everythingLooted : List LootCall := [.FillNotNormalLootFor (anybody 1) true fun _ ↦ withRoom,
    .FillNotNormalLootFor (anybody 2) true fun _ ↦ withRoom, .StoreLootItem 1 0 withRoom,
    .StoreLootItem 1 1 withRoom, .StoreLootItem 2 1 withRoom, .StoreLootItem 2 2 withRoom]

theorem unlootedCount_everythingLooted : ∃ loot,
    (lootMachine 0 [oneDrop 1 false false, oneDrop 2 true false, oneDrop 3 false true]).exec Sound
      (lootMachine 0 [oneDrop 1 false false, oneDrop 2 true false, oneDrop 3 false true]).start
      everythingLooted = some loot ∧
    loot.unlootedCount.toNat = loot.openCount ∧ loot.isLooted := by
  obtain ⟨loot, hloot, hempty, hreaches⟩ := (lootMachine 0
    [oneDrop 1 false false, oneDrop 2 true false, oneDrop 3 false true]).exists_exec Sound everythingLooted
    (fun loot ↦ loot.gold = 0 ∧ loot.openCount = 0) (by decide +kernel)
  have h := unlootedCount_of_reaches hreaches
  exact ⟨loot, hloot, h.1, h.2.mpr hempty⟩

/-- Two members of a group who are shown one quest item can both take it, and the counter wraps around. -/
theorem not_unlootedCount_of_reachable :
    ¬ ∀ (gold : ℕ) (drops : List (LootStoreItem × ℕ)) (loot : Loot),
      (lootMachine gold drops).Reachable loot → loot.unlootedCount.toNat = loot.openCount := by
  intro h
  obtain ⟨loot, hloot, hcount⟩ := (lootMachine 0 [oneDrop 3 false true]).exists_reachable [.FillNotNormalLootFor
    (anybody 1) true fun _ ↦ withRoom, .FillNotNormalLootFor (anybody 2) true fun _ ↦ withRoom, .StoreLootItem 1 0
    withRoom, .StoreLootItem 2 0 withRoom]
    (fun loot ↦ (loot.unlootedCount.toNat, loot.openCount) = (255, 0)) (by decide +kernel)
  obtain ⟨hunlooted, hopen⟩ := Prod.mk.injEq .. ▸ hcount
  have heq := h 0 _ loot hloot
  simp [hunlooted, hopen] at heq

end Gundrak.Looting
