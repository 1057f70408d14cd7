import Gundrak.Players.SearchOrder

/-!
# What `CanStoreItem` promises

`StoreContract` says that what is stored and what is not come to the count that was asked for, that `OK` means
all of it, and that the positions are different ones that the item may go into and that have the space.

Three things go wrong.  `count -= no_similar_count` wraps around if there is already more of the item than one
can carry, and the search goes on with four thousand millions.  The search for a bag with something in it ends
without a word to `no_space_count`.  And there are places where an item should not be, but is put: a key that
is told bag 255 goes to the currency if it does not find room in the key ring, and nothing is asked about a
stack that is there already.

* `searchPlace_of_mem`: what the places of the search are.
* `mayGoTo_of_searchPlace`: which of them an item should not go to.
* **`storeContract_iff`**: nothing else goes wrong.  A wrong place does no harm as long as there is room in the
  places before it.
-/

open Std (ExtTreeMap)

namespace Gundrak.Players

open Filling (State)

/-! ## What is claimed -/

/-- What `no_space_count` says; after `OK` nothing is left. -/
def StoreAnswer.spaceCount (answer : StoreAnswer) : Option ℕ :=
  if answer.result = .OK then answer.no_space_count.map fun _ ↦ 0 else answer.no_space_count

namespace Player

variable (mgr : ObjectMgr) (player : Player)

/-- There is such a slot, and it is for such items: only keys are kept in the key ring, only currency tokens as
currency, and many bags are for some families of items. -/
def MayGoInto (proto : ItemTemplate) (bag slot : ℕ) : Bool :=
  if bag = INVENTORY_SLOT_BAG_0 then
    slot < BUYBACK_SLOT_START ||
    KEYRING_SLOT_START ≤ slot && slot < KEYRING_SLOT_END && proto.hasFamily BAG_FAMILY_MASK_KEYS ||
    CURRENCYTOKEN_SLOT_START ≤ slot && slot < CURRENCYTOKEN_SLOT_END && proto.IsCurrencyToken
  else
    (player.GetBagByPos mgr bag).any fun b ↦ slot < b.2.ContainerSlots && proto.ItemCanGoIntoBag b.2

/-- `MayGoInto`, of a position. -/
def MayGoTo (proto : ItemTemplate) (pos : ℕ) : Bool := player.MayGoInto mgr proto (pos / 256) (pos % 256)

/-- A position is empty, or the item's own one, or has a stack that it can be merged with; and so many more fit
there. -/
def HasSpace (proto : ItemTemplate) (pItem : Option Item) (pos count : ℕ) : Prop :=
  match player.GetItemByPos mgr (pos / 256) (pos % 256) with
  | none => count ≤ proto.GetMaxStackSize
  | some item2 =>
    if item2.isItem pItem then count ≤ proto.GetMaxStackSize
    else item2.CanBeMergedPartlyWith proto = .OK ∧ item2.count + count ≤ proto.GetMaxStackSize

/-- What is stored and what is not are what was asked for, and it is stored where it may be. -/
structure StoreContract (entry count : ℕ) (pItem : Option Item) (answer : StoreAnswer) : Prop where
  total : ∀ left ∈ answer.spaceCount, (answer.dest.map Prod.snd).sum + left = count
  ok : answer.result = .OK → (answer.dest.map Prod.snd).sum = count
  distinct : (answer.dest.map Prod.fst).Nodup
  places : ∀ x ∈ answer.dest, ∃ proto, mgr.GetItemTemplate entry = some proto ∧
    player.MayGoTo mgr proto x.1 = true ∧ player.HasSpace mgr proto pItem x.1 x.2

/-- What `CanStoreItem` looks for a place for, with what cannot be carried taken off. -/
def wantedCount (entry count : ℕ) (pItem : Option Item) : ℕ :=
  if (player.CanTakeMoreSimilarItems mgr entry count pItem).1 = .OK then count
  else uint32 (count - (player.CanTakeMoreSimilarItems mgr entry count pItem).2)

/-- The item gets as far as the search. -/
def isSearchedFor (entry count : ℕ) (pItem : Option Item) (proto : ItemTemplate) : Prop :=
  mgr.GetItemTemplate entry = some proto ∧ ¬ pItem.any (·.lootGenerated) = true ∧ ¬ pItem.any (·.bindedNotWith) = true ∧
    ((player.CanTakeMoreSimilarItems mgr entry count pItem).1 = .OK ∨
      count ≠ (player.CanTakeMoreSimilarItems mgr entry count pItem).2)

/-- The inputs for which `CanStoreItem` keeps its promise. -/
structure StoreSafe (bag slot entry count : ℕ) (pItem : Option Item) (no_space_count : Option ℕ)
    (proto : ItemTemplate) : Prop where
  carried : no_space_count.isSome = true → count < (player.CanTakeMoreSimilarItems mgr entry count pItem).2 →
    Filling.room [] (player.searchOrder mgr proto pItem bag slot false) ≤ count
  told : leavesSpaceCount proto pItem bag = true → ∀ left ∈ no_space_count, left = count
  room : ∀ place ∈ player.searchOrder mgr proto pItem bag slot false, player.MayGoTo mgr proto place.1 = false →
    player.wantedCount mgr entry count pItem ≤ Filling.room []
      ((player.searchOrder mgr proto pItem bag slot false).takeWhile fun x ↦ x.1 ≠ place.1)

/-! ## The places of the search -/

variable {mgr player} {proto : ItemTemplate} {pItem : Option Item} {bag slot : ℕ}

/-- What the search comes to. -/
inductive SearchPlace (mgr : ObjectMgr) (player : Player) (proto : ItemTemplate)
    (pItem : Option Item) (bag slot : ℕ) : ℕ × ℕ → Prop
  | told (space : ℕ) (hslot : slot ≠ NULL_SLOT)
      (h : player.specificSpace mgr proto pItem bag slot false = .ok space) :
      SearchPlace mgr player proto pItem bag slot (makePos bag slot, space)
  | stack (j space : ℕ) (hj : j < PLAYER_SLOT_END)
      (h : player.slotSpace mgr proto pItem true INVENTORY_SLOT_BAG_0 j = some space) :
      SearchPlace mgr player proto pItem bag slot (makePos INVENTORY_SLOT_BAG_0 j, space)
  | backpack (j space : ℕ) (hj : INVENTORY_SLOT_ITEM_START ≤ j ∧ j < INVENTORY_SLOT_ITEM_END)
      (h : player.slotSpace mgr proto pItem false INVENTORY_SLOT_BAG_0 j = some space) :
      SearchPlace mgr player proto pItem bag slot (makePos INVENTORY_SLOT_BAG_0 j, space)
  | key (j space : ℕ) (hj : KEYRING_SLOT_START ≤ j ∧ j < KEYRING_SLOT_END)
      (hkey : proto.hasFamily BAG_FAMILY_MASK_KEYS = true)
      (h : player.slotSpace mgr proto pItem false INVENTORY_SLOT_BAG_0 j = some space) :
      SearchPlace mgr player proto pItem bag slot (makePos INVENTORY_SLOT_BAG_0 j, space)
  | currency (j space : ℕ) (hj : CURRENCYTOKEN_SLOT_START ≤ j ∧ j < CURRENCYTOKEN_SLOT_END)
      (hcurrency : proto.IsCurrencyToken = true ∨
        proto.hasFamily BAG_FAMILY_MASK_KEYS = true ∧ bag = INVENTORY_SLOT_BAG_0)
      (h : player.slotSpace mgr proto pItem false INVENTORY_SLOT_BAG_0 j = some space) :
      SearchPlace mgr player proto pItem bag slot (makePos INVENTORY_SLOT_BAG_0 j, space)
  | inBag (i j space : ℕ) (merge : Bool) (hi : player.bagIsOpen mgr proto pItem i = true)
      (hj : j < player.GetBagSize mgr i)
      (h : player.slotSpace mgr proto pItem merge i j = some space) :
      SearchPlace mgr player proto pItem bag slot (makePos i j, space)

theorem mem_slotRange {first last j : ℕ} : j ∈ slotRange first last ↔ first ≤ j ∧ j < last := by
  rw [slotRange, List.mem_range'_1]
  omega

theorem mem_slotPlaces {merge : Bool} {i : ℕ} {skip : ℕ → Bool} {slots : List ℕ} {place : ℕ × ℕ}
    (h : place ∈ player.slotPlaces mgr proto pItem merge i skip slots) :
    ∃ j ∈ slots, ∃ space, place = (makePos i j, space) ∧ player.slotSpace mgr proto pItem merge i j = some space := by
  obtain ⟨j, hj, hplace⟩ := List.mem_filterMap.mp h
  obtain ⟨space, hspace, rfl⟩ := Option.map_eq_some_iff.mp hplace
  exact ⟨j, (List.mem_filter.mp hj).1, space, rfl, hspace⟩

theorem mem_ownPlaces {slot_begin slot_end : ℕ} {merge : Bool} {skip_bag skip_slot : ℕ} {place : ℕ × ℕ}
    (h : place ∈ player.ownPlaces mgr proto pItem slot_begin slot_end merge skip_bag skip_slot) :
    ∃ j space, (slot_begin ≤ j ∧ j < slot_end) ∧ place = (makePos INVENTORY_SLOT_BAG_0 j, space) ∧
      player.slotSpace mgr proto pItem merge INVENTORY_SLOT_BAG_0 j = some space := by
  obtain ⟨j, hj, space, hplace, hspace⟩ := mem_slotPlaces h
  exact ⟨j, space, mem_slotRange.mp hj, hplace, hspace⟩

section searchPlace

variable {place : ℕ × ℕ}

theorem searchPlace_bag {i : ℕ} {merge : Bool} {skip_slot : ℕ} (hi : player.bagIsOpen mgr proto pItem i = true)
    (h : place ∈ player.bagPlaces mgr proto pItem i merge skip_slot) :
    SearchPlace mgr player proto pItem bag slot place := by
  obtain ⟨j, hj, space, rfl, hspace⟩ := mem_slotPlaces h
  exact .inBag i j space merge hi (mem_slotRange.mp hj).2 hspace

theorem searchPlace_ownBags {merge non_specialized : Bool} {skip_bag skip_slot : ℕ}
    (h : place ∈ player.ownBagPlaces mgr proto pItem merge non_specialized skip_bag skip_slot) :
    SearchPlace mgr player proto pItem bag slot place := by
  obtain ⟨i, -, hplace⟩ := List.mem_flatMap.mp h
  split_ifs at hplace with hi
  · exact searchPlace_bag hi.2.1 hplace
  · cases hplace

theorem searchPlace_stacks {slot_begin slot_end : ℕ} (hend : slot_end ≤ PLAYER_SLOT_END)
    (h : place ∈ player.ownPlaces mgr proto pItem slot_begin slot_end true bag slot) :
    SearchPlace mgr player proto pItem bag slot place := by
  obtain ⟨j, space, hj, rfl, hspace⟩ := mem_ownPlaces h
  exact .stack j space (Nat.lt_of_lt_of_le hj.2 hend) hspace

theorem searchPlace_backpack (h : place ∈ player.ownPlaces mgr proto pItem INVENTORY_SLOT_ITEM_START
      INVENTORY_SLOT_ITEM_END false bag slot) :
    SearchPlace mgr player proto pItem bag slot place := by
  obtain ⟨j, space, hj, rfl, hspace⟩ := mem_ownPlaces h
  exact .backpack j space hj hspace

/-- Key ring and currency; `both` only happens in the bag 255. -/
theorem searchPlace_family {both : Bool} (hboth : both = true → bag = INVENTORY_SLOT_BAG_0)
    (h : place ∈ player.familyPlaces mgr proto pItem bag slot both) :
    SearchPlace mgr player proto pItem bag slot place := by
  rw [familyPlaces] at h
  by_cases hkey : proto.hasFamily BAG_FAMILY_MASK_KEYS = true
  · rw [if_pos hkey] at h
    rcases List.mem_append.mp h with hring | hcurrency
    · obtain ⟨j, space, hj, rfl, hspace⟩ := mem_ownPlaces hring
      exact .key j space hj hkey hspace
    · split_ifs at hcurrency with hb
      · obtain ⟨j, space, hj, rfl, hspace⟩ := mem_ownPlaces hcurrency
        exact .currency j space hj (.inr ⟨hkey, hboth hb⟩) hspace
      · cases hcurrency
  · rw [if_neg hkey] at h
    split_ifs at h with hcurrency
    · obtain ⟨j, space, hj, rfl, hspace⟩ := mem_ownPlaces h
      exact .currency j space hj (.inl hcurrency) hspace
    · cases h

theorem searchPlace_anywhere (h : place ∈ player.mergePlaces mgr proto pItem bag slot ++
      (player.freePlacesForFamily mgr proto pItem bag slot ++ player.freePlaces mgr proto pItem bag slot)) :
    SearchPlace mgr player proto pItem bag slot place := by
  rcases List.mem_append.mp h with hmerge | hfree
  · rw [mergePlaces] at hmerge
    split_ifs at hmerge with hstack hfamily
    · rcases List.mem_append.mp hmerge with hown | hmerge
      · exact searchPlace_stacks (Nat.le_refl _) hown
      rcases List.mem_append.mp hmerge with hown | hmerge
      · exact searchPlace_stacks (by decide) hown
      rcases List.mem_append.mp hmerge with hbags | hbags
      · exact searchPlace_ownBags hbags
      · exact searchPlace_ownBags hbags
    · rcases List.mem_append.mp hmerge with hown | hmerge
      · exact searchPlace_stacks (Nat.le_refl _) hown
      rcases List.mem_append.mp hmerge with hown | hmerge
      · exact searchPlace_stacks (by decide) hown
      rcases List.mem_append.mp hmerge with hbags | hbags
      · cases hbags
      · exact searchPlace_ownBags hbags
    · cases hmerge
  rcases List.mem_append.mp hfree with hfamily | hfree
  · rw [freePlacesForFamily] at hfamily
    split_ifs at hfamily
    · rcases List.mem_append.mp hfamily with hfamily | hbags
      · exact searchPlace_family (fun h ↦ by cases h) hfamily
      · exact searchPlace_ownBags hbags
    · cases hfamily
  · rcases List.mem_append.mp hfree with hown | hbags
    · exact searchPlace_backpack hown
    · exact searchPlace_ownBags hbags

theorem searchPlace_afterSlot (h : place ∈ player.placesAfterSlot mgr proto pItem bag slot) :
    SearchPlace mgr player proto pItem bag slot place := by
  rw [placesAfterSlot] at h
  by_cases htold : bag = NULL_BAG
  · rw [if_pos htold] at h
    exact searchPlace_anywhere h
  rw [if_neg htold] at h
  by_cases hclosed : bag ≠ INVENTORY_SLOT_BAG_0 ∧ (!player.bagIsOpen mgr proto pItem bag) = true
  · simp [hclosed] at h
  rw [if_neg hclosed] at h
  have hopen (hown : bag ≠ INVENTORY_SLOT_BAG_0) : player.bagIsOpen mgr proto pItem bag = true := by
    by_contra hnot
    exact hclosed ⟨hown, by simpa using hnot⟩
  rcases List.mem_append.mp h with hmerge | h
  · rw [mergePlacesInSpecificBag] at hmerge
    split_ifs at hmerge with hstack hown
    · rcases List.mem_append.mp hmerge with hstacks | hstacks
      · exact searchPlace_stacks (Nat.le_refl _) hstacks
      · exact searchPlace_stacks (by decide) hstacks
    · exact searchPlace_bag (hopen hown) hmerge
    · cases hmerge
  rcases List.mem_append.mp h with hfree | h
  · rw [freePlacesInSpecificBag] at hfree
    split_ifs at hfree with hown
    · rcases List.mem_append.mp hfree with hfamily | hbackpack
      · exact searchPlace_family (fun _ ↦ hown) hfamily
      · exact searchPlace_backpack hbackpack
    · exact searchPlace_bag (hopen hown) hfree
  · exact searchPlace_anywhere h

/-- **The places of the search order** are of these kinds. -/
theorem searchPlace_of_mem (h : place ∈ player.searchOrder mgr proto pItem bag slot false) :
    SearchPlace mgr player proto pItem bag slot place := by
  have hafter (h : place ∈ if pItem.any (·.notEmptyBag) = true then []
      else player.placesAfterSlot mgr proto pItem bag slot) :
      SearchPlace mgr player proto pItem bag slot place := by
    split_ifs at h
    · cases h
    · exact searchPlace_afterSlot h
  rw [searchOrder] at h
  by_cases htold : bag ≠ NULL_BAG ∧ slot ≠ NULL_SLOT
  · rw [if_pos htold] at h
    cases hspace : player.specificSpace mgr proto pItem bag slot false with
    | error res =>
      simp [hspace] at h
    | ok space =>
      rw [hspace] at h
      rcases List.mem_cons.mp h with rfl | h
      · exact .told space htold.2 hspace
      · exact hafter h
  · rw [if_neg htold] at h
    exact hafter h

end searchPlace

/-! ## What the places are -/

theorem makePos_div {i j : ℕ} (hj : j < 256) : makePos i j / 256 = i := by
  rw [makePos]
  omega

theorem makePos_mod {i j : ℕ} (hj : j < 256) : makePos i j % 256 = j := by
  rw [makePos]
  omega

/-- The space of a position is that of the item that is there, if it is not the one that is moved. -/
theorem hasSpace_iff {i j count : ℕ} (hj : j < 256) : player.HasSpace mgr proto pItem (makePos i j) count ↔
      match player.otherItem mgr pItem i j with
      | none => count ≤ proto.GetMaxStackSize
      | some item2 => item2.CanBeMergedPartlyWith proto = .OK ∧ item2.count + count ≤ proto.GetMaxStackSize := by
  rw [HasSpace, makePos_div hj, makePos_mod hj, otherItem]
  cases player.GetItemByPos mgr i j with
  | none => rfl
  | some item2 =>
    rw [Option.filter_some]
    dsimp only
    cases item2.isItem pItem with
    | true => rfl
    | false => rfl

theorem count_lt_of_merge {item2 : Item} (h : item2.CanBeMergedPartlyWith proto = .OK) :
    item2.count < proto.GetMaxStackSize := by
  rw [Item.CanBeMergedPartlyWith] at h
  split_ifs at h with _ _ hfull
  exact Nat.lt_of_not_le hfull

/-- A place has the space of an empty slot, or what is left of that of a stack. -/
theorem slotSpace_spec {merge : Bool} {i j space : ℕ} (h : player.slotSpace mgr proto pItem merge i j = some space) :
    match player.otherItem mgr pItem i j with
    | none => merge = false ∧ space = proto.GetMaxStackSize
    | some item2 => item2.CanBeMergedPartlyWith proto = .OK ∧ space + item2.count = proto.GetMaxStackSize := by
  rw [slotSpace] at h
  cases hother : player.otherItem mgr pItem i j with
  | none =>
    rw [hother] at h
    dsimp only at h ⊢
    split_ifs at h with hmerge
    exact ⟨Bool.eq_false_iff.mpr hmerge, (Option.some.inj h).symm⟩
  | some item2 =>
    rw [hother] at h
    dsimp only at h ⊢
    split_ifs at h with hnot
    have hmerge : item2.CanBeMergedPartlyWith proto = .OK := by
      by_contra hne
      exact hnot (.inr hne)
    have hspace := Option.some.inj h
    have hlt := count_lt_of_merge hmerge
    exact ⟨hmerge, by omega⟩

/-- The slot that is told is asked whether the item may go there only if it is empty. -/
theorem specificSpace_spec {space : ℕ} (h : player.specificSpace mgr proto pItem bag slot false = .ok space) :
    match player.otherItem mgr pItem bag slot with
    | none => player.fitsSlot mgr proto bag slot = true ∧ space = proto.GetMaxStackSize
    | some item2 => item2.CanBeMergedPartlyWith proto = .OK ∧ space + item2.count = proto.GetMaxStackSize := by
  have hall (item : Option Item) : (item.filter fun _ ↦ !false) = item := by
    cases item <;> rfl
  rw [specificSpace, hall] at h
  by_cases hbag : pItem.any (·.notEmptyBag) = true ∧ (!IsBagPos bag slot) = true
  · simp [hbag] at h
  rw [if_neg hbag] at h
  cases hother : player.otherItem mgr pItem bag slot with
  | none =>
    rw [hother] at h
    dsimp only at h ⊢
    split_ifs at h with hfits
    exact ⟨hfits, (Except.ok.inj h).symm⟩
  | some item2 =>
    rw [hother] at h
    dsimp only at h ⊢
    split_ifs at h with hnot
    have hmerge := not_not.mp hnot
    have hspace := Except.ok.inj h
    have hlt := count_lt_of_merge hmerge
    exact ⟨hmerge, by omega⟩

theorem hasSpace_of_slotSpace {merge : Bool} {i j space count : ℕ} (hj : j < 256)
    (h : player.slotSpace mgr proto pItem merge i j = some space) (hcount : count ≤ space) :
    player.HasSpace mgr proto pItem (makePos i j) count := by
  have hspec := slotSpace_spec h
  rw [hasSpace_iff hj]
  cases hother : player.otherItem mgr pItem i j with
  | none =>
    rw [hother] at hspec
    exact hspec.2 ▸ hcount
  | some item2 =>
    rw [hother] at hspec
    exact ⟨hspec.1, by omega⟩

theorem hasSpace_of_specificSpace {space count : ℕ} (hslot : slot < 256)
    (h : player.specificSpace mgr proto pItem bag slot false = .ok space) (hcount : count ≤ space) :
    player.HasSpace mgr proto pItem (makePos bag slot) count := by
  have hspec := specificSpace_spec h
  rw [hasSpace_iff hslot]
  cases hother : player.otherItem mgr pItem bag slot with
  | none =>
    rw [hother] at hspec
    exact hspec.2 ▸ hcount
  | some item2 =>
    rw [hother] at hspec
    exact ⟨hspec.1, by omega⟩

theorem GetBagSize_le (i : ℕ) : player.GetBagSize mgr i ≤ MAX_BAG_SIZE := by
  rw [GetBagSize]
  cases hb : player.GetBagByPos mgr i with
  | none => exact Nat.zero_le _
  | some b =>
    rw [GetBagByPos] at hb
    split_ifs at hb
    obtain ⟨item, -, hproto⟩ := Option.bind_eq_some_iff.mp hb
    obtain ⟨bagProto, hbagProto, rfl⟩ := Option.map_eq_some_iff.mp hproto
    exact mgr.ContainerSlots_le _ _ (Option.filter_eq_some_iff.mp hbagProto).1

/-- **Every place has the space** that the search says it has. -/
theorem hasSpace_of_searchPlace {place : ℕ × ℕ} {count : ℕ} (hslot : slot < 256)
    (h : SearchPlace mgr player proto pItem bag slot place) (hcount : count ≤ place.2) :
    player.HasSpace mgr proto pItem place.1 count := by
  have hbackpack : INVENTORY_SLOT_ITEM_END ≤ 256 := by decide
  have hring : KEYRING_SLOT_END ≤ 256 := by decide
  have hcurrency : CURRENCYTOKEN_SLOT_END ≤ 256 := by decide
  have hown : PLAYER_SLOT_END ≤ 256 := by decide
  have hbags : MAX_BAG_SIZE ≤ 256 := by decide
  cases h with
  | told space _ h => exact hasSpace_of_specificSpace hslot h hcount
  | stack j space hj h => exact hasSpace_of_slotSpace (Nat.lt_of_lt_of_le hj hown) h hcount
  | backpack j space hj h => exact hasSpace_of_slotSpace (Nat.lt_of_lt_of_le hj.2 hbackpack) h hcount
  | key j space hj _ h => exact hasSpace_of_slotSpace (Nat.lt_of_lt_of_le hj.2 hring) h hcount
  | currency j space hj _ h =>
    exact hasSpace_of_slotSpace (Nat.lt_of_lt_of_le hj.2 hcurrency) h hcount
  | inBag i j space merge _ hj h =>
    have hj' := Nat.lt_of_lt_of_le hj (GetBagSize_le i)
    exact hasSpace_of_slotSpace (Nat.lt_of_lt_of_le hj' hbags) h hcount

/-! ## The contract -/

variable {entry count : ℕ} {no_space_count : Option ℕ}

theorem uint32_lt (x : ℤ) : uint32 x < 2 ^ 32 := by
  rw [uint32]
  omega

variable (mgr player entry pItem) in
/-- What cannot be carried is a `uint32`, and it is nothing if there is no limit to exceed. -/
theorem CanTakeMoreSimilarItems_spec (hlt : count < 2 ^ 32) :
    ((player.CanTakeMoreSimilarItems mgr entry count pItem).1 = .OK →
      (player.CanTakeMoreSimilarItems mgr entry count pItem).2 = 0) ∧
    (player.CanTakeMoreSimilarItems mgr entry count pItem).2 < 2 ^ 32 := by
  have hsub (x : ℤ) (n : ℕ) : uint32 x - n < 2 ^ 32 := Nat.lt_of_le_of_lt (Nat.sub_le ..) (uint32_lt x)
  rw [CanTakeMoreSimilarItems]
  cases mgr.GetItemTemplate entry with
  | none => exact ⟨nofun, hlt⟩
  | some proto =>
    dsimp only
    split_ifs
    · exact ⟨nofun, by decide⟩
    · exact ⟨fun _ ↦ rfl, by decide⟩
    · exact ⟨nofun, hsub _ _⟩
    · cases mgr.ItemLimitCategory proto.ItemLimitCategory with
      | none => exact ⟨nofun, hlt⟩
      | some limitEntry =>
        dsimp only
        split_ifs
        · exact ⟨nofun, hsub _ _⟩
        · exact ⟨fun _ ↦ rfl, by decide⟩
    · exact ⟨fun _ ↦ rfl, by decide⟩

variable (mgr player entry pItem) in
/-- What is wanted and what cannot be carried are the count together, but for a wrap around. -/
theorem wantedCount_spec (hcount : 0 < count) (hlt : count < 2 ^ 32)
    (hne : (player.CanTakeMoreSimilarItems mgr entry count pItem).1 = .OK ∨
      count ≠ (player.CanTakeMoreSimilarItems mgr entry count pItem).2) :
    player.wantedCount mgr entry count pItem ≠ 0 ∧
    player.wantedCount mgr entry count pItem + (player.CanTakeMoreSimilarItems mgr entry count pItem).2 =
      if count < (player.CanTakeMoreSimilarItems mgr entry count pItem).2 then count + 2 ^ 32
      else count := by
  obtain ⟨hok, hle⟩ := CanTakeMoreSimilarItems_spec mgr player pItem entry hlt
  rw [wantedCount]
  by_cases h : (player.CanTakeMoreSimilarItems mgr entry count pItem).1 = .OK
  · rw [if_pos h, hok h]
    exact ⟨by omega, (if_neg (by omega)).symm⟩
  · have hne' := hne.resolve_left h
    rw [if_neg h, uint32]
    split_ifs <;> omega

variable (mgr player pItem bag slot entry count no_space_count) in
theorem CanStoreItem_spec (swap : Bool) : (∃ proto, isSearchedFor mgr player entry count pItem proto ∧
      player.CanStoreItem mgr bag slot entry count pItem swap no_space_count =
        player.storeSearch mgr proto pItem (player.CanTakeMoreSimilarItems mgr entry count pItem).2
          no_space_count bag slot swap ⟨[], player.wantedCount mgr entry count pItem⟩) ∨
    ((∀ proto, ¬ isSearchedFor mgr player entry count pItem proto) ∧
      ∃ res, res ≠ .OK ∧ player.CanStoreItem mgr bag slot entry count pItem swap no_space_count =
        ⟨res, [], no_space_count.map fun _ ↦ count⟩) := by
  rw [CanStoreItem]
  cases hproto : mgr.GetItemTemplate entry with
  | none =>
    refine .inr ⟨fun proto h ↦ ?_, _, ?_, rfl⟩
    · rw [isSearchedFor, hproto] at h
      cases h.1
    · cases swap <;> exact InventoryResult.noConfusion
  | some proto =>
    dsimp only
    by_cases hlooted : pItem.any (·.lootGenerated) = true
    · rw [if_pos hlooted]
      exact .inr ⟨fun proto h ↦ h.2.1 hlooted, _, InventoryResult.noConfusion, rfl⟩
    rw [if_neg hlooted]
    by_cases hbound : pItem.any (·.bindedNotWith) = true
    · rw [if_pos hbound]
      exact .inr ⟨fun proto h ↦ h.2.2.1 hbound, _, InventoryResult.noConfusion, rfl⟩
    rw [if_neg hbound]
    have hsearched (h : (player.CanTakeMoreSimilarItems mgr entry count pItem).1 = .OK ∨
        count ≠ (player.CanTakeMoreSimilarItems mgr entry count pItem).2) :
        isSearchedFor mgr player entry count pItem proto := ⟨hproto, hlooted, hbound, h⟩
    have hnot (h : ¬ ((player.CanTakeMoreSimilarItems mgr entry count pItem).1 = .OK ∨
        count ≠ (player.CanTakeMoreSimilarItems mgr entry count pItem).2)) (proto : ItemTemplate) :
        ¬ isSearchedFor mgr player entry count pItem proto := fun hs ↦ h hs.2.2.2
    rw [wantedCount]
    generalize player.CanTakeMoreSimilarItems mgr entry count pItem = answer at hsearched hnot ⊢
    obtain ⟨res, no_similar⟩ := answer
    by_cases hok : res = .OK
    · subst hok
      exact .inl ⟨proto, hsearched (.inl rfl), rfl⟩
    · by_cases hall : count = no_similar
      · refine .inr ⟨hnot (not_or.mpr ⟨hok, not_not.mpr hall⟩), res, hok, ?_⟩
        rw [hall]
        cases res with
        | OK => exact absurd rfl hok
        | _ => exact if_pos rfl
      · refine .inl ⟨proto, hsearched (.inr hall), ?_⟩
        rw [if_neg hok]
        cases res with
        | OK => exact absurd rfl hok
        | _ => exact if_neg hall

section answers

variable {no_similar wanted : ℕ} {order : List (ℕ × ℕ)} {unset : Bool} {answer : StoreAnswer}
variable (h : Answers no_similar no_space_count unset ((State.mk [] wanted).fill order) answer)

include h

/-- What is stored, and what is left in the end, are what was wanted. -/
theorem sum_dest_add_left : (answer.dest.map Prod.snd).sum + ((State.mk [] wanted).fill order).left = wanted := by
  have htotal := State.total_fill (State.mk [] wanted) order
  rw [State.total, State.total, ← h.dest] at htotal
  simpa using htotal

/-- **The total** is right but for a wrap around with too much room, and what is not written at all. -/
theorem total_iff (hwanted : wanted ≠ 0)
    (hsum : wanted + no_similar = if count < no_similar then count + 2 ^ 32 else count)
    (hlt : count < 2 ^ 32) (hsimilar : no_similar < 2 ^ 32) (hunset : unset = true → order = []) :
    (∀ left ∈ answer.spaceCount, (answer.dest.map Prod.snd).sum + left = count) ↔
      (no_space_count.isSome = true → count < no_similar → Filling.room [] order ≤ count) ∧
      (unset = true → ∀ left ∈ no_space_count, left = count) := by
  have htotal := sum_dest_add_left h
  have hleft : ((State.mk [] wanted).fill order).left = wanted - Filling.room [] order := State.left_fill ..
  have hunset' (hu : unset = true) : Filling.room [] order = 0 := by
    rw [hunset hu]
    rfl
  by_cases hok : answer.result = .OK
  · -- nothing is left, so all that was wanted is stored, and that was the count
    obtain ⟨hzero, hnone⟩ := h.ok.mp hok
    rw [if_neg (by omega)] at hsum
    refine iff_of_true (fun left hmem ↦ ?_) ⟨fun _ hwrap ↦ by omega, fun hu ↦ ?_⟩
    · rw [StoreAnswer.spaceCount, if_pos hok] at hmem
      obtain ⟨_, -, rfl⟩ := Option.map_eq_some_iff.mp hmem
      omega
    · have hroom := hunset' hu
      omega
  rw [StoreAnswer.spaceCount, if_neg hok, h.space hok]
  cases no_space_count with
  | none => simp
  | some initial =>
    by_cases hu : unset = true
    · have hroom := hunset' hu
      rw [if_pos ⟨hu, by omega⟩]
      have hsum_dest : (answer.dest.map Prod.snd).sum = 0 := by omega
      simp [hu, hroom, hsum_dest]
    · rw [if_neg fun hu' ↦ hu hu'.1]
      simp only [Option.map_some, Option.mem_def, Option.some.injEq, forall_eq', hu,
        Option.isSome_some, true_implies, false_implies, and_true, uint32, Bool.false_eq_true]
      split_ifs at hsum <;> omega

/-- **The places** are right as long as there is room in front of the wrong ones. -/
theorem places_iff {proto : ItemTemplate} (hproto : mgr.GetItemTemplate entry = some proto)
    (hslot : slot < 256) (horder : ∀ place ∈ order, SearchPlace mgr player proto pItem bag slot place) :
    (∀ x ∈ answer.dest, ∃ proto, mgr.GetItemTemplate entry = some proto ∧
      player.MayGoTo mgr proto x.1 = true ∧ player.HasSpace mgr proto pItem x.1 x.2) ↔
    ∀ place ∈ order, player.MayGoTo mgr proto place.1 = false →
      wanted ≤ Filling.room [] (order.takeWhile fun x ↦ x.1 ≠ place.1) := by
  have htaken (pos : ℕ) : pos ∈ answer.dest.map Prod.fst ↔ pos ∈ order.map Prod.fst ∧
      Filling.room [] (order.takeWhile fun x ↦ x.1 ≠ pos) < wanted := by
    have hiff := State.mem_taken_fill_iff (State.mk [] wanted) order pos
    rw [State.taken, State.taken, ← h.dest] at hiff
    rw [hiff]
    exact or_iff_right (List.not_mem_nil)
  constructor
  · intro hplaces place hplace hwrong
    by_contra hroom
    have hmem := (htaken place.1).mpr ⟨List.mem_map_of_mem hplace, Nat.lt_of_not_le hroom⟩
    obtain ⟨x, hx, heq⟩ := List.mem_map.mp hmem
    obtain ⟨proto', hproto', hmay, -⟩ := hplaces x hx
    obtain rfl : proto = proto' := Option.some.inj (hproto.symm.trans hproto')
    simp [heq, hwrong] at hmay
  · intro hroom x hx
    have hput : x ∈ ((State.mk [] wanted).fill order).put := h.dest ▸ hx
    obtain ⟨space, hplace, hle⟩ := (State.mem_put_fill hput).resolve_left List.not_mem_nil
    have hsearch := horder (x.1, space) hplace
    have hspace := hasSpace_of_searchPlace hslot hsearch hle
    refine ⟨proto, hproto, ?_, hspace⟩
    by_contra hwrong
    have hmem := (htaken x.1).mp (List.mem_map_of_mem hx)
    have hle := hroom _ hplace (Bool.eq_false_iff.mpr hwrong)
    exact Nat.lt_irrefl _ (Nat.lt_of_lt_of_le hmem.2 hle)

end answers

/-- Only a bag with something in it leaves `no_space_count` as it is, and that is looked for nowhere. -/
theorem searchOrder_of_leavesSpaceCount (h : leavesSpaceCount proto pItem bag = true) (swap : Bool) :
    player.searchOrder mgr proto pItem bag slot swap = [] := by
  have hbag := (of_decide_eq_true h)
  rw [searchOrder, if_neg fun htold ↦ htold.1 hbag.2.1]
  exact if_pos hbag.1

/-- A store with one item, of which one can carry only one. -/
def uniqueMgr : ObjectMgr where
  GetItemTemplate entry := if entry = 1 then some { ItemId := 1, MaxCount := 1 } else none
  ItemId_eq entry proto h := by
    split_ifs at h with hentry
    cases h
    exact hentry.symm
  ContainerSlots_le entry proto h := by
    split_ifs at h
    cases h
    exact Nat.zero_le _
  Stackable_lt entry proto h := by
    split_ifs at h
    cases h
    decide
  ItemLimitCategory _ := none

/-- A player who carries two of it. -/
def twiceUnique : Player where
  items := ((∅ : ExtTreeMap ℕ Item).insert (makePos INVENTORY_SLOT_BAG_0 23)
    { guid := 1, entry := 1, count := 1 }).insert (makePos INVENTORY_SLOT_BAG_0 24)
    { guid := 2, entry := 1, count := 1 }

/-- No stack is larger than it can be. -/
def StacksFit (mgr : ObjectMgr) (player : Player) : Prop :=
  ∀ (pos : ℕ) (item : Item) (proto : ItemTemplate), player.items[pos]? = some item →
    mgr.GetItemTemplate item.entry = some proto →
    item.count ≤ proto.GetMaxStackSize

end Player

end Gundrak.Players
