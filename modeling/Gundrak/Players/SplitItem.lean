import Gundrak.Players.EquipItem

/-!
# Splitting a stack

`Player::SplitItem` takes a count from one stack and puts it somewhere else as an item of its own.  The source is made
smaller first, so that the checks of the destination see it like that; when they fail, it gets its count back.

The destination gets what it has room for.  The rest goes where `CanStoreItem` and `CanBankItem` find a place for it,
perhaps to the source again.  `SplitOff` keeps the books for every entry at every position.

* `StoreItem_moves`: the books of `StoreItem`.
* **`SplitItem_splitsOff`**: the result.  Either nothing has changed, or the count has been split off.
-/

open Std (ExtTreeMap)

namespace Gundrak.Players

/-! ## Splitting -/

/-- `Item::SetCount`, of the item with this guid wherever it is. -/
def Player.changeCount (player : Player) (guid : ℕ) (f : ℕ → ℕ) : Player :=
  ⟨player.items.map fun _ item ↦ if item.guid = guid then { item with count := f item.count } else item⟩

/-- What the player is told when nothing is split. -/
inductive SplitError where
  | ITEM_NOT_FOUND
  | COULDNT_SPLIT_ITEMS
  | TRIED_TO_SPLIT_MORE_THAN_COUNT
  | of (res : MoveResult)
deriving DecidableEq

/-- What the player is told, if anything, and the player afterwards, with the next guid. -/
structure SplitAnswer where
  error : Option SplitError
  player : Player
  guid : ℕ

section splitting

variable (mgr : ObjectMgr) (now : MoveCircumstances) (player : Player) (guid src dst count : ℕ)

/-- What `SplitItem` does with a new item, when the source is already smaller; `pSrcItem` is the source. -/
def placeSplit (reduced : Player) (pSrcItem pNewItem : Item) : SplitAnswer :=
  let dstbag := dst / 256
  let dstslot := dst % 256
  let restore (s : Player × ℕ) (res : MoveResult) : SplitAnswer :=
    ⟨some (.of res), s.1.changeCount pSrcItem.guid (· + count), s.2⟩
  if IsInventoryPos dstbag dstslot then
    let msg := reduced.CanStoreItem mgr dstbag dstslot pNewItem.entry pNewItem.count (some pNewItem) false none
    if msg.result ≠ .OK then restore (reduced, guid + 1) (.of msg.result)
    else
      let stored := reduced.StoreItem mgr pNewItem (guid + 1) msg.dest
      ⟨none, stored.1, stored.2⟩
  else if IsBankPos dstbag dstslot then
    -- a new item lies in slot 0
    let msg := reduced.CanBankItem mgr now dstbag dstslot pNewItem 0 false
    if msg.1 ≠ .of .OK then restore (reduced, guid + 1) msg.1
    else
      let stored := reduced.StoreItem mgr pNewItem (guid + 1) msg.2
      ⟨none, stored.1, stored.2⟩
  else
    let msg := CanEquipItem mgr now dstslot pNewItem false (reduced, guid + 1)
    if msg.2.1 ≠ .of .OK then restore msg.1 msg.2.1
    else
      let equipped := AutoUnequipOffhandIfNeed mgr now false (msg.1.1.EquipItem mgr msg.2.2 pNewItem, msg.1.2)
      ⟨none, equipped.1, equipped.2⟩

/-- `Player::SplitItem`, with the next guid. -/
def Player.SplitItem : SplitAnswer :=
  match player.GetItemByPos mgr (src / 256) (src % 256) with
  | none => ⟨some .ITEM_NOT_FOUND, player, guid⟩
  | some pSrcItem =>
    -- prevent split looting item
    if pSrcItem.lootGenerated then ⟨some .COULDNT_SPLIT_ITEMS, player, guid⟩
    -- not let split all items, or more existing items
    else if pSrcItem.count = count then ⟨some .COULDNT_SPLIT_ITEMS, player, guid⟩
    else if pSrcItem.count < count then ⟨some .TRIED_TO_SPLIT_MORE_THAN_COUNT, player, guid⟩
    else if pSrcItem.inTrade then ⟨none, player, guid⟩
    else
      match pSrcItem.CloneItem mgr count guid true with
      | none => ⟨some .ITEM_NOT_FOUND, player, guid⟩
      | some pNewItem =>
        if IsInventoryPos (dst / 256) (dst % 256) || IsBankPos (dst / 256) (dst % 256) ||
            IsEquipmentPos (dst / 256) (dst % 256) then
          -- change item amount before check (for unique max count check)
          placeSplit mgr now guid dst count (player.changeCount pSrcItem.guid (· - count)) pSrcItem pNewItem
        else ⟨none, player, guid + 1⟩

end splitting

/-! ## Books -/

/-- How much of an entry lies at a position. -/
def amountAt (items : ExtTreeMap ℕ Item) (entry pos : ℕ) : ℕ :=
  match items[pos]? with
  | none => 0
  | some item => if item.entry = entry then item.count else 0

/-- How much goes to a position. -/
def sentTo (dest : List (ℕ × ℕ)) (pos : ℕ) : ℕ := ((dest.filter fun x ↦ decide (x.1 = pos)).map Prod.snd).sum

/-- So much of an entry is put to some positions, and nothing else changes. -/
structure Receives (items items' : ExtTreeMap ℕ Item) (entry : ℕ) (dest : List (ℕ × ℕ)) : Prop where
  amounts : ∀ e q, amountAt items' e q = amountAt items e q + if e = entry then sentTo dest q else 0
  frame : ∀ q, q ∉ dest.map Prod.fst → items'[q]? = items[q]?

section books

variable {items items' items'' : ExtTreeMap ℕ Item} {entry e q : ℕ} {x : ℕ × ℕ} {dest : List (ℕ × ℕ)}

theorem sentTo_nil : sentTo [] q = 0 := rfl

theorem sentTo_cons : sentTo (x :: dest) q = (if x.1 = q then x.2 else 0) + sentTo dest q := by
  rw [sentTo, List.filter_cons]
  by_cases hq : x.1 = q
  · rw [if_pos (decide_eq_true hq), if_pos hq, List.map_cons, List.sum_cons]
    rfl
  · rw [if_neg (fun h ↦ hq (of_decide_eq_true h)), if_neg hq, Nat.zero_add]
    rfl

theorem Receives.nil (items : ExtTreeMap ℕ Item) (entry : ℕ) : Receives items items entry [] := by
  refine ⟨fun e q ↦ ?_, fun q _ ↦ rfl⟩
  simp [sentTo_nil]

theorem Receives.cons (h : Receives items items' entry [x]) (hrest : Receives items' items'' entry dest) :
    Receives items items'' entry (x :: dest) := by
  refine ⟨fun e q ↦ ?_, fun q hq ↦ ?_⟩
  · rw [hrest.amounts, h.amounts, sentTo_cons, sentTo_cons, sentTo_nil, Nat.add_zero]
    split <;> omega
  · have hne : q ∉ [x].map Prod.fst := fun hmem ↦ hq (List.mem_cons.mpr (.inl (List.mem_singleton.mp hmem)))
    rw [hrest.frame q fun hmem ↦ hq (List.mem_cons_of_mem _ hmem), h.frame q hne]

theorem amountAt_of_none (h : items[q]? = none) : amountAt items e q = 0 := by
  rw [amountAt, h]

theorem amountAt_of_some {item : Item} (h : items[q]? = some item) :
    amountAt items e q = if item.entry = e then item.count else 0 := by
  rw [amountAt, h]

theorem Receives.insert {pos count : ℕ} {stored : Item}
    (h : ∀ e, (if stored.entry = e then stored.count else 0) = amountAt items e pos + if e = entry then count else 0) :
    Receives items (items.insert pos stored) entry [(pos, count)] := by
  refine ⟨fun e q ↦ ?_, fun q hq ↦ ?_⟩
  · have hsent : sentTo [(pos, count)] q = if pos = q then count else 0 := by
      simp [sentTo_cons, sentTo_nil]
    rw [hsent]
    by_cases hpos : pos = q
    · subst hpos
      have hself : (items.insert pos stored)[pos]? = some stored := by rw [TreeMap.get_insert, if_pos rfl]
      simp [amountAt_of_some hself, h e]
    · have hother : (items.insert pos stored)[q]? = items[q]? := by rw [TreeMap.get_insert, if_neg hpos]
      simp [hpos, amountAt, hother]
  · have hne : pos ≠ q := fun heq ↦ hq (List.mem_singleton.mpr heq.symm)
    rw [TreeMap.get_insert, if_neg hne]

end books

theorem PutAt.receives {items items' : ExtTreeMap ℕ Item} {pItem : Item} {proto : ItemTemplate}
    {guid guid' pos count : ℕ} {clone : Bool} (h : PutAt items pItem guid pos count clone items' guid')
    (hroom : RoomAt items proto pItem pos count) : Receives items items' pItem.entry [(pos, count)] := by
  have hnew : ∀ stored : Item, items[pos]? = none → stored.entry = pItem.entry → stored.count = count → ∀ e,
      (if stored.entry = e then stored.count else 0) = amountAt items e pos + if e = pItem.entry then count else 0 := by
    intro stored hnone hentry hcount e
    simp [amountAt_of_none hnone, hentry, hcount, if_congr eq_comm rfl rfl]
  cases h with
  | merge item2 stored hitem _ hentry hcount =>
    refine Receives.insert fun e ↦ ?_
    obtain ⟨hnone, -⟩ | ⟨old, hold, hsame, -⟩ := hroom
    · simp [hnone] at hitem
    · obtain rfl := Option.some.inj (hitem.symm.trans hold)
      rw [amountAt_of_some hitem, hentry, hcount, hsame]
      by_cases he : pItem.entry = e
      · rw [if_pos he, if_pos he, if_pos he.symm]
      · rw [if_neg he, if_neg he, if_neg (Ne.symm he)]
  | whole stored hnone _ _ hentry hcount => exact Receives.insert (hnew stored hnone hentry hcount)
  | cloned stored hnone _ _ hentry hcount => exact Receives.insert (hnew stored hnone hentry hcount)
  | nothing hnone _ hcount =>
    refine ⟨fun e q ↦ ?_, fun q _ ↦ rfl⟩
    simp [hcount, sentTo_cons, sentTo_nil]

namespace Player

variable {mgr : ObjectMgr} {now : MoveCircumstances} {player : Player} {pItem : Item} {guid : ℕ}

/-- **The books of `StoreItem`**, at positions that have room. -/
theorem StoreItem_receives (guid : ℕ) {proto : ItemTemplate} (hproto : mgr.GetItemTemplate pItem.entry = some proto)
    {dest : List (ℕ × ℕ)} (hdistinct : (dest.map Prod.fst).Nodup)
    (hroom : ∀ x ∈ dest, player.HasSlot mgr (x.1 / 256) (x.1 % 256) ∧ RoomAt player.items proto pItem x.1 x.2) :
    Receives player.items (player.StoreItem mgr pItem guid dest).1.items pItem.entry dest := by
  induction dest generalizing player guid with
  | nil => exact Receives.nil player.items pItem.entry
  | cons x dest ih =>
    obtain ⟨player', guid', hput, hroom', heq⟩ := StoreItem_step guid hproto hdistinct hroom
    rw [heq]
    exact (hput.receives (hroom x List.mem_cons_self).2).cons (ih guid' (List.nodup_cons.mp hdistinct).2 hroom')

theorem EquipItem_receives (pItem : Item) {slot : ℕ} (hslot : slot < EQUIPMENT_SLOT_END ∨
      INVENTORY_SLOT_BAG_START ≤ slot ∧ slot < INVENTORY_SLOT_BAG_END)
    (hfree : player.GetItemByPos mgr INVENTORY_SLOT_BAG_0 slot = none) :
    Receives player.items (player.EquipItem mgr (makePos INVENTORY_SLOT_BAG_0 slot) pItem).items pItem.entry
      [(makePos INVENTORY_SLOT_BAG_0 slot, pItem.count)] := by
  have hlimits : EQUIPMENT_SLOT_END = 19 ∧ INVENTORY_SLOT_BAG_END = 23 ∧ BANK_SLOT_BAG_END = 74 := by decide
  have hlt : slot < 256 := by omega
  have hhas : player.HasSlot mgr INVENTORY_SLOT_BAG_0 slot := .inl ⟨rfl, .inl (by omega)⟩
  have hnone : player.items[makePos INVENTORY_SLOT_BAG_0 slot]? = none :=
    (GetItemByPos_of_hasSlot hhas).symm.trans hfree
  rw [EquipItem, makePos_div hlt, makePos_mod hlt, hfree]
  refine Receives.insert fun e ↦ ?_
  simp [amountAt_of_none hnone, if_congr eq_comm rfl rfl]

/-! ## The source -/

theorem get_changeCount (f : ℕ → ℕ) (q : ℕ) : (player.changeCount guid f).items[q]? = player.items[q]?.map fun item ↦
      if item.guid = guid then { item with count := f item.count } else item :=
  ExtTreeMap.getElem?_map

theorem get_changeCount_of_ne {src q : ℕ} {pSrcItem : Item} (hone : InOneSlot player.items)
    (hsrc : player.items[src]? = some pSrcItem) (f : ℕ → ℕ) (hq : q ≠ src) :
    (player.changeCount pSrcItem.guid f).items[q]? = player.items[q]? := by
  rw [get_changeCount]
  cases hitem : player.items[q]? with
  | none => rfl
  | some item =>
    have hguid : item.guid ≠ pSrcItem.guid := fun h ↦ hq (hone q src item pSrcItem hitem hsrc h)
    simp [hguid]

theorem get_changeCount_self {src : ℕ} {pSrcItem : Item} (hsrc : player.items[src]? = some pSrcItem) (f : ℕ → ℕ) :
    (player.changeCount pSrcItem.guid f).items[src]? = some { pSrcItem with count := f pSrcItem.count } := by
  simp [get_changeCount, hsrc]

section

variable {src count : ℕ} {pSrcItem : Item} (hone : InOneSlot player.items)
  (hsrc : player.items[src]? = some pSrcItem) (hle : count ≤ pSrcItem.count)
include hone hsrc hle

theorem changeCount_restore :
    (player.changeCount pSrcItem.guid (· - count)).changeCount pSrcItem.guid (· + count) = player := by
  have hitems : ((player.changeCount pSrcItem.guid (· - count)).changeCount pSrcItem.guid (· + count)).items =
      player.items := by
    refine ExtTreeMap.ext_getElem? fun q ↦ ?_
    rw [get_changeCount]
    by_cases hq : q = src
    · simp [hq, get_changeCount_self hsrc, hsrc, Option.map_some, Nat.sub_add_cancel hle]
    · rw [get_changeCount_of_ne hone hsrc _ hq]
      cases hitem : player.items[q]? with
      | none => rfl
      | some item =>
        have hguid : item.guid ≠ pSrcItem.guid := fun h ↦ hq (hone q src item pSrcItem hitem hsrc h)
        simp [hguid]
  exact congrArg Player.mk hitems

theorem amountAt_changeCount (e q : ℕ) : amountAt (player.changeCount pSrcItem.guid (· - count)).items e q +
      (if e = pSrcItem.entry ∧ q = src then count else 0) = amountAt player.items e q := by
  by_cases hq : q = src
  · rw [hq, amountAt_of_some (get_changeCount_self hsrc _), amountAt_of_some hsrc]
    by_cases he : pSrcItem.entry = e
    · rw [if_pos he, if_pos ⟨he.symm, rfl⟩, if_pos he]
      exact Nat.sub_add_cancel hle
    · rw [if_neg he, if_neg fun h ↦ he h.1.symm, if_neg he]
  · rw [if_neg fun h ↦ hq h.2, Nat.add_zero, amountAt, amountAt, get_changeCount_of_ne hone hsrc _ hq]

end

end Player

/-! ## The result -/

/-- A count is taken from the stack at `src`, and `gained` arrives at the positions of `dest`; nothing else changes. -/
structure SplitOff (items items' : ExtTreeMap ℕ Item) (src entry count gained : ℕ) (dest : List (ℕ × ℕ)) : Prop where
  total : (dest.map Prod.snd).sum = gained
  amounts : ∀ e q, amountAt items' e q + (if e = entry ∧ q = src then count else 0) =
    amountAt items e q + if e = entry then sentTo dest q else 0
  frame : ∀ q, q ≠ src → q ∉ dest.map Prod.fst → items'[q]? = items[q]?

namespace Player

variable {mgr : ObjectMgr} {now : MoveCircumstances} {player : Player} {pSrcItem pNewItem : Item} {guid src dst count : ℕ}

theorem splitOff_of_receives {items' : ExtTreeMap ℕ Item} {dest : List (ℕ × ℕ)} (hone : InOneSlot player.items)
    (hsrc : player.items[src]? = some pSrcItem) (hle : count ≤ pSrcItem.count) (hentry : pNewItem.entry = pSrcItem.entry)
    (htotal : (dest.map Prod.snd).sum = pNewItem.count)
    (h : Receives (player.changeCount pSrcItem.guid (· - count)).items items' pNewItem.entry dest) :
    SplitOff player.items items' src pSrcItem.entry count pNewItem.count dest := by
  refine ⟨htotal, fun e q ↦ ?_, fun q hq hdest ↦ ?_⟩
  · have hbooks := amountAt_changeCount hone hsrc hle e q
    rw [h.amounts, hentry]
    omega
  · rw [h.frame q hdest, get_changeCount_of_ne hone hsrc _ hq]

/-- A count has been split off.  If the position that is told is a slot, and has room for all of it when the source is
smaller, then all of it has gone there. -/
structure IsSplit (mgr : ObjectMgr) (player split : Player) (src dst count : ℕ) (pSrcItem : Item) (proto : ItemTemplate)
    (dest : List (ℕ × ℕ)) : Prop where
  source : player.GetItemByPos mgr (src / 256) (src % 256) = some pSrcItem
  template : mgr.GetItemTemplate pSrcItem.entry = some proto
  pos : 0 < count
  less : count < pSrcItem.count
  books : SplitOff player.items split.items src pSrcItem.entry count (min count proto.GetMaxStackSize) dest
  told : dst % 256 ≠ NULL_SLOT →
    min count proto.GetMaxStackSize ≤ roomFor (player.changeCount pSrcItem.guid (· - count)).items proto dst →
    dest = [(dst, min count proto.GetMaxStackSize)]

/-- What a split comes to: nothing, or the count has been split off.  At the equipment, the off hand may be unequipped
afterwards. -/
def SplitsOrNot (mgr : ObjectMgr) (now : MoveCircumstances) (player : Player) (guid src dst count : ℕ)
    (answer : SplitAnswer) : Prop :=
  answer.player = player ∨
    answer.error = none ∧ ∃ split pSrcItem proto dest, IsSplit mgr player split src dst count pSrcItem proto dest ∧
      ((IsInventoryPos (dst / 256) (dst % 256) = true ∨ IsBankPos (dst / 256) (dst % 256) = true) ∧
          answer.player = split ∨
        IsEquipmentPos (dst / 256) (dst % 256) = true ∧ player.items[dst]? = none ∧
          answer.player = (AutoUnequipOffhandIfNeed mgr now false (split, guid + 1)).1)

theorem ne_nullBag_of_inventory {bag slot : ℕ} (h : IsInventoryPos bag slot = true) : bag ≠ NULL_BAG := by
  have h := of_decide_eq_true h
  have hlimits : INVENTORY_SLOT_BAG_0 = 255 ∧ INVENTORY_SLOT_BAG_START = 19 ∧ NULL_BAG = 0 := by decide
  omega

theorem ne_nullBag_of_bank {bag slot : ℕ} (h : IsBankPos bag slot = true) : bag ≠ NULL_BAG := by
  have h := of_decide_eq_true h
  have hlimits : INVENTORY_SLOT_BAG_0 = 255 ∧ BANK_SLOT_BAG_START = 67 ∧ NULL_BAG = 0 := by decide
  omega

section place

variable (guid dst) {proto : ItemTemplate} (hone : InOneSlot player.items)
  (hget : player.GetItemByPos mgr (src / 256) (src % 256) = some pSrcItem)
  (hproto : mgr.GetItemTemplate pSrcItem.entry = some proto) (hpos : 0 < count) (hless : count < pSrcItem.count)
  (hentry : pNewItem.entry = pSrcItem.entry) (hcount : pNewItem.count = min count proto.GetMaxStackSize)
  (hnew : NotIn (player.changeCount pSrcItem.guid (· - count)).items pNewItem.guid)

include hone hget hproto hpos hless hentry hcount

theorem isSplit_of_receives {items' : ExtTreeMap ℕ Item} {dest : List (ℕ × ℕ)}
    (htotal : (dest.map Prod.snd).sum = pNewItem.count)
    (h : Receives (player.changeCount pSrcItem.guid (· - count)).items items' pNewItem.entry dest)
    (htold : dst % 256 ≠ NULL_SLOT →
      pNewItem.count ≤ roomFor (player.changeCount pSrcItem.guid (· - count)).items proto dst →
      dest = [(dst, pNewItem.count)]) :
    IsSplit mgr player ⟨items'⟩ src dst count pSrcItem proto dest := by
  have hsrc := GetItemByPos_of_hasSlot (hasSlot_of_GetItemByPos hget)
  rw [makePos_div_mod, hget] at hsrc
  have hbooks := splitOff_of_receives hone hsrc.symm hless.le hentry htotal h
  rw [hcount] at hbooks htold
  exact ⟨hget, hproto, hpos, hless, hbooks, htold⟩

theorem isSplit_StoreItem {dest : List (ℕ × ℕ)}
    (hfound : FoundPlaces mgr (player.changeCount pSrcItem.guid (· - count)) pNewItem dest)
    (htold : dst % 256 ≠ NULL_SLOT →
      pNewItem.count ≤ roomFor (player.changeCount pSrcItem.guid (· - count)).items proto dst →
      dest = [(dst, pNewItem.count)]) :
    IsSplit mgr player
      ((player.changeCount pSrcItem.guid (· - count)).StoreItem mgr pNewItem (guid + 1) dest).1 src dst count pSrcItem
      proto dest := by
  have hprotoNew : mgr.GetItemTemplate pNewItem.entry = some proto := by rw [hentry, hproto]
  have hreceives := StoreItem_receives (guid + 1) hprotoNew hfound.distinct fun x hx ↦
    ⟨hfound.slots x hx, hfound.room proto hprotoNew x hx⟩
  exact isSplit_of_receives dst hone hget hproto hpos hless hentry hcount hfound.total hreceives htold

/-- A new item is stored at the places that were found for it, or the source gets its count back. -/
theorem splitsOrNot_stored {refused : Prop} [Decidable refused] {error : SplitError} {guid' : ℕ} {dest : List (ℕ × ℕ)}
    (hdst : IsInventoryPos (dst / 256) (dst % 256) = true ∨ IsBankPos (dst / 256) (dst % 256) = true)
    (hfound : ¬ refused → FoundPlaces mgr (player.changeCount pSrcItem.guid (· - count)) pNewItem dest)
    (hroom : ¬ refused → dst % 256 ≠ NULL_SLOT →
      (∀ proto, mgr.GetItemTemplate pNewItem.entry = some proto → pNewItem.count ≤
        roomFor (player.changeCount pSrcItem.guid (· - count)).items proto (makePos (dst / 256) (dst % 256))) →
      dest = [(makePos (dst / 256) (dst % 256), pNewItem.count)]) :
    SplitsOrNot mgr now player guid src dst count (if refused then
        ⟨some error, (player.changeCount pSrcItem.guid (· - count)).changeCount pSrcItem.guid (· + count), guid'⟩
      else
        ⟨none, ((player.changeCount pSrcItem.guid (· - count)).StoreItem mgr pNewItem (guid + 1) dest).1,
          ((player.changeCount pSrcItem.guid (· - count)).StoreItem mgr pNewItem (guid + 1) dest).2⟩) := by
  have hsrc := GetItemByPos_of_hasSlot (hasSlot_of_GetItemByPos hget)
  rw [makePos_div_mod, hget] at hsrc
  split
  · exact Or.inl (changeCount_restore hone hsrc.symm hless.le)
  · rename_i hok
    have hsplit := isSplit_StoreItem guid dst hone hget hproto hpos hless hentry hcount (hfound hok) fun hslot hle ↦ by
      have hdest := hroom hok hslot
      rw [makePos_div_mod, hentry, hproto] at hdest
      exact hdest fun _ hproto' ↦ Option.some_inj.mp hproto' ▸ hle
    exact Or.inr ⟨rfl, _, pSrcItem, proto, _, hsplit, Or.inl ⟨hdst, rfl⟩⟩

include hnew

theorem splitsOrNot_inventory (hdst : IsInventoryPos (dst / 256) (dst % 256) = true) (hlt : pNewItem.count < 2 ^ 32) :
    SplitsOrNot mgr now player guid src dst count
      (placeSplit mgr now guid dst count (player.changeCount pSrcItem.guid (· - count)) pSrcItem pNewItem) := by
  rw [placeSplit, if_pos hdst]
  exact splitsOrNot_stored guid dst hone hget hproto hpos hless hentry hcount (.inl hdst)
    (fun hok ↦ canStoreItem_places hnew hlt (not_not.mp hok)) fun hok hslot hroom ↦
      canStoreItem_room (ne_nullBag_of_inventory hdst) hslot hnew hlt hroom (not_not.mp hok)

theorem splitsOrNot_bank (hinventory : ¬ IsInventoryPos (dst / 256) (dst % 256) = true)
    (hdst : IsBankPos (dst / 256) (dst % 256) = true) :
    SplitsOrNot mgr now player guid src dst count
      (placeSplit mgr now guid dst count (player.changeCount pSrcItem.guid (· - count)) pSrcItem pNewItem) := by
  rw [placeSplit, if_neg hinventory, if_pos hdst]
  exact splitsOrNot_stored guid dst hone hget hproto hpos hless hentry hcount (.inr hdst)
    (fun hok ↦ canBankItem_places hnew (not_not.mp hok)) fun hok hslot hroom ↦
      canBankItem_room (ne_nullBag_of_bank hdst) hslot hnew hroom (not_not.mp hok)

omit hnew

theorem splitsOrNot_equipment (hinventory : ¬ IsInventoryPos (dst / 256) (dst % 256) = true)
    (hbank : ¬ IsBankPos (dst / 256) (dst % 256) = true) (hdst : IsEquipmentPos (dst / 256) (dst % 256) = true)
    (htype : proto.InventoryType ≠ INVTYPE_2HWEAPON) :
    SplitsOrNot mgr now player guid src dst count
      (placeSplit mgr now guid dst count (player.changeCount pSrcItem.guid (· - count)) pSrcItem pNewItem) := by
  have hsrc := GetItemByPos_of_hasSlot (hasSlot_of_GetItemByPos hget)
  rw [makePos_div_mod, hget] at hsrc
  obtain ⟨hbag, hslot⟩ := of_decide_eq_true hdst
  have hlimits : EQUIPMENT_SLOT_END = 19 ∧ INVENTORY_SLOT_BAG_END = 23 ∧ NULL_SLOT = 255 ∧
    BANK_SLOT_BAG_END = 74 := by decide
  have hnull : dst % 256 ≠ NULL_SLOT := by omega
  have hmake : makePos INVENTORY_SLOT_BAG_0 (dst % 256) = dst := by rw [← hbag, makePos_div_mod]
  have hnot : ∀ proto', mgr.GetItemTemplate pNewItem.entry = some proto' → proto'.InventoryType ≠ INVTYPE_2HWEAPON := by
    intro proto' hproto'
    rw [hentry, hproto] at hproto'
    exact Option.some_inj.mp hproto' ▸ htype
  have hstate : (CanEquipItem mgr now (dst % 256) pNewItem false
      (player.changeCount pSrcItem.guid (· - count), guid + 1)).1 = _ := canEquipItem_state hnot false
  rw [placeSplit]
  dsimp only
  rw [if_neg hinventory, if_neg hbank, hstate]
  split
  · exact Or.inl (changeCount_restore hone hsrc.symm hless.le)
  · rename_i hok
    obtain ⟨hpos', hfree⟩ := canEquipItem_ok hnot hnull (not_not.mp hok)
    have hhas : (player.changeCount pSrcItem.guid (· - count)).HasSlot mgr INVENTORY_SLOT_BAG_0 (dst % 256) :=
      .inl ⟨rfl, .inl (by omega)⟩
    have hnone : player.items[dst]? = none := by
      have hitem := (GetItemByPos_of_hasSlot hhas).symm.trans hfree
      rw [hmake, get_changeCount] at hitem
      exact Option.map_eq_none_iff.mp hitem
    have hreceives := EquipItem_receives pNewItem hslot hfree
    rw [hpos']
    rw [hmake] at hreceives ⊢
    have hsplit := isSplit_of_receives dst hone hget hproto hpos hless hentry hcount (Nat.add_zero _)
      hreceives fun _ _ ↦ rfl
    exact Or.inr ⟨rfl, _, pSrcItem, proto, _, hsplit, Or.inr ⟨hdst, hnone, rfl⟩⟩

end place

theorem cloneItem_template {item cloned : Item} {owned : Bool} (h : item.CloneItem mgr count guid owned = some cloned) :
    0 < count ∧ ∃ proto, mgr.GetItemTemplate item.entry = some proto := by
  rw [Item.CloneItem] at h
  split_ifs at h with hcount
  obtain ⟨proto, hproto, -⟩ := Option.map_eq_some_iff.mp h
  exact ⟨by omega, proto, hproto⟩

theorem notIn_changeCount (srcGuid : ℕ) (h : GuidsBelow player.items guid) (f : ℕ → ℕ) :
    NotIn (player.changeCount srcGuid f).items guid := by
  intro q item hitem
  rw [get_changeCount] at hitem
  obtain ⟨before, hbefore, rfl⟩ := Option.map_eq_some_iff.mp hitem
  have hlt := h q before hbefore
  split
  · exact hlt.ne
  · exact hlt.ne

/-- **Splitting is all or nothing.**  Either nothing changes, as it is with every error, or the source loses the count
and the same entry gets as much at the positions that were found for it, first of all at the destination; nothing else
changes.  What is split to the equipment is no two-handed weapon here: for those the question for a slot may already
unequip the off hand. -/
theorem SplitItem_splitsOrNot (mgr : ObjectMgr) (now : MoveCircumstances) (player : Player) (guid src dst count : ℕ)
    (hone : InOneSlot player.items) (hbelow : GuidsBelow player.items guid)
    (htype : IsEquipmentPos (dst / 256) (dst % 256) = true → ∀ item proto,
      player.GetItemByPos mgr (src / 256) (src % 256) = some item → mgr.GetItemTemplate item.entry = some proto →
      proto.InventoryType ≠ INVTYPE_2HWEAPON) :
    SplitsOrNot mgr now player guid src dst count (player.SplitItem mgr now guid src dst count) := by
  rw [SplitItem]
  cases hget : player.GetItemByPos mgr (src / 256) (src % 256) with
  | none => exact Or.inl rfl
  | some pSrcItem =>
    dsimp only
    split
    · exact Or.inl rfl
    split
    · exact Or.inl rfl
    rename_i hne
    split
    · exact Or.inl rfl
    rename_i hle
    split
    · exact Or.inl rfl
    cases hclone : pSrcItem.CloneItem mgr count guid true with
    | none => exact Or.inl rfl
    | some pNewItem =>
      obtain ⟨hpos, proto, hproto⟩ := cloneItem_template hclone
      obtain ⟨hguid, hentry, hcount⟩ := Item.cloneItem_eq_some hproto hclone
      have hless : count < pSrcItem.count := by omega
      have hlt : pNewItem.count < 2 ^ 32 := by
        have hmax := proto.GetMaxStackSize_lt (mgr.Stackable_lt _ _ hproto)
        omega
      have hnew := notIn_changeCount pSrcItem.guid (hguid ▸ hbelow) (· - count)
      dsimp only
      split
      · rename_i hdst
        by_cases hinventory : IsInventoryPos (dst / 256) (dst % 256) = true
        · exact splitsOrNot_inventory guid dst hone hget hproto hpos hless hentry hcount hnew hinventory hlt
        by_cases hbank : IsBankPos (dst / 256) (dst % 256) = true
        · exact splitsOrNot_bank guid dst hone hget hproto hpos hless hentry hcount hnew hinventory hbank
        have hequip : IsEquipmentPos (dst / 256) (dst % 256) = true := by
          simpa [Bool.eq_false_iff.mpr hinventory, Bool.eq_false_iff.mpr hbank] using hdst
        exact splitsOrNot_equipment guid dst hone hget hproto hpos hless hentry hcount hinventory hbank hequip
          (htype hequip pSrcItem proto hget hproto)
      · exact Or.inl rfl

/-! ## Some players -/

/-- A store with something that is piled up in stacks of 20, and with two-handed weapons, one-handed weapons and rings;
of those with two hands and of the rings 20 are a stack, too. -/
def handsMgr : ObjectMgr where
  GetItemTemplate entry :=
    if 1 = entry then some { ItemId := 1, Stackable := 20 }
    else if 2 = entry then
      some { ItemId := 2, Stackable := 20, InventoryType := INVTYPE_2HWEAPON, SubClass := ITEM_SUBCLASS_WEAPON_STAFF }
    else if 3 = entry then some { ItemId := 3, InventoryType := INVTYPE_WEAPON }
    else if 4 = entry then some { ItemId := 4, Stackable := 20, InventoryType := INVTYPE_FINGER }
    else none
  ItemId_eq entry proto h := by
    split_ifs at h <;> cases h <;> assumption
  ContainerSlots_le entry proto h := by
    split_ifs at h <;> cases h <;> exact Nat.zero_le _
  Stackable_lt entry proto h := by
    split_ifs at h <;> cases h <;> decide
  ItemLimitCategory _ := none

/-- A player with these items, at slots of his own. -/
def withItems (items : List (ℕ × Item)) : Player :=
  ⟨items.foldl (fun m x ↦ m.insert (makePos INVENTORY_SLOT_BAG_0 x.1) x.2) ∅⟩

/-- Two stacks of 20 and 15 in the backpack. -/
def twoStacks : Player := withItems [(23, { guid := 1, entry := 1, count := 20 }), (24, { guid := 2, entry := 1, count := 15 })]

/-- Something in both hands, and a stack of `entry` in the backpack. -/
def withHands (main entry : ℕ) : Player :=
  withItems [(EQUIPMENT_SLOT_MAINHAND, { guid := 1, entry := main, count := 1 }),
    (EQUIPMENT_SLOT_OFFHAND, { guid := 2, entry := 3, count := 1 }), (23, { guid := 3, entry, count := 2 })]

/-- How much of an entry lies at an own slot after a split from slot 23. -/
def afterSplit (player : Player) (dstslot count entry slot : ℕ) : ℕ :=
  amountAt (player.SplitItem handsMgr {} 4 (makePos INVENTORY_SLOT_BAG_0 23) (makePos INVENTORY_SLOT_BAG_0 dstslot)
    count).player.items entry (makePos INVENTORY_SLOT_BAG_0 slot)

theorem twoStacks_item {pos : ℕ} {item : Item} (h : twoStacks.items[pos]? = some item) :
    pos = makePos INVENTORY_SLOT_BAG_0 24 ∧ item = { guid := 2, entry := 1, count := 15 } ∨
      pos = makePos INVENTORY_SLOT_BAG_0 23 ∧ item = { guid := 1, entry := 1, count := 20 } := by
  rw [twoStacks, withItems, List.foldl_cons, List.foldl_cons, List.foldl_nil, TreeMap.get_insert] at h
  split_ifs at h with hsecond
  · exact Or.inl ⟨hsecond.symm, (Option.some.inj h).symm⟩
  · rw [TreeMap.get_insert] at h
    split_ifs at h with hfirst
    · exact Or.inr ⟨hfirst.symm, (Option.some.inj h).symm⟩
    · simp at h

/-- Five are split off a stack of 20 to an empty slot. -/
theorem SplitItem_splitsOrNot_five :
    afterSplit twoStacks 25 5 1 23 = 15 ∧ afterSplit twoStacks 25 5 1 25 = 5 ∧
      SplitsOrNot handsMgr {} twoStacks 4 (makePos INVENTORY_SLOT_BAG_0 23) (makePos INVENTORY_SLOT_BAG_0 25) 5
        (twoStacks.SplitItem handsMgr {} 4 (makePos INVENTORY_SLOT_BAG_0 23) (makePos INVENTORY_SLOT_BAG_0 25) 5) := by
  refine ⟨by decide +kernel, by decide +kernel, SplitItem_splitsOrNot handsMgr {} twoStacks 4 _ _ 5
    (fun pos pos' item item' hitem hitem' hguid ↦ ?_) (fun pos item hitem ↦ ?_) fun hequip ↦ ?_⟩
  · obtain ⟨rfl, rfl⟩ | ⟨rfl, rfl⟩ := twoStacks_item hitem
    · obtain ⟨rfl, -⟩ | ⟨-, rfl⟩ := twoStacks_item hitem'
      · rfl
      · exact absurd hguid (by decide)
    · obtain ⟨-, rfl⟩ | ⟨rfl, -⟩ := twoStacks_item hitem'
      · exact absurd hguid (by decide)
      · rfl
  · obtain ⟨-, rfl⟩ | ⟨-, rfl⟩ := twoStacks_item hitem <;> simp
  · exact absurd hequip (by decide)

/-- Ten are split off a stack of 20 to one of 15: that has room for five only, and the others go back.  With a
two-handed weapon for the main hand there is an error, and what was in the off hand lies in the backpack.  And a ring
can be equipped, but then the player cannot have a weapon in his off hand any more. -/
theorem not_split_toStack :
    ((twoStacks.SplitItem handsMgr {} 4 (makePos INVENTORY_SLOT_BAG_0 23) (makePos INVENTORY_SLOT_BAG_0 24) 10).error =
        none ∧ afterSplit twoStacks 24 10 1 23 = 15 ∧ afterSplit twoStacks 24 10 1 24 = 20) ∧
      (((withHands 2 2).SplitItem handsMgr {} 4 (makePos INVENTORY_SLOT_BAG_0 23)
          (makePos INVENTORY_SLOT_BAG_0 EQUIPMENT_SLOT_MAINHAND) 1).error = some (.of (.of .ITEM_CANT_BE_EQUIPPED)) ∧
        afterSplit (withHands 2 2) EQUIPMENT_SLOT_MAINHAND 1 3 EQUIPMENT_SLOT_OFFHAND = 0 ∧
        afterSplit (withHands 2 2) EQUIPMENT_SLOT_MAINHAND 1 3 24 = 1) ∧
      afterSplit (withHands 3 4) EQUIPMENT_SLOT_FINGER1 1 4 EQUIPMENT_SLOT_FINGER1 = 1 ∧
        afterSplit (withHands 3 4) EQUIPMENT_SLOT_FINGER1 1 3 EQUIPMENT_SLOT_OFFHAND = 0 := by
  decide +kernel

end Player

end Gundrak.Players
