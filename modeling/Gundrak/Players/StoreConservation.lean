import Gundrak.Players.StoredItems
import Gundrak.Util.MapTotal

/-!
# Storing what has a place

`StoreItem` walks the positions that `CanStoreItem` has found, and at each of them it makes a stack larger
or fills an empty slot: with a clone of the item, but at the last position with the item itself.  If that is
a stack, the item is destroyed.

`Stores` says what this comes to at a list of positions, with `Stores.cons` for one position more and
`stores_StoreItem` for all of them.  **`StoreItem_conserves`** is the result: when `CanStoreItem` has
answered `OK`, then exactly the count of the item is added, no stack gets larger than it can be, and every
item lies in one slot.
-/

open Std (ExtTreeMap)

namespace Gundrak.Players

/-! ## What is claimed -/

/-- How much of an item there is. -/
def itemCount (items : ExtTreeMap ℕ Item) (entry : ℕ) : ℕ :=
  TreeMap.total items fun _ item ↦ if item.entry = entry then item.count else 0

/-- No item lies in two slots. -/
def InOneSlot (items : ExtTreeMap ℕ Item) : Prop :=
  ∀ (pos pos' : ℕ) (item item' : Item), items[pos]? = some item → items[pos']? = some item' →
    item.guid = item'.guid → pos = pos'

/-- The item is in no slot. -/
def NotIn (items : ExtTreeMap ℕ Item) (guid : ℕ) : Prop :=
  ∀ (pos : ℕ) (item : Item), items[pos]? = some item → item.guid ≠ guid

/-- No item has a guid that is still to be generated. -/
def GuidsBelow (items : ExtTreeMap ℕ Item) (guid : ℕ) : Prop :=
  ∀ (pos : ℕ) (item : Item), items[pos]? = some item → item.guid < guid

/-- The item is placed at the last position, or destroyed when that was a stack. -/
def PlacedLast (items items' : ExtTreeMap ℕ Item) (pItem : Item) (dest : List (ℕ × ℕ)) : Prop :=
  ∃ pos count, dest.getLast? = some (pos, count) ∧
    ((items[pos]? = none ∧ ∃ stored, items'[pos]? = some stored ∧ stored.guid = pItem.guid ∧
        stored.entry = pItem.entry ∧ stored.count = count) ∨
      (∃ item2, items[pos]? = some item2) ∧ NotIn items' pItem.guid)

/-- What storing so much of an item at some positions does. -/
structure Stores (mgr : ObjectMgr) (items items' : ExtTreeMap ℕ Item) (pItem : Item) (count : ℕ)
    (dest : List (ℕ × ℕ)) : Prop where
  count_eq : ∀ entry, itemCount items' entry = itemCount items entry + if pItem.entry = entry then count else 0
  fits : Player.StacksFit mgr ⟨items'⟩
  oneSlot : InOneSlot items'
  kept : ∀ (pos : ℕ) (item : Item), items[pos]? = some item →
    ∃ item', items'[pos]? = some item' ∧ item'.guid = item.guid ∧ item'.entry = item.entry
  placed : PlacedLast items items' pItem dest

/-! ## How much there is -/

section count

variable {items : ExtTreeMap ℕ Item} {pos : ℕ} {item : Item}

theorem itemCount_insert (h : items[pos]? = none) (item : Item) (entry : ℕ) : itemCount (items.insert pos item) entry =
      itemCount items entry + if item.entry = entry then item.count else 0 := TreeMap.total_insert h

theorem itemCount_erase (h : items[pos]? = some item) (entry : ℕ) :
    itemCount (items.erase pos) entry + (if item.entry = entry then item.count else 0) = itemCount items entry :=
  TreeMap.total_erase (f := fun _ (item : Item) ↦ if item.entry = entry then item.count else 0) h

theorem itemCount_replace (h : items[pos]? = some item) (item' : Item) (entry : ℕ) :
    itemCount (items.insert pos item') entry + (if item.entry = entry then item.count else 0) =
      itemCount items entry + if item'.entry = entry then item'.count else 0 :=
  TreeMap.total_replace (f := fun _ (item : Item) ↦ if item.entry = entry then item.count else 0) h item'

end count

/-! ## One position -/

section put

variable {mgr : ObjectMgr} {items items' : ExtTreeMap ℕ Item} {pItem : Item} {proto : ItemTemplate}
  {guid guid' pos count : ℕ} {clone : Bool}

/-- There is room at a position: it is empty, or has a stack of the same item. -/
def RoomAt (items : ExtTreeMap ℕ Item) (proto : ItemTemplate) (pItem : Item) (pos count : ℕ) : Prop :=
  (items[pos]? = none ∧ count ≤ proto.GetMaxStackSize) ∨ ∃ item2, items[pos]? = some item2 ∧ item2.entry = pItem.entry ∧
      item2.count + count ≤ proto.GetMaxStackSize

namespace PutAt

variable (h : PutAt items pItem guid pos count clone items' guid')
include h

theorem get_other {q : ℕ} (hne : q ≠ pos) : items'[q]? = items[q]? := by
  cases h <;> simp [TreeMap.get_insert, (Ne.symm hne)]

theorem get_self {item : Item} (hitem : items'[pos]? = some item) :
    (∃ item2, items[pos]? = some item2 ∧ item.guid = item2.guid ∧ item.entry = item2.entry ∧
      item.count = item2.count + count) ∨
    items[pos]? = none ∧ item.entry = pItem.entry ∧ item.count = count ∧
      item.guid = if clone = true then guid else pItem.guid := by
  cases h with
  | merge item2 stored h hguid hentry hcount =>
    rw [TreeMap.get_insert, if_pos rfl] at hitem
    obtain rfl := Option.some.inj hitem
    exact .inl ⟨item2, h, hguid, hentry, hcount⟩
  | whole stored h hclone hguid hentry hcount =>
    rw [TreeMap.get_insert, if_pos rfl] at hitem
    obtain rfl := Option.some.inj hitem
    exact .inr ⟨h, hentry, hcount, by rw [hguid, hclone, if_neg Bool.false_ne_true]⟩
  | cloned stored h hclone hguid hentry hcount =>
    rw [TreeMap.get_insert, if_pos rfl] at hitem
    obtain rfl := Option.some.inj hitem
    exact .inr ⟨h, hentry, hcount, by rw [hguid, hclone, if_pos rfl]⟩
  | nothing h =>
    simp [h] at hitem

theorem le_guid : guid ≤ guid' := by
  cases h with
  | merge => exact le_rfl
  | whole => exact le_rfl
  | cloned => exact Nat.le_succ guid
  | nothing => exact le_rfl

theorem itemCount_eq (hroom : RoomAt items proto pItem pos count) (entry : ℕ) :
    itemCount items' entry = itemCount items entry + if pItem.entry = entry then count else 0 := by
  cases h with
  | merge item2 stored h hguid hentry hcount =>
    obtain ⟨hnone, -⟩ | ⟨item, hitem, hsame, -⟩ := hroom
    · simp [hnone] at h
    obtain rfl := Option.some.inj (h.symm.trans hitem)
    have htotal := itemCount_replace h stored entry
    rw [hentry, hcount, hsame] at htotal
    split_ifs at htotal ⊢ <;> omega
  | whole stored h hclone hguid hentry hcount => rw [itemCount_insert h, hentry, hcount]
  | cloned stored h hclone hguid hentry hcount => rw [itemCount_insert h, hentry, hcount]
  | nothing h hclone hcount => simp [hcount]

theorem stacksFit (hfits : Player.StacksFit mgr ⟨items⟩) (hproto : mgr.GetItemTemplate pItem.entry = some proto)
    (hroom : RoomAt items proto pItem pos count) : Player.StacksFit mgr ⟨items'⟩ := by
  intro q item proto' hitem hproto'
  by_cases hq : q = pos
  · subst hq
    rcases h.get_self hitem with ⟨item2, hitem2, -, hentry, hcount⟩ | ⟨hnone, hentry, hcount, -⟩
    · rcases hroom with ⟨hnone, -⟩ | ⟨old, hold, hsame, hle⟩
      · simp [hnone] at hitem2
      · obtain rfl := Option.some.inj (hitem2.symm.trans hold)
        rw [hentry, hsame, hproto, Option.some_inj] at hproto'
        rwa [hcount, ← hproto']
    · rw [hentry, hproto, Option.some_inj] at hproto'
      rcases hroom with ⟨-, hle⟩ | ⟨old, hold, -⟩
      · rwa [hcount, ← hproto']
      · simp [hnone] at hold
  · rw [h.get_other hq] at hitem
    exact hfits q item proto' hitem hproto'

/-- A guid that comes from somewhere else is that of the item or of its clone. -/
theorem guid_eq {q : ℕ} {item : Item} (hitem : items'[q]? = some item) :
    (∃ before, items[q]? = some before ∧ item.guid = before.guid) ∨
      q = pos ∧ item.guid = if clone = true then guid else pItem.guid := by
  by_cases hq : q = pos
  · subst hq
    rcases h.get_self hitem with ⟨item2, hitem2, hguid, -⟩ | ⟨-, -, -, hguid⟩
    · exact .inl ⟨item2, hitem2, hguid⟩
    · exact .inr ⟨rfl, hguid⟩
  · rw [h.get_other hq] at hitem
    exact .inl ⟨item, hitem, rfl⟩

theorem inOneSlot (hone : InOneSlot items) (hbelow : GuidsBelow items guid)
    (hnew : NotIn items pItem.guid) : InOneSlot items' := by
  have hother {q : ℕ} {before : Item} (hbefore : items[q]? = some before) :
      before.guid ≠ if clone = true then guid else pItem.guid := by
    split_ifs
    · exact (hbelow q before hbefore).ne
    · exact hnew q before hbefore
  intro q q' item item' hitem hitem' hguid
  rcases h.guid_eq hitem with ⟨before, hbefore, heq⟩ | ⟨rfl, heq⟩
  · rcases h.guid_eq hitem' with ⟨before', hbefore', heq'⟩ | ⟨rfl, heq'⟩
    · exact hone q q' before before' hbefore hbefore' (heq.symm.trans (hguid.trans heq'))
    · exact absurd (heq.symm.trans (hguid.trans heq')) (hother hbefore)
  · rcases h.guid_eq hitem' with ⟨before', hbefore', heq'⟩ | ⟨rfl, -⟩
    · exact absurd (heq'.symm.trans (hguid.symm.trans heq)) (hother hbefore')
    · rfl

theorem guidsBelow (hbelow : GuidsBelow items guid) (hitem : pItem.guid < guid) : GuidsBelow items' guid' := by
  have hle := h.le_guid
  intro q item hget
  rcases h.guid_eq hget with ⟨before, hbefore, heq⟩ | ⟨rfl, heq⟩
  · have hlt := hbelow q before hbefore
    omega
  · cases h with
    | merge item2 stored h hguid =>
      rw [TreeMap.get_insert, if_pos rfl] at hget
      simpa [← Option.some.inj hget, hguid] using hbelow q item2 h
    | whole stored h hclone =>
      rw [hclone, if_neg Bool.false_ne_true] at heq
      omega
    | cloned stored h hclone =>
      rw [hclone, if_pos rfl] at heq
      omega
    | nothing h =>
      simp [h] at hget

/-- As long as clones are stored, the item itself is in no slot. -/
theorem notIn (hnew : NotIn items pItem.guid) (hitem : pItem.guid < guid) (hclone : clone = true) :
    NotIn items' pItem.guid := by
  intro q item hget
  rcases h.guid_eq hget with ⟨before, hbefore, heq⟩ | ⟨rfl, heq⟩
  · rw [heq]
    exact hnew q before hbefore
  · rw [hclone, if_pos rfl] at heq
    omega

theorem get_kept {q : ℕ} {item : Item} (hitem : items[q]? = some item) :
    ∃ item', items'[q]? = some item' ∧ item'.guid = item.guid ∧ item'.entry = item.entry := by
  by_cases hq : q = pos
  · subst hq
    obtain ⟨item', hitem', -⟩ := h.get_entry item hitem
    rcases h.get_self hitem' with ⟨item2, hitem2, hguid, hentry, -⟩ | ⟨hnone, -⟩
    · obtain rfl := Option.some.inj (hitem2.symm.trans hitem)
      exact ⟨item', hitem', hguid, hentry⟩
    · simp [hnone] at hitem
  · exact ⟨item, (h.get_other hq).trans hitem, rfl, rfl⟩

theorem stores (hfits : Player.StacksFit mgr ⟨items⟩) (hproto : mgr.GetItemTemplate pItem.entry = some proto)
    (hone : InOneSlot items) (hbelow : GuidsBelow items guid) (hnew : NotIn items pItem.guid)
    (hroom : RoomAt items proto pItem pos count) (hclone : clone = false) :
    Stores mgr items items' pItem count [(pos, count)] := by
  refine ⟨h.itemCount_eq hroom, h.stacksFit hfits hproto hroom, h.inOneSlot hone hbelow hnew,
    fun _ _ hitem ↦ h.get_kept hitem, pos, count, rfl, ?_⟩
  cases h with
  | merge item2 stored h hguid =>
    refine .inr ⟨⟨item2, h⟩, fun q item hget ↦ ?_⟩
    rw [TreeMap.get_insert] at hget
    split_ifs at hget with hq
    · rw [← Option.some.inj hget, hguid]
      exact hnew pos item2 h
    · exact hnew q item hget
  | whole stored h _ hguid hentry hcount =>
    exact .inl ⟨h, stored, by rw [TreeMap.get_insert, if_pos rfl], hguid, hentry, hcount⟩
  | cloned stored h htrue =>
    simp [hclone] at htrue
  | nothing h htrue =>
    simp [hclone] at htrue

end PutAt

theorem Stores.cons {items'' : ExtTreeMap ℕ Item} {n : ℕ} {dest : List (ℕ × ℕ)}
    (h : PutAt items pItem guid pos count clone items' guid')
    (hroom : RoomAt items proto pItem pos count) (hnot : pos ∉ dest.map Prod.fst)
    (hrest : Stores mgr items' items'' pItem n dest) :
    Stores mgr items items'' pItem (count + n) ((pos, count) :: dest) := by
  refine ⟨fun entry ↦ ?_, hrest.fits, hrest.oneSlot, fun q item hitem ↦ ?_, ?_⟩
  · rw [hrest.count_eq, h.itemCount_eq hroom]
    split_ifs <;> omega
  · obtain ⟨item', hitem', hguid, hentry⟩ := h.get_kept hitem
    obtain ⟨item'', hitem'', hguid', hentry'⟩ := hrest.kept q item' hitem'
    exact ⟨item'', hitem'', hguid'.trans hguid, hentry'.trans hentry⟩
  · obtain ⟨last, lastCount, hlast, hplaced⟩ := hrest.placed
    have hne : last ≠ pos := by
      rintro rfl
      exact hnot (List.mem_map_of_mem (f := Prod.fst) (List.mem_of_getLast? hlast))
    rw [h.get_other hne] at hplaced
    refine ⟨last, lastCount, ?_, hplaced⟩
    cases dest with
    | nil => cases hlast
    | cons x rest => rwa [List.getLast?_cons_cons]

end put

/-! ## All positions -/

variable {mgr : ObjectMgr} {player : Player} {pItem : Item} {proto : ItemTemplate} {guid : ℕ}

namespace Player

/-- `StoreItem` at the first of the positions that have room; the others still have it afterwards. -/
theorem StoreItem_step (guid : ℕ) (hproto : mgr.GetItemTemplate pItem.entry = some proto) {x : ℕ × ℕ} {dest : List (ℕ × ℕ)}
    (hdistinct : ((x :: dest).map Prod.fst).Nodup)
    (hroom : ∀ y ∈ x :: dest, player.HasSlot mgr (y.1 / 256) (y.1 % 256) ∧ RoomAt player.items proto pItem y.1 y.2) :
    ∃ (player' : Player) (guid' : ℕ), PutAt player.items pItem guid x.1 x.2 (!dest.isEmpty) player'.items guid' ∧
      (∀ y ∈ dest, player'.HasSlot mgr (y.1 / 256) (y.1 % 256) ∧ RoomAt player'.items proto pItem y.1 y.2) ∧
      (player.StoreItem mgr pItem guid (x :: dest)).1 = (player'.StoreItem mgr pItem guid' dest).1 := by
  obtain ⟨hslot, hspace⟩ := hroom x List.mem_cons_self
  have hcount (hnone : player.items[x.1]? = none) : x.2 ≤ proto.GetMaxStackSize := by
    rcases hspace with ⟨-, hle⟩ | ⟨item2, hitem2, -⟩
    · exact hle
    · simp [hnone] at hitem2
  have hput : PutAt player.items pItem guid x.1 x.2 (!dest.isEmpty) _ _ :=
    _StoreItem_putAt (!dest.isEmpty) hproto hslot hcount
  refine ⟨_, _, hput, fun y hy ↦ ?_, rfl⟩
  obtain ⟨hslot', hspace'⟩ := hroom y (List.mem_cons_of_mem _ hy)
  refine ⟨(keepsBags_of_putAt hput).hasSlot hslot', ?_⟩
  have hother : y.1 ≠ x.1 := fun h ↦ (List.nodup_cons.mp hdistinct).1 (h ▸ List.mem_map_of_mem hy)
  unfold RoomAt
  rw [hput.get_other hother]
  exact hspace'

theorem stores_StoreItem (hproto : mgr.GetItemTemplate pItem.entry = some proto) {dest : List (ℕ × ℕ)}
    (hone : InOneSlot player.items) (hbelow : GuidsBelow player.items guid) (hitem : pItem.guid < guid)
    (hnew : NotIn player.items pItem.guid) (hfits : StacksFit mgr player) (hne : dest ≠ [])
    (hdistinct : (dest.map Prod.fst).Nodup)
    (hroom : ∀ x ∈ dest, player.HasSlot mgr (x.1 / 256) (x.1 % 256) ∧ RoomAt player.items proto pItem x.1 x.2) :
    Stores mgr player.items (player.StoreItem mgr pItem guid dest).1.items pItem (dest.map Prod.snd).sum dest := by
  induction dest generalizing player guid with
  | nil => exact absurd rfl hne
  | cons x dest ih =>
    have hspace := (hroom x List.mem_cons_self).2
    obtain ⟨hnot, hrest⟩ := List.nodup_cons.mp hdistinct
    obtain ⟨player', guid', hput, hroom', heq⟩ := StoreItem_step guid hproto hdistinct hroom
    rw [heq]
    cases dest with
    | nil => exact hput.stores hfits hproto hone hbelow hnew hspace rfl
    | cons y rest =>
      have hstores := ih (hput.inOneSlot hone hbelow hnew) (hput.guidsBelow hbelow hitem)
        (hitem.trans_le hput.le_guid) (hput.notIn hnew hitem rfl) (hput.stacksFit hfits hproto hspace)
        (List.cons_ne_nil y rest) hrest hroom'
      exact hstores.cons hput hspace hnot

/-- What `CanStoreItem` means by a place, for an item that is in no slot. -/
theorem roomAt_of_canHold (hproto : mgr.GetItemTemplate pItem.entry = some proto)
    (hnew : NotIn player.items pItem.guid) {pos count : ℕ}
    (h : player.CanHold mgr proto (some pItem) pos count) : RoomAt player.items proto pItem pos count := by
  obtain ⟨hslot, hspace⟩ := h
  have hget := GetItemByPos_of_hasSlot hslot
  rw [makePos_div_mod] at hget
  unfold HasSpace at hspace
  rw [hget] at hspace
  cases hitem : player.items[pos]? with
  | none =>
    rw [hitem] at hspace
    exact .inl ⟨hitem, hspace⟩
  | some item2 =>
    have hother : item2.isItem (some pItem) = false := decide_eq_false fun h ↦ hnew pos item2 hitem h.symm
    rw [hitem] at hspace
    dsimp only at hspace
    rw [hother, if_neg Bool.false_ne_true] at hspace
    obtain ⟨hmerge, hle⟩ := hspace
    refine .inr ⟨item2, hitem, ?_, hle⟩
    unfold Item.CanBeMergedPartlyWith at hmerge
    split_ifs at hmerge with hloot hentry
    rw [not_not.mp hentry, mgr.ItemId_eq _ _ hproto]

/-- **Storing conserves the items.**  When `CanStoreItem` has answered `OK` for an item that is in no slot,
`StoreItem` adds its count to what there is of it and changes no other total; no stack is made larger than
it can be, every item stays in its slot and lies in no other, and the item itself is placed at the last
position or destroyed. -/
theorem StoreItem_conserves (mgr : ObjectMgr) (player : Player) (pItem : Item) (bag slot guid : ℕ)
    (hone : InOneSlot player.items) (hfits : StacksFit mgr player)
    (hnew : NotIn player.items pItem.guid) (hbelow : GuidsBelow player.items guid)
    (hguid : pItem.guid < guid) (hpos : 0 < pItem.count) (hlt : pItem.count < 2 ^ 32)
    (hok : (player.CanStoreItem mgr bag slot pItem.entry pItem.count (some pItem) false none).result =
      .OK) :
    Stores mgr player.items (player.StoreItem mgr pItem guid
        (player.CanStoreItem mgr bag slot pItem.entry pItem.count (some pItem) false none).dest).1.items
      pItem pItem.count
      (player.CanStoreItem mgr bag slot pItem.entry pItem.count (some pItem) false none).dest := by
  obtain ⟨proto, hproto, hsound⟩ := canStoreItem_ok hlt hok
  have htotal := (hsound.ok hok).2
  have hne : (player.CanStoreItem mgr bag slot pItem.entry pItem.count (some pItem) false none).dest ≠ [] := by
    intro hnil
    simp [hnil, hpos.ne] at htotal
  have hstores := stores_StoreItem hproto hone hbelow hguid hnew hfits hne hsound.distinct fun x hx ↦
    ⟨(hsound.good x hx).1, roomAt_of_canHold hproto hnew (hsound.good x hx)⟩
  rwa [htotal] at hstores

/-! ## A stack and an empty slot -/

/-- A store with one item, of which 20 are a stack. -/
def twentyMgr : ObjectMgr where
  GetItemTemplate entry := if 1 = entry then some { ItemId := 1, Stackable := 20 } else none
  ItemId_eq entry proto h := by
    split_ifs at h with hentry
    cases h
    exact hentry
  ContainerSlots_le entry proto h := by
    split_ifs at h
    cases h
    exact Nat.zero_le _
  Stackable_lt entry proto h := by
    split_ifs at h
    cases h
    decide
  ItemLimitCategory _ := none

/-- A player with a stack of 15 in his backpack. -/
def withFifteen : Player :=
  ⟨(∅ : ExtTreeMap ℕ Item).insert (makePos INVENTORY_SLOT_BAG_0 23) { guid := 1, entry := 1, count := 15 }⟩

theorem withFifteen_item {pos : ℕ} {item : Item} (h : withFifteen.items[pos]? = some item) :
    pos = makePos INVENTORY_SLOT_BAG_0 23 ∧ item = { guid := 1, entry := 1, count := 15 } := by
  rw [withFifteen, TreeMap.get_insert] at h
  split_ifs at h with hpos
  · exact ⟨hpos.symm, (Option.some.inj h).symm⟩
  · cases h

/-- Of ten more, five go to the stack and five to the next slot. -/
theorem StoreItem_conserves_ten :
    (withFifteen.CanStoreItem twentyMgr 0 255 1 10 (some { guid := 2, entry := 1, count := 10 }) false
      none).dest = [(makePos INVENTORY_SLOT_BAG_0 23, 5), (makePos INVENTORY_SLOT_BAG_0 24, 5)] ∧
    Stores twentyMgr withFifteen.items
      (withFifteen.StoreItem twentyMgr { guid := 2, entry := 1, count := 10 } 3
        (withFifteen.CanStoreItem twentyMgr 0 255 1 10 (some { guid := 2, entry := 1, count := 10 })
          false none).dest).1.items
      { guid := 2, entry := 1, count := 10 } 10
      (withFifteen.CanStoreItem twentyMgr 0 255 1 10 (some { guid := 2, entry := 1, count := 10 }) false
        none).dest := by
  refine ⟨by decide +kernel, StoreItem_conserves twentyMgr withFifteen { guid := 2, entry := 1, count := 10 }
    0 255 3 (fun pos pos' item item' hitem hitem' _ ↦ ?_) (fun pos item proto hitem hproto ↦ ?_)
    (fun pos item hitem ↦ ?_) (fun pos item hitem ↦ ?_) (by decide) (by decide) (by decide) (by decide +kernel)⟩
  · rw [(withFifteen_item hitem).1, (withFifteen_item hitem').1]
  · obtain ⟨-, rfl⟩ := withFifteen_item hitem
    obtain rfl := Option.some.inj hproto
    decide
  · obtain ⟨-, rfl⟩ := withFifteen_item hitem
    decide
  · obtain ⟨-, rfl⟩ := withFifteen_item hitem
    decide

end Player

end Gundrak.Players
