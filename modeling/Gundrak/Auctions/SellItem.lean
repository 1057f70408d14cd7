import Gundrak.Auctions.PendingDeposits
import Gundrak.Mails.Attachments
import Gundrak.Players.StoreConservation
import Gundrak.Util.Elementwise

/-!
# Putting up items for auction

`HandleAuctionSellItem` gets a list of stacks, and of each how much of it is to be sold.  It checks them in
three loops, and makes one auction of all of them.  If that is one whole stack, the item itself goes to the
auction house; otherwise a new item with the sum of the counts does, and the stacks are deleted or made
smaller.

* `Refused` and `Sold` say what the handler may do.
* `Listed.Good`: what is known of the stacks that pass the first loop, and `Checked` of all three.
* **`takeAll_takenFrom`**: deleting stacks and making them smaller takes from each what was asked for.
* **`handleAuctionSellItem_auctions`**: for the auctions alone this is `AuctionHouseMgr.HandleAuctionSellItem`.

**`HandleAuctionSellItem_outcome`** is the result: every request is refused, and then nothing has changed, or
exactly what was asked for has been put up.
-/

open Std (ExtTreeMap)

namespace Gundrak.Auctions

open Players

/-! ## The handler -/

/-- `MAX_AUCTION_ITEMS`. -/
def MAX_AUCTION_ITEMS : ℕ := 160

/-- What a client sends: guids with counts, and the rest of the auction. -/
structure SellPacket where
  items : List (ℕ × ℕ)
  bid : UInt32
  buyout : UInt32
  etime : UInt32

/-- What the handler looks up. -/
structure SellLookups where
  mgr : ObjectMgr
  rules : AuctionRules
  /-- the house of the auctioneer, if there is one that the player can talk to -/
  house : Option AuctionHouse
  /-- the data and the template of the auctioneer are found, or `CONFIG_ALLOW_TWO_SIDE_INTERACTION_AUCTION` -/
  houseIdFound : Bool
  /-- `ITEM_FLAG_CONJURED` of a template -/
  isConjured : ℕ → Bool
  /-- `ITEM_FIELD_DURATION` of an item -/
  duration : ℕ → ℕ
  now : ℕ
  /-- what the rate makes of a time -/
  auctionTime : UInt32 → ℕ

/-- The auction houses with their items, the inventory of a player and the next guid of an item.  Of the items, the
auction houses have the guids besides. -/
structure Selling where
  auctions : AuctionHouseMgr
  mAitems : ExtTreeMap ℕ Item
  inventory : Player
  guid : ℕ

/-- A stack that is to be sold, with where it is and how much of it. -/
structure Listed where
  bag : ℕ
  slot : ℕ
  item : Item
  count : ℕ

/-- The position of a stack. -/
def Listed.pos (x : Listed) : ℕ := makePos x.bag x.slot

namespace Selling

variable (lookups : SellLookups) (s : Selling)

/-- The first loop over the items.  An `itemEntry` of 0 is none yet. -/
def checkItems : List (ℕ × ℕ) → (itemEntry : ℕ) → Option (List Listed)
  | [], _ => some []
  | (guid, count) :: rest, itemEntry =>
    match Mails.Inventory.GetItemByGuid lookups.mgr s.inventory guid with
    | none => none
    | some (bag, slot, item) =>
      let itemEntry := if itemEntry = 0 then item.entry else itemEntry
      if s.mAitems[item.guid]?.isSome ∨ !item.CanBeTraded lookups.mgr bag slot ∨ item.notEmptyBag ∨
          lookups.isConjured item.entry ∨ lookups.duration item.guid ≠ 0 ∨ item.count < count ∨
          itemEntry ≠ item.entry then none
      else (checkItems rest itemEntry).map (⟨bag, slot, item, count⟩ :: ·)

/-- The new auction of an item. -/
def newAuction (player : ℕ) (house : AuctionHouse) (item : Item) (bid buyout etime deposit : UInt32) :
    AuctionEntry where
  Id := s.auctions.auctionId
  house
  itemGUIDLow := item.guid
  itemEntry := item.entry
  itemCount := UInt32.ofNat item.count
  owner := player
  startbid := bid
  bid := 0
  buyout
  expire_time := lookups.now + lookups.auctionTime etime
  bidder := 0
  deposit
  etime

/-- An item is put up, if the auction can be added to the pending ones.  `AddAItem` asserts that the item is not
there yet. -/
def putUp (player : ℕ) (house : AuctionHouse) (item : Item) (bid buyout etime deposit : UInt32) :
    Option (Selling × Bool) :=
  if s.auctions.auctionId ≥ 0xFFFFFFFE then none
  else
    let AH := s.newAuction lookups player house item bid buyout etime deposit
    ({ s.auctions with auctionId := s.auctions.auctionId + 1 }.PendingAuctionAdd lookups.rules player AH).bind
      fun (auctions, added) ↦
        if !added then some ({ s with auctions }, false)
        else if s.mAitems[item.guid]?.isSome then none
        else
          some ({ s with
              auctions := { auctions.setAuction AH with
                mAitems := insert item.guid auctions.mAitems
                rows := insert AH.Id auctions.rows }
              mAitems := s.mAitems.insert item.guid item }, true)

end Selling

/-- A stack is deleted if all of it is sold, and otherwise made smaller. -/
def takeOne (mgr : ObjectMgr) (inventory : Player) (x : Listed) : Player :=
  if x.item.count = x.count then inventory.RemoveItem mgr x.bag x.slot
  else inventory.SetCount x.bag x.slot (x.item.count - x.count)

namespace Selling

variable (lookups : SellLookups) (s : Selling)

/-- The end of `HandleAuctionSellItem`, for stacks that have passed the three loops: the first one of them, or a
new item with the sum of the counts, is put up. -/
def sellChecked (player : ℕ) (packet : SellPacket) (house : AuctionHouse) (etime : UInt32) (finalCount : ℕ)
    (items : List Listed) (first : Listed) : Option Selling :=
  let deposit := lookups.rules.GetAuctionDeposit house etime first.item.entry (UInt32.ofNat finalCount)
  if !(s.auctions.purses player).HasEnoughMoney deposit then some s
  else if !lookups.houseIdFound then some s
  else if packet.items.length = 1 ∧ first.item.count = first.count then
    (s.putUp lookups player house first.item packet.bid packet.buyout etime deposit).map fun (s', added) ↦
      if !added then s'
      else { s' with inventory := s'.inventory.RemoveItem lookups.mgr first.bag first.slot }
  else match first.item.CloneItem lookups.mgr finalCount s.guid true with
  | none => some s
  | some newItem =>
    ({ s with guid := s.guid + 1 }.putUp lookups player house newItem packet.bid packet.buyout etime
      deposit).map fun (s', added) ↦
      if !added then s' else { s' with inventory := items.foldl (takeOne lookups.mgr) s'.inventory }

/-- `WorldSession::HandleAuctionSellItem`.  The sum of the counts is below `2 ^ 32`, since each of them is at most
1000; and no item is there without its template. -/
def HandleAuctionSellItem (player : ℕ) (packet : SellPacket) : Option Selling :=
  if packet.items.length > MAX_AUCTION_ITEMS then some s
  else if packet.items.any fun x ↦ x.1 = 0 ∨ x.2 = 0 ∨ x.2 > 1000 then some s
  else if packet.bid = 0 ∨ packet.etime = 0 then some s
  else if packet.bid > MAX_MONEY_AMOUNT ∨ packet.buyout > MAX_MONEY_AMOUNT then some s
  else match lookups.house with
  | none => some s
  | some house =>
    let etime := packet.etime * 60
    if etime ≠ MIN_AUCTION_TIME ∧ etime ≠ 2 * MIN_AUCTION_TIME ∧ etime ≠ 4 * MIN_AUCTION_TIME then some s
    else match s.checkItems lookups packet.items 0 with
    | none => some s
    | some items =>
      let finalCount := (packet.items.map Prod.snd).sum
      if finalCount = 0 then some s
      else if ¬(packet.items.map Prod.fst).Pairwise (· ≠ ·) then some s
      else if items.any fun x ↦ !(lookups.mgr.GetItemTemplate x.item.entry).any (finalCount ≤ ·.GetMaxStackSize)
        then some s
      else match items with
      | [] => some s
      | first :: _ => s.sellChecked lookups player packet house etime finalCount items first

end Selling

/-! ## What is claimed -/

/-- What is asked for has been taken from the stacks at some places, and nothing else has been touched. -/
structure TakenFrom (asked : List (ℕ × ℕ)) (entry : ℕ) (items items' : ExtTreeMap ℕ Item) : Prop where
  places : ∃ places : List ℕ, places.Nodup ∧
    List.Forall₂ (fun (x : ℕ × ℕ) pos ↦ ∃ old : Item, items[pos]? = some old ∧ old.guid = x.1 ∧
      old.entry = entry ∧ x.2 ≤ old.count ∧
      items'[pos]? = if old.count = x.2 then none else some { old with count := old.count - x.2 })
      asked places ∧
    ∀ pos ∉ places, items'[pos]? = items[pos]?
  counts : ∀ entry', itemCount items' entry' + (if entry' = entry then (asked.map Prod.snd).sum else 0) =
    itemCount items entry'

/-- The inventory, the items of the auction houses and the auctions are as before. -/
structure Refused (s s' : Selling) : Prop where
  inventory : s'.inventory = s.inventory
  mAitems : s'.mAitems = s.mAitems
  itemGuids : s'.auctions.mAitems = s.auctions.mAitems
  auctions : s'.auctions.auctions = s.auctions.auctions

/-- There is one auction more, of an item that has all that was asked for, and so much has been taken from the
inventory. -/
structure Sold (mgr : ObjectMgr) (player : ℕ) (packet : SellPacket) (s s' : Selling) (AH : AuctionEntry)
    (item : Item) : Prop where
  auctions : s'.auctions.auctions = s.auctions.auctions.insert AH.Id AH
  newId : s.auctions.auctions[AH.Id]? = none
  mAitems : s'.mAitems = s.mAitems.insert item.guid item
  newItem : s.mAitems[item.guid]? = none
  itemGuids : s'.auctions.mAitems = insert item.guid s.auctions.mAitems
  guid : AH.itemGUIDLow = item.guid
  entry : AH.itemEntry = item.entry
  itemCount : AH.itemCount.toNat = item.count
  owner : AH.owner = player
  count : item.count = (packet.items.map Prod.snd).sum
  fits : ∃ proto, mgr.GetItemTemplate item.entry = some proto ∧ item.count ≤ proto.GetMaxStackSize
  taken : TakenFrom packet.items item.entry s.inventory.items s'.inventory.items

/-- What holds of the world: auctions are kept under their ids, of which there are more; the pending ones of the
player are auctions; the next guid is none of an item in an auction house; and no item has the entry 0, which is
the one of none. -/
structure Selling.Sound (s : Selling) (player : ℕ) : Prop where
  keyed : Keyed s.auctions
  ids : s.auctions.auctionId < 0xFFFFFFFE
  pending : ∀ (ids : List ℕ) (count : ℕ), s.auctions.pendingAuctionMap[player]? = some (ids, count) →
    ∀ id ∈ ids, ∃ AH, s.auctions.auctions[id]? = some AH
  guid : s.mAitems[s.guid]? = none
  entries : ∀ (pos : ℕ) (item : Item), s.inventory.items[pos]? = some item → item.entry ≠ 0

/-! ## The first loop -/

/-- What is known of a stack that passes the first loop. -/
structure Listed.Good (mgr : ObjectMgr) (inventory : Player) (entry : ℕ) (asked : ℕ × ℕ) (x : Listed) : Prop where
  found : inventory.GetItemByPos mgr x.bag x.slot = some x.item
  notWorn : ¬ (x.item.IsBag mgr = true ∧ IsBagPos x.bag x.slot = true)
  guid : x.item.guid = asked.1
  entry : x.item.entry = entry
  count : x.count = asked.2
  le : asked.2 ≤ x.item.count

section loops

variable {mgr : ObjectMgr} {inventory : Player} {entry : ℕ} {asked : List (ℕ × ℕ)} {x : ℕ × ℕ} {y : Listed}

theorem Listed.Good.hasSlot (h : y.Good mgr inventory entry x) : inventory.HasSlot mgr y.bag y.slot :=
  Player.hasSlot_of_GetItemByPos h.found

theorem Listed.Good.get (h : y.Good mgr inventory entry x) : inventory.items[y.pos]? = some y.item :=
  (Player.GetItemByPos_of_hasSlot h.hasSlot).symm.trans h.found

/-- **The stacks that pass** are those that are asked for, all of one entry, and none is in an auction house. -/
theorem checkItems_eq_some {lookups : SellLookups} {s : Selling} {itemEntry : ℕ} {items : List Listed}
    (hentries : ∀ (pos : ℕ) (item : Item), s.inventory.items[pos]? = some item → item.entry ≠ 0)
    (h : s.checkItems lookups asked itemEntry = some items) :
    ∃ entry, (itemEntry ≠ 0 → entry = itemEntry) ∧ List.Forall₂ (fun x y ↦
      y.Good lookups.mgr s.inventory entry x ∧ s.mAitems[y.item.guid]? = none) asked items := by
  induction asked generalizing itemEntry items with
  | nil =>
    obtain rfl := Option.some.inj h
    exact ⟨itemEntry, fun _ ↦ rfl, .nil⟩
  | cons x asked ih =>
    obtain ⟨guid, count⟩ := x
    rw [Selling.checkItems] at h
    cases hfind : Mails.Inventory.GetItemByGuid lookups.mgr s.inventory guid with
    | none =>
      simp [hfind] at h
    | some found =>
      obtain ⟨bag, slot, item⟩ := found
      rw [hfind] at h
      obtain ⟨hget, hguid⟩ := Mails.Inventory.getItemByGuid_eq_some hfind
      have hitem := (Player.GetItemByPos_of_hasSlot (Player.hasSlot_of_GetItemByPos hget)).symm.trans hget
      have hne := hentries _ item hitem
      dsimp only at h
      generalize hnow : (if itemEntry = 0 then item.entry else itemEntry) = itemEntry' at h
      obtain ⟨hpasses, h⟩ := Option.ite_none_left_eq_some.mp h
      obtain ⟨items, hrest, rfl⟩ := Option.map_eq_some_iff.mp h
      simp only [not_or, Bool.not_eq_true, not_lt, not_not,
        Option.isSome_eq_false_iff, Option.isNone_iff_eq_none, Bool.not_eq_eq_eq_not] at hpasses
      obtain ⟨hnew, htraded, -, -, -, hle, rfl⟩ := hpasses
      obtain ⟨entry, hentry, hall⟩ := ih hrest
      have hsame : entry = item.entry := hentry hne
      refine ⟨entry, fun h0 ↦ hsame.trans (hnow.symm.trans (if_neg h0)), .cons ⟨⟨hget, ?_, hguid, hsame.symm,
        rfl, hle⟩, hnew⟩ hall⟩
      intro hworn
      rw [Item.CanBeTraded, hworn.1, hworn.2] at htraded
      simp at htraded

/-! ## Taking what is asked for -/

theorem TakenFrom.nil (entry : ℕ) (items : ExtTreeMap ℕ Item) : TakenFrom [] entry items items where
  places := ⟨[], .nil, .nil, fun _ _ ↦ rfl⟩
  counts := fun _ ↦ by rw [List.map_nil, List.sum_nil, ite_self, add_zero]

/-- **One stack more.** -/
theorem TakenFrom.cons {items mid items' : ExtTreeMap ℕ Item} {pos : ℕ} {old : Item}
    (h : TakenFrom asked entry mid items') (hold : items[pos]? = some old) (hguid : old.guid = x.1)
    (hentry : old.entry = entry) (hle : x.2 ≤ old.count) (hnew : x.1 ∉ asked.map Prod.fst)
    (hmid : mid = if old.count = x.2 then items.erase pos
      else items.insert pos { old with count := old.count - x.2 }) :
    TakenFrom (x :: asked) entry items items' := by
  have hself : mid[pos]? = if old.count = x.2 then none else some { old with count := old.count - x.2 } := by
    rw [hmid]
    split <;> simp
  have hother (pos' : ℕ) (hne : pos ≠ pos') : mid[pos']? = items[pos']? := by
    rw [hmid]
    split <;> simp [TreeMap.get_erase, hne, TreeMap.get_insert]
  constructor
  · obtain ⟨places, hnodup, hall, hrest⟩ := h.places
    -- what is left at the place has a guid that is not asked for any more
    have hfree : pos ∉ places := by
      intro hmem
      obtain ⟨x', hx', old', hold', hguid', -⟩ := Elementwise.exists_of_mem_right hall hmem
      rw [hself] at hold'
      split at hold'
      · cases hold'
      · obtain rfl := Option.some.inj hold'
        exact hnew (List.mem_map.mpr ⟨x', hx', hguid'.symm.trans hguid⟩)
    refine ⟨pos :: places, List.nodup_cons.mpr ⟨hfree, hnodup⟩, .cons ⟨old, hold, hguid, hentry, hle, ?_⟩ ?_, ?_⟩
    · rw [hrest pos hfree, hself]
    · refine Elementwise.imp_mem hall fun x' _ pos' hpos' ⟨old', hold', h'⟩ ↦ ⟨old', ?_, h'⟩
      have hne : pos ≠ pos' := by
        rintro rfl
        exact hfree hpos'
      rw [← hother pos' hne, hold']
    · intro pos' hpos'
      rw [List.mem_cons, not_or] at hpos'
      rw [hrest pos' hpos'.2, hother pos' (Ne.symm hpos'.1)]
  · intro entry'
    have hcount := h.counts entry'
    have hone : itemCount mid entry' + (if entry' = entry then x.2 else 0) = itemCount items entry' := by
      rw [hmid]
      split_ifs with heq hsame hsame
      · simpa [(hentry.trans hsame.symm), heq] using itemCount_erase hold entry'
      · have herase := itemCount_erase hold entry'
        rwa [if_neg fun h ↦ hsame (h.symm.trans hentry)] at herase
      · have hreplace := itemCount_replace hold { old with count := old.count - x.2 } entry'
        rw [if_pos (hentry.trans hsame.symm), if_pos (hentry.trans hsame.symm)] at hreplace
        dsimp only at hreplace
        omega
      · have hreplace := itemCount_replace hold { old with count := old.count - x.2 } entry'
        rwa [if_neg fun h ↦ hsame (h.symm.trans hentry), if_neg fun h ↦ hsame (h.symm.trans hentry)] at hreplace
    rw [List.map_cons, List.sum_cons]
    split_ifs at hcount hone ⊢ <;> omega

theorem takeOne_spec (h : y.Good mgr inventory entry x) :
    (takeOne mgr inventory y).items = (if y.item.count = x.2 then inventory.items.erase y.pos
      else inventory.items.insert y.pos { y.item with count := y.item.count - x.2 }) ∧
    ∀ bag slot, inventory.HasSlot mgr bag slot → slot < 256 → (takeOne mgr inventory y).HasSlot mgr bag slot := by
  rw [takeOne, h.count]
  split_ifs with hall
  · obtain ⟨-, hitems, hkeeps⟩ := Mails.Inventory.removeItem_spec h.found h.notWorn
    refine ⟨hitems, fun bag slot hslot hlt ↦ ?_⟩
    have hkept := hkeeps (makePos bag slot)
    rw [Player.makePos_div hlt, Player.makePos_mod hlt] at hkept
    exact hkept hslot
  · have hset : inventory.SetCount y.bag y.slot (y.item.count - x.2) =
        ⟨inventory.items.insert y.pos { y.item with count := y.item.count - x.2 }⟩ :=
      congrArg Player.mk (TreeMap.modify_eq_insert h.get)
    rw [hset]
    refine ⟨rfl, fun bag slot hslot _ ↦ Player.KeepsBags.hasSlot (Player.keepsBags_of_entry
      fun bag' item' hitem' _ _ ↦ ?_) hslot⟩
    rw [TreeMap.get_insert]
    split_ifs with hpos
    · obtain rfl := Option.some.inj (h.get.symm.trans (hpos ▸ hitem'))
      exact ⟨_, rfl, rfl⟩
    · exact ⟨item', hitem', rfl⟩

theorem Listed.Good.takeOne {x' : ℕ × ℕ} {y' : Listed} (h : y.Good mgr inventory entry x)
    (h' : y'.Good mgr inventory entry x') (hne : x.1 ≠ x'.1) :
    y'.Good mgr (Auctions.takeOne mgr inventory y) entry x' := by
  obtain ⟨hitems, hkeeps⟩ := takeOne_spec h
  have hslot := hkeeps _ _ h'.hasSlot h'.hasSlot.lt
  have hpos : y.pos ≠ y'.pos := by
    intro heq
    have hget := h.get
    rw [heq] at hget
    have hsame : y.item = y'.item := Option.some.inj (hget.symm.trans h'.get)
    exact hne (h.guid.symm.trans (hsame ▸ h'.guid))
  have hget : (Auctions.takeOne mgr inventory y).items[y'.pos]? = some y'.item := by
    rw [hitems]
    split_ifs <;> simp [TreeMap.get_erase, hpos, h'.get, TreeMap.get_insert]
  exact ⟨(Player.GetItemByPos_of_hasSlot hslot).trans hget, h'.notWorn, h'.guid, h'.entry, h'.count, h'.le⟩

/-- **All that is asked for is taken.** -/
theorem takeAll_takenFrom {items : List Listed}
    (h : List.Forall₂ (fun x y ↦ y.Good mgr inventory entry x) asked items) (hguids : (asked.map Prod.fst).Nodup) :
    TakenFrom asked entry inventory.items (items.foldl (takeOne mgr) inventory).items := by
  induction items generalizing inventory asked with
  | nil =>
    cases h
    exact .nil entry _
  | cons y items ih =>
    obtain ⟨x, asked, hone, hrest, rfl⟩ := List.forall₂_cons_right_iff.mp h
    obtain ⟨hnew, hguids⟩ := List.nodup_cons.mp hguids
    have hgood := Elementwise.imp_mem hrest fun x' hx' _ _ h' ↦ hone.takeOne h' fun heq ↦
      hnew (heq ▸ List.mem_map_of_mem hx')
    exact (ih hgood hguids).cons hone.get hone.guid hone.entry hone.le hnew (takeOne_spec hone).1

end loops

/-! ## Putting up an item -/

section putUp

variable {lookups : SellLookups} {s : Selling} {player : ℕ}

/-- `PendingAuctionAdd` ends, and changes neither the auctions nor the items. -/
theorem pendingAuctionAdd_isSome (rules : AuctionRules) {s : AuctionHouseMgr} (AH : AuctionEntry)
    (hpending : ∀ (ids : List ℕ) (count : ℕ), s.pendingAuctionMap[player]? = some (ids, count) →
      ∀ id ∈ ids, ∃ AH, s.auctions[id]? = some AH) :
    ∃ s' added, s.PendingAuctionAdd rules player AH = some (s', added) ∧ s'.auctions = s.auctions ∧
      s'.mAitems = s.mAitems := by
  cases hmap : s.pendingAuctionMap[player]? with
  | none =>
    rw [AuctionHouseMgr.PendingAuctionAdd, hmap]
    exact ⟨_, _, rfl, rfl, rfl⟩
  | some pending =>
    obtain ⟨ids, count⟩ := pending
    obtain ⟨entries, hderef⟩ := deref_isSome (hpending ids count hmap)
    rw [PendingAuctionAdd_eq AH hmap hderef]
    split
    · exact ⟨_, _, rfl, rfl, rfl⟩
    · exact ⟨_, _, rfl, rfl, rfl⟩

variable (lookups) in
/-- **An item is put up**, or nothing happens to the auctions and the items. -/
theorem putUp_spec (house : AuctionHouse) {item : Item} (bid buyout etime deposit : UInt32)
    (hids : s.auctions.auctionId < 0xFFFFFFFE)
    (hpending : ∀ (ids : List ℕ) (count : ℕ), s.auctions.pendingAuctionMap[player]? = some (ids, count) →
      ∀ id ∈ ids, ∃ AH, s.auctions.auctions[id]? = some AH)
    (hnew : s.mAitems[item.guid]? = none) :
    ∃ s' added, s.putUp lookups player house item bid buyout etime deposit = some (s', added) ∧
      s'.inventory = s.inventory ∧ (added = false → Refused s s') ∧
      (added = true → s'.auctions.auctions = s.auctions.auctions.insert s.auctions.auctionId
          (s.newAuction lookups player house item bid buyout etime deposit) ∧
        s'.auctions.mAitems = insert item.guid s.auctions.mAitems ∧
        s'.mAitems = s.mAitems.insert item.guid item) := by
  rw [Selling.putUp, if_neg (Nat.not_le.mpr hids)]
  obtain ⟨auctions, added, hadd, hauctions, hitems⟩ := pendingAuctionAdd_isSome lookups.rules
    (s := { s.auctions with auctionId := s.auctions.auctionId + 1 })
    (s.newAuction lookups player house item bid buyout etime deposit) hpending
  dsimp only
  rw [hadd, Option.bind_some]
  cases added with
  | false =>
    exact ⟨_, _, rfl, rfl, fun _ ↦ ⟨rfl, rfl, hitems, hauctions⟩, fun h ↦ absurd h (by decide)⟩
  | true =>
    dsimp only
    rw [hnew]
    refine ⟨_, _, rfl, rfl, fun h ↦ absurd h (by decide), fun _ ↦ ⟨?_, ?_, rfl⟩⟩
    · exact congrArg (fun auctions ↦ ExtTreeMap.insert auctions _ _) hauctions
    · exact congrArg (insert item.guid) hitems

/-- What a request must have for anything to happen. -/
structure Proper (packet : SellPacket) : Prop where
  nonzero : ¬ (packet.bid = 0 ∨ packet.etime = 0)
  money : ¬ (packet.bid > MAX_MONEY_AMOUNT ∨ packet.buyout > MAX_MONEY_AMOUNT)
  time : ¬ (packet.etime * 60 ≠ MIN_AUCTION_TIME ∧ packet.etime * 60 ≠ 2 * MIN_AUCTION_TIME ∧
    packet.etime * 60 ≠ 4 * MIN_AUCTION_TIME)

end putUp

/-! ## What the handler does -/

theorem sum_lt {asked : List (ℕ × ℕ)} (hlength : asked.length ≤ MAX_AUCTION_ITEMS)
    (hcounts : ∀ x ∈ asked, x.2 ≤ 1000) : (asked.map Prod.snd).sum < 2 ^ 32 := by
  have hle : (asked.map Prod.snd).sum ≤ (asked.map Prod.snd).length • 1000 := by
    refine List.sum_le_card_nsmul _ _ fun n hn ↦ ?_
    obtain ⟨x, hx, rfl⟩ := List.mem_map.mp hn
    exact hcounts x hx
  rw [List.length_map, smul_eq_mul] at hle
  rw [MAX_AUCTION_ITEMS] at hlength
  omega

/-- What the three loops have found out when an auction is made. -/
structure Checked (lookups : SellLookups) (s : Selling) (asked : List (ℕ × ℕ)) (entry : ℕ) (items : List Listed) :
    Prop where
  good : List.Forall₂ (fun x y ↦ y.Good lookups.mgr s.inventory entry x ∧ s.mAitems[y.item.guid]? = none) asked
    items
  nodup : (asked.map Prod.fst).Nodup
  pos : (asked.map Prod.snd).sum ≠ 0
  lt : (asked.map Prod.snd).sum < 2 ^ 32
  fits : ∀ y ∈ items, ∃ proto, lookups.mgr.GetItemTemplate y.item.entry = some proto ∧
    (asked.map Prod.snd).sum ≤ proto.GetMaxStackSize

section handler

variable {lookups : SellLookups} {s : Selling} {player : ℕ} {packet : SellPacket}

variable (lookups packet) in
/-- **The checks** refuse a request, or they have found out all there is to know. -/
theorem handleAuctionSellItem_checked (hs : s.Sound player) : s.HandleAuctionSellItem lookups player packet = some s ∨
      Proper packet ∧ ∃ house entry first items, Checked lookups s packet.items entry (first :: items) ∧
        s.HandleAuctionSellItem lookups player packet = s.sellChecked lookups player packet house
          (packet.etime * 60) (packet.items.map Prod.snd).sum (first :: items) first := by
  rw [Selling.HandleAuctionSellItem]
  by_cases hlength : packet.items.length > MAX_AUCTION_ITEMS
  · exact .inl (if_pos hlength)
  rw [if_neg hlength]
  by_cases hcounts : (packet.items.any fun x ↦ x.1 = 0 ∨ x.2 = 0 ∨ x.2 > 1000) = true
  · exact .inl (if_pos hcounts)
  rw [if_neg hcounts]
  by_cases hbid : packet.bid = 0 ∨ packet.etime = 0
  · exact .inl (if_pos hbid)
  rw [if_neg hbid]
  by_cases hmoney : packet.bid > MAX_MONEY_AMOUNT ∨ packet.buyout > MAX_MONEY_AMOUNT
  · exact .inl (if_pos hmoney)
  rw [if_neg hmoney]
  cases lookups.house with
  | none => exact .inl rfl
  | some house =>
    dsimp only
    by_cases htime : packet.etime * 60 ≠ MIN_AUCTION_TIME ∧ packet.etime * 60 ≠ 2 * MIN_AUCTION_TIME ∧
        packet.etime * 60 ≠ 4 * MIN_AUCTION_TIME
    · exact .inl (if_pos htime)
    rw [if_neg htime]
    cases hcheck : s.checkItems lookups packet.items 0 with
    | none => exact .inl rfl
    | some items =>
      dsimp only
      by_cases hsum : (packet.items.map Prod.snd).sum = 0
      · exact .inl (if_pos hsum)
      rw [if_neg hsum]
      by_cases hguids : ¬(packet.items.map Prod.fst).Pairwise (· ≠ ·)
      · exact .inl (if_pos hguids)
      rw [if_neg hguids]
      by_cases hfits : (items.any fun x ↦ !(lookups.mgr.GetItemTemplate x.item.entry).any
          ((packet.items.map Prod.snd).sum ≤ ·.GetMaxStackSize)) = true
      · exact .inl (if_pos hfits)
      rw [if_neg hfits]
      cases items with
      | nil => exact .inl rfl
      | cons first items =>
        obtain ⟨entry, -, hall⟩ := checkItems_eq_some hs.entries hcheck
        refine .inr ⟨⟨hbid, hmoney, htime⟩, house, entry, first, items, ⟨hall, not_not.mp hguids, hsum,
          sum_lt (Nat.not_lt.mp hlength) fun x hx ↦ ?_, fun y hy ↦ ?_⟩, rfl⟩
        · have hx' : ¬ (x.1 = 0 ∨ x.2 = 0 ∨ x.2 > 1000) := fun h ↦
            hcounts (List.any_eq_true.mpr ⟨x, hx, decide_eq_true h⟩)
          omega
        · have hy' : (lookups.mgr.GetItemTemplate y.item.entry).any
              ((packet.items.map Prod.snd).sum ≤ ·.GetMaxStackSize) = true := by
            by_contra hnot
            exact hfits (List.any_eq_true.mpr ⟨y, hy, by rw [Bool.eq_false_iff.mpr hnot]; rfl⟩)
          obtain ⟨proto, hproto, hle⟩ := (Option.any_eq_true _ _).mp hy'
          exact ⟨proto, hproto, of_decide_eq_true hle⟩

theorem Checked.sold {s' : Selling} {entry : ℕ} {first : Listed} {items : List Listed} {item : Item}
    {AH : AuctionEntry} (hs : s.Sound player) (h : Checked lookups s packet.items entry (first :: items))
    (hcount : item.count = (packet.items.map Prod.snd).sum) (hentry : item.entry = entry)
    (hnew : s.mAitems[item.guid]? = none) {house : AuctionHouse} {bid buyout etime deposit : UInt32}
    (hAH : AH = s.newAuction lookups player house item bid buyout etime deposit)
    (hauctions : s'.auctions.auctions = s.auctions.auctions.insert s.auctions.auctionId AH)
    (hguids : s'.auctions.mAitems = insert item.guid s.auctions.mAitems)
    (hitems : s'.mAitems = s.mAitems.insert item.guid item)
    (htaken : TakenFrom packet.items entry s.inventory.items s'.inventory.items) :
    Sold lookups.mgr player packet s s' AH item := by
  subst hAH hentry
  obtain ⟨x, asked, hfirst, -, -⟩ := List.forall₂_cons_right_iff.mp h.good
  refine ⟨hauctions, ?_, hitems, hnew, hguids, rfl, rfl, ?_, rfl, hcount, ?_, htaken⟩
  · refine Option.eq_none_iff_forall_ne_some.mpr fun auction hauction ↦ ?_
    exact Nat.lt_irrefl _ (hs.keyed _ auction hauction).2
  · exact UInt32.toNat_ofNat_of_lt' (hcount ▸ h.lt)
  · rw [hcount, ← hfirst.1.entry]
    exact h.fits first List.mem_cons_self

/-- **The end of the handler** refuses, or puts up what was asked for. -/
theorem sellChecked_outcome {house : AuctionHouse} {etime : UInt32} {entry : ℕ} {first : Listed}
    {items : List Listed} (hs : s.Sound player) (h : Checked lookups s packet.items entry (first :: items)) :
    ∃ s', s.sellChecked lookups player packet house etime (packet.items.map Prod.snd).sum (first :: items) first =
        some s' ∧ (Refused s s' ∨ ∃ AH item, Sold lookups.mgr player packet s s' AH item) := by
  have hsame : Refused s s := ⟨rfl, rfl, rfl, rfl⟩
  obtain ⟨x, asked, hfirst, hrest, hasked⟩ := List.forall₂_cons_right_iff.mp h.good
  rw [Selling.sellChecked]
  generalize lookups.rules.GetAuctionDeposit house etime first.item.entry
    (UInt32.ofNat (packet.items.map Prod.snd).sum) = deposit
  dsimp only
  split_ifs with hmoney hfound hwhole
  · exact ⟨s, rfl, .inl hsame⟩
  · exact ⟨s, rfl, .inl hsame⟩
  · -- one stack as it is
    obtain ⟨s', added, hput, hinventory, hrefused, hadded⟩ := putUp_spec lookups house packet.bid
      packet.buyout etime deposit hs.ids hs.pending hfirst.2
    rw [hput, Option.map_some]
    cases added with
    | false => exact ⟨s', rfl, .inl (hrefused rfl)⟩
    | true =>
      obtain ⟨hauctions, hguids, hitems⟩ := hadded rfl
      have hnil : asked = [] := by
        rw [hasked, List.length_cons] at hwhole
        exact List.eq_nil_of_length_eq_zero (by omega)
      have hall : first.item.count = x.2 := hwhole.2.trans hfirst.1.count
      refine ⟨_, rfl, .inr ⟨_, first.item, h.sold hs ?_ hfirst.1.entry hfirst.2 rfl hauctions hguids hitems ?_⟩⟩
      · simp [hasked, hnil, hall]
      · have hremoved := (takeOne_spec hfirst.1).1
        rw [takeOne, if_pos hwhole.2] at hremoved
        rw [hasked, hnil]
        refine (TakenFrom.nil entry _).cons hfirst.1.get hfirst.1.guid hfirst.1.entry hfirst.1.le
          List.not_mem_nil ?_
        simpa [hinventory] using hremoved
  · -- a new item
    obtain ⟨proto, hproto, hle⟩ := h.fits first List.mem_cons_self
    cases hclone : first.item.CloneItem lookups.mgr (packet.items.map Prod.snd).sum s.guid true with
    | none => exact absurd (Item.cloneItem_eq_none hproto hclone) h.pos
    | some newItem =>
      obtain ⟨hguid, hentry, hcount⟩ := Item.cloneItem_eq_some hproto hclone
      have hnew : s.mAitems[newItem.guid]? = none := hguid ▸ hs.guid
      obtain ⟨s', added, hput, hinventory, hrefused, hadded⟩ := putUp_spec lookups
        (s := { s with guid := s.guid + 1 }) house packet.bid packet.buyout etime deposit hs.ids hs.pending hnew
      dsimp only
      rw [hput, Option.map_some]
      cases added with
      | false =>
        obtain ⟨h1, h2, h3, h4⟩ := hrefused rfl
        exact ⟨s', rfl, .inl ⟨h1, h2, h3, h4⟩⟩
      | true =>
        obtain ⟨hauctions, hguids, hitems⟩ := hadded rfl
        refine ⟨_, rfl, .inr ⟨_, newItem, h.sold hs (hcount.trans (Nat.min_eq_left hle))
          (hentry.trans hfirst.1.entry) hnew rfl hauctions hguids hitems ?_⟩⟩
        dsimp only
        rw [hinventory]
        exact takeAll_takenFrom (h.good.imp fun _ _ h ↦ h.1) h.nodup

end handler

/-- **Every request is refused**, and then nothing has changed, or exactly what was asked for has been put up. -/
theorem HandleAuctionSellItem_outcome (lookups : SellLookups) (s : Selling) (player : ℕ) (packet : SellPacket)
    (hs : s.Sound player) :
    ∃ s', s.HandleAuctionSellItem lookups player packet = some s' ∧
      (Refused s s' ∨ ∃ AH item, Sold lookups.mgr player packet s s' AH item) := by
  obtain hrefused | ⟨-, house, entry, first, items, hchecked, hsell⟩ :=
    handleAuctionSellItem_checked lookups packet hs
  · exact ⟨s, hrefused, .inl ⟨rfl, rfl, rfl, rfl⟩⟩
  · rw [hsell]
    exact sellChecked_outcome hs hchecked

/-! ## Ten of two stacks -/

/-- Deposits of a gold. -/
def goldDeposit : AuctionRules := ⟨fun _ _ _ _ ↦ 10000, fun _ ↦ 5, fun _ _ ↦ 1⟩

/-- At an auctioneer. -/
def atAuctioneer : SellLookups :=
  ⟨Player.twentyMgr, goldDeposit, some .mNeutralAuctions, true, fun _ ↦ false, fun _ ↦ 0, 0, UInt32.toNat⟩

/-- A player with two gold and stacks of eight and five in his backpack. -/
def eightAndFive : Selling where
  auctions := (auctionMachine goldDeposit twoGoldEach).start
  mAitems := ∅
  inventory := ⟨((∅ : ExtTreeMap ℕ Item).insert
      (makePos INVENTORY_SLOT_BAG_0 23) { guid := 1, entry := 1, count := 8 }).insert
      (makePos INVENTORY_SLOT_BAG_0 24) { guid := 2, entry := 1, count := 5 }⟩
  guid := 3

/-- The eight and two of the five, for twelve hours. -/
def tenOfThem : SellPacket := ⟨[(1, 8), (2, 2)], 100, 300, 720⟩

/-- There is an auction of ten then. -/
theorem HandleAuctionSellItem_outcome_ten :
    ∃ s' AH item, eightAndFive.HandleAuctionSellItem atAuctioneer 1 tenOfThem = some s' ∧
      Sold Player.twentyMgr 1 tenOfThem eightAndFive s' AH item ∧ item.count = 10 := by
  have hsound : eightAndFive.Sound 1 := by
    refine ⟨fun id auction hget ↦ ?_, by decide, fun ids count hpending ↦ ?_, ?_, fun pos item hitem ↦ ?_⟩
    · exact absurd hget (by simp [eightAndFive, auctionMachine])
    · exact absurd hpending (by simp [eightAndFive, auctionMachine])
    · exact ExtTreeMap.getElem?_empty
    · rw [eightAndFive, TreeMap.get_insert, TreeMap.get_insert] at hitem
      split_ifs at hitem
      · obtain rfl := Option.some.inj hitem
        decide
      · obtain rfl := Option.some.inj hitem
        decide
      · simp at hitem
  have hadded : (eightAndFive.HandleAuctionSellItem atAuctioneer 1 tenOfThem).any
      (fun s' ↦ decide (s'.auctions.auctionId = 2 ∧ s'.mAitems[3]?.isSome)) = true := by decide +kernel
  obtain ⟨s', hsell, hrefused | ⟨AH, item, hsold⟩⟩ :=
    HandleAuctionSellItem_outcome atAuctioneer eightAndFive 1 tenOfThem hsound
  · rw [hsell] at hadded
    have hsome := (of_decide_eq_true hadded).2
    rw [hrefused.mAitems] at hsome
    exact absurd hsome (by decide)
  · exact ⟨s', AH, item, hsell, hsold, hsold.count⟩

end Gundrak.Auctions
