import Gundrak.Mails.Attachments
import Gundrak.Trades.TradeData

/-!
# Items that change hands

When two players have accepted a trade, their items are taken out of the inventories, and `moveItems` puts them
into those of the other ones, slot by slot.  If one of the two items of a slot does not fit, both go back.  The
places for them are then computed with the vectors that the checks have used, which may hold places for the
other item already: `StoreItem` fills them all, with new items.  And an item that cannot go back is lost.

* `MoveItemToInventory.stores`: an item that is stored where an empty vector was filled gets there whole.
* `movePair_account`: what becomes of one slot, as long as only empty vectors are used.
* `Smooth`: in every slot both items fit, or the checks have found no places for them and their owners have.

**`moveItems_nothingLost_iff`** is the result: nothing is lost or made out of nothing exactly if the trade is
smooth.
-/

open Std (ExtTreeMap)

namespace Gundrak.Players.Player

/-! ## A vector that is not empty -/

/-- `Player::CanStoreItem`, with a `dest` where there may be something already. -/
def CanStoreItemInto (mgr : ObjectMgr) (player : Player) (bag slot entry count : ℕ) (pItem : Option Item)
    (swap : Bool) (no_space_count : Option ℕ) (dest : List (ℕ × ℕ)) : StoreAnswer :=
  match mgr.GetItemTemplate entry with
  | none =>
    ⟨if swap then .ITEMS_CANT_BE_SWAPPED else .ITEM_NOT_FOUND, dest, no_space_count.map fun _ ↦ count⟩
  | some proto =>
    if pItem.any (·.lootGenerated) then ⟨.ALREADY_LOOTED, dest, no_space_count.map fun _ ↦ count⟩
    else if pItem.any (·.bindedNotWith) then
      ⟨.DONT_OWN_THAT_ITEM, dest, no_space_count.map fun _ ↦ count⟩
    else
      match player.CanTakeMoreSimilarItems mgr entry count pItem with
      | (.OK, no_similar) =>
        player.storeSearch mgr proto pItem no_similar no_space_count bag slot swap ⟨dest, count⟩
      | (res, no_similar) =>
        if count = no_similar then ⟨res, dest, no_space_count.map fun _ ↦ no_similar⟩
        else
          player.storeSearch mgr proto pItem no_similar no_space_count bag slot swap
            ⟨dest, uint32 (count - no_similar)⟩

end Gundrak.Players.Player

namespace Gundrak.Transfers

open Players Mails

/-! ## Moving items -/

/-- The inventories of the two players, and the next guid.  As in a trade the trader of `p` is `!p`. -/
structure Transfer where
  inventory : Bool → Player
  guid : ℕ

/-- What becomes of the items of a slot: whether both checks have succeeded; and, not in the source, what was in
the vectors before the places were computed where items have been given back. -/
structure PairResult where
  exchanged : Bool
  prefilled : List (List (ℕ × ℕ))

namespace Transfer

variable (mgr : ObjectMgr) (IsBindedNotWith : Bool → Item → Bool) (s : Transfer) (p q : Bool)

/-- An item, for one of the players. -/
def seenBy (item : Item) : Item := { item with bindedNotWith := IsBindedNotWith q item }

/-- `CanStoreItem` for an item, with a vector where there may be something already. -/
def canStore (dest : List (ℕ × ℕ)) (item : Item) : StoreAnswer :=
  (s.inventory q).CanStoreItemInto mgr NULL_BAG NULL_SLOT item.entry item.count
    (some (seenBy IsBindedNotWith q item)) false none dest

/-- The check whether an item can be stored.  No item is no problem. -/
def check (item : Option Item) : StoreAnswer := (item.map (s.canStore mgr IsBindedNotWith q [])).getD ⟨.OK, [], none⟩

/-- `Player::MoveItemToInventory`. -/
def MoveItemToInventory (item : Item) (dest : List (ℕ × ℕ)) : Transfer :=
  let stored := (s.inventory q).StoreItem mgr (seenBy IsBindedNotWith q item) s.guid dest
  ⟨Function.update s.inventory q stored.1, stored.2⟩

/-- An item goes back to the player who has given it, with the vector that the other check has used. -/
def giveBack (item : Option Item) (dest : List (ℕ × ℕ)) : Transfer × List (List (ℕ × ℕ)) :=
  match item with
  | none => (s, [])
  | some item =>
    let answer := s.canStore mgr IsBindedNotWith q dest item
    if answer.result = .OK then (s.MoveItemToInventory mgr IsBindedNotWith q item answer.dest, [dest])
    else (s, [])

/-- The body of the loop of `moveItems`, for the player `p`. -/
def movePair (items : Bool → Option Item) : Transfer × PairResult :=
  let traderDst := s.check mgr IsBindedNotWith (!p) (items p)
  let playerDst := s.check mgr IsBindedNotWith p (items !p)
  if traderDst.result = .OK ∧ playerDst.result = .OK then
    let s := (items p).elim s fun item ↦ s.MoveItemToInventory mgr IsBindedNotWith (!p) item traderDst.dest
    let s := (items !p).elim s fun item ↦ s.MoveItemToInventory mgr IsBindedNotWith p item playerDst.dest
    (s, ⟨true, []⟩)
  else
    let (s, mine) := s.giveBack mgr IsBindedNotWith p (items p) playerDst.dest
    let (s, his) := s.giveBack mgr IsBindedNotWith (!p) (items !p) traderDst.dest
    (s, ⟨false, mine ++ his⟩)

/-- The loop of `moveItems`. -/
def moveLoop (p : Bool) : List (Bool → Option Item) → Transfer → Transfer × List PairResult
  | [], s => (s, [])
  | items :: pairs, s =>
    let (s, result) := s.movePair mgr IsBindedNotWith p items
    let (s, results) := moveLoop p pairs s
    (s, result :: results)

/-- The items of both players, slot by slot. -/
def slots (items : Bool → Fin Trading.TRADE_SLOT_TRADED_COUNT → Option Item) : List (Bool → Option Item) :=
  List.ofFn fun i q ↦ items q i

/-- `WorldSession::moveItems`, of a player who has a trader. -/
def moveItems (items : Bool → Fin Trading.TRADE_SLOT_TRADED_COUNT → Option Item) : Transfer × List PairResult :=
  moveLoop mgr IsBindedNotWith p (slots items) s

end Transfer

/-! ## What is claimed -/

/-- How much of an entry a player should get in a slot: the item of the other one if they are exchanged, and
otherwise his own. -/
def PairResult.due (result : PairResult) (items : Bool → Option Item) (q : Bool) (entry : ℕ) : ℕ :=
  (items (if result.exchanged then !q else q)).elim 0 fun item ↦ if item.entry = entry then item.count else 0

/-- Every item is whole in the inventory where it belongs, nothing is in two places, and the vectors for items that
were given back had been empty. -/
structure NothingLost (s s' : Transfer) (pairs : List (Bool → Option Item)) (results : List PairResult) :
    Prop where
  counts : ∀ q entry, countIn entry (s'.inventory q).items = countIn entry (s.inventory q).items +
    (List.zipWith (fun items result ↦ PairResult.due result items q entry) pairs results).sum
  once : (guidsIn (s'.inventory false).items + guidsIn (s'.inventory true).items).Nodup
  vectors : ∀ result ∈ results, ∀ dest ∈ result.prefilled, dest = []

namespace Transfer

variable (mgr : ObjectMgr) (IsBindedNotWith : Bool → Item → Bool) (s : Transfer)

/-- Both items of a slot fit.  Or for those that go back there has not been found a place for the other one, and
their owners have room for them. -/
def HandledWell (items : Bool → Option Item) : Prop :=
  (∀ q, (s.check mgr IsBindedNotWith (!q) (items q)).result = .OK) ∨
    ∀ q, ∀ item ∈ items q, (s.check mgr IsBindedNotWith q (items !q)).dest = [] ∧
      (s.canStore mgr IsBindedNotWith q [] item).result = .OK

/-- All slots are handled well, each with the inventories as they are then. -/
def Smooth (p : Bool) : List (Bool → Option Item) → Transfer → Prop
  | [], _ => True
  | items :: pairs, s =>
    s.HandledWell mgr IsBindedNotWith items ∧ Smooth p pairs (s.movePair mgr IsBindedNotWith p items).1

instance decidableHandledWell (items : Bool → Option Item) : Decidable (s.HandledWell mgr IsBindedNotWith items) :=
  inferInstanceAs (Decidable (_ ∨ _))

/-- Smooth trades can be recognized. -/
def decideSmooth (p : Bool) (pairs : List (Bool → Option Item)) (s : Transfer) :
    Decidable (Smooth mgr IsBindedNotWith p pairs s) :=
  match pairs with
  | [] => isTrue trivial
  | items :: pairs =>
    haveI := decideSmooth p pairs (s.movePair mgr IsBindedNotWith p items).1
    inferInstanceAs (Decidable (_ ∧ _))

instance decidableSmooth (p : Bool) (pairs : List (Bool → Option Item)) :
    Decidable (Smooth mgr IsBindedNotWith p pairs s) :=
  decideSmooth mgr IsBindedNotWith p pairs s

/-- No guid is used twice, neither in the inventories nor by the items that are in the hand, and the items in the
inventories are as they should be. -/
structure Sound (hand : Multiset ℕ) : Prop where
  nodup : (guidsIn (s.inventory false).items + guidsIn (s.inventory true).items + hand).Nodup
  fresh : ∀ guid ∈ guidsIn (s.inventory false).items + guidsIn (s.inventory true).items + hand, guid < s.guid
  fine : ∀ (q : Bool) (pos : ℕ) (item : Item), (s.inventory q).items[pos]? = some item → Item.IsFine mgr item
  slot : ∀ (q : Bool) (pos : ℕ) (item : Item), (s.inventory q).items[pos]? = some item →
    (s.inventory q).HasSlot mgr (pos / 256) (pos % 256)

end Transfer

/-- The guids of the items of a slot. -/
def pairGuids (items : Bool → Option Item) : Multiset ℕ :=
  (items false).elim 0 (fun item ↦ {item.guid}) + (items true).elim 0 fun item ↦ {item.guid}

/-- The items that have been taken out of the inventories are some, no larger than stacks can be, and all different
from each other and from those that are still there. -/
structure Removed (mgr : ObjectMgr) (s : Transfer) (pairs : List (Bool → Option Item)) : Prop where
  sound : s.Sound mgr (pairs.map pairGuids).sum
  items : ∀ items ∈ pairs, ∀ q, ∀ item ∈ items q, Item.IsFine mgr item ∧ 0 < item.count

namespace Transfer

variable {mgr : ObjectMgr} {IsBindedNotWith : Bool → Item → Bool} {s s' : Transfer} {p q : Bool}
variable {item : Item} {items : Bool → Option Item} {dest : List (ℕ × ℕ)} {hand : Multiset ℕ}

/-! ## One item -/

theorem guids_eq (s : Transfer) (q : Bool) (hand : Multiset ℕ) :
    guidsIn (s.inventory false).items + guidsIn (s.inventory true).items + hand =
      guidsIn (s.inventory q).items + (guidsIn (s.inventory !q).items + hand) := by
  cases q with
  | false => exact add_assoc _ _ _
  | true =>
    rw [add_comm (guidsIn (s.inventory false).items), add_assoc]
    rfl

theorem Sound.drop {lost : Multiset ℕ} (h : s.Sound mgr (lost + hand)) : s.Sound mgr hand := by
  have hle : guidsIn (s.inventory false).items + guidsIn (s.inventory true).items + hand ≤
      guidsIn (s.inventory false).items + guidsIn (s.inventory true).items + (lost + hand) :=
    add_le_add_right (Multiset.le_add_left _ _) _
  exact ⟨Multiset.nodup_of_le hle h.nodup, fun guid hguid ↦ h.fresh guid (Multiset.mem_of_le hle hguid), h.fine, h.slot⟩

/-- The inventory of a player becomes that of somebody who has got an item, and everything else stays. -/
structure Gets (s s' : Transfer) (q : Bool) (item : Item) : Prop where
  counts : ∀ entry, countIn entry (s'.inventory q).items =
    countIn entry (s.inventory q).items + if item.entry = entry then item.count else 0
  other : s'.inventory (!q) = s.inventory !q

/-- **An item is stored** where `CanStoreItem` has found places for it, beginning with an empty vector. -/
theorem MoveItemToInventory.stores (h : s.Sound mgr ({item.guid} + hand)) (hfine : Item.IsFine mgr item)
    (hok : (s.canStore mgr IsBindedNotWith q [] item).result = .OK) :
    (s.MoveItemToInventory mgr IsBindedNotWith q item (s.canStore mgr IsBindedNotWith q [] item).dest).Sound mgr hand ∧
      Gets s (s.MoveItemToInventory mgr IsBindedNotWith q item (s.canStore mgr IsBindedNotWith q [] item).dest) q
        item := by
  have hguids : guidsIn (s.inventory false).items + guidsIn (s.inventory true).items + ({item.guid} + hand) =
      guidsIn (s.inventory q).items + item.guid ::ₘ (guidsIn (s.inventory !q).items + hand) := by
    simp [guids_eq s q]
  have hstored : StoredIn mgr (s.inventory q)
      ((s.inventory q).StoreItem mgr (seenBy IsBindedNotWith q item) s.guid
        (s.canStore mgr IsBindedNotWith q [] item).dest).1
      ((s.inventory q).StoreItem mgr (seenBy IsBindedNotWith q item) s.guid
        (s.canStore mgr IsBindedNotWith q [] item).dest).2
      (seenBy IsBindedNotWith q item) (guidsIn (s.inventory !q).items + hand) :=
    storeItem_spec (h.fine q) (h.slot q) hfine (hguids ▸ h.nodup) (hguids ▸ h.fresh) hok
  have hself : (s.MoveItemToInventory mgr IsBindedNotWith q item
      (s.canStore mgr IsBindedNotWith q [] item).dest).inventory q =
      ((s.inventory q).StoreItem mgr (seenBy IsBindedNotWith q item) s.guid
        (s.canStore mgr IsBindedNotWith q [] item).dest).1 := Function.update_self ..
  have hother : (s.MoveItemToInventory mgr IsBindedNotWith q item
      (s.canStore mgr IsBindedNotWith q [] item).dest).inventory (!q) = s.inventory !q :=
    Function.update_of_ne (Bool.not_ne_self q) ..
  refine ⟨⟨?_, ?_, fun q' pos old hold ↦ ?_, fun q' pos old hold ↦ ?_⟩, fun entry ↦ ?_, hother⟩
  · rw [guids_eq _ q, hself, hother]
    exact hstored.nodup
  · rw [guids_eq _ q, hself, hother]
    exact hstored.fresh
  · rcases Bool.eq_or_eq_not q' q with rfl | rfl
    · rw [hself] at hold
      exact hstored.fine pos old hold
    · rw [hother] at hold
      exact h.fine _ pos old hold
  · rcases Bool.eq_or_eq_not q' q with rfl | rfl
    · rw [hself] at hold ⊢
      exact hstored.slot pos old hold
    · rw [hother] at hold ⊢
      exact h.slot _ pos old hold
  · rw [hself]
    exact hstored.count entry

/-! ## One item that goes back -/

theorem canStore_congr (h : s'.inventory q = s.inventory q) (dest : List (ℕ × ℕ)) (item : Item) :
    s'.canStore mgr IsBindedNotWith q dest item = s.canStore mgr IsBindedNotWith q dest item := by
  rw [canStore, canStore, h]

theorem check_congr (h : s'.inventory q = s.inventory q) (item : Option Item) :
    s'.check mgr IsBindedNotWith q item = s.check mgr IsBindedNotWith q item := by
  have hsame : s'.canStore mgr IsBindedNotWith q [] = s.canStore mgr IsBindedNotWith q [] :=
    funext (canStore_congr h [])
  rw [check, check, hsame]

/-- What has become of an item that should have gone back to `q`, or been given to him. -/
structure Account (s s' : Transfer) (q : Bool) (item : Option Item) (lost : ℕ → ℕ) : Prop where
  counts : ∀ entry, countIn entry (s'.inventory q).items + lost entry =
    countIn entry (s.inventory q).items + item.elim 0 fun item ↦ if item.entry = entry then item.count else 0
  other : s'.inventory (!q) = s.inventory !q

section

variable {item : Option Item} (h : s.Sound mgr (item.elim 0 (fun item ↦ {item.guid}) + hand))
include h

/-- **An item goes back**, or is lost, if only an empty vector is used. -/
theorem giveBack_account (hitem : ∀ it ∈ item, Item.IsFine mgr it ∧ 0 < it.count)
    (hclean : ∀ d ∈ (s.giveBack mgr IsBindedNotWith q item dest).2, d = []) :
    (s.giveBack mgr IsBindedNotWith q item dest).1.Sound mgr hand ∧
      ∃ lost, Account s (s.giveBack mgr IsBindedNotWith q item dest).1 q item lost ∧ ((∀ entry, lost entry = 0) ↔
          ∀ it ∈ item, dest = [] ∧ (s.canStore mgr IsBindedNotWith q [] it).result = .OK) := by
  cases item with
  | none => exact ⟨h.drop, fun _ ↦ 0, ⟨fun _ ↦ rfl, rfl⟩, by simp⟩
  | some item =>
    obtain ⟨hfine, hpos⟩ := hitem item rfl
    simp only [Option.elim_some] at h
    rw [giveBack] at hclean ⊢
    split_ifs at hclean ⊢ with hok
    · obtain rfl : dest = [] := hclean dest List.mem_cons_self
      obtain ⟨hsound, hgets⟩ := MoveItemToInventory.stores h hfine hok
      refine ⟨hsound, fun _ ↦ 0, ⟨fun entry ↦ hgets.counts entry, hgets.other⟩, iff_of_true (fun _ ↦ rfl) ?_⟩
      rintro it hit
      obtain rfl := Option.some.inj hit
      exact ⟨rfl, hok⟩
    · refine ⟨h.drop, fun entry ↦ if item.entry = entry then item.count else 0, ⟨fun _ ↦ rfl, rfl⟩,
        iff_of_false (fun hnone ↦ ?_) fun hall ↦ ?_⟩
      · have hzero : (if item.entry = item.entry then item.count else 0) = 0 := hnone item.entry
        rw [if_pos rfl] at hzero
        omega
      · obtain ⟨rfl, hok'⟩ := hall item rfl
        exact hok hok'

/-- **An item is exchanged**, if the check has succeeded. -/
theorem moveChecked_account (hitem : ∀ it ∈ item, Item.IsFine mgr it)
    (hok : (s.check mgr IsBindedNotWith q item).result = .OK) :
    (item.elim s fun it ↦ s.MoveItemToInventory mgr IsBindedNotWith q it
        (s.check mgr IsBindedNotWith q item).dest).Sound mgr hand ∧
      Account s (item.elim s fun it ↦ s.MoveItemToInventory mgr IsBindedNotWith q it
        (s.check mgr IsBindedNotWith q item).dest) q item fun _ ↦ 0 := by
  cases item with
  | none => exact ⟨h.drop, fun _ ↦ rfl, rfl⟩
  | some item =>
    simp only [Option.elim_some] at h
    obtain ⟨hsound, hgets⟩ := MoveItemToInventory.stores h (hitem item rfl) hok
    exact ⟨hsound, fun entry ↦ hgets.counts entry, hgets.other⟩

end

/-! ## One slot -/

theorem pairGuids_eq (items : Bool → Option Item) (p : Bool) : pairGuids items =
    (items p).elim 0 (fun item ↦ {item.guid}) + (items !p).elim 0 fun item ↦ {item.guid} := by
  cases p with
  | false => rfl
  | true => exact add_comm _ _

/-- **What becomes of a slot**, if only empty vectors are used: nothing is lost exactly if it is handled well. -/
theorem movePair_account (h : s.Sound mgr (pairGuids items + hand))
    (hitems : ∀ q, ∀ item ∈ items q, Item.IsFine mgr item ∧ 0 < item.count)
    (hclean : ∀ d ∈ (s.movePair mgr IsBindedNotWith p items).2.prefilled, d = []) :
    (s.movePair mgr IsBindedNotWith p items).1.Sound mgr hand ∧ ∃ lost : Bool → ℕ → ℕ,
        (∀ q entry, countIn entry ((s.movePair mgr IsBindedNotWith p items).1.inventory q).items + lost q entry =
          countIn entry (s.inventory q).items +
            PairResult.due (s.movePair mgr IsBindedNotWith p items).2 items q entry) ∧
        ((∀ q entry, lost q entry = 0) ↔ s.HandledWell mgr IsBindedNotWith items) := by
  have hnot : (!!p) = p := Bool.not_not p
  rw [pairGuids_eq items p] at h
  rw [movePair] at hclean ⊢
  dsimp only at hclean ⊢
  split_ifs at hclean ⊢ with hboth
  · -- both fit
    obtain ⟨hsound₁, haccount₁⟩ := moveChecked_account (add_assoc _ _ hand ▸ h)
      (fun it hit ↦ (hitems p it hit).1) hboth.1
    generalize ((items p).elim s fun item ↦ s.MoveItemToInventory mgr IsBindedNotWith (!p) item
      (s.check mgr IsBindedNotWith (!p) (items p)).dest) = s₁ at hsound₁ haccount₁ ⊢
    have hsame : s₁.inventory p = s.inventory p := by
      simpa [hnot] using haccount₁.other
    have hcheck : s₁.check mgr IsBindedNotWith p (items !p) = s.check mgr IsBindedNotWith p (items !p) :=
      check_congr hsame _
    obtain ⟨hsound₂, haccount₂⟩ := moveChecked_account hsound₁ (fun it hit ↦ (hitems (!p) it hit).1)
      (hcheck ▸ hboth.2)
    rw [hcheck] at hsound₂ haccount₂
    refine ⟨hsound₂, fun _ _ ↦ 0, fun q entry ↦ ?_, iff_of_true (fun _ _ ↦ rfl) (.inl fun q ↦ ?_)⟩
    · rcases Bool.eq_or_eq_not q p with rfl | rfl
      · exact (haccount₂.counts entry).trans (hsame ▸ rfl)
      · rw [haccount₂.other, PairResult.due, if_pos rfl, hnot]
        exact haccount₁.counts entry
    · rcases Bool.eq_or_eq_not q p with rfl | rfl
      · exact hboth.1
      · rw [hnot]
        exact hboth.2
  · -- both go back
    have hclean₁ := fun d hd ↦ hclean d (List.mem_append_left _ hd)
    obtain ⟨hsound₁, lost₁, haccount₁, hlost₁⟩ := giveBack_account (add_assoc _ _ hand ▸ h) (hitems p) hclean₁
    have hclean₂ := fun d hd ↦ hclean d (List.mem_append_right _ hd)
    generalize (s.giveBack mgr IsBindedNotWith p (items p) (s.check mgr IsBindedNotWith p (items !p)).dest).1 = s₁
      at hsound₁ haccount₁ hclean₂ ⊢
    obtain ⟨hsound₂, lost₂, haccount₂, hlost₂⟩ := giveBack_account hsound₁ (hitems !p) hclean₂
    generalize (s₁.giveBack mgr IsBindedNotWith (!p) (items !p)
      (s.check mgr IsBindedNotWith (!p) (items p)).dest).1 = s₂ at hsound₂ haccount₂ ⊢
    have hsame : s₂.inventory p = s₁.inventory p := by
      simpa [hnot] using haccount₂.other
    refine ⟨hsound₂, fun q ↦ if q = p then lost₁ else lost₂, fun q entry ↦ ?_, ?_⟩
    · rcases Bool.eq_or_eq_not q p with rfl | rfl
      · dsimp only
        rw [hsame, if_pos rfl]
        exact haccount₁.counts entry
      · dsimp only
        rw [if_neg (Bool.not_ne_self p), ← haccount₁.other]
        exact haccount₂.counts entry
    · have hp (entry : ℕ) : (if p = p then lost₁ else lost₂) entry = lost₁ entry := by rw [if_pos rfl]
      have hother (entry : ℕ) : (if (!p) = p then lost₁ else lost₂) entry = lost₂ entry := by
        rw [if_neg (Bool.not_ne_self p)]
      constructor
      · intro hnone
        have hmine := hlost₁.mp fun entry ↦ (hp entry).symm.trans (hnone p entry)
        have hhis := hlost₂.mp fun entry ↦ (hother entry).symm.trans (hnone (!p) entry)
        refine .inr fun q item hitem ↦ ?_
        rcases Bool.eq_or_eq_not q p with rfl | rfl
        · exact hmine item hitem
        · obtain ⟨hdest, hok⟩ := hhis item hitem
          rw [canStore_congr haccount₁.other] at hok
          rw [hnot]
          exact ⟨hdest, hok⟩
      · rintro (hall | hback)
        · have hhis := hall !p
          rw [hnot] at hhis
          exact absurd ⟨hall p, hhis⟩ hboth
        · have hmine := hlost₁.mpr (hback p)
          have hhis := hlost₂.mpr fun item hitem ↦ by
            obtain ⟨hdest, hok⟩ := hback (!p) item hitem
            rw [hnot] at hdest
            exact ⟨hdest, (canStore_congr haccount₁.other [] item).symm ▸ hok⟩
          intro q entry
          rcases Bool.eq_or_eq_not q p with rfl | rfl
          · exact (hp entry).trans (hmine entry)
          · exact (hother entry).trans (hhis entry)

theorem giveBack_prefilled {item : Option Item} {d : List (ℕ × ℕ)}
    (hd : d ∈ (s.giveBack mgr IsBindedNotWith q item dest).2) : d = dest ∧ ∃ it, it ∈ item := by
  cases item with
  | none => exact absurd hd List.not_mem_nil
  | some item =>
    rw [giveBack] at hd
    split_ifs at hd
    · exact ⟨List.mem_singleton.mp hd, item, rfl⟩
    · exact absurd hd List.not_mem_nil

theorem HandledWell.clean (h : s.HandledWell mgr IsBindedNotWith items) :
    ∀ d ∈ (s.movePair mgr IsBindedNotWith p items).2.prefilled, d = [] := by
  have hnot : (!!p) = p := Bool.not_not p
  intro d hd
  rw [movePair] at hd
  split_ifs at hd with hboth
  · exact absurd hd List.not_mem_nil
  · rcases h with hall | hback
    · have hhis := hall !p
      rw [hnot] at hhis
      exact absurd ⟨hall p, hhis⟩ hboth
    · rcases List.mem_append.mp hd with hd | hd
      · obtain ⟨rfl, item, hitem⟩ := giveBack_prefilled hd
        exact (hback p item hitem).1
      · obtain ⟨rfl, item, hitem⟩ := giveBack_prefilled hd
        simpa [hnot] using (hback (!p) item hitem).1

/-! ## All slots -/

/-- **What becomes of all slots**, if only empty vectors are used: nothing is lost exactly if all is smooth. -/
theorem moveLoop_account {pairs : List (Bool → Option Item)} (h : s.Sound mgr (pairs.map pairGuids).sum)
    (hitems : ∀ items ∈ pairs, ∀ q, ∀ item ∈ items q, Item.IsFine mgr item ∧ 0 < item.count)
    (hclean : ∀ result ∈ (moveLoop mgr IsBindedNotWith p pairs s).2, ∀ d ∈ result.prefilled, d = []) :
    (moveLoop mgr IsBindedNotWith p pairs s).1.Sound mgr 0 ∧ ∃ lost : Bool → ℕ → ℕ,
      (∀ q entry, countIn entry ((moveLoop mgr IsBindedNotWith p pairs s).1.inventory q).items + lost q entry =
        countIn entry (s.inventory q).items +
          (List.zipWith (fun items result ↦ PairResult.due result items q entry) pairs
            (moveLoop mgr IsBindedNotWith p pairs s).2).sum) ∧
      ((∀ q entry, lost q entry = 0) ↔ Smooth mgr IsBindedNotWith p pairs s) := by
  induction pairs generalizing s with
  | nil => exact ⟨h, fun _ _ ↦ 0, fun _ _ ↦ rfl, iff_of_true (fun _ _ ↦ rfl) trivial⟩
  | cons items pairs ih =>
    rw [List.map_cons, List.sum_cons] at h
    obtain ⟨hsound, lost₁, hcounts₁, hlost₁⟩ := movePair_account h (hitems items List.mem_cons_self)
      (hclean _ List.mem_cons_self)
    obtain ⟨hfinal, lost₂, hcounts₂, hlost₂⟩ := ih hsound
      (fun items' hmem ↦ hitems items' (List.mem_cons_of_mem _ hmem))
      fun result hmem ↦ hclean result (List.mem_cons_of_mem _ hmem)
    refine ⟨hfinal, fun q entry ↦ lost₁ q entry + lost₂ q entry, fun q entry ↦ ?_, ?_⟩
    · have hfirst := hcounts₁ q entry
      have hrest := hcounts₂ q entry
      rw [moveLoop, List.zipWith_cons_cons, List.sum_cons]
      dsimp only
      omega
    · rw [Smooth, ← hlost₁, ← hlost₂]
      exact ⟨fun hnone ↦ ⟨fun q entry ↦ (Nat.add_eq_zero_iff.mp (hnone q entry)).1,
        fun q entry ↦ (Nat.add_eq_zero_iff.mp (hnone q entry)).2⟩,
        fun hnone q entry ↦ Nat.add_eq_zero_iff.mpr ⟨hnone.1 q entry, hnone.2 q entry⟩⟩

theorem Smooth.clean {pairs : List (Bool → Option Item)} (h : Smooth mgr IsBindedNotWith p pairs s) :
    ∀ result ∈ (moveLoop mgr IsBindedNotWith p pairs s).2, ∀ d ∈ result.prefilled, d = [] := by
  induction pairs generalizing s with
  | nil => exact fun result hmem ↦ absurd hmem List.not_mem_nil
  | cons items pairs ih =>
    intro result hmem
    rcases List.mem_cons.mp hmem with rfl | hmem
    · exact h.1.clean
    · exact ih h.2 result hmem

/-- **When a trade loses nothing** and makes nothing. -/
theorem moveItems_nothingLost_iff (mgr : ObjectMgr) (IsBindedNotWith : Bool → Item → Bool) (p : Bool)
    (s : Transfer) (items : Bool → Fin Trading.TRADE_SLOT_TRADED_COUNT → Option Item)
    (h : Removed mgr s (slots items)) :
    NothingLost s (s.moveItems mgr IsBindedNotWith p items).1 (slots items)
        (s.moveItems mgr IsBindedNotWith p items).2 ↔
      Smooth mgr IsBindedNotWith p (slots items) s := by
  constructor
  · intro hnothing
    obtain ⟨-, lost, hcounts, hlost⟩ := moveLoop_account h.sound h.items hnothing.vectors
    refine hlost.mp fun q entry ↦ ?_
    have hcount := hcounts q entry
    have hsame := hnothing.counts q entry
    rw [moveItems] at hsame
    omega
  · intro hsmooth
    obtain ⟨hsound, lost, hcounts, hlost⟩ := moveLoop_account h.sound h.items hsmooth.clean
    refine ⟨fun q entry ↦ ?_, ?_, hsmooth.clean⟩
    · have hcount := hcounts q entry
      rw [hlost.mpr hsmooth q entry] at hcount
      exact hcount
    · have hnodup := hsound.nodup
      rwa [add_zero] at hnodup

/-! ## Two stacks for a key -/

/-- Items of entry 1 are in stacks of twenty, of which one can have no more, and there are others. -/
def limitedMgr : ObjectMgr where
  GetItemTemplate entry :=
    if entry = 1 then some { ItemId := 1, Stackable := 20, MaxCount := 20 }
    else if entry = 2 then some { ItemId := 2, Stackable := 1 } else none
  ItemId_eq entry proto h := by
    split_ifs at h with hone htwo
    · cases h
      exact hone.symm
    · cases h
      exact htwo.symm
  ContainerSlots_le entry proto h := by
    split_ifs at h
    · cases h
      exact Nat.zero_le _
    · cases h
      exact Nat.zero_le _
  Stackable_lt entry proto h := by
    split_ifs at h
    · cases h
      decide
    · cases h
      decide
  ItemLimitCategory _ := none

/-- The trader has fifteen of the first kind, and what they trade has been taken out. -/
def beforeMoving : Transfer where
  inventory q := if q then ⟨(∅ : ExtTreeMap ℕ Item).insert (makePos INVENTORY_SLOT_BAG_0 23)
    { guid := 1, entry := 1, count := 15 }⟩ else ⟨∅⟩
  guid := 5

/-- The player gives two stacks of five, and the trader something else for the second one. -/
def twoForOne (second : Bool) (q : Bool) (i : Fin Trading.TRADE_SLOT_TRADED_COUNT) : Option Item :=
  if q then if i.val = 1 then some { guid := 4, entry := 2, count := 1 } else none
  else if i.val = 0 then some { guid := 2, entry := 1, count := 5 }
  else if i.val = 1 ∧ second then some { guid := 3, entry := 1, count := 5 } else none

theorem removed_beforeMoving (second : Bool) : Removed limitedMgr beforeMoving (slots (twoForOne second)) := by
  have hget {q : Bool} {pos : ℕ} {item : Item} (h : (beforeMoving.inventory q).items[pos]? = some item) :
      pos = makePos INVENTORY_SLOT_BAG_0 23 ∧ item = { guid := 1, entry := 1, count := 15 } := by
    cases q with
    | false => exact absurd h (by simp [beforeMoving])
    | true =>
      change ((∅ : ExtTreeMap ℕ Item).insert (makePos INVENTORY_SLOT_BAG_0 23)
        { guid := 1, entry := 1, count := 15 })[pos]? = some item at h
      rw [TreeMap.get_insert] at h
      split_ifs at h with hpos
      · exact ⟨hpos.symm, (Option.some.inj h).symm⟩
      · cases h
  refine ⟨⟨?_, ?_, fun q pos item hitem ↦ ?_, fun q pos item hitem ↦ ?_⟩, fun items hitems q item hitem ↦ ?_⟩
  · cases second <;> decide +kernel
  · cases second <;> decide +kernel
  · obtain ⟨-, rfl⟩ := hget hitem
    exact ⟨_, rfl, by decide⟩
  · obtain ⟨rfl, -⟩ := hget hitem
    exact .inl ⟨by decide, .inl (by decide)⟩
  · obtain ⟨i, rfl⟩ := List.mem_ofFn.mp hitems
    have hone : twoForOne second q i = some item := hitem
    rw [twoForOne] at hone
    split_ifs at hone
    all_goals
      obtain rfl := Option.some.inj hone
      exact ⟨⟨_, rfl, by decide⟩, by decide⟩

/-- One stack and the key: both fit. -/
theorem moveItems_nothingLost_one :
    NothingLost beforeMoving (beforeMoving.moveItems limitedMgr (fun _ _ ↦ false) false (twoForOne false)).1
      (slots (twoForOne false))
      (beforeMoving.moveItems limitedMgr (fun _ _ ↦ false) false (twoForOne false)).2 :=
  (moveItems_nothingLost_iff limitedMgr (fun _ _ ↦ false) false beforeMoving (twoForOne false)
    (removed_beforeMoving false)).mpr (by decide +kernel)

/-- The second stack would be too much for the trader, and it goes back with the place for the key: the player has
six of it. -/
theorem not_nothingLost_two : ¬ ∀ (mgr : ObjectMgr) (IsBindedNotWith : Bool → Item → Bool) (p : Bool)
    (s : Transfer) (items : Bool → Fin Trading.TRADE_SLOT_TRADED_COUNT → Option Item),
    Removed mgr s (slots items) → NothingLost s (s.moveItems mgr IsBindedNotWith p items).1 (slots items)
      (s.moveItems mgr IsBindedNotWith p items).2 := by
  intro h
  have hcount := (h limitedMgr (fun _ _ ↦ false) false beforeMoving (twoForOne true)
    (removed_beforeMoving true)).counts false 1
  exact absurd hcount (by decide +kernel)

end Transfer

end Gundrak.Transfers
