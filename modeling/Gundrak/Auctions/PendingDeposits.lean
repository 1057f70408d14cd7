import Gundrak.Auctions.Deposits
import Gundrak.Util.CheckedArithmetic

/-!
# What a batch of auctions is charged

`PendingAuctionAdd` adds up deposits for the auctions of a player, each with its own count and duration, but
all of them with the item of the newest one, and asks whether he has so much money.  When his turn comes,
`PendingAuctionProcess` computes one deposit for the count of all of them, with the item, the house and the
duration of the first one, takes it, and divides it among the auctions.

* `GetAuctionDeposit`: the deposit, with exact rates.
* `sellAll`: a player puts up one auction after the other.  `PendingSound.sellAll` says that what is pending
  stays in order, and that his money stays what it is.
* **`shareDeposit_concat`**: what the auctions of a batch get.

**`PendingAuctionProcess_exact_iff`** is the result: the charge is right exactly when the deposits of the
auctions are all the same, up to a rest in the last one, when together they are what the first item gives for
all of them, and when so much money has been asked for and is there.
-/

open Std (ExtTreeMap)

namespace Gundrak.Auctions

/-! ## The deposit -/

/-- `AH_MINIMUM_DEPOSIT`. -/
def AH_MINIMUM_DEPOSIT : ℚ := 100

/-- What deposits depend on: the rate `RATE_AUCTION_DEPOSIT`, the share of the house in percent, and the price at
which an item is sold to vendors. -/
structure DepositRates where
  RATE_AUCTION_DEPOSIT : ℚ
  depositPercent : AuctionHouse → UInt32
  SellPrice : ℕ → UInt32

/-- A number as an `uint32`, where it is one. -/
def toUInt32 (q : ℚ) : UInt32 := UInt32.ofNat (Checked.truncate q).toNat

/-- The loop of `GetAuctionDeposit`: the largest count for which nothing is lost to rounding. -/
def wholeCount (remainderbase : ℚ) : ℕ → ℕ
  | 0 => 0
  | i + 1 =>
    let whole := remainderbase * ↑(i + 1)
    if whole ≠ Checked.truncate whole then wholeCount remainderbase i else i + 1

/-- `AuctionHouseMgr::GetAuctionDeposit`, with exact numbers in the place of floating-point ones.  The counts are
below `2 ^ 31`. -/
def DepositRates.GetAuctionDeposit (rates : DepositRates) (house : AuctionHouse) (time : UInt32) (itemEntry : ℕ)
    (count : UInt32) : UInt32 :=
  let MSV := rates.SellPrice itemEntry
  if MSV ≤ 0 then toUInt32 (AH_MINIMUM_DEPOSIT * rates.RATE_AUCTION_DEPOSIT)
  else
    let multiplier : ℚ := (rates.depositPercent house).toNat * 3 / 100
    let timeHr := time / 60 / 60 / 12
    let base : ℚ := MSV.toNat * multiplier * rates.RATE_AUCTION_DEPOSIT
    let deposit := toUInt32 base
    let remainderbase : ℚ := base - deposit.toNat
    let deposit := deposit * (timeHr * count)
    let i := wholeCount remainderbase count.toNat
    let deposit := if i ≠ 0 then toUInt32 (deposit.toNat + remainderbase * i * timeHr.toNat) else deposit
    if (deposit.toNat : ℚ) < AH_MINIMUM_DEPOSIT * rates.RATE_AUCTION_DEPOSIT then
      toUInt32 (AH_MINIMUM_DEPOSIT * rates.RATE_AUCTION_DEPOSIT)
    else deposit

/-- The rules with such deposits. -/
def DepositRates.rules (rates : DepositRates) (GetAuctionOutBid : UInt32 → UInt32)
    (GetAuctionCut : AuctionHouse → UInt32 → UInt32) : AuctionRules :=
  ⟨rates.GetAuctionDeposit, GetAuctionOutBid, GetAuctionCut⟩

/-! ## What is claimed -/

section claim

variable (rules : AuctionRules)

/-- The deposit for the item, the count and the duration of an auction. -/
def ownDeposit (AH : AuctionEntry) : UInt32 := rules.GetAuctionDeposit AH.house AH.etime AH.itemEntry AH.itemCount

/-- What `PendingAuctionAdd` asked for when the last of some auctions was added: deposits for all of them, with the
item of the last one.  For the first auction `HandleAuctionSellItem` has asked for the same. -/
def checkedDeposit (entries : List AuctionEntry) : UInt32 :=
  entries.foldl (fun totalDeposit AH ↦ totalDeposit + rules.GetAuctionDeposit AH.house AH.etime
    ((entries.getLast?.map AuctionEntry.itemEntry).getD 0) AH.itemCount) 0

/-- The deposit that is stored in an auction. -/
def AuctionHouseMgr.storedDeposit (s : AuctionHouseMgr) (id : ℕ) : ℕ :=
  (s.auctions[id]?.map fun AH ↦ AH.deposit.toNat).getD 0

/-- What a turn of a player with some auctions should do. -/
structure ChargesExactly (s s' : AuctionHouseMgr) (player : ℕ) (entries : List AuctionEntry) : Prop where
  charged : (s'.purses player).money + (entries.map fun AH ↦ s'.storedDeposit AH.Id).sum = (s.purses player).money
  own : ∀ AH ∈ entries, s'.storedDeposit AH.Id = (ownDeposit rules AH).toNat
  le_checked : (entries.map fun AH ↦ s'.storedDeposit AH.Id).sum ≤ (checkedDeposit rules entries).toNat

/-- The deposit that the first of some auctions gives for all of them. -/
def jointDeposit (entries : List AuctionEntry) : UInt32 :=
  match entries with
  | [] => 0
  | first :: _ => rules.GetAuctionDeposit first.house first.etime first.itemEntry
      (entries.foldl (fun totalItems AH ↦ totalItems + AH.itemCount) 0)

/-- The deposits of some auctions are all the same, up to a rest in that of the last one, and together they are
the one that the first auction gives for all of them; so much has been asked for, and is there. -/
def SameDeposits (entries : List AuctionEntry) (money : ℕ) : Prop := (∃ deposit rest : ℕ, rest < entries.length ∧
    (∀ AH ∈ entries.dropLast, (ownDeposit rules AH).toNat = deposit) ∧
    (∀ AH ∈ entries.getLast?, (ownDeposit rules AH).toNat = deposit + rest) ∧
    (jointDeposit rules entries).toNat = entries.length * deposit + rest) ∧
  jointDeposit rules entries ≤ checkedDeposit rules entries ∧ (jointDeposit rules entries).toNat ≤ money

end claim

/-! ## What is pending -/

/-- What a player puts up for auction, at a time. -/
structure Sell where
  house : AuctionHouse
  item : SellItem
  bid : UInt32
  buyout : UInt32
  etime : UInt32
  now : ℕ
  auctionTime : ℕ

/-- A player puts up one auction after the other. -/
def AuctionHouseMgr.sellAll (rules : AuctionRules) (s : AuctionHouseMgr) (player : ℕ) (sells : List Sell) :
    Option AuctionHouseMgr :=
  sells.foldlM (fun s x ↦ s.HandleAuctionSellItem rules player x.house x.item x.bid x.buyout x.etime x.now
    x.auctionTime) s

/-- The pending auctions of a player are auctions there are, with their items, and each is pending once. -/
structure PendingSound (s : AuctionHouseMgr) (player : ℕ) : Prop where
  keyed : Keyed s
  pending : ∀ (ids : List ℕ) (count : ℕ), s.pendingAuctionMap[player]? = some (ids, count) →
    ids ≠ [] ∧ ids.Nodup ∧ ∀ id ∈ ids, ∃ AH, s.auctions[id]? = some AH ∧ AH.itemGUIDLow ∈ s.mAitems

/-! ## The shares -/

namespace AuctionHouseMgr

/-- **What the auctions get**: all but the last one get the share, and that one what remains. -/
theorem shareDeposit_concat (share depositremain : UInt32) (entries : List AuctionEntry) (last : AuctionEntry)
    (h : entries.length * share.toNat ≤ depositremain.toNat) :
    shareDeposit share (entries ++ [last]) depositremain = entries.map (fun AH ↦ { AH with deposit := share }) ++
        [{ last with deposit := UInt32.ofNat (depositremain.toNat - entries.length * share.toNat) }] := by
  induction entries generalizing depositremain with
  | nil => simp [shareDeposit]
  | cons AH entries ih =>
    have hcons (rest : List AuctionEntry) (hrest : rest ≠ []) : shareDeposit share (AH :: rest) depositremain =
        { AH with deposit := share } :: shareDeposit share rest (depositremain - share) := by
      cases rest with
      | nil => exact absurd rfl hrest
      | cons b rest =>
        rw [shareDeposit]
        exact fun h ↦ absurd h (by simp)
    rw [List.length_cons, Nat.add_mul, Nat.one_mul] at h
    have hsub : (depositremain - share).toNat = depositremain.toNat - share.toNat :=
      UInt32.toNat_sub_of_le _ _ (UInt32.le_iff_toNat_le.mpr (by omega))
    rw [List.cons_append, hcons _ (by simp), ih _ (by omega), hsub, List.map_cons, List.cons_append,
      List.length_cons, Nat.add_mul, Nat.one_mul, Nat.sub_sub, Nat.add_comm]

end AuctionHouseMgr

variable {rules : AuctionRules} {s s' : AuctionHouseMgr} {player : ℕ} {entries : List AuctionEntry}

/-- **What `PendingAuctionAdd` asks for** when a player has pending auctions. -/
theorem PendingAuctionAdd_eq {ids : List ℕ} {count : ℕ} (AH : AuctionEntry)
    (hpending : s.pendingAuctionMap[player]? = some (ids, count)) (hderef : s.deref ids = some entries) :
    AuctionHouseMgr.PendingAuctionAdd rules s player AH =
      some (if (s.purses player).HasEnoughMoney (checkedDeposit rules (entries ++ [AH])) then
        ({ s with pendingAuctionMap := s.pendingAuctionMap.insert player (ids ++ [AH.Id], count) }, true)
      else (s, false)) := by
  have hchecked : checkedDeposit rules (entries ++ [AH]) = entries.foldl (fun totalDeposit thisAuction ↦ totalDeposit +
        rules.GetAuctionDeposit thisAuction.house thisAuction.etime AH.itemEntry thisAuction.itemCount) 0 +
      rules.GetAuctionDeposit AH.house AH.etime AH.itemEntry AH.itemCount := by
    simp [checkedDeposit]
  rw [AuctionHouseMgr.PendingAuctionAdd, hpending]
  dsimp only
  rw [hderef, Option.map_some, hchecked]
  cases (s.purses player).HasEnoughMoney _ <;> rfl

/-! ## A turn -/

section turn

variable (rules) in
theorem takeDeposit_purses (entries : List AuctionEntry) :
    (AuctionHouseMgr.takeDeposit rules s player entries).purses player = ((s.purses player).ModifyMoney
        (-int32 (AuctionHouseMgr.totalDeposit rules s entries).toNat)).1 := by
  have hsaved (saved : List AuctionEntry) : (saved.foldl AuctionHouseMgr.saveAuction s).purses = s.purses := by
    induction saved generalizing s with
    | nil => rfl
    | cons a saved ih => exact ih
  dsimp only [AuctionHouseMgr.takeDeposit]
  split_ifs <;> simp [AuctionHouseMgr.modifyMoney, hsaved]

variable (rules) in
theorem takeDeposit_auctions (entries : List AuctionEntry) :
    (AuctionHouseMgr.takeDeposit rules s player entries).auctions = ((AuctionHouseMgr.shareDeposit
        (UInt32.ofNat ((AuctionHouseMgr.totalDeposit rules s entries).toNat / entries.length)) entries
        (AuctionHouseMgr.totalDeposit rules s entries)).foldl AuctionHouseMgr.saveAuction s).auctions := by
  dsimp only [AuctionHouseMgr.takeDeposit]
  split_ifs <;> rfl

/-- Of auctions that are saved, each is stored as it is, when their ids are different. -/
theorem storedDeposit_saveAuctions {saved : List AuctionEntry} (hnodup : (saved.map AuctionEntry.Id).Nodup)
    (AH : AuctionEntry) (hAH : AH ∈ saved) :
    (saved.foldl AuctionHouseMgr.saveAuction s).storedDeposit AH.Id = AH.deposit.toNat := by
  rcases get_saveAuctions saved s AH.Id with ⟨b, hb, hId, hget⟩ | ⟨hnot, -⟩
  · obtain rfl : b = AH := List.inj_on_of_nodup_map hnodup hb hAH hId
    rw [AuctionHouseMgr.storedDeposit, hget]
    rfl
  · exact absurd (List.mem_map_of_mem hAH) hnot

theorem modifyMoney_deposit_iff (purse : Purse) (deposit : UInt32) :
    (purse.ModifyMoney (-int32 deposit.toNat)).1.money + deposit.toNat = purse.money ↔ deposit.toNat ≤ purse.money := by
  have hmax := purse.le_max
  have hlt := deposit.toNat_lt
  have hbound : MAX_MONEY_AMOUNT.toNat = 2 ^ 31 - 1 := rfl
  rcases Nat.lt_or_ge deposit.toNat (2 ^ 31) with hsmall | hlarge
  · rw [int32_of_mem (by omega) (by omega), Purse.ModifyMoney]
    split_ifs with hzero hneg
    · dsimp only
      omega
    · dsimp only
      omega
    · omega
    · omega
  · -- a deposit as large as this is given, if that is possible
    have hint : int32 deposit.toNat = deposit.toNat - 2 ^ 32 := by
      unfold int32
      omega
    rw [hint, Purse.ModifyMoney]
    split_ifs
    · omega
    · omega
    · omega
    · omega

variable (player) in
/-- **What is stored after a turn**: the shares, and what remains. -/
theorem storedDeposit_takeDeposit {pre : List AuctionEntry} {last : AuctionEntry}
    (hnodup : ((pre ++ [last]).map AuctionEntry.Id).Nodup) {total : ℕ}
    (htotal : (AuctionHouseMgr.totalDeposit rules s (pre ++ [last])).toNat = total) :
    (∀ AH ∈ pre, (AuctionHouseMgr.takeDeposit rules s player (pre ++ [last])).storedDeposit AH.Id =
        total / (pre.length + 1)) ∧
      (AuctionHouseMgr.takeDeposit rules s player (pre ++ [last])).storedDeposit last.Id =
        total - pre.length * (total / (pre.length + 1)) := by
  have hlt : total < 2 ^ 32 := htotal ▸ UInt32.toNat_lt _
  have hshare : (UInt32.ofNat (total / (pre.length + 1))).toNat = total / (pre.length + 1) :=
    UInt32.toNat_ofNat_of_lt' ((Nat.div_le_self _ _).trans_lt hlt)
  have hle : pre.length * (total / (pre.length + 1)) ≤ total :=
    (Nat.mul_le_mul_right _ (Nat.le_succ _)).trans (Nat.mul_div_le total (pre.length + 1))
  have hstored (id : ℕ) : (AuctionHouseMgr.takeDeposit rules s player (pre ++ [last])).storedDeposit id =
      ((AuctionHouseMgr.shareDeposit (UInt32.ofNat (total / (pre.length + 1))) (pre ++ [last])
        (AuctionHouseMgr.totalDeposit rules s (pre ++ [last]))).foldl AuctionHouseMgr.saveAuction
        s).storedDeposit id := by
    simp [AuctionHouseMgr.storedDeposit, takeDeposit_auctions, htotal]
  have hids := map_shareDeposit (f := AuctionEntry.Id) (fun _ _ ↦ rfl)
    (UInt32.ofNat (total / (pre.length + 1))) (AuctionHouseMgr.totalDeposit rules s (pre ++ [last]))
    (pre ++ [last])
  rw [← hids] at hnodup
  have hshares := AuctionHouseMgr.shareDeposit_concat (UInt32.ofNat (total / (pre.length + 1)))
    (AuctionHouseMgr.totalDeposit rules s (pre ++ [last])) pre last (by rw [hshare, htotal]; exact hle)
  rw [hshares] at hnodup hstored
  refine ⟨fun AH hAH ↦ ?_, ?_⟩
  · rw [hstored]
    exact (storedDeposit_saveAuctions hnodup { AH with deposit := _ }
      (List.mem_append_left _ (List.mem_map_of_mem hAH))).trans hshare
  · rw [hstored]
    refine (storedDeposit_saveAuctions hnodup { last with deposit := _ }
      (List.mem_append_right _ List.mem_cons_self)).trans ?_
    rw [htotal, hshare]
    exact UInt32.toNat_ofNat_of_lt' ((Nat.sub_le _ _).trans_lt hlt)

/-- **When a turn does what it should.** -/
theorem chargesExactly_iff {pre : List AuctionEntry} {last : AuctionEntry}
    (hnodup : ((pre ++ [last]).map AuctionEntry.Id).Nodup)
    (hjoint : AuctionHouseMgr.totalDeposit rules s (pre ++ [last]) = jointDeposit rules (pre ++ [last])) :
    ChargesExactly rules s (AuctionHouseMgr.takeDeposit rules s player (pre ++ [last])) player (pre ++ [last]) ↔
      SameDeposits rules (pre ++ [last]) (s.purses player).money := by
  generalize htotal : (jointDeposit rules (pre ++ [last])).toNat = total
  obtain ⟨hpre, hlast⟩ := storedDeposit_takeDeposit player hnodup
    ((congrArg UInt32.toNat hjoint).trans htotal)
  have hle : pre.length * (total / (pre.length + 1)) ≤ total :=
    (Nat.mul_le_mul_right _ (Nat.le_succ _)).trans (Nat.mul_div_le total (pre.length + 1))
  have hsum : ((pre ++ [last]).map fun AH ↦
      (AuctionHouseMgr.takeDeposit rules s player (pre ++ [last])).storedDeposit AH.Id).sum = total := by
    have hpresum : (pre.map fun AH ↦
        (AuctionHouseMgr.takeDeposit rules s player (pre ++ [last])).storedDeposit AH.Id) =
        pre.map fun _ ↦ total / (pre.length + 1) := List.map_congr_left hpre
    rw [List.map_append, List.sum_append, hpresum, List.map_singleton, List.sum_singleton, hlast,
      List.map_const', List.sum_replicate, smul_eq_mul, Nat.add_sub_cancel' hle]
  have hmoney : ((AuctionHouseMgr.takeDeposit rules s player (pre ++ [last])).purses player).money + total =
      (s.purses player).money ↔ total ≤ (s.purses player).money := by
    rw [takeDeposit_purses, hjoint, ← htotal]
    exact modifyMoney_deposit_iff _ _
  have hdiv := Nat.div_add_mod total (pre.length + 1)
  have hlastShare : total - pre.length * (total / (pre.length + 1)) =
      total / (pre.length + 1) + total % (pre.length + 1) := by
    rw [Nat.add_mul, Nat.one_mul] at hdiv
    omega
  rw [hlastShare] at hlast
  rw [SameDeposits, UInt32.le_iff_toNat_le, htotal, List.dropLast_concat, List.getLast?_concat,
    List.length_append, List.length_singleton]
  constructor
  · rintro ⟨hcharged, hown, hchecked⟩
    rw [hsum] at hcharged hchecked
    refine ⟨⟨total / (pre.length + 1), total % (pre.length + 1), Nat.mod_lt _ (Nat.succ_pos _),
      fun AH hAH ↦ ?_, fun AH hAH ↦ ?_, hdiv.symm⟩, hchecked, hmoney.mp hcharged⟩
    · rw [← hown AH (List.mem_append_left _ hAH), hpre AH hAH]
    · obtain rfl := Option.some.inj hAH
      rw [← hown last (List.mem_append_right _ List.mem_cons_self), hlast]
  · rintro ⟨⟨deposit, rest, hrest, hownpre, hownlast, hsplit⟩, hchecked, henough⟩
    have hquot : total / (pre.length + 1) = deposit := by
      rw [hsplit, Nat.mul_add_div (Nat.succ_pos _), Nat.div_eq_of_lt hrest, Nat.add_zero]
    have hmod : total % (pre.length + 1) = rest := by
      rw [hsplit, Nat.mul_add_mod, Nat.mod_eq_of_lt hrest]
    refine ⟨hsum ▸ hmoney.mpr henough, fun AH hAH ↦ ?_, hsum ▸ hchecked⟩
    rcases List.mem_append.mp hAH with hAH | hAH
    · rw [hpre AH hAH, hownpre AH hAH, hquot]
    · obtain rfl := List.mem_singleton.mp hAH
      rw [hlast, hownlast AH rfl, hquot, hmod]

end turn

/-! ## Selling one thing after the other -/

theorem PendingSound.sell (h : PendingSound s player) {x : Sell}
    (hnext : s.HandleAuctionSellItem rules player x.house x.item x.bid x.buyout x.etime x.now x.auctionTime =
      some s') : PendingSound s' player ∧ s'.purses = s.purses := by
  rcases handleAuctionSellItem_effect hnext with rfl | rfl | ⟨AH, hId, -, -, -,
    ⟨thisAH, count, hbefore, hmap⟩, hauctions, hid, -, -, -, -, -, hpurses, hitems⟩
  · exact ⟨h, rfl⟩
  · exact ⟨⟨fun id auction hget ↦ ⟨(h.keyed id auction hget).1, (h.keyed id auction hget).2.trans
      (Nat.lt_succ_self _)⟩, h.pending⟩, rfl⟩
  have hget (x : ℕ) : s'.auctions[x]? = if AH.Id = x then some AH else s.auctions[x]? := by
    rw [hauctions, TreeMap.get_insert]
  have hstays {x : ℕ} {auction : AuctionEntry} (hx : s.auctions[x]? = some auction) :
      s'.auctions[x]? = some auction := by
    have hlt := (h.keyed x auction hx).2
    rw [hget, if_neg (by omega), hx]
  have hold : thisAH.Nodup ∧ ∀ id ∈ thisAH, ∃ AH, s.auctions[id]? = some AH ∧ AH.itemGUIDLow ∈ s.mAitems := by
    rcases hbefore with hbefore | ⟨-, rfl, -⟩
    · exact (h.pending thisAH count hbefore).2
    · exact ⟨List.nodup_nil, fun id hid ↦ absurd hid List.not_mem_nil⟩
  refine ⟨⟨fun x auction hx ↦ ?_, fun ids n hpending ↦ ?_⟩, hpurses⟩
  · rw [hget] at hx
    split_ifs at hx with hax
    · obtain rfl := Option.some.inj hx
      exact ⟨hax, by omega⟩
    · have hkeys := h.keyed x auction hx
      exact ⟨hkeys.1, by omega⟩
  · rw [hmap, TreeMap.get_insert, if_pos rfl] at hpending
    obtain ⟨rfl, rfl⟩ := Prod.mk.inj (Option.some.inj hpending)
    have hnew : AH.Id ∉ thisAH := fun hmem ↦ by
      obtain ⟨old, hold, -⟩ := hold.2 AH.Id hmem
      have hlt := (h.keyed AH.Id old hold).2
      omega
    refine ⟨by simp, List.nodup_append.mpr ⟨hold.1, List.nodup_singleton _, ?_⟩, fun id hid ↦ ?_⟩
    · rintro a ha b hb rfl
      exact hnew (List.mem_singleton.mp hb ▸ ha)
    · rw [hitems]
      rcases List.mem_append.mp hid with hid | hid
      · obtain ⟨old, hget, hitem⟩ := hold.2 id hid
        exact ⟨old, hstays hget, Finset.mem_insert_of_mem hitem⟩
      · obtain rfl := List.mem_singleton.mp hid
        exact ⟨AH, by rw [hget, if_pos rfl], Finset.mem_insert_self _ _⟩

/-- **A player who puts up one auction after the other** keeps his money, and what is pending stays in order. -/
theorem PendingSound.sellAll {sells : List Sell} (h : PendingSound s player)
    (hsells : s.sellAll rules player sells = some s') : PendingSound s' player ∧ s'.purses = s.purses := by
  induction sells generalizing s with
  | nil =>
    obtain rfl := Option.some.inj hsells
    exact ⟨h, rfl⟩
  | cons x sells ih =>
    rw [AuctionHouseMgr.sellAll, List.foldlM_cons] at hsells
    obtain ⟨s₁, hfirst, hrest⟩ := Option.bind_eq_some_iff.mp hsells
    obtain ⟨hsound, hpurses⟩ := h.sell hfirst
    obtain ⟨hsound, hpurses'⟩ := ih hsound hrest
    exact ⟨hsound, hpurses'.trans hpurses⟩

theorem deref_isSome {ids : List ℕ} (h : ∀ id ∈ ids, ∃ AH, s.auctions[id]? = some AH) :
    ∃ entries, s.deref ids = some entries := by
  induction ids with
  | nil => exact ⟨[], rfl⟩
  | cons id ids ih =>
    obtain ⟨AH, hAH⟩ := h id List.mem_cons_self
    obtain ⟨entries, hentries⟩ := ih fun id hid ↦ h id (List.mem_cons_of_mem _ hid)
    refine ⟨AH :: entries, ?_⟩
    rw [AuctionHouseMgr.deref] at hentries ⊢
    simp [hAH, hentries]

/-- **When a turn does what it should**, after a player has put up one auction after the other. -/
theorem PendingAuctionProcess_exact_iff (rates : DepositRates) (GetAuctionOutBid : UInt32 → UInt32)
    (GetAuctionCut : AuctionHouse → UInt32 → UInt32) (start s : AuctionHouseMgr) (player : ℕ)
    (hstart : PendingSound start player) (sells : List Sell)
    (hsells : start.sellAll (rates.rules GetAuctionOutBid GetAuctionCut) player sells = some s)
    (ids : List ℕ) (count : ℕ) (hpending : s.pendingAuctionMap[player]? = some (ids, count)) :
    ∃ entries s', s.deref ids = some entries ∧
      s.PendingAuctionProcess (rates.rules GetAuctionOutBid GetAuctionCut) player = some s' ∧
      (ChargesExactly (rates.rules GetAuctionOutBid GetAuctionCut) s s' player entries ↔
        SameDeposits (rates.rules GetAuctionOutBid GetAuctionCut) entries (start.purses player).money) := by
  generalize rates.rules GetAuctionOutBid GetAuctionCut = rules at hsells ⊢
  obtain ⟨hsound, hpurses⟩ := hstart.sellAll hsells
  obtain ⟨hne, hnodup, hall⟩ := hsound.pending ids count hpending
  obtain ⟨entries, hderef⟩ := deref_isSome fun id hid ↦ (hall id hid).imp fun _ h ↦ h.1
  have hids := map_Id_of_deref hsound.keyed hderef
  have hentries : entries ≠ [] := by
    rintro rfl
    exact hne hids.symm
  refine ⟨entries, AuctionHouseMgr.takeDeposit rules s player entries, hderef, ?_, ?_⟩
  · simp [AuctionHouseMgr.PendingAuctionProcess, hpending, hderef, hentries]
  · obtain ⟨pre, last, rfl⟩ := (List.eq_nil_or_concat' entries).resolve_left hentries
    rw [← hpurses]
    refine chargesExactly_iff (hids ▸ hnodup) ?_
    have hitem {first : AuctionEntry} (hfirst : first ∈ pre ++ [last]) : first.itemGUIDLow ∈ s.mAitems := by
      have hget := get_of_deref hsound.keyed hderef first hfirst
      obtain ⟨AH, hAH, hitem⟩ := hall first.Id (hids ▸ List.mem_map_of_mem hfirst)
      rw [hget] at hAH
      exact Option.some.inj hAH ▸ hitem
    cases pre with
    | nil => exact if_pos (hitem List.mem_cons_self)
    | cons first pre => exact if_pos (hitem List.mem_cons_self)

/-! ## Two of a kind, and two of different kinds -/

/-- Items of entry 1 are sold to vendors for ten gold, others for one; houses take 15 per cent of that for twelve
hours. -/
def goldRates : DepositRates := ⟨1, fun _ ↦ 5, fun entry ↦ if entry = 1 then 100000 else 10000⟩

/-- The rules with these rates. -/
def goldRules : AuctionRules := goldRates.rules (fun _ ↦ 5) fun _ _ ↦ 1

/-- Everybody has two gold. -/
def twoGoldEach (_ : ℕ) : Purse := ⟨20000, by decide⟩

/-- Somebody puts up an item for twelve hours. -/
def sellOne (guid entry : ℕ) : Sell := ⟨.mNeutralAuctions, ⟨guid, entry, 1⟩, 100, 300, 720, 0, 43200⟩

theorem pendingSound_start (rules : AuctionRules) (purses : ℕ → Purse) (player : ℕ) :
    PendingSound (auctionMachine rules purses).start player := by
  refine ⟨fun id auction hget ↦ ?_, fun ids count hpending ↦ ?_⟩
  · simp [auctionMachine] at hget
  · simp [auctionMachine] at hpending

/-- Two items of the same entry are charged 1500 each. -/
theorem chargesExactly_same : ∃ s s' entries,
    (auctionMachine goldRules twoGoldEach).start.sellAll goldRules 1 [sellOne 7 2, sellOne 8 2] = some s ∧
    s.deref [1, 2] = some entries ∧ s.PendingAuctionProcess goldRules 1 = some s' ∧
    ChargesExactly goldRules s s' 1 entries ∧ (s'.purses 1).money = 17000 := by
  have hrun : (((auctionMachine goldRules twoGoldEach).start.sellAll goldRules 1
      [sellOne 7 2, sellOne 8 2]).bind fun s ↦ (s.PendingAuctionProcess goldRules 1).bind fun s' ↦
        (s.deref [1, 2]).map fun entries ↦ (s.pendingAuctionMap[1]?,
          entries.map fun AH ↦ (ownDeposit goldRules AH).toNat, (jointDeposit goldRules entries).toNat,
          (checkedDeposit goldRules entries).toNat, (s'.purses 1).money)) =
      some (some ([1, 2], 0), [1500, 1500], 3000, 3000, 17000) := by decide +kernel
  obtain ⟨s, hsells, hrun⟩ := Option.bind_eq_some_iff.mp hrun
  obtain ⟨s', hprocess, hrun⟩ := Option.bind_eq_some_iff.mp hrun
  obtain ⟨entries, hderef, hvalues⟩ := Option.map_eq_some_iff.mp hrun
  obtain ⟨hpending, hvalues⟩ := Prod.mk.inj hvalues
  obtain ⟨hown, hvalues⟩ := Prod.mk.inj hvalues
  obtain ⟨hjoint, hvalues⟩ := Prod.mk.inj hvalues
  obtain ⟨hchecked, hmoney⟩ := Prod.mk.inj hvalues
  obtain ⟨entries', s'', hderef', hprocess', hexact⟩ := PendingAuctionProcess_exact_iff goldRates (fun _ ↦ 5)
    (fun _ _ ↦ 1) (auctionMachine goldRules twoGoldEach).start s 1 (pendingSound_start _ _ 1) _ hsells [1, 2] 0
    hpending
  obtain rfl := Option.some.inj (hderef'.symm.trans hderef)
  obtain rfl := Option.some.inj (hprocess'.symm.trans hprocess)
  refine ⟨s, s'', entries', hsells, hderef, hprocess, hexact.mpr ?_, hmoney⟩
  change SameDeposits goldRules entries' 20000
  obtain ⟨first, rest, rfl, hfirst, hrest⟩ := List.map_eq_cons_iff.mp hown
  obtain ⟨second, rest, rfl, hsecond, hnil⟩ := List.map_eq_cons_iff.mp hrest
  obtain rfl := List.map_eq_nil_iff.mp hnil
  refine ⟨⟨1500, 0, by simp, fun AH hAH ↦ ?_, fun AH hAH ↦ ?_, hjoint.trans (by simp)⟩, ?_,
    hjoint.trans_le (by omega)⟩
  · obtain rfl := List.mem_singleton.mp hAH
    exact hfirst
  · obtain rfl := Option.some.inj hAH
    exact hsecond
  · rw [UInt32.le_iff_toNat_le, hjoint, hchecked]

/-- A player sells something precious and then something cheap: he is charged for two of the first, and has been
asked for two of the second. -/
theorem not_chargesExactly_mixed : ¬∀ (rates : DepositRates) (GetAuctionOutBid : UInt32 → UInt32)
      (GetAuctionCut : AuctionHouse → UInt32 → UInt32) (start s s' : AuctionHouseMgr) (player : ℕ)
      (sells : List Sell) (ids : List ℕ) (count : ℕ) (entries : List AuctionEntry),
      PendingSound start player →
      start.sellAll (rates.rules GetAuctionOutBid GetAuctionCut) player sells = some s →
      s.pendingAuctionMap[player]? = some (ids, count) → s.deref ids = some entries →
      s.PendingAuctionProcess (rates.rules GetAuctionOutBid GetAuctionCut) player = some s' →
      ChargesExactly (rates.rules GetAuctionOutBid GetAuctionCut) s s' player entries := by
  intro h
  have hrun : (((auctionMachine goldRules twoGoldEach).start.sellAll goldRules 1
      [sellOne 7 1, sellOne 8 2]).bind fun s ↦ (s.PendingAuctionProcess goldRules 1).bind fun s' ↦
        (s.deref [1, 2]).map fun entries ↦ (s.pendingAuctionMap[1]?,
          (entries.map fun AH ↦ s'.storedDeposit AH.Id).sum, checkedDeposit goldRules entries)) =
      some (some ([1, 2], 0), 30000, 3000) := by decide +kernel
  obtain ⟨s, hsells, hrun⟩ := Option.bind_eq_some_iff.mp hrun
  obtain ⟨s', hprocess, hrun⟩ := Option.bind_eq_some_iff.mp hrun
  obtain ⟨entries, hderef, htriple⟩ := Option.map_eq_some_iff.mp hrun
  obtain ⟨hpending, hpair⟩ := Prod.mk.inj htriple
  obtain ⟨hstored, hchecked⟩ := Prod.mk.inj hpair
  have hle := (h goldRates (fun _ ↦ 5) (fun _ _ ↦ 1) _ s s' 1 _ [1, 2] 0 entries (pendingSound_start _ _ 1)
    hsells hpending hderef hprocess).le_checked
  change _ ≤ (checkedDeposit goldRules entries).toNat at hle
  simp [hstored, hchecked] at hle

end Gundrak.Auctions
