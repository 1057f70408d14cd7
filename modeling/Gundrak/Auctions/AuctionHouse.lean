import Gundrak.Players.Money
import Gundrak.Util.Machine
import Gundrak.Util.TreeMap

/-!
# The auction houses

A player puts an item up for auction, others bid or buy it out, the owner can cancel it, and `Update`
ends the auctions whose time is up.  A bid is taken from the bidder at once; it is mailed back to him
when he is outbid or the auction is cancelled.  The deposit is not taken at once: new auctions are
pending until `UpdatePendingAuctions` finds that a player has not added any since its last turn, and
takes one deposit for all of them.

The pending auctions are kept as pointers.  Here they are ids, and what follows a pointer to an auction
that is gone is undefined.

The amounts that are computed in floating point are parameters (`AuctionRules`).  Whether somebody is
online or still exists, and how much money players earn and spend elsewhere, is part of the calls; so is
the item that a player puts up, after the checks of his bags.  Of mails there is the money.
-/

open Std (ExtTreeMap)

namespace Gundrak.Auctions

/-! ## Auctions -/

/-- The three maps of auctions. -/
inductive AuctionHouse where
  | mHordeAuctions
  | mAllianceAuctions
  | mNeutralAuctions
deriving DecidableEq

/-- The amounts that depend on rates: the deposit for a number of items of one entry, the least step of a
bid, and the share of a bid that the house keeps. -/
structure AuctionRules where
  GetAuctionDeposit : AuctionHouse → (time : UInt32) → (itemEntry : ℕ) → (count : UInt32) → UInt32
  GetAuctionOutBid : (bid : UInt32) → UInt32
  GetAuctionCut : AuctionHouse → (bid : UInt32) → UInt32

/-- `AuctionEntry`.  The entry of the house that it has a pointer to is that of `house`. -/
structure AuctionEntry where
  Id : ℕ
  house : AuctionHouse
  itemGUIDLow : ℕ
  itemEntry : ℕ
  itemCount : UInt32
  owner : ℕ
  startbid : UInt32
  bid : UInt32
  buyout : UInt32
  expire_time : ℕ
  bidder : ℕ
  deposit : UInt32
  etime : UInt32

/-- An item, or a part of a stack, that is put up for auction. -/
structure SellItem where
  guid : ℕ
  entry : ℕ
  count : UInt32

/-- Why money moves: it is taken for a bid, mailed back to who is outbid or whose auction is cancelled, or
it is the bid of an auction that is sold. -/
inductive MovementKind where
  | taken
  | outbid
  | cancelled
  | sold
deriving DecidableEq

/-- Money that is bid, of one player for one auction. -/
structure Movement where
  kind : MovementKind
  auction : ℕ
  player : ℕ
  amount : ℕ

/-- The mail of an auction that was successful. -/
structure SuccessfulMail where
  auction : ℕ
  owner : ℕ
  deposit : UInt32
  profit : UInt32

/-- `AuctionHouseMgr`, with the purses of the players.  The three maps of auctions are one map here, in
which every auction knows its own. -/
structure AuctionHouseMgr where
  auctions : ExtTreeMap ℕ AuctionEntry
  mAitems : Finset ℕ
  pendingAuctionMap : ExtTreeMap ℕ (List ℕ × ℕ)
  /-- `_auctionId`, the next id -/
  auctionId : ℕ
  purses : ℕ → Purse
  /-- the auctions in the database -/
  rows : Finset ℕ
  successfulMails : List SuccessfulMail
  /-- not in the source: the money that was bid, latest first -/
  movements : List Movement
  /-- not in the source: the deposits that were taken in full, with the player and the auction -/
  charged : List (ℕ × ℕ × UInt32)
  /-- not in the source: the auctions that are not pending any more, for which no deposit, or not all of
  it, was taken -/
  unpaid : List ℕ

/-- `MIN_AUCTION_TIME`. -/
def MIN_AUCTION_TIME : UInt32 := 43200

namespace AuctionHouseMgr

variable (rules : AuctionRules) (s : AuctionHouseMgr)

/-- `AuctionHouseObject::GetAuction`. -/
def GetAuction (house : AuctionHouse) (id : ℕ) : Option AuctionEntry :=
  s.auctions[id]?.filter fun auction ↦ auction.house = house

/-- An auction changes where it is. -/
def setAuction (auction : AuctionEntry) : AuctionHouseMgr :=
  { s with auctions := s.auctions.insert auction.Id auction }

/-- `ModifyMoney` of a player. -/
def modifyMoney (player : ℕ) (amount : ℤ) : AuctionHouseMgr :=
  { s with purses := Function.update s.purses player ((s.purses player).ModifyMoney amount).1 }

/-- A player is to pay for a bid.  What is taken is what his purse has less. -/
def pay (id player : ℕ) (amount : UInt32) : AuctionHouseMgr :=
  let after := s.modifyMoney player (-int32 amount.toNat)
  { after with
    movements := ⟨.taken, id, player, (s.purses player).money - (after.purses player).money⟩ :: s.movements }

/-- A bidder is mailed his bid, if he exists and is no auction bot. -/
def mailBack (kind : MovementKind) (auction : AuctionEntry) (characters : ℕ → Bool) :
    AuctionHouseMgr :=
  if characters auction.bidder then
    { s with
      movements := ⟨kind, auction.Id, auction.bidder, auction.bid.toNat⟩ :: s.movements }
  else s

/-- `SendAuctionOutbiddedMail`. -/
def SendAuctionOutbiddedMail (auction : AuctionEntry) (characters : ℕ → Bool) : AuctionHouseMgr :=
  s.mailBack .outbid auction characters

/-- `SendAuctionCancelledToBidderMail`. -/
def SendAuctionCancelledToBidderMail (auction : AuctionEntry) (characters : ℕ → Bool) :
    AuctionHouseMgr :=
  s.mailBack .cancelled auction characters

/-- `SendAuctionSuccessfulMail`. -/
def SendAuctionSuccessfulMail (auction : AuctionEntry) (characters : ℕ → Bool) : AuctionHouseMgr :=
  let s := { s with
    movements := ⟨.sold, auction.Id, auction.bidder, auction.bid.toNat⟩ :: s.movements }
  if characters auction.owner then
    let profit := auction.bid + auction.deposit - rules.GetAuctionCut auction.house auction.bid
    { s with
      successfulMails := ⟨auction.Id, auction.owner, auction.deposit, profit⟩ :: s.successfulMails }
  else s

/-- How every auction ends: `DeleteFromDB`, `RemoveAItem` and `RemoveAuction`. -/
def RemoveAuction (auction : AuctionEntry) : AuctionHouseMgr :=
  { s with
    auctions := s.auctions.erase auction.Id
    mAitems := s.mAitems.erase auction.itemGUIDLow
    rows := s.rows.erase auction.Id }

/-! ## Selling -/

/-- The auctions that pointers point to; none when a pointer dangles. -/
def deref (ids : List ℕ) : Option (List AuctionEntry) := ids.mapM fun id ↦ s.auctions[id]?

/-- `PendingAuctionAdd`, for an auction of an item of the entry `aEntry.itemEntry`. -/
def PendingAuctionAdd (player : ℕ) (aEntry : AuctionEntry) : Option (AuctionHouseMgr × Bool) :=
  match s.pendingAuctionMap[player]? with
  | some (thisAH, count) =>
    (s.deref thisAH).map fun entries ↦
      let totalDeposit := entries.foldl (fun totalDeposit thisAuction ↦
        totalDeposit + rules.GetAuctionDeposit thisAuction.house thisAuction.etime aEntry.itemEntry
          thisAuction.itemCount) 0
      let totalDeposit := totalDeposit +
        rules.GetAuctionDeposit aEntry.house aEntry.etime aEntry.itemEntry aEntry.itemCount
      if !(s.purses player).HasEnoughMoney totalDeposit then (s, false)
      else
        ({ s with
            pendingAuctionMap := s.pendingAuctionMap.insert player (thisAH ++ [aEntry.Id], count) }, true)
  | none =>
    some ({ s with pendingAuctionMap := s.pendingAuctionMap.insert player ([aEntry.Id], 0) }, true)

/-- `HandleAuctionSellItem`.  `auctionTime` is the time in seconds that the rates make of `etime`. -/
def HandleAuctionSellItem (player : ℕ) (house : AuctionHouse) (item : SellItem)
    (bid buyout etime : UInt32) (now auctionTime : ℕ) : Option AuctionHouseMgr :=
  if bid = 0 ∨ etime = 0 then some s
  else if bid > MAX_MONEY_AMOUNT ∨ buyout > MAX_MONEY_AMOUNT then some s
  else
    let etime := etime * 60
    if etime ≠ MIN_AUCTION_TIME ∧ etime ≠ 2 * MIN_AUCTION_TIME ∧ etime ≠ 4 * MIN_AUCTION_TIME then
      some s
    else if item.guid ∈ s.mAitems then some s
    else
      let deposit := rules.GetAuctionDeposit house etime item.entry item.count
      if !(s.purses player).HasEnoughMoney deposit then some s
      else if s.auctionId ≥ 0xFFFFFFFE then none
      else
        let AH : AuctionEntry :=
          { Id := s.auctionId
            house := house
            itemGUIDLow := item.guid
            itemEntry := item.entry
            itemCount := item.count
            owner := player
            startbid := bid
            bid := 0
            buyout := buyout
            expire_time := now + auctionTime
            bidder := 0
            deposit := deposit
            etime := etime }
        (PendingAuctionAdd rules { s with auctionId := s.auctionId + 1 } player AH).map fun (s, added) ↦
            if !added then s
            else
              { s.setAuction AH with
                mAitems := insert item.guid s.mAitems
                rows := insert AH.Id s.rows }

/-! ## Bidding -/

/-- The checks of `HandleAuctionPlaceBid`, with the auction that passes them.  `sameAccount` tells whether
the owner is another character of the player. -/
def checkBid (player : ℕ) (house : AuctionHouse) (auctionId : ℕ) (price : UInt32)
    (sameAccount : Bool) : Option AuctionEntry :=
  if auctionId = 0 ∨ price = 0 then none
  else
    match s.GetAuction house auctionId with
    | none => none
    | some auction =>
      if auction.owner = player then none
      else if sameAccount then none
      else if price ≤ auction.bid ∨ price < auction.startbid then none
      else if (price < auction.buyout ∨ auction.buyout = 0) ∧
          price < auction.bid + rules.GetAuctionOutBid auction.bid then none
      else if !(s.purses player).HasEnoughMoney price then none
      else some auction

/-- The bid of `HandleAuctionPlaceBid` that is no buyout. -/
def placeBid (player : ℕ) (auction : AuctionEntry) (price : UInt32) (characters : ℕ → Bool) :
    AuctionHouseMgr :=
  let s :=
    if auction.bidder > 0 then
      if auction.bidder = player then s.pay auction.Id player (price - auction.bid)
      else (s.SendAuctionOutbiddedMail auction characters).pay auction.Id player price
    else s.pay auction.Id player price
  s.setAuction { auction with bidder := player, bid := price }

/-- The buyout of `HandleAuctionPlaceBid`. -/
def buyOut (player : ℕ) (auction : AuctionEntry) (characters : ℕ → Bool) : AuctionHouseMgr :=
  let s :=
    if player = auction.bidder then s.pay auction.Id player (auction.buyout - auction.bid)
    else
      let s := s.pay auction.Id player auction.buyout
      if auction.bidder ≠ 0 then s.SendAuctionOutbiddedMail auction characters else s
  let auction := { auction with bidder := player, bid := auction.buyout }
  (SendAuctionSuccessfulMail rules s auction characters).RemoveAuction auction

/-- `HandleAuctionPlaceBid`. -/
def HandleAuctionPlaceBid (player : ℕ) (house : AuctionHouse) (auctionId : ℕ) (price : UInt32)
    (sameAccount : Bool) (characters : ℕ → Bool) : AuctionHouseMgr :=
  match checkBid rules s player house auctionId price sameAccount with
  | none => s
  | some auction =>
    if price < auction.buyout ∨ auction.buyout = 0 then s.placeBid player auction price characters
    else buyOut rules s player auction characters

/-! ## Ending -/

/-- `HandleAuctionRemoveItem`. -/
def HandleAuctionRemoveItem (player : ℕ) (house : AuctionHouse) (auctionId : ℕ)
    (characters : ℕ → Bool) : AuctionHouseMgr :=
  match s.GetAuction house auctionId with
  | none => s
  | some auction =>
    if auction.owner ≠ player then s
    else if auction.itemGUIDLow ∉ s.mAitems then s
    else if auction.bidder > 0 then
      let auctionCut := rules.GetAuctionCut auction.house auction.bid
      if !(s.purses player).HasEnoughMoney auctionCut then s
      else
        ((s.SendAuctionCancelledToBidderMail auction characters).modifyMoney player
          (-int32 auctionCut.toNat)).RemoveAuction auction
    else s.RemoveAuction auction

/-- One pass of the loop of `AuctionHouseObject::Update`. -/
def updateAuction (house : AuctionHouse) (curTime : ℕ) (characters : ℕ → Bool)
    (s : AuctionHouseMgr) (id : ℕ) : AuctionHouseMgr :=
  match s.GetAuction house id with
  | none => s
  | some auction =>
    if auction.expire_time > curTime + 60 then s
    else if auction.bidder = 0 ∧ auction.bid = 0 then s.RemoveAuction auction
    else (SendAuctionSuccessfulMail rules s auction characters).RemoveAuction auction

/-- `AuctionHouseObject::Update`. -/
def Update (house : AuctionHouse) (curTime : ℕ) (characters : ℕ → Bool) : AuctionHouseMgr :=
  s.auctions.keys.foldl (updateAuction rules house curTime characters) s

/-! ## Deposits -/

/-- The loop of `PendingAuctionProcess`: every auction but the last gets the same share of the deposit, and
the last one what remains. -/
def shareDeposit (share : UInt32) : List AuctionEntry → (depositremain : UInt32) → List AuctionEntry
  | [], _ => []
  | [AH], depositremain => [{ AH with deposit := depositremain }]
  | AH :: rest, depositremain =>
    { AH with deposit := share } :: shareDeposit share rest (depositremain - share)

/-- `SaveToDB` after `DeleteFromDB`, of an auction that has changed. -/
def saveAuction (AH : AuctionEntry) : AuctionHouseMgr :=
  { s.setAuction AH with rows := insert AH.Id s.rows }

/-- The deposit that `PendingAuctionProcess` takes. -/
def totalDeposit (entries : List AuctionEntry) : UInt32 :=
  match entries with
  | [] => 0
  | first :: _ =>
    if first.itemGUIDLow ∈ s.mAitems then
      rules.GetAuctionDeposit first.house first.etime first.itemEntry
        (entries.foldl (fun totalItems AH ↦ totalItems + AH.itemCount) 0)
    else 0

/-- The part of `PendingAuctionProcess` after the pending auctions have been found.  Their deposits count
as charged if the purse has less by all that they come to. -/
def takeDeposit (player : ℕ) (entries : List AuctionEntry) : AuctionHouseMgr :=
  let totaldeposit := totalDeposit rules s entries
  let entries := shareDeposit (UInt32.ofNat (totaldeposit.toNat / entries.length)) entries totaldeposit
  let saved := entries.foldl saveAuction s
  let after := { saved with
    pendingAuctionMap := s.pendingAuctionMap.erase player }.modifyMoney player
      (-int32 totaldeposit.toNat)
  if (entries.map fun AH ↦ AH.deposit.toNat).sum = (s.purses player).money - (after.purses player).money then
    { after with charged := entries.map (fun AH ↦ (player, AH.Id, AH.deposit)) ++ s.charged }
  else { after with unpaid := entries.map AuctionEntry.Id ++ s.unpaid }

/-- `PendingAuctionProcess`.  A list of pending auctions has at least one. -/
def PendingAuctionProcess (player : ℕ) : Option AuctionHouseMgr :=
  match s.pendingAuctionMap[player]? with
  | none => some s
  | some (thisAH, _) =>
    (s.deref thisAH).bind fun entries ↦
      if entries = [] then none else some (takeDeposit rules s player entries)

/-- The part of `UpdatePendingAuctions` for a player who is offline. -/
def expirePending (now player : ℕ) (thisAH : List ℕ) : Option AuctionHouseMgr := (s.deref thisAH).map fun entries ↦
    let s := entries.foldl (fun s AH ↦ s.saveAuction { AH with expire_time := now }) s
    { s with
      pendingAuctionMap := s.pendingAuctionMap.erase player
      unpaid := entries.map AuctionEntry.Id ++ s.unpaid }

/-- One pass of the loop of `UpdatePendingAuctions`. -/
def updatePending (connected : ℕ → Bool) (now : ℕ) (s : AuctionHouseMgr) (player : ℕ) :
    Option AuctionHouseMgr :=
  match s.pendingAuctionMap[player]? with
  | none => some s
  | some (thisAH, count) =>
    if connected player then
      if thisAH.length = count then PendingAuctionProcess rules s player
      else
        some { s with
          pendingAuctionMap := s.pendingAuctionMap.insert player (thisAH, thisAH.length) }
    else s.expirePending now player thisAH

/-- `UpdatePendingAuctions`. -/
def UpdatePendingAuctions (connected : ℕ → Bool) (now : ℕ) : Option AuctionHouseMgr :=
  s.pendingAuctionMap.keys.foldlM (updatePending rules connected now) s

end AuctionHouseMgr

/-! ## The machine -/

/-- The calls of the auction houses.  `characters` are the characters that exist and are no auction bots.
The last one stands for all that happens to the money of a player elsewhere. -/
inductive AuctionCall where
  | HandleAuctionSellItem (player : ℕ) (house : AuctionHouse) (item : SellItem)
    (bid buyout etime : UInt32) (now auctionTime : ℕ)
  | HandleAuctionPlaceBid (player : ℕ) (house : AuctionHouse) (auctionId : ℕ) (price : UInt32)
    (sameAccount : Bool) (characters : ℕ → Bool)
  | HandleAuctionRemoveItem (player : ℕ) (house : AuctionHouse) (auctionId : ℕ)
    (characters : ℕ → Bool)
  | Update (house : AuctionHouse) (curTime : ℕ) (characters : ℕ → Bool)
  | UpdatePendingAuctions (connected : ℕ → Bool) (now : ℕ)
  | ModifyMoney (player : ℕ) (amount : ℤ)

/-- The auction houses, without auctions at the start.  A player's guid is not 0. -/
def auctionMachine (rules : AuctionRules) (purses : ℕ → Purse) :
    Machine AuctionHouseMgr AuctionCall where
  start := ⟨∅, ∅, ∅, 1, purses, ∅, [], [], [], []⟩
  next s
    | .HandleAuctionSellItem player house item bid buyout etime now auctionTime =>
      if player = 0 then none
      else s.HandleAuctionSellItem rules player house item bid buyout etime now auctionTime
    | .HandleAuctionPlaceBid player house auctionId price sameAccount characters =>
      if player = 0 then none
      else some (s.HandleAuctionPlaceBid rules player house auctionId price sameAccount characters)
    | .HandleAuctionRemoveItem player house auctionId characters =>
      some (s.HandleAuctionRemoveItem rules player house auctionId characters)
    | .Update house curTime characters => some (s.Update rules house curTime characters)
    | .UpdatePendingAuctions connected now => s.UpdatePendingAuctions rules connected now
    | .ModifyMoney player amount => some (s.modifyMoney player amount)

end Gundrak.Auctions
