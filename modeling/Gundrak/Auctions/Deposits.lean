import Gundrak.Auctions.Escrow

/-!
# Deposits and pending auctions

`DepositsSound` says that the auctions that are pending are auctions there are, that a deposit which an owner
is mailed back has been taken from him, and that what the database has are auctions there are.

The deposit is taken after the auction has been put up, and by then the auction may be gone.  `RemoveAuction`
deletes it without looking at the pending ones, so that the list of pending auctions keeps a pointer to
nothing; and a buyer is enough for the deposit to be mailed to the owner who has not paid it.  The owner may
also have spent his money, or have gone offline; then less than the deposit is taken, or nothing.

**`depositsSound_of_reaches`** is about the runs in which an auction ends after its turn (`KeepsDeposits`),
and is not sold to the profit of an owner whose deposit was not taken in full.
-/

open Std (ExtTreeMap)

namespace Gundrak.Auctions

/-! ## What is claimed -/

/-- Pending auctions, mailed deposits and the database are in order. -/
structure DepositsSound (s : AuctionHouseMgr) : Prop where
  pending : ∀ (player : ℕ) (ids : List ℕ) (count : ℕ),
    s.pendingAuctionMap[player]? = some (ids, count) → ∀ id ∈ ids, id ∈ s.auctions
  charged : ∀ mail ∈ s.successfulMails, mail.deposit = 0 ∨ (mail.owner, mail.auction, mail.deposit) ∈ s.charged
  rows : ∀ id ∈ s.rows, id ∈ s.auctions

/-- Whether an auction is pending. -/
def AuctionHouseMgr.isPending (s : AuctionHouseMgr) (id : ℕ) : Bool :=
  s.pendingAuctionMap.toList.any fun p ↦ p.2.1.contains id

/-- An auction can be sold: its turn has been, and the owner, if he is mailed, has paid his deposit. -/
def MaySell (s : AuctionHouseMgr) (characters : ℕ → Bool) (auction : AuctionEntry) : Prop :=
  s.isPending auction.Id = false ∧ (characters auction.owner → auction.deposit = 0 ∨ auction.Id ∉ s.unpaid)

/-- The calls that end no auction before its turn, and sell none whose owner has not paid his deposit. -/
def KeepsDeposits (rules : AuctionRules) (s : AuctionHouseMgr) : AuctionCall → Prop
  | .HandleAuctionPlaceBid player house auctionId price sameAccount characters =>
    ∀ auction ∈ AuctionHouseMgr.checkBid rules s player house auctionId price sameAccount,
      ¬ (price < auction.buyout ∨ auction.buyout = 0) → MaySell s characters auction
  | .HandleAuctionRemoveItem player house auctionId _ =>
    ∀ auction ∈ s.GetAuction house auctionId, auction.owner = player → auction.itemGUIDLow ∈ s.mAitems →
      (0 < auction.bidder → (s.purses player).HasEnoughMoney (rules.GetAuctionCut auction.house auction.bid)) →
      s.isPending auction.Id = false
  | .Update house curTime characters =>
    ∀ (id : ℕ) (auction : AuctionEntry), s.auctions[id]? = some auction → auction.house = house →
      auction.expire_time ≤ curTime + 60 →
      s.isPending auction.Id = false ∧ (¬ (auction.bidder = 0 ∧ auction.bid = 0) → MaySell s characters auction)
  | _ => True

/-! ## What keeps the deposits -/

variable {rules : AuctionRules} {s s' : AuctionHouseMgr} {a a' : AuctionEntry}

theorem isPending_eq_false_iff {id : ℕ} : s.isPending id = false ↔
    ∀ (player : ℕ) (pending : List ℕ × ℕ), s.pendingAuctionMap[player]? = some pending → id ∉ pending.1 := by
  simp [AuctionHouseMgr.isPending]

theorem isPending_of_mem {player : ℕ} {pending : List ℕ × ℕ} {id : ℕ}
    (h : s.pendingAuctionMap[player]? = some pending) (hid : id ∈ pending.1) :
    s.isPending id = true := by
  by_contra hnot
  exact isPending_eq_false_iff.mp (Bool.eq_false_iff.mpr hnot) player pending h hid

/-- `DepositsSound`, and what is known of the deposit of every auction: it is nothing, its turn is still to
come, it was not taken in full, or it was. -/
structure DepositInv (s : AuctionHouseMgr) : Prop where
  keys : Keyed s
  pending : ∀ (player : ℕ) (pending : List ℕ × ℕ), s.pendingAuctionMap[player]? = some pending →
    ∀ id ∈ pending.1, ∃ auction, s.auctions[id]? = some auction ∧ auction.owner = player
  deposit : ∀ (id : ℕ) (auction : AuctionEntry), s.auctions[id]? = some auction →
    auction.deposit = 0 ∨ s.isPending id = true ∨ id ∈ s.unpaid ∨ (auction.owner, id, auction.deposit) ∈ s.charged
  charged : ∀ mail ∈ s.successfulMails, mail.deposit = 0 ∨ (mail.owner, mail.auction, mail.deposit) ∈ s.charged
  rows : ∀ id ∈ s.rows, ∃ auction, s.auctions[id]? = some auction

section

variable (h : DepositInv s)
include h

theorem DepositInv.depositsSound : DepositsSound s := by
  have hmem {id : ℕ} (hget : ∃ auction, s.auctions[id]? = some auction) : id ∈ s.auctions :=
    (TreeMap.mem_iff s.auctions id).mpr hget
  refine ⟨fun player ids count hpending id hid ↦ hmem ?_, h.charged, fun id hid ↦ hmem (h.rows id hid)⟩
  obtain ⟨auction, hget, -⟩ := h.pending player (ids, count) hpending id hid
  exact ⟨auction, hget⟩

theorem DepositInv.congr (hauctions : s'.auctions = s.auctions)
    (hid : s.auctionId ≤ s'.auctionId) (hpending : s'.pendingAuctionMap = s.pendingAuctionMap)
    (hrows : s'.rows = s.rows) (hmails : s'.successfulMails = s.successfulMails)
    (hcharged : s'.charged = s.charged) (hunpaid : s'.unpaid = s.unpaid) : DepositInv s' := by
  have hisPending (id : ℕ) : s'.isPending id = s.isPending id := by
    simp [AuctionHouseMgr.isPending, hpending]
  refine ⟨fun id auction hget ↦ ?_, fun player pending hget id hmem ↦ ?_,
    fun id auction hget ↦ ?_, fun mail hmail ↦ ?_, fun id hmem ↦ ?_⟩
  · rw [hauctions] at hget
    exact ⟨(h.keys id auction hget).1, (h.keys id auction hget).2.trans_le hid⟩
  · rw [hpending] at hget
    rw [hauctions]
    exact h.pending player pending hget id hmem
  · rw [hauctions] at hget
    rw [hisPending, hunpaid, hcharged]
    exact h.deposit id auction hget
  · rw [hmails] at hmail
    rw [hcharged]
    exact h.charged mail hmail
  · rw [hrows] at hmem
    rw [hauctions]
    exact h.rows id hmem

theorem DepositInv.set (ha : s.auctions[a.Id]? = some a) (hId : a'.Id = a.Id)
    (howner : a'.owner = a.owner) (hdeposit : a'.deposit = a.deposit) :
    DepositInv (s.setAuction a') := by
  have hget (x : ℕ) : (s.setAuction a').auctions[x]? =
      if a.Id = x then some a' else s.auctions[x]? := by
    rw [AuctionHouseMgr.setAuction, TreeMap.get_insert, hId]
  have hstays {x : ℕ} {auction : AuctionEntry} (hx : s.auctions[x]? = some auction) :
      ∃ auction', (s.setAuction a').auctions[x]? = some auction' ∧ auction'.owner = auction.owner := by
    rw [hget]
    split_ifs with hax
    · rw [← hax, ha] at hx
      exact ⟨a', rfl, Option.some_inj.mp hx ▸ howner⟩
    · exact ⟨auction, hx, rfl⟩
  refine ⟨fun x auction hx ↦ ?_, fun player pending hpending x hmem ↦ ?_,
    fun x auction hx ↦ ?_, h.charged, fun x hmem ↦ ?_⟩
  · rw [hget] at hx
    split_ifs at hx with hax
    · obtain rfl := Option.some_inj.mp hx
      exact ⟨hId.trans hax, hax ▸ (h.keys a.Id a ha).2⟩
    · exact h.keys x auction hx
  · obtain ⟨auction, hx, hplayer⟩ := h.pending player pending hpending x hmem
    obtain ⟨auction', hx', howner'⟩ := hstays hx
    exact ⟨auction', hx', howner'.trans hplayer⟩
  · rw [hget] at hx
    split_ifs at hx with hax
    · obtain rfl := Option.some_inj.mp hx
      have hold := h.deposit a.Id a ha
      rwa [← howner, ← hdeposit, hax] at hold
    · exact h.deposit x auction hx
  · obtain ⟨auction, hx⟩ := h.rows x hmem
    obtain ⟨auction', hx', -⟩ := hstays hx
    exact ⟨auction', hx'⟩

theorem DepositInv.remove (hpending : s.isPending a.Id = false) : DepositInv (s.RemoveAuction a) := by
  have hget (x : ℕ) : (s.RemoveAuction a).auctions[x]? =
      if a.Id = x then none else s.auctions[x]? := by
    rw [AuctionHouseMgr.RemoveAuction, TreeMap.get_erase]
  refine ⟨fun x auction hx ↦ ?_, fun player pending hp x hmem ↦ ?_, fun x auction hx ↦ ?_, h.charged, fun x hmem ↦ ?_⟩
  · rw [hget, Option.ite_none_left_eq_some] at hx
    exact h.keys x auction hx.2
  · obtain ⟨auction, hx, howner⟩ := h.pending player pending hp x hmem
    have hne : a.Id ≠ x := by
      rintro rfl
      exact isPending_eq_false_iff.mp hpending player pending hp hmem
    exact ⟨auction, by rw [hget, if_neg hne, hx], howner⟩
  · rw [hget, Option.ite_none_left_eq_some] at hx
    exact h.deposit x auction hx.2
  · obtain ⟨hne, hmem⟩ := Finset.mem_erase.mp hmem
    obtain ⟨auction, hx⟩ := h.rows x hmem
    exact ⟨auction, by rw [hget, if_neg (Ne.symm hne), hx]⟩

theorem DepositInv.sell (ha : s.auctions[a.Id]? = some a')
    (howner : a'.owner = a.owner) (hdeposit : a'.deposit = a.deposit) {characters : ℕ → Bool}
    (hsell : MaySell s characters a) :
    DepositInv ((AuctionHouseMgr.SendAuctionSuccessfulMail rules s a characters).RemoveAuction a) := by
  have hmailed : DepositInv (AuctionHouseMgr.SendAuctionSuccessfulMail rules s a characters) := by
    dsimp only [AuctionHouseMgr.SendAuctionSuccessfulMail]
    split_ifs with hexists
    · refine ⟨h.keys, h.pending, h.deposit, fun mail hmail ↦ ?_, h.rows⟩
      rcases List.mem_cons.mp hmail with rfl | hmail
      · have hpaid := h.deposit a.Id a' ha
        rw [howner, hdeposit] at hpaid
        rcases hpaid with hzero | hpending | hunpaid | hcharged
        · exact .inl hzero
        · exact absurd hpending (Bool.eq_false_iff.mp hsell.1)
        · exact .inl ((hsell.2 hexists).resolve_right (not_not.mpr hunpaid))
        · exact .inr hcharged
      · exact h.charged mail hmail
    · exact h.congr rfl le_rfl rfl rfl rfl rfl rfl
  refine hmailed.remove ?_
  dsimp only [AuctionHouseMgr.SendAuctionSuccessfulMail]
  split_ifs <;> exact hsell.1

end

/-! ## Bids and ends -/

/-- Two states that differ in money and what the bidders are mailed. -/
def SameAuctions (s s' : AuctionHouseMgr) : Prop := s'.auctions = s.auctions ∧ s'.auctionId = s.auctionId ∧
    s'.pendingAuctionMap = s.pendingAuctionMap ∧ s'.rows = s.rows ∧
    s'.successfulMails = s.successfulMails ∧ s'.charged = s.charged ∧ s'.unpaid = s.unpaid

theorem SameAuctions.depositInv (h : SameAuctions s s') (hs : DepositInv s) : DepositInv s' := by
  obtain ⟨hauctions, hid, hpending, hrows, hmails, hcharged, hunpaid⟩ := h
  exact hs.congr hauctions hid.ge hpending hrows hmails hcharged hunpaid

theorem sameAuctions_pay (s : AuctionHouseMgr) (id player : ℕ) (amount : UInt32) :
    SameAuctions s (s.pay id player amount) :=
  ⟨rfl, rfl, rfl, rfl, rfl, rfl, rfl⟩

theorem sameAuctions_mailBack (s : AuctionHouseMgr) (kind : MovementKind) (a : AuctionEntry)
    (characters : ℕ → Bool) : SameAuctions s (s.mailBack kind a characters) := by
  rw [AuctionHouseMgr.mailBack]
  split_ifs <;> exact ⟨rfl, rfl, rfl, rfl, rfl, rfl, rfl⟩

theorem SameAuctions.trans {s'' : AuctionHouseMgr} (h : SameAuctions s s')
    (h' : SameAuctions s' s'') : SameAuctions s s'' := by
  obtain ⟨h1, h2, h3, h4, h5, h6, h7⟩ := h
  obtain ⟨h1', h2', h3', h4', h5', h6', h7'⟩ := h'
  exact ⟨h1'.trans h1, h2'.trans h2, h3'.trans h3, h4'.trans h4, h5'.trans h5, h6'.trans h6, h7'.trans h7⟩

theorem SameAuctions.isPending (h : SameAuctions s s') (id : ℕ) : s'.isPending id = s.isPending id := by
  simp [AuctionHouseMgr.isPending, h.2.2.1]

section bidding

variable {player : ℕ} {characters : ℕ → Bool}

theorem DepositInv.placeBid (h : DepositInv s) (ha : s.auctions[a.Id]? = some a)
    (price : UInt32) : DepositInv (s.placeBid player a price characters) := by
  have hsame : SameAuctions s (if a.bidder > 0 then
      if a.bidder = player then s.pay a.Id player (price - a.bid)
      else (s.SendAuctionOutbiddedMail a characters).pay a.Id player price
      else s.pay a.Id player price) := by
    split_ifs
    · exact sameAuctions_pay s a.Id player _
    · exact (sameAuctions_mailBack s .outbid a characters).trans (sameAuctions_pay _ a.Id player _)
    · exact sameAuctions_pay s a.Id player _
  refine (hsame.depositInv h).set (a := a) ?_ rfl rfl rfl
  rw [hsame.1]
  exact ha

theorem DepositInv.buyOut (h : DepositInv s) (ha : s.auctions[a.Id]? = some a) (hsell : MaySell s characters a) :
    DepositInv (AuctionHouseMgr.buyOut rules s player a characters) := by
  have hsame : SameAuctions s (if player = a.bidder then s.pay a.Id player (a.buyout - a.bid)
      else if a.bidder ≠ 0 then
        (s.pay a.Id player a.buyout).SendAuctionOutbiddedMail a characters
      else s.pay a.Id player a.buyout) := by
    split_ifs
    · exact sameAuctions_pay s a.Id player _
    · exact (sameAuctions_pay s a.Id player _).trans (sameAuctions_mailBack _ .outbid a characters)
    · exact sameAuctions_pay s a.Id player _
  dsimp only [AuctionHouseMgr.buyOut]
  generalize (if player = a.bidder then s.pay a.Id player (a.buyout - a.bid)
    else if a.bidder ≠ 0 then (s.pay a.Id player a.buyout).SendAuctionOutbiddedMail a characters
    else s.pay a.Id player a.buyout) = paid at hsame
  have hget : paid.auctions[a.Id]? = some a := by rwa [hsame.1]
  refine (hsame.depositInv h).sell (a := { a with bidder := player, bid := a.buyout }) hget rfl rfl
    ⟨(hsame.isPending a.Id).trans hsell.1, fun howner ↦ ?_⟩
  rw [hsame.2.2.2.2.2.2]
  exact hsell.2 howner

theorem DepositInv.handleAuctionPlaceBid (h : DepositInv s) {house : AuctionHouse} {auctionId : ℕ}
    {price : UInt32} {sameAccount : Bool}
    (hkeeps : ∀ auction ∈ AuctionHouseMgr.checkBid rules s player house auctionId price sameAccount,
      ¬ (price < auction.buyout ∨ auction.buyout = 0) → MaySell s characters auction) :
    DepositInv (s.HandleAuctionPlaceBid rules player house auctionId price sameAccount characters) := by
  rw [AuctionHouseMgr.HandleAuctionPlaceBid]
  cases hcheck : AuctionHouseMgr.checkBid rules s player house auctionId price sameAccount with
  | none => exact h
  | some auction =>
    have ha := getAuction_eq_some h.keys (checkBid_eq_some hcheck).1
    dsimp only
    split_ifs with hbuyout
    · exact h.placeBid ha price
    · exact h.buyOut ha (hkeeps auction hcheck hbuyout)

end bidding

section ending

variable {house : AuctionHouse} {characters : ℕ → Bool}

theorem DepositInv.handleAuctionRemoveItem (h : DepositInv s) {player auctionId : ℕ}
    (hkeeps : ∀ auction ∈ s.GetAuction house auctionId, auction.owner = player → auction.itemGUIDLow ∈ s.mAitems →
      (0 < auction.bidder → (s.purses player).HasEnoughMoney (rules.GetAuctionCut auction.house auction.bid)) →
      s.isPending auction.Id = false) :
    DepositInv (s.HandleAuctionRemoveItem rules player house auctionId characters) := by
  rw [AuctionHouseMgr.HandleAuctionRemoveItem]
  cases hget : s.GetAuction house auctionId with
  | none => exact h
  | some auction =>
    have hends := hkeeps auction hget
    dsimp only
    by_cases howner : auction.owner ≠ player
    · rwa [if_pos howner]
    by_cases hitem : auction.itemGUIDLow ∉ s.mAitems
    · rwa [if_neg howner, if_pos hitem]
    rw [if_neg howner, if_neg hitem]
    have hends := hends (not_not.mp howner) (not_not.mp hitem)
    split_ifs with hbidder hmoney
    · exact h
    · have hsame := sameAuctions_mailBack s .cancelled auction characters
      have hpending := hends fun _ ↦ by simpa using hmoney
      have hcut : DepositInv ((s.SendAuctionCancelledToBidderMail auction characters).modifyMoney
          player (-int32 (rules.GetAuctionCut auction.house auction.bid).toNat)) :=
        (hsame.depositInv h).congr rfl le_rfl rfl rfl rfl rfl rfl
      exact hcut.remove ((hsame.isPending auction.Id).trans hpending)
    · exact h.remove (hends fun hpos ↦ absurd hpos hbidder)

/-- What is left of the auctions in the middle of `Update`. -/
structure Left (s s' : AuctionHouseMgr) : Prop where
  auctions : ∀ (id : ℕ) (auction : AuctionEntry), s'.auctions[id]? = some auction → s.auctions[id]? = some auction
  isPending : ∀ id, s'.isPending id = s.isPending id
  unpaid : s'.unpaid = s.unpaid

theorem left_remove (s : AuctionHouseMgr) (a : AuctionEntry) : Left s (s.RemoveAuction a) := by
  refine ⟨fun id auction hget ↦ ?_, fun _ ↦ rfl, rfl⟩
  rw [AuctionHouseMgr.RemoveAuction, TreeMap.get_erase, Option.ite_none_left_eq_some] at hget
  exact hget.2

theorem left_sell (rules : AuctionRules) (s : AuctionHouseMgr) (a : AuctionEntry) (characters : ℕ → Bool) :
    Left s ((AuctionHouseMgr.SendAuctionSuccessfulMail rules s a characters).RemoveAuction a) := by
  have hmail : Left s (AuctionHouseMgr.SendAuctionSuccessfulMail rules s a characters) := by
    dsimp only [AuctionHouseMgr.SendAuctionSuccessfulMail]
    split_ifs <;> exact ⟨fun _ _ h ↦ h, fun _ ↦ rfl, rfl⟩
  have hremove := left_remove (AuctionHouseMgr.SendAuctionSuccessfulMail rules s a characters) a
  exact ⟨fun id auction hget ↦ hmail.auctions id auction (hremove.auctions id auction hget),
    fun id ↦ (hremove.isPending id).trans (hmail.isPending id), hremove.unpaid.trans hmail.unpaid⟩

theorem DepositInv.updateAuction (h : DepositInv s) (id : ℕ) {curTime : ℕ}
    (hkeeps : KeepsDeposits rules s (.Update house curTime characters)) :
    DepositInv (AuctionHouseMgr.updateAuction rules house curTime characters s id) ∧
      Left s (AuctionHouseMgr.updateAuction rules house curTime characters s id) := by
  have hstays : Left s s := ⟨fun _ _ h ↦ h, fun _ ↦ rfl, rfl⟩
  rw [AuctionHouseMgr.updateAuction]
  cases hget : s.GetAuction house id with
  | none => exact ⟨h, hstays⟩
  | some auction =>
    have ha := getAuction_eq_some h.keys hget
    have hhouse : auction.house = house := of_decide_eq_true (Option.filter_eq_some_iff.mp hget).2
    dsimp only
    split_ifs with htime hexpired
    · exact ⟨h, hstays⟩
    · have hends := hkeeps auction.Id auction ha hhouse (Nat.not_lt.mp htime)
      exact ⟨h.remove hends.1, left_remove s auction⟩
    · have hends := hkeeps auction.Id auction ha hhouse (Nat.not_lt.mp htime)
      exact ⟨h.sell ha rfl rfl (hends.2 hexpired), left_sell rules s auction characters⟩

theorem DepositInv.update (h : DepositInv s) {curTime : ℕ}
    (hkeeps : KeepsDeposits rules s (.Update house curTime characters)) :
    DepositInv (s.Update rules house curTime characters) := by
  rw [AuctionHouseMgr.Update]
  generalize s.auctions.keys = ids
  induction ids generalizing s with
  | nil => exact h
  | cons id ids ih =>
    obtain ⟨hafter, hleft⟩ := h.updateAuction id hkeeps
    refine ih hafter fun x auction hx hhouse htime ↦ ?_
    have hends := hkeeps x auction (hleft.auctions x auction hx) hhouse htime
    rw [MaySell, hleft.isPending, hleft.unpaid]
    exact hends

end ending

/-! ## Turns -/

theorem map_Id_of_deref (h : Keyed s) {ids : List ℕ} {entries : List AuctionEntry}
    (hderef : s.deref ids = some entries) : entries.map AuctionEntry.Id = ids := by
  induction ids generalizing entries with
  | nil =>
    obtain rfl : [] = entries := Option.some_inj.mp hderef
    rfl
  | cons id ids ih =>
    rw [AuctionHouseMgr.deref, List.mapM_cons] at hderef
    obtain ⟨first, hfirst, hderef⟩ := Option.bind_eq_some_iff.mp hderef
    obtain ⟨rest, hrest, hentries⟩ := Option.bind_eq_some_iff.mp hderef
    obtain rfl := Option.some_inj.mp hentries
    simp [ih hrest, (h id first hfirst).1]

/-- The shares of a deposit go to the auctions in their order. -/
theorem map_shareDeposit {β : Type} {f : AuctionEntry → β}
    (hf : ∀ (AH : AuctionEntry) (deposit : UInt32), f { AH with deposit := deposit } = f AH)
    (share depositremain : UInt32) (entries : List AuctionEntry) :
    (AuctionHouseMgr.shareDeposit share entries depositremain).map f = entries.map f := by
  induction entries generalizing depositremain with
  | nil => rfl
  | cons a entries ih =>
    cases entries with
    | nil => rw [AuctionHouseMgr.shareDeposit, List.map_singleton, List.map_singleton, hf]
    | cons b entries =>
      rw [AuctionHouseMgr.shareDeposit, List.map_cons, List.map_cons, hf, ih]
      exact fun h ↦ absurd h (by simp)

/-- What saving auctions leaves: an auction is one of those that were saved, or as it was. -/
theorem get_saveAuctions (entries : List AuctionEntry) (s : AuctionHouseMgr) (x : ℕ) :
    (∃ a ∈ entries, a.Id = x ∧ (entries.foldl AuctionHouseMgr.saveAuction s).auctions[x]? = some a) ∨
      x ∉ entries.map AuctionEntry.Id ∧
        (entries.foldl AuctionHouseMgr.saveAuction s).auctions[x]? = s.auctions[x]? := by
  induction entries generalizing s with
  | nil => exact .inr ⟨List.not_mem_nil, rfl⟩
  | cons a entries ih =>
    rcases ih (s.saveAuction a) with ⟨b, hb, hId, hget⟩ | ⟨hnot, hget⟩
    · exact .inl ⟨b, List.mem_cons_of_mem _ hb, hId, hget⟩
    · have hsaved : (s.saveAuction a).auctions[x]? =
          if a.Id = x then some a else s.auctions[x]? := TreeMap.get_insert _ _ _ _
      rw [hsaved] at hget
      by_cases hax : a.Id = x
      · rw [if_pos hax] at hget
        exact .inl ⟨a, List.mem_cons_self, hax, hget⟩
      · rw [if_neg hax] at hget
        refine .inr ⟨?_, hget⟩
        rw [List.map_cons, List.mem_cons, not_or]
        exact ⟨Ne.symm hax, hnot⟩

theorem saveAuctions_rest (entries : List AuctionEntry) (s : AuctionHouseMgr) :
    (entries.foldl AuctionHouseMgr.saveAuction s).pendingAuctionMap = s.pendingAuctionMap ∧
      (entries.foldl AuctionHouseMgr.saveAuction s).auctionId = s.auctionId ∧
      (entries.foldl AuctionHouseMgr.saveAuction s).successfulMails = s.successfulMails ∧
      (entries.foldl AuctionHouseMgr.saveAuction s).charged = s.charged ∧
      (entries.foldl AuctionHouseMgr.saveAuction s).unpaid = s.unpaid ∧
      ∀ x ∈ (entries.foldl AuctionHouseMgr.saveAuction s).rows, x ∈ s.rows ∨ x ∈ entries.map AuctionEntry.Id := by
  induction entries generalizing s with
  | nil => exact ⟨rfl, rfl, rfl, rfl, rfl, fun _ h ↦ .inl h⟩
  | cons a entries ih =>
    obtain ⟨h1, h2, h3, h4, h5, h6⟩ := ih (s.saveAuction a)
    refine ⟨h1, h2, h3, h4, h5, fun x hx ↦ ?_⟩
    rw [List.map_cons]
    rcases h6 x hx with hx | hx
    · rcases Finset.mem_insert.mp hx with rfl | hx
      · exact .inr List.mem_cons_self
      · exact .inl hx
    · exact .inr (List.mem_cons_of_mem _ hx)

/-- The turn of a player: his pending auctions are saved, and then they count as charged or as unpaid. -/
theorem DepositInv.turn (h : DepositInv s) {player : ℕ} {pending : List ℕ × ℕ}
    {entries : List AuctionEntry} (hpending : s.pendingAuctionMap[player]? = some pending)
    (hids : entries.map AuctionEntry.Id = pending.1)
    (howner : ∀ a ∈ entries, a.owner = player)
    (hauctions : s'.auctions = (entries.foldl AuctionHouseMgr.saveAuction s).auctions)
    (hrows : s'.rows = (entries.foldl AuctionHouseMgr.saveAuction s).rows)
    (hid : s'.auctionId = s.auctionId)
    (hmap : s'.pendingAuctionMap = s.pendingAuctionMap.erase player)
    (hmails : s'.successfulMails = s.successfulMails)
    (hcharged : ∀ c ∈ s.charged, c ∈ s'.charged) (hunpaid : ∀ x ∈ s.unpaid, x ∈ s'.unpaid)
    (hentries : ∀ a ∈ entries, a.Id ∈ s'.unpaid ∨ (player, a.Id, a.deposit) ∈ s'.charged) :
    DepositInv s' := by
  have hget := fun x ↦ hauctions ▸ get_saveAuctions entries s x
  have hlive : ∀ a ∈ entries, ∃ auction, s.auctions[a.Id]? = some auction ∧ auction.owner = player := fun a ha ↦
    h.pending player pending hpending a.Id (hids ▸ List.mem_map_of_mem ha)
  have hstays {x : ℕ} {auction : AuctionEntry} (hx : s.auctions[x]? = some auction) :
      ∃ auction', s'.auctions[x]? = some auction' ∧ auction'.owner = auction.owner := by
    rcases hget x with ⟨a, ha, rfl, hx'⟩ | ⟨-, hx'⟩
    · obtain ⟨auction', hx'', howner'⟩ := hlive a ha
      rw [hx, Option.some_inj] at hx''
      exact ⟨a, hx', by rw [howner a ha, hx'', howner']⟩
    · exact ⟨auction, hx'.trans hx, rfl⟩
  refine ⟨fun x auction hx ↦ ?_, fun other pending' hother x hmem ↦ ?_, fun x auction hx ↦ ?_,
    fun mail hmail ↦ ?_, fun x hx ↦ ?_⟩
  · rw [hid]
    rcases hget x with ⟨a, ha, rfl, hx'⟩ | ⟨-, hx'⟩
    · obtain ⟨auction', hx'', -⟩ := hlive a ha
      rw [hx, Option.some_inj] at hx'
      exact ⟨hx' ▸ rfl, (h.keys a.Id auction' hx'').2⟩
    · exact h.keys x auction (hx'.symm.trans hx)
  · rw [hmap, TreeMap.get_erase, Option.ite_none_left_eq_some] at hother
    obtain ⟨auction, hx, hplayer⟩ := h.pending other pending' hother.2 x hmem
    obtain ⟨auction', hx', howner'⟩ := hstays hx
    exact ⟨auction', hx', howner'.trans hplayer⟩
  · rcases hget x with ⟨a, ha, rfl, hx'⟩ | ⟨hnot, hx'⟩
    · rw [hx, Option.some_inj] at hx'
      subst hx'
      rw [howner auction ha]
      exact .inr (.inr (hentries auction ha))
    · rcases h.deposit x auction (hx'.symm.trans hx) with hzero | hp | hu | hc
      · exact .inl hzero
      · refine .inr (.inl ?_)
        by_contra hfalse
        have hfalse : s'.isPending x = false := Bool.eq_false_iff.mpr hfalse
        refine absurd hp (Bool.eq_false_iff.mp (isPending_eq_false_iff.mpr fun other p hother ↦ ?_))
        by_cases hplayer : player = other
        · subst hplayer
          rw [hpending] at hother
          rwa [← Option.some_inj.mp hother, ← hids]
        · refine isPending_eq_false_iff.mp hfalse other p ?_
          rw [hmap, TreeMap.get_erase, if_neg hplayer, hother]
      · exact .inr (.inr (.inl (hunpaid x hu)))
      · exact .inr (.inr (.inr (hcharged _ hc)))
  · rw [hmails] at hmail
    exact (h.charged mail hmail).imp_right (hcharged _)
  · rw [hrows] at hx
    rcases (saveAuctions_rest entries s).2.2.2.2.2 x hx with hx | hx
    · obtain ⟨auction, hx⟩ := h.rows x hx
      obtain ⟨auction', hx', -⟩ := hstays hx
      exact ⟨auction', hx'⟩
    · obtain ⟨a, ha, rfl⟩ := List.mem_map.mp hx
      obtain ⟨auction, hx, -⟩ := hlive a ha
      obtain ⟨auction', hx', -⟩ := hstays hx
      exact ⟨auction', hx'⟩

section turns

variable {player : ℕ} {pending : List ℕ × ℕ} {entries : List AuctionEntry}

section

variable (h : DepositInv s) (hpending : s.pendingAuctionMap[player]? = some pending)
  (hderef : s.deref pending.1 = some entries)
include h hpending hderef

theorem owner_of_pending : ∀ a ∈ entries, a.owner = player := by
  intro a ha
  have hmem : a.Id ∈ pending.1 := map_Id_of_deref h.keys hderef ▸ List.mem_map_of_mem ha
  obtain ⟨auction, hget, howner⟩ := h.pending player pending hpending a.Id hmem
  rw [get_of_deref h.keys hderef a ha, Option.some_inj] at hget
  rwa [hget]

theorem DepositInv.takeDeposit : DepositInv (AuctionHouseMgr.takeDeposit rules s player entries) := by
  have hids := map_Id_of_deref h.keys hderef
  have howners := owner_of_pending h hpending hderef
  dsimp only [AuctionHouseMgr.takeDeposit]
  generalize UInt32.ofNat ((AuctionHouseMgr.totalDeposit rules s entries).toNat / entries.length) = share
  generalize AuctionHouseMgr.totalDeposit rules s entries = totaldeposit
  have hids' : (AuctionHouseMgr.shareDeposit share entries totaldeposit).map
      AuctionEntry.Id = pending.1 := by
    rw [map_shareDeposit fun _ _ ↦ rfl, hids]
  have howners' : ∀ a ∈ AuctionHouseMgr.shareDeposit share entries totaldeposit, a.owner = player := by
    intro a ha
    have hmem : a.owner ∈ (AuctionHouseMgr.shareDeposit share entries totaldeposit).map
      AuctionEntry.owner := List.mem_map_of_mem ha
    rw [map_shareDeposit fun _ _ ↦ rfl] at hmem
    obtain ⟨b, hb, heq⟩ := List.mem_map.mp hmem
    rw [← heq, howners b hb]
  generalize AuctionHouseMgr.shareDeposit share entries totaldeposit = shared at hids' howners' ⊢
  obtain ⟨-, hid, hmails, hcharged, hunpaid, -⟩ := saveAuctions_rest shared s
  split_ifs
  · refine h.turn hpending hids' howners' rfl rfl hid rfl hmails
      (fun c hc ↦ List.mem_append_right _ hc) (fun x hx ↦ ?_) fun a ha ↦ .inr ?_
    · exact (congrArg (x ∈ ·) hunpaid).mpr hx
    · exact List.mem_append_left _ (List.mem_map.mpr ⟨a, ha, rfl⟩)
  · refine h.turn hpending hids' howners' rfl rfl hid rfl hmails (fun c hc ↦ ?_)
      (fun x hx ↦ List.mem_append_right _ hx) fun a ha ↦ .inl ?_
    · exact (congrArg (c ∈ ·) hcharged).mpr hc
    · exact List.mem_append_left _ (List.mem_map_of_mem ha)

end

theorem DepositInv.expirePending (h : DepositInv s) {now : ℕ} (hpending : s.pendingAuctionMap[player]? = some pending)
    (hnext : s.expirePending now player pending.1 = some s') : DepositInv s' := by
  obtain ⟨entries, hderef, rfl⟩ := Option.map_eq_some_iff.mp hnext
  have hids := map_Id_of_deref h.keys hderef
  have hfold : entries.foldl (fun s AH ↦ s.saveAuction { AH with expire_time := now }) s =
      (entries.map fun AH : AuctionEntry ↦ { AH with expire_time := now }).foldl
        AuctionHouseMgr.saveAuction s := List.foldl_map.symm
  have hids' : (entries.map fun AH : AuctionEntry ↦ { AH with expire_time := now }).map
      AuctionEntry.Id = pending.1 := by
    simp [← hids]
  have howners' : ∀ a ∈ entries.map fun AH : AuctionEntry ↦ { AH with expire_time := now }, a.owner = player := by
    intro a ha
    obtain ⟨b, hb, rfl⟩ := List.mem_map.mp ha
    exact owner_of_pending h hpending hderef b hb
  rw [hfold, hids, ← hids']
  generalize (entries.map fun AH ↦ { AH with expire_time := now }) = expired at hids' howners' ⊢
  obtain ⟨hmap, hid, hmails, hcharged, hunpaid, -⟩ := saveAuctions_rest expired s
  refine h.turn hpending hids' howners' rfl rfl hid ?_ hmails (fun c hc ↦ ?_)
    (fun x hx ↦ List.mem_append_right _ ?_) fun a ha ↦ .inl ?_
  · exact congrArg (fun pendings ↦ ExtTreeMap.erase pendings player) hmap
  · exact (congrArg (c ∈ ·) hcharged).mpr hc
  · exact (congrArg (x ∈ ·) hunpaid).mpr hx
  · exact List.mem_append_left _ (List.mem_map_of_mem ha)

theorem DepositInv.setCount (h : DepositInv s) (count : ℕ) (hpending : s.pendingAuctionMap[player]? = some pending) :
    DepositInv { s with
      pendingAuctionMap := s.pendingAuctionMap.insert player (pending.1, count) } := by
  have hget (other : ℕ) : (s.pendingAuctionMap.insert player (pending.1, count))[other]? =
      if player = other then some (pending.1, count) else s.pendingAuctionMap[other]? :=
    TreeMap.get_insert _ _ _ _
  refine ⟨h.keys, fun other p hp x hmem ↦ ?_, fun x auction hx ↦ ?_, h.charged, h.rows⟩
  · have hp : (s.pendingAuctionMap.insert player (pending.1, count))[other]? = some p := hp
    rw [hget] at hp
    split_ifs at hp with hplayer
    · obtain rfl := Option.some_inj.mp hp
      exact hplayer ▸ h.pending player pending hpending x hmem
    · exact h.pending other p hp x hmem
  · refine (h.deposit x auction hx).imp_right (Or.imp_left fun hp ↦ ?_)
    by_contra hfalse
    refine absurd hp (Bool.eq_false_iff.mp (isPending_eq_false_iff.mpr fun other p hother ↦ ?_))
    have hall := isPending_eq_false_iff.mp (Bool.eq_false_iff.mpr hfalse) other
    rw [hget] at hall
    split_ifs at hall with hplayer
    · have hmem := hall _ rfl
      rw [← hplayer, hpending, Option.some_inj] at hother
      rwa [← hother]
    · exact hall p hother

theorem DepositInv.updatePending (h : DepositInv s) {connected : ℕ → Bool} {now : ℕ}
    (hnext : AuctionHouseMgr.updatePending rules connected now s player = some s') :
    DepositInv s' := by
  rw [AuctionHouseMgr.updatePending] at hnext
  cases hpending : s.pendingAuctionMap[player]? with
  | none =>
    rw [hpending] at hnext
    exact Option.some_inj.mp hnext ▸ h
  | some pending =>
    rw [hpending] at hnext
    dsimp only at hnext
    split_ifs at hnext
    · rcases pendingAuctionProcess_effect hnext with rfl | ⟨_, _, entries, hget, hderef, -, rfl⟩
      · exact h
      · exact h.takeDeposit hget hderef
    · exact Option.some_inj.mp hnext ▸ h.setCount _ hpending
    · exact h.expirePending hpending hnext

theorem DepositInv.updatePendingAuctions (h : DepositInv s) {connected : ℕ → Bool} {now : ℕ}
    (hnext : AuctionHouseMgr.UpdatePendingAuctions rules s connected now = some s') :
    DepositInv s' := by
  rw [AuctionHouseMgr.UpdatePendingAuctions] at hnext
  exact foldlM_invariant (fun _ _ _ _ h hfirst ↦ h.updatePending hfirst) h hnext

end turns

theorem DepositInv.add (h : DepositInv s) {player : ℕ} {thisAH : List ℕ} {count : ℕ}
    (hId : a.Id = s.auctionId) (howner : a.owner = player)
    (hbefore : s.pendingAuctionMap[player]? = some (thisAH, count) ∨
      s.pendingAuctionMap[player]? = none ∧ thisAH = [] ∧ count = 0)
    (hmap : s'.pendingAuctionMap = s.pendingAuctionMap.insert player (thisAH ++ [a.Id], count))
    (hauctions : s'.auctions = s.auctions.insert a.Id a) (hid : s'.auctionId = s.auctionId + 1)
    (hrows : s'.rows = insert a.Id s.rows) (hmails : s'.successfulMails = s.successfulMails)
    (hcharged : s'.charged = s.charged) (hunpaid : s'.unpaid = s.unpaid) : DepositInv s' := by
  have hget (x : ℕ) : s'.auctions[x]? = if a.Id = x then some a else s.auctions[x]? := by
    rw [hauctions, TreeMap.get_insert]
  have hlist (other : ℕ) : s'.pendingAuctionMap[other]? =
      if player = other then some (thisAH ++ [a.Id], count) else s.pendingAuctionMap[other]? := by
    rw [hmap, TreeMap.get_insert]
  -- the id is new, so no auction is replaced
  have hstays {x : ℕ} {auction : AuctionEntry} (hx : s.auctions[x]? = some auction) :
      s'.auctions[x]? = some auction := by
    have hlt := (h.keys x auction hx).2
    rw [hget, if_neg (by omega), hx]
  have hold : ∀ x ∈ thisAH, ∃ auction, s.auctions[x]? = some auction ∧ auction.owner = player := by
    rcases hbefore with hbefore | ⟨-, rfl, -⟩
    · exact h.pending player (thisAH, count) hbefore
    · exact fun x hx ↦ absurd hx List.not_mem_nil
  have hpending {x : ℕ} (hx : s.isPending x = true) : s'.isPending x = true := by
    by_contra hfalse
    have hall := isPending_eq_false_iff.mp (Bool.eq_false_iff.mpr hfalse)
    refine absurd hx (Bool.eq_false_iff.mp (isPending_eq_false_iff.mpr fun other p hother hmem ↦ ?_))
    by_cases hplayer : player = other
    · subst hplayer
      rcases hbefore with hbefore | ⟨hbefore, -⟩
      · rw [hbefore, Option.some_inj] at hother
        subst hother
        exact hall player _ ((hlist player).trans (if_pos rfl)) (List.mem_append_left _ hmem)
      · simp [hbefore] at hother
    · exact hall other p ((hlist other).trans ((if_neg hplayer).trans hother)) hmem
  refine ⟨fun x auction hx ↦ ?_, fun other p hp x hmem ↦ ?_, fun x auction hx ↦ ?_, fun mail hmail ↦ ?_, fun x hx ↦ ?_⟩
  · rw [hget] at hx
    split_ifs at hx with hax
    · obtain rfl := Option.some_inj.mp hx
      exact ⟨hax, by omega⟩
    · have hkeys := h.keys x auction hx
      exact ⟨hkeys.1, by omega⟩
  · rw [hlist] at hp
    split_ifs at hp with hplayer
    · obtain rfl := Option.some_inj.mp hp
      rcases List.mem_append.mp hmem with hmem | hmem
      · obtain ⟨auction, hx, hplayer'⟩ := hold x hmem
        exact ⟨auction, hstays hx, hplayer'.trans hplayer⟩
      · obtain rfl := List.mem_singleton.mp hmem
        exact ⟨a, (hget a.Id).trans (if_pos rfl), howner.trans hplayer⟩
    · obtain ⟨auction, hx, hplayer'⟩ := h.pending other p hp x hmem
      exact ⟨auction, hstays hx, hplayer'⟩
  · rw [hget] at hx
    rw [hunpaid, hcharged]
    split_ifs at hx with hax
    · refine .inr (.inl (isPending_of_mem ((hlist player).trans (if_pos rfl)) ?_))
      exact hax ▸ List.mem_append_right _ List.mem_cons_self
    · exact (h.deposit x auction hx).imp_right (Or.imp_left hpending)
  · rw [hmails] at hmail
    rw [hcharged]
    exact h.charged mail hmail
  · rw [hrows] at hx
    rcases Finset.mem_insert.mp hx with rfl | hx
    · exact ⟨a, (hget a.Id).trans (if_pos rfl)⟩
    · obtain ⟨auction, hx⟩ := h.rows x hx
      exact ⟨auction, hstays hx⟩

/-! ## Runs -/

theorem DepositInv.next {purses : ℕ → Purse} {call : AuctionCall} (h : DepositInv s)
    (hkeeps : KeepsDeposits rules s call)
    (hnext : (auctionMachine rules purses).next s call = some s') : DepositInv s' := by
  cases call with
  | HandleAuctionSellItem player house item bid buyout etime now auctionTime =>
    obtain ⟨-, hnext⟩ := Option.ite_none_left_eq_some.mp hnext
    rcases handleAuctionSellItem_effect hnext with rfl | rfl | ⟨AH, hId, -, -, howner,
      ⟨thisAH, count, hbefore, hmap⟩, hauctions, hid, hrows, -, hmails, hcharged, hunpaid, -⟩
    · exact h
    · exact h.congr rfl (Nat.le_succ _) rfl rfl rfl rfl rfl
    · exact h.add hId howner hbefore hmap hauctions hid hrows hmails hcharged hunpaid
  | HandleAuctionPlaceBid player house auctionId price sameAccount characters =>
    obtain ⟨-, hnext⟩ := Option.ite_none_left_eq_some.mp hnext
    exact Option.some_inj.mp hnext ▸ h.handleAuctionPlaceBid hkeeps
  | HandleAuctionRemoveItem player house auctionId characters =>
    exact Option.some_inj.mp hnext ▸ h.handleAuctionRemoveItem hkeeps
  | Update house curTime characters => exact Option.some_inj.mp hnext ▸ h.update hkeeps
  | UpdatePendingAuctions connected now => exact h.updatePendingAuctions hnext
  | ModifyMoney player amount =>
    exact Option.some_inj.mp hnext ▸ h.congr rfl le_rfl rfl rfl rfl rfl rfl

theorem depositInv_start (rules : AuctionRules) (purses : ℕ → Purse) :
    DepositInv (auctionMachine rules purses).start := by
  have hauctions (id : ℕ) : (auctionMachine rules purses).start.auctions[id]? = none := ExtTreeMap.getElem?_empty
  have hpending (player : ℕ) : (auctionMachine rules purses).start.pendingAuctionMap[player]? = none :=
    ExtTreeMap.getElem?_empty
  refine ⟨fun id auction h ↦ ?_, fun player pending h ↦ ?_, fun id auction h ↦ ?_,
    fun mail h ↦ absurd h List.not_mem_nil, fun id h ↦ absurd h (Finset.notMem_empty id)⟩
  · simp [hauctions] at h
  · simp [hpending] at h
  · simp [hauctions] at h

/-- **Deposits.**  In every run in which no auction ends before its turn, and none is sold to the profit of
an owner whose deposit was not taken in full, the pending auctions and those in the database are auctions
there are, and every deposit that an owner is mailed back was taken from him. -/
theorem depositsSound_of_reaches {rules : AuctionRules} {purses : ℕ → Purse}
    {s : AuctionHouseMgr} (h : (auctionMachine rules purses).Reaches (KeepsDeposits rules) s) :
    DepositsSound s :=
  (h.invariant (depositInv_start rules purses)
    fun _ _ _ hs hkeeps hnext ↦ hs.next hkeeps hnext).depositsSound

/-! ## Two runs -/

instance (s : AuctionHouseMgr) (characters : ℕ → Bool) (auction : AuctionEntry) :
    Decidable (MaySell s characters auction) := inferInstanceAs (Decidable (_ ∧ _))

instance (rules : AuctionRules) (s : AuctionHouseMgr) (call : AuctionCall) :
    Decidable (KeepsDeposits rules s call) :=
  match call with
  | .HandleAuctionPlaceBid player house auctionId price sameAccount characters =>
    inferInstanceAs (Decidable (∀ auction ∈ AuctionHouseMgr.checkBid rules s player house auctionId price sameAccount, _))
  | .HandleAuctionRemoveItem player house auctionId _ =>
    inferInstanceAs (Decidable (∀ auction ∈ s.GetAuction house auctionId, _))
  | .Update house curTime characters =>
    decidable_of_iff _ (TreeMap.forall_get_iff s.auctions fun _ auction ↦
      auction.house = house → auction.expire_time ≤ curTime + 60 → s.isPending auction.Id = false ∧
          (¬ (auction.bidder = 0 ∧ auction.bid = 0) → MaySell s characters auction)).symm
  | .HandleAuctionSellItem .. | .UpdatePendingAuctions .. | .ModifyMoney .. => .isTrue trivial

/-- The turn of players who are online. -/
def turn : AuctionCall := .UpdatePendingAuctions (fun _ ↦ true) 0

/-- A player puts up an item, has his turn, and somebody buys it. -/
theorem depositsSound_buyOut : ∃ s,
    (auctionMachine plainRules thousandEach).exec (KeepsDeposits plainRules)
      (auctionMachine plainRules thousandEach).start [putUp, turn, turn, bid 2 300] = some s ∧
    s.successfulMails.map SuccessfulMail.deposit = [10] ∧ DepositsSound s := by
  refine (Machine.exists_exec _ _ _ (fun s ↦ s.successfulMails.map SuccessfulMail.deposit = [10])
    (by decide +kernel)).imp fun s ⟨hs, hmails, hreaches⟩ ↦ ⟨hs, hmails, depositsSound_of_reaches hreaches⟩

/-- A player puts up an item, and somebody buys it before his turn. -/
theorem not_depositsSound_of_reachable :
    ¬ ∀ (rules : AuctionRules) (purses : ℕ → Purse) (s : AuctionHouseMgr),
      (auctionMachine rules purses).Reachable s → DepositsSound s := by
  intro h
  obtain ⟨s, hs, hpair⟩ := (auctionMachine plainRules thousandEach).exists_reachable [putUp, bid 2 300]
    (fun s ↦ (s.pendingAuctionMap[1]?, s.auctions[1]?.isSome) = (some ([1], 0), false)) (by decide +kernel)
  obtain ⟨hpending, hgone⟩ := Prod.mk.inj hpair
  have hmem := (h _ _ s hs).pending 1 [1] 0 hpending 1 List.mem_cons_self
  simp [ExtTreeMap.mem_iff_isSome_getElem?, hgone] at hmem

end Gundrak.Auctions
