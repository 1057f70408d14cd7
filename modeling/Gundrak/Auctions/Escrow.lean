import Gundrak.Auctions.AuctionHouse
import Gundrak.Util.Counting
import Gundrak.Util.MapTotal

/-!
# The money that is bid

`EscrowSound` says what the auction houses owe the bidders.  Who bids pays for it at once, and the money
is held for him until he is outbid or the auction ends, so that the money of all players together is the
sum of the bids of the auctions there are, and that of a single player for an auction is its bid when
he is the bidder and nothing otherwise.  Money of an auction that is sold is not held any more: it goes to
the owner, with his deposit and without what the house keeps.

How the movements of one call shift what is held for an auction is said by `Shifts`; a bid, a buyout and
every way to end an auction are put together from two such shifts, of who pays and of who is paid.

**`escrowSound_of_reaches`** is about every run in which the bidders exist when they are to be mailed.
-/

open Std (ExtTreeMap)

namespace Gundrak.Auctions

/-! ## What is claimed -/

namespace Movement

variable (m : Movement)

/-- Money that is taken counts for the house, all other money against it. -/
def signed : ℤ := if m.kind = .taken then m.amount else -m.amount

/-- A movement for an auction, of a player. -/
def isOf (id player : ℕ) : Bool := m.auction == id && m.player == player

end Movement

/-- What movements of some kind come to. -/
def balance (p : Movement → Bool) (movements : List Movement) : ℤ := ((movements.filter p).map Movement.signed).sum

namespace AuctionHouseMgr

variable (rules : AuctionRules) (s : AuctionHouseMgr)

/-- The money taken for bids that has neither been mailed back nor gone to an owner. -/
def outstanding : ℤ := balance (fun _ ↦ true) s.movements

/-- Of this, the money of one player for one auction. -/
def outstandingOf (id player : ℕ) : ℤ := balance (fun m ↦ m.isOf id player) s.movements

/-- The bid of a player for an auction, 0 if he is not the bidder. -/
def bidOf (id player : ℕ) : ℕ :=
  match s.auctions[id]? with
  | some auction => if auction.bidder = player then auction.bid.toNat else 0
  | none => 0

/-- The sum of the bids of all auctions. -/
def bids : ℕ := TreeMap.total s.auctions fun _ auction ↦ auction.bid.toNat

/-- The subtractions of `HandleAuctionPlaceBid` do not wrap around. -/
def NoWrap : Prop := ∀ player house auctionId price sameAccount auction,
    checkBid rules s player house auctionId price sameAccount = some auction → auction.bid ≤ price ∧
        (¬ (price < auction.buyout ∨ auction.buyout = 0) → auction.bid ≤ auction.buyout)

end AuctionHouseMgr

/-- The bid of an auction is in order. -/
structure AuctionEntry.BidSound (auction : AuctionEntry) : Prop where
  bidder : auction.bidder = 0 ↔ auction.bid = 0
  buyout : auction.buyout = 0 ∨ auction.bid < auction.buyout
  le_max : auction.bid ≤ MAX_MONEY_AMOUNT

/-- The bids are in order, and the house holds just the money that is bid. -/
structure EscrowSound (rules : AuctionRules) (s : AuctionHouseMgr) : Prop where
  bidSound : ∀ (id : ℕ) (auction : AuctionEntry), s.auctions[id]? = some auction → auction.BidSound
  outstanding : s.outstanding = s.bids
  outstandingOf : ∀ id player, s.outstandingOf id player = s.bidOf id player
  noWrap : s.NoWrap rules

/-- The calls during which all bidders are characters that exist and no auction bots. -/
def BiddersExist (s : AuctionHouseMgr) : AuctionCall → Prop
  | .HandleAuctionPlaceBid _ _ _ _ _ characters | .HandleAuctionRemoveItem _ _ _ characters
  | .Update _ _ characters =>
    ∀ (id : ℕ) (auction : AuctionEntry), s.auctions[id]? = some auction → auction.bidder ≠ 0 → characters auction.bidder
  | _ => True

/-! ## Shifts -/

theorem balance_cons (p : Movement → Bool) (m : Movement) (movements : List Movement) :
    balance p (m :: movements) = (if p m then m.signed else 0) + balance p movements := by
  rw [balance, List.filter_cons]
  split_ifs <;> simp [balance]

theorem balance_append (p : Movement → Bool) (new movements : List Movement) :
    balance p (new ++ movements) = balance p new + balance p movements := by
  simp [balance]

/-- What is held for a player when `bid` is the bidder and his bid. -/
def held (bid : ℕ × ℕ) (player : ℕ) : ℤ := if bid.1 = player then bid.2 else 0

/-- Movements for one auction that lead from a bidder and his bid to another. -/
structure Shifts (id : ℕ) (new : List Movement) (bid bid' : ℕ × ℕ) : Prop where
  auction : ∀ m ∈ new, m.auction = id
  of : ∀ player, balance (fun m ↦ m.isOf id player) new = held bid' player - held bid player
  all : balance (fun _ ↦ true) new = bid'.2 - bid.2

section shifts

variable {id : ℕ} {new new' : List Movement} {bid bid' bid'' : ℕ × ℕ}

theorem shifts_nil (id : ℕ) (bid : ℕ × ℕ) : Shifts id [] bid bid :=
  ⟨by simp, fun _ ↦ (sub_self _).symm, (sub_self _).symm⟩

theorem Shifts.trans (h : Shifts id new bid bid') (h' : Shifts id new' bid' bid'') :
    Shifts id (new' ++ new) bid bid'' := by
  refine ⟨fun m hm ↦ ?_, fun player ↦ ?_, ?_⟩
  · rcases List.mem_append.mp hm with hm | hm
    · exact h'.auction m hm
    · exact h.auction m hm
  · rw [balance_append, h.of, h'.of]
    ring
  · rw [balance_append, h.all, h'.all]
    ring

theorem Shifts.perm (h : Shifts id new bid bid') (hperm : new'.Perm new) : Shifts id new' bid bid' := by
  have hbalance (p : Movement → Bool) : balance p new' = balance p new := ((hperm.filter p).map Movement.signed).sum_eq
  exact ⟨fun m hm ↦ h.auction m (hperm.mem_iff.mp hm), fun player ↦ by rw [hbalance, h.of],
    by rw [hbalance, h.all]⟩

/-- A player pays for a bid, for which he has paid `paid` already. -/
theorem shifts_taken {player due paid : ℕ} (h : paid ≤ due) (bid : ℕ × ℕ)
    (hbid : bid.2 = paid) (hplayer : paid ≠ 0 → bid.1 = player) :
    Shifts id [⟨.taken, id, player, due - paid⟩] bid (player, due) := by
  refine ⟨by simp, fun other ↦ ?_, ?_⟩
  · rw [balance_cons, held, held]
    by_cases hother : player = other
    · subst hother
      by_cases hpaid : paid = 0
      · simp [Movement.isOf, Movement.signed, balance, hbid, hpaid]
      · simp [Movement.isOf, Movement.signed, balance, hbid, hplayer hpaid]
        omega
    · by_cases hpaid : paid = 0
      · simp [Movement.isOf, balance, hbid, hpaid, hother]
      · simp [Movement.isOf, balance, hplayer hpaid, hother]
  · rw [balance_cons]
    simp [Movement.signed, balance, hbid]
    omega

theorem shifts_paidOut (id : ℕ) (kind : MovementKind) (hkind : kind ≠ .taken) (bid : ℕ × ℕ) :
    Shifts id [⟨kind, id, bid.1, bid.2⟩] bid (0, 0) := by
  refine ⟨by simp, fun player ↦ ?_, ?_⟩
  · rw [balance_cons, held, held]
    by_cases hplayer : bid.1 = player <;>
      simp [Movement.isOf, Movement.signed, balance, hkind, hplayer]
  · rw [balance_cons]
    simp [Movement.signed, balance, hkind]

end shifts

/-! ## What keeps the escrow -/

/-- The bidder of an auction and his bid; nobody and nothing, if there is no such auction. -/
def AuctionHouseMgr.bidAt (s : AuctionHouseMgr) (id : ℕ) : ℕ × ℕ :=
  match s.auctions[id]? with
  | some auction => (auction.bidder, auction.bid.toNat)
  | none => (0, 0)

/-- The auctions are kept under their ids, and these have been given out. -/
def Keyed (s : AuctionHouseMgr) : Prop := ∀ (id : ℕ) (auction : AuctionEntry), s.auctions[id]? = some auction →
    auction.Id = id ∧ id < s.auctionId

/-- `EscrowSound`, and that the auctions are kept under their ids. -/
structure EscrowInv (s : AuctionHouseMgr) : Prop where
  keys : Keyed s
  bidSound : ∀ (id : ℕ) (auction : AuctionEntry), s.auctions[id]? = some auction → auction.BidSound
  outstanding : s.outstanding = s.bids
  outstandingOf : ∀ id player, s.outstandingOf id player = s.bidOf id player

variable {rules : AuctionRules} {s s' : AuctionHouseMgr} {a a' : AuctionEntry} {new : List Movement}

theorem bidOf_eq_held (s : AuctionHouseMgr) (id player : ℕ) : (s.bidOf id player : ℤ) = held (s.bidAt id) player := by
  rw [AuctionHouseMgr.bidOf, AuctionHouseMgr.bidAt, held]
  cases s.auctions[id]? with
  | none => simp
  | some auction =>
    dsimp only
    split_ifs <;> rfl

theorem EscrowInv.change (h : EscrowInv s) {id : ℕ} {auction : Option AuctionEntry}
    (hget : ∀ x, s'.auctions[x]? = if id = x then auction else s.auctions[x]?)
    (hauction : ∀ a ∈ auction, a.Id = id ∧ id < s'.auctionId ∧ a.BidSound) (hid : s.auctionId ≤ s'.auctionId)
    (hmovements : s'.movements = new ++ s.movements) (hnew : Shifts id new (s.bidAt id) (s'.bidAt id))
    (htotal : s'.bids + (s.bidAt id).2 = s.bids + (s'.bidAt id).2) : EscrowInv s' := by
  refine ⟨fun x a' hx ↦ ?_, fun x a' hx ↦ ?_, ?_, fun x player ↦ ?_⟩
  · rw [hget] at hx
    split_ifs at hx with hidx
    · obtain ⟨hId, hlt, -⟩ := hauction a' hx
      exact ⟨hId.trans hidx, hidx ▸ hlt⟩
    · exact ⟨(h.keys x a' hx).1, (h.keys x a' hx).2.trans_le hid⟩
  · rw [hget] at hx
    split_ifs at hx
    · exact (hauction a' hx).2.2
    · exact h.bidSound x a' hx
  · have hold : balance (fun _ ↦ true) s.movements = s.bids := h.outstanding
    rw [AuctionHouseMgr.outstanding, hmovements, balance_append, hnew.all, hold]
    omega
  · have hold : balance (fun m ↦ m.isOf x player) s.movements = held (s.bidAt x) player := by
      rw [← bidOf_eq_held]
      exact h.outstandingOf x player
    rw [AuctionHouseMgr.outstandingOf, hmovements, balance_append, hold, bidOf_eq_held]
    by_cases hx : x = id
    · subst hx
      rw [hnew.of]
      ring
    · have hother : s'.bidAt x = s.bidAt x := by simp [AuctionHouseMgr.bidAt, hget, Ne.symm hx]
      have hnone : new.filter (fun m ↦ m.isOf x player) = [] := by
        refine List.filter_eq_nil_iff.mpr fun m hm ↦ ?_
        simp [Movement.isOf, hnew.auction m hm, Ne.symm hx]
      rw [balance, hnone, hother]
      exact zero_add _

theorem bidAt_of_get {id : ℕ} (ha : s.auctions[id]? = some a) : s.bidAt id = (a.bidder, a.bid.toNat) := by
  rw [AuctionHouseMgr.bidAt, ha]

theorem EscrowInv.set (h : EscrowInv s) (ha : s.auctions[a.Id]? = some a) (hId : a'.Id = a.Id)
    (hsound : a'.BidSound) (hauctions : s'.auctions = s.auctions.insert a.Id a')
    (hid : s'.auctionId = s.auctionId) (hmovements : s'.movements = new ++ s.movements)
    (hnew : Shifts a.Id new (a.bidder, a.bid.toNat) (a'.bidder, a'.bid.toNat)) :
    EscrowInv s' := by
  have hget (x : ℕ) : s'.auctions[x]? = if a.Id = x then some a' else s.auctions[x]? := by
    rw [hauctions, TreeMap.get_insert]
  have hbid' := bidAt_of_get ((hget a.Id).trans (if_pos rfl))
  rw [← bidAt_of_get ha, ← hbid'] at hnew
  refine h.change hget (fun _ heq ↦ ?_) hid.ge hmovements hnew ?_
  · obtain rfl := Option.some_inj.mp heq
    exact ⟨hId, hid ▸ (h.keys a.Id a ha).2, hsound⟩
  · rw [bidAt_of_get ha, hbid', AuctionHouseMgr.bids, hauctions]
    exact TreeMap.total_replace ha a'

theorem EscrowInv.remove (h : EscrowInv s) (ha : s.auctions[a.Id]? = some a)
    (hauctions : s'.auctions = s.auctions.erase a.Id) (hid : s'.auctionId = s.auctionId)
    (hmovements : s'.movements = new ++ s.movements)
    (hnew : Shifts a.Id new (a.bidder, a.bid.toNat) (0, 0)) : EscrowInv s' := by
  have hget (x : ℕ) : s'.auctions[x]? = if a.Id = x then none else s.auctions[x]? := by
    rw [hauctions, TreeMap.get_erase]
  have hbid' : s'.bidAt a.Id = (0, 0) := by rw [AuctionHouseMgr.bidAt, hget, if_pos rfl]
  rw [← bidAt_of_get ha, ← hbid'] at hnew
  refine h.change hget (fun _ h ↦ nomatch h) hid.ge hmovements hnew ?_
  rw [bidAt_of_get ha, hbid', AuctionHouseMgr.bids, hauctions]
  exact TreeMap.total_erase ha

theorem EscrowInv.add (h : EscrowInv s) (hId : a.Id = s.auctionId) (hsound : a.BidSound)
    (hbid : a.bidder = 0 ∧ a.bid = 0) (hauctions : s'.auctions = s.auctions.insert a.Id a)
    (hid : s'.auctionId = s.auctionId + 1) (hmovements : s'.movements = s.movements) :
    EscrowInv s' := by
  have hnone : s.auctions[a.Id]? = none := by
    refine Option.eq_none_iff_forall_ne_some.mpr fun auction hget ↦ ?_
    have hlt := (h.keys a.Id auction hget).2
    omega
  have hget (x : ℕ) : s'.auctions[x]? = if a.Id = x then some a else s.auctions[x]? := by
    rw [hauctions, TreeMap.get_insert]
  have hbefore : s.bidAt a.Id = (0, 0) := by rw [AuctionHouseMgr.bidAt, hnone]
  have hafter : s'.bidAt a.Id = (0, 0) := by
    simp [AuctionHouseMgr.bidAt, hget, hbid.1, hbid.2]
  have hnew : Shifts a.Id [] (s.bidAt a.Id) (s'.bidAt a.Id) := by
    rw [hbefore, hafter]
    exact shifts_nil a.Id (0, 0)
  refine h.change hget (fun _ heq ↦ ?_) (by omega) (hmovements.trans (List.nil_append _).symm) hnew ?_
  · obtain rfl := Option.some_inj.mp heq
    exact ⟨rfl, by omega, hsound⟩
  · rw [hbefore, hafter, AuctionHouseMgr.bids, hauctions, TreeMap.total_insert hnone, hbid.2]
    rfl

theorem EscrowInv.congr (h : EscrowInv s) (hauctions : s'.auctions = s.auctions)
    (hid : s.auctionId ≤ s'.auctionId) (hmovements : s'.movements = s.movements) :
    EscrowInv s' := by
  refine ⟨fun x auction hx ↦ ?_, fun x auction hx ↦ ?_, ?_, fun x player ↦ ?_⟩
  · rw [hauctions] at hx
    exact ⟨(h.keys x auction hx).1, (h.keys x auction hx).2.trans_le hid⟩
  · rw [hauctions] at hx
    exact h.bidSound x auction hx
  · rw [AuctionHouseMgr.outstanding, hmovements, AuctionHouseMgr.bids, hauctions]
    exact h.outstanding
  · rw [AuctionHouseMgr.outstandingOf, hmovements, AuctionHouseMgr.bidOf, hauctions]
    exact h.outstandingOf x player

/-! ## Bids -/

theorem movements_pay {id player : ℕ} {amount : UInt32} (h : (s.purses player).HasEnoughMoney amount = true) :
    (s.pay id player amount).movements = ⟨.taken, id, player, amount.toNat⟩ :: s.movements := by
  have hpaid := (s.purses player).ModifyMoney_neg h
  simp [AuctionHouseMgr.pay, AuctionHouseMgr.modifyMoney, ← hpaid]

theorem hasEnoughMoney_of_le {purse : Purse} {amount amount' : UInt32}
    (h : purse.HasEnoughMoney amount = true) (hle : amount'.toNat ≤ amount.toNat) :
    purse.HasEnoughMoney amount' = true :=
  decide_eq_true (hle.trans (of_decide_eq_true h))

theorem getAuction_eq_some (h : Keyed s) {house : AuctionHouse} {id : ℕ}
    (ha : s.GetAuction house id = some a) : s.auctions[a.Id]? = some a := by
  have hget := (Option.filter_eq_some_iff.mp ha).1
  rwa [(h id a hget).1]

theorem checkBid_eq_some {player : ℕ} {house : AuctionHouse} {auctionId : ℕ} {price : UInt32} {sameAccount : Bool}
    (h : AuctionHouseMgr.checkBid rules s player house auctionId price sameAccount = some a) :
    s.GetAuction house auctionId = some a ∧ price ≠ 0 ∧ a.bid < price ∧
      (s.purses player).HasEnoughMoney price = true := by
  rw [AuctionHouseMgr.checkBid] at h
  obtain ⟨hzero, h⟩ := Option.ite_none_left_eq_some.mp h
  cases hget : s.GetAuction house auctionId with
  | none =>
    simp [hget] at h
  | some auction =>
    rw [hget] at h
    obtain ⟨-, h⟩ := Option.ite_none_left_eq_some.mp h
    obtain ⟨-, h⟩ := Option.ite_none_left_eq_some.mp h
    obtain ⟨hlow, h⟩ := Option.ite_none_left_eq_some.mp h
    obtain ⟨-, h⟩ := Option.ite_none_left_eq_some.mp h
    obtain ⟨hmoney, h⟩ := Option.ite_none_left_eq_some.mp h
    obtain rfl := Option.some_inj.mp h
    push Not at hzero hlow
    exact ⟨rfl, hzero.2, UInt32.not_le.mp hlow.1, by simpa using hmoney⟩

section bidding

variable {player : ℕ} {price : UInt32} {characters : ℕ → Bool}

theorem movements_mailBack (s : AuctionHouseMgr) (kind : MovementKind) (h : characters a.bidder = true) :
    (s.mailBack kind a characters).movements = ⟨kind, a.Id, a.bidder, a.bid.toNat⟩ :: s.movements := by
  rw [AuctionHouseMgr.mailBack, if_pos h]

theorem mailBack_rest (s : AuctionHouseMgr) (kind : MovementKind) (a : AuctionEntry) (characters : ℕ → Bool) :
    (s.mailBack kind a characters).auctions = s.auctions ∧ (s.mailBack kind a characters).auctionId = s.auctionId ∧
      (s.mailBack kind a characters).purses = s.purses := by
  rw [AuctionHouseMgr.mailBack]
  split_ifs <;> exact ⟨rfl, rfl, rfl⟩

theorem successfulMail_effect (rules : AuctionRules) (s : AuctionHouseMgr) (a : AuctionEntry) (characters : ℕ → Bool) :
    (AuctionHouseMgr.SendAuctionSuccessfulMail rules s a characters).auctions = s.auctions ∧
      (AuctionHouseMgr.SendAuctionSuccessfulMail rules s a characters).auctionId = s.auctionId ∧
      (AuctionHouseMgr.SendAuctionSuccessfulMail rules s a characters).movements =
        ⟨.sold, a.Id, a.bidder, a.bid.toNat⟩ :: s.movements := by
  dsimp only [AuctionHouseMgr.SendAuctionSuccessfulMail]
  split_ifs <;> exact ⟨rfl, rfl, rfl⟩

/-- The step of a bid before the auction is changed: the player pays what he is to pay, and the bidder
before him gets his bid back. -/
def Bids (s s' : AuctionHouseMgr) (auction : AuctionEntry) (player : ℕ) (due : UInt32) : Prop :=
  s'.auctions = s.auctions ∧ s'.auctionId = s.auctionId ∧ ∃ new, s'.movements = new ++ s.movements ∧
      Shifts auction.Id new (auction.bidder, auction.bid.toNat) (player, due.toNat)

section

variable {due : UInt32} (hmoney : (s.purses player).HasEnoughMoney due = true)
include hmoney

/-- The bidder raises his own bid, and pays the difference. -/
theorem bids_own (hle : a.bid ≤ due) (hplayer : a.bidder = player) :
    Bids s (s.pay a.Id player (due - a.bid)) a player due := by
  have hsub : (due - a.bid).toNat = due.toNat - a.bid.toNat := UInt32.toNat_sub_of_le _ _ hle
  refine ⟨rfl, rfl, [⟨.taken, a.Id, player, due.toNat - a.bid.toNat⟩], ?_,
    shifts_taken (UInt32.le_iff_toNat_le.mp hle) _ rfl fun _ ↦ hplayer⟩
  rw [movements_pay (hasEnoughMoney_of_le hmoney (by omega)), hsub]
  rfl

theorem bids_first (hbid : a.bid = 0) : Bids s (s.pay a.Id player due) a player due := by
  refine ⟨rfl, rfl, [⟨.taken, a.Id, player, due.toNat⟩], movements_pay hmoney, ?_⟩
  exact shifts_taken (Nat.zero_le due.toNat) _ (by rw [hbid]; rfl) fun h ↦ absurd rfl h

theorem bids_outbid (hbidder : characters a.bidder = true) :
    Bids s ((s.SendAuctionOutbiddedMail a characters).pay a.Id player due) a player due := by
  obtain ⟨hauctions, hid, hpurses⟩ := mailBack_rest s .outbid a characters
  have hpaid := shifts_paidOut a.Id .outbid (by decide) (a.bidder, a.bid.toNat)
  refine ⟨hauctions, hid, [⟨.taken, a.Id, player, due.toNat⟩] ++ [⟨.outbid, a.Id, a.bidder, a.bid.toNat⟩], ?_, ?_⟩
  · rw [movements_pay (by rwa [AuctionHouseMgr.SendAuctionOutbiddedMail, hpurses]),
      AuctionHouseMgr.SendAuctionOutbiddedMail, movements_mailBack s .outbid hbidder]
    rfl
  · exact hpaid.trans (shifts_taken (Nat.zero_le due.toNat) _ rfl fun h ↦ absurd rfl h)

/-- A buyout of an auction that somebody else has bid for. -/
theorem bids_outbid_after (hbidder : characters a.bidder = true) :
    Bids s ((s.pay a.Id player due).SendAuctionOutbiddedMail a characters) a player due := by
  obtain ⟨hauctions, hid, -⟩ := mailBack_rest (s.pay a.Id player due) .outbid a characters
  have hpaid := shifts_paidOut a.Id .outbid (by decide) (a.bidder, a.bid.toNat)
  refine ⟨hauctions, hid, [⟨.outbid, a.Id, a.bidder, a.bid.toNat⟩] ++ [⟨.taken, a.Id, player, due.toNat⟩], ?_, ?_⟩
  · rw [AuctionHouseMgr.SendAuctionOutbiddedMail,
      movements_mailBack (s.pay a.Id player due) .outbid hbidder, movements_pay hmoney]
    rfl
  · exact (hpaid.trans (shifts_taken (Nat.zero_le due.toNat) _ rfl fun h ↦ absurd rfl h)).perm
      List.perm_append_comm

end

theorem EscrowInv.placeBid (h : EscrowInv s) (ha : s.auctions[a.Id]? = some a) (hplayer : player ≠ 0)
    (hprice : a.bid < price) (hmoney : (s.purses player).HasEnoughMoney price = true)
    (hbuyout : price < a.buyout ∨ a.buyout = 0)
    (hbidder : a.bidder ≠ 0 → characters a.bidder = true) :
    EscrowInv (s.placeBid player a price characters) := by
  have hsound := h.bidSound a.Id a ha
  have hbids : Bids s (if a.bidder > 0 then
      if a.bidder = player then s.pay a.Id player (price - a.bid)
      else (s.SendAuctionOutbiddedMail a characters).pay a.Id player price
      else s.pay a.Id player price) a player price := by
    split_ifs with hpos hown
    · exact bids_own hmoney (UInt32.le_of_lt hprice) hown
    · exact bids_outbid hmoney (hbidder hpos.ne')
    · exact bids_first hmoney (hsound.bidder.mp (Nat.eq_zero_of_not_pos hpos))
  obtain ⟨hauctions, hid, new, hmovements, hnew⟩ := hbids
  have hle : price ≤ MAX_MONEY_AMOUNT :=
    UInt32.le_iff_toNat_le.mpr ((of_decide_eq_true hmoney).trans (s.purses player).le_max)
  have hne : price ≠ 0 := by
    rintro rfl
    exact absurd hprice (by simp)
  have hafter : ({ a with bidder := player, bid := price } : AuctionEntry).BidSound :=
    ⟨iff_of_false hplayer hne, hbuyout.symm, hle⟩
  refine h.set ha ?_ hafter ?_ hid hmovements hnew
  · rfl
  · simp [AuctionHouseMgr.placeBid, AuctionHouseMgr.setAuction, hauctions]

theorem EscrowInv.buyOut (h : EscrowInv s) (ha : s.auctions[a.Id]? = some a)
    (hmoney : (s.purses player).HasEnoughMoney price = true)
    (hbuyout : ¬ (price < a.buyout ∨ a.buyout = 0))
    (hbidder : a.bidder ≠ 0 → characters a.bidder = true) :
    EscrowInv (AuctionHouseMgr.buyOut rules s player a characters) := by
  have hsound := h.bidSound a.Id a ha
  push Not at hbuyout
  have hlt : a.bid < a.buyout := hsound.buyout.resolve_left hbuyout.2
  have hpay : (s.purses player).HasEnoughMoney a.buyout = true :=
    hasEnoughMoney_of_le hmoney (UInt32.le_iff_toNat_le.mp (UInt32.not_lt.mp hbuyout.1))
  have hbids : Bids s (if player = a.bidder then s.pay a.Id player (a.buyout - a.bid)
      else if a.bidder ≠ 0 then
        (s.pay a.Id player a.buyout).SendAuctionOutbiddedMail a characters
      else s.pay a.Id player a.buyout) a player a.buyout := by
    split_ifs with hown hne
    · exact bids_own hpay (UInt32.le_of_lt hlt) hown.symm
    · exact bids_outbid_after hpay (hbidder hne)
    · exact bids_first hpay (hsound.bidder.mp (not_not.mp hne))
  obtain ⟨hauctions, hid, new, hmovements, hnew⟩ := hbids
  have hsold := hnew.trans (shifts_paidOut a.Id .sold (by decide) (player, a.buyout.toNat))
  obtain ⟨hauctions', hid', hmovements'⟩ := successfulMail_effect rules _
    { a with bidder := player, bid := a.buyout } characters
  refine h.remove ha ?_ (hid'.trans hid) ?_ hsold
  · exact congrArg (fun auctions ↦ ExtTreeMap.erase auctions a.Id) (hauctions'.trans hauctions)
  · rw [List.append_assoc, ← hmovements]
    exact hmovements'

theorem EscrowInv.handleAuctionPlaceBid (h : EscrowInv s) {house : AuctionHouse} {auctionId : ℕ}
    {sameAccount : Bool} (hplayer : player ≠ 0)
    (hbidders : ∀ (id : ℕ) (auction : AuctionEntry), s.auctions[id]? = some auction →
      auction.bidder ≠ 0 → characters auction.bidder) :
    EscrowInv (s.HandleAuctionPlaceBid rules player house auctionId price sameAccount characters) := by
  rw [AuctionHouseMgr.HandleAuctionPlaceBid]
  cases hcheck : AuctionHouseMgr.checkBid rules s player house auctionId price sameAccount with
  | none => exact h
  | some auction =>
    obtain ⟨hget, -, hlt, hmoney⟩ := checkBid_eq_some hcheck
    have ha := getAuction_eq_some h.keys hget
    dsimp only
    split_ifs with hbuyout
    · exact h.placeBid ha hplayer hlt hmoney hbuyout (hbidders _ _ ha)
    · exact h.buyOut ha hmoney hbuyout (hbidders _ _ ha)

end bidding

/-! ## Ends -/

section ending

variable {house : AuctionHouse} {characters : ℕ → Bool}

theorem EscrowInv.removeAuction (h : EscrowInv s) (ha : s.auctions[a.Id]? = some a)
    (hbidder : a.bidder = 0) : EscrowInv (s.RemoveAuction a) := by
  have hbid := (h.bidSound a.Id a ha).bidder.mp hbidder
  refine h.remove ha rfl rfl (List.nil_append _).symm ?_
  rw [hbidder, hbid]
  exact shifts_nil a.Id (0, 0)

theorem EscrowInv.sell (h : EscrowInv s) (ha : s.auctions[a.Id]? = some a) :
    EscrowInv ((AuctionHouseMgr.SendAuctionSuccessfulMail rules s a characters).RemoveAuction a) := by
  obtain ⟨hauctions, hid, hmovements⟩ := successfulMail_effect rules s a characters
  refine h.remove ha ?_ hid ?_ (shifts_paidOut a.Id .sold (by decide) (a.bidder, a.bid.toNat))
  · exact congrArg (fun auctions ↦ ExtTreeMap.erase auctions a.Id) hauctions
  · exact hmovements

theorem EscrowInv.handleAuctionRemoveItem (h : EscrowInv s) {player auctionId : ℕ}
    (hbidders : ∀ (id : ℕ) (auction : AuctionEntry), s.auctions[id]? = some auction →
      auction.bidder ≠ 0 → characters auction.bidder) :
    EscrowInv (s.HandleAuctionRemoveItem rules player house auctionId characters) := by
  rw [AuctionHouseMgr.HandleAuctionRemoveItem]
  cases hget : s.GetAuction house auctionId with
  | none => exact h
  | some auction =>
    have ha := getAuction_eq_some h.keys hget
    dsimp only
    by_cases howner : auction.owner ≠ player
    · rwa [if_pos howner]
    by_cases hitem : auction.itemGUIDLow ∉ s.mAitems
    · rwa [if_neg howner, if_pos hitem]
    rw [if_neg howner, if_neg hitem]
    split_ifs with hbidder hmoney
    · exact h
    · obtain ⟨hauctions, hid, -⟩ := mailBack_rest s .cancelled auction characters
      refine h.remove ha ?_ hid ?_
        (shifts_paidOut auction.Id .cancelled (by decide) (auction.bidder, auction.bid.toNat))
      · exact congrArg (fun auctions ↦ ExtTreeMap.erase auctions auction.Id) hauctions
      · exact movements_mailBack s .cancelled (hbidders _ _ ha hbidder.ne')
    · exact h.removeAuction ha (Nat.eq_zero_of_not_pos hbidder)

theorem EscrowInv.update (h : EscrowInv s) (house : AuctionHouse) (curTime : ℕ)
    (characters : ℕ → Bool) : EscrowInv (s.Update rules house curTime characters) := by
  rw [AuctionHouseMgr.Update]
  generalize s.auctions.keys = ids
  induction ids generalizing s with
  | nil => exact h
  | cons id ids ih =>
    refine ih ?_
    rw [AuctionHouseMgr.updateAuction]
    cases hget : s.GetAuction house id with
    | none => exact h
    | some auction =>
      have ha := getAuction_eq_some h.keys hget
      dsimp only
      split_ifs with htime hexpired
      · exact h
      · exact h.removeAuction ha hexpired.1
      · exact h.sell ha

end ending

/-! ## New auctions and deposits -/

/-- The auctions that pointers point to are auctions there are. -/
theorem get_of_deref (h : Keyed s) {ids : List ℕ} {entries : List AuctionEntry}
    (hderef : s.deref ids = some entries) : ∀ a ∈ entries, s.auctions[a.Id]? = some a := by
  induction ids generalizing entries with
  | nil =>
    obtain rfl : [] = entries := Option.some_inj.mp hderef
    exact fun _ hmem ↦ absurd hmem List.not_mem_nil
  | cons id ids ih =>
    rw [AuctionHouseMgr.deref, List.mapM_cons] at hderef
    obtain ⟨first, hfirst, hderef⟩ := Option.bind_eq_some_iff.mp hderef
    obtain ⟨rest, hrest, hentries⟩ := Option.bind_eq_some_iff.mp hderef
    obtain rfl := Option.some_inj.mp hentries
    intro a hmem
    rcases List.mem_cons.mp hmem with rfl | hmem
    · rwa [(h id a hfirst).1]
    · exact ih hrest a hmem

/-- An auction with the bid of another. -/
def SameBid (a a' : AuctionEntry) : Prop := a'.Id = a.Id ∧ a'.bidder = a.bidder ∧ a'.bid = a.bid ∧ a'.buyout = a.buyout

theorem EscrowInv.saveAuctions (h : EscrowInv s) {entries : List AuctionEntry}
    (hentries : ∀ a' ∈ entries, ∃ a, s.auctions[a'.Id]? = some a ∧ SameBid a a') :
    EscrowInv (entries.foldl AuctionHouseMgr.saveAuction s) := by
  induction entries generalizing s with
  | nil => exact h
  | cons a' entries ih =>
    obtain ⟨a, ha, hId, hbidder, hbid, hbuyout⟩ := hentries a' List.mem_cons_self
    rw [hId] at ha
    have hsound := h.bidSound a.Id a ha
    have hafter : a'.BidSound := by
      obtain ⟨h1, h2, h3⟩ := hsound
      exact ⟨by rw [hbidder, hbid, h1], by rwa [hbid, hbuyout], by rwa [hbid]⟩
    refine ih (h.set ha hId hafter (hId ▸ rfl) rfl (List.nil_append _).symm ?_) fun b' hb' ↦ ?_
    · rw [hbidder, hbid]
      exact shifts_nil a.Id _
    · obtain ⟨b, hb, hsame⟩ := hentries b' (List.mem_cons_of_mem _ hb')
      show ∃ b, (s.auctions.insert a'.Id a')[b'.Id]? = some b ∧ SameBid b b'
      rw [TreeMap.get_insert]
      split_ifs with heq
      · rw [← heq, hId, ha] at hb
        obtain rfl := Option.some_inj.mp hb
        obtain ⟨h1, h2, h3, h4⟩ := hsame
        exact ⟨a', rfl, h1.trans hId.symm, h2.trans hbidder.symm, h3.trans hbid.symm, h4.trans hbuyout.symm⟩
      · exact ⟨b, hb, hsame⟩

/-- The shares of a deposit go to auctions that have the bids they had. -/
theorem sameBid_shareDeposit {share depositremain : UInt32} {entries : List AuctionEntry} :
    ∀ a' ∈ AuctionHouseMgr.shareDeposit share entries depositremain, ∃ a ∈ entries, SameBid a a' := by
  induction entries generalizing depositremain with
  | nil => exact fun _ h ↦ absurd h List.not_mem_nil
  | cons a entries ih =>
    cases entries with
    | nil =>
      intro a' ha'
      rw [AuctionHouseMgr.shareDeposit, List.mem_singleton] at ha'
      exact ⟨a, List.mem_cons_self, ha' ▸ ⟨rfl, rfl, rfl, rfl⟩⟩
    | cons b entries =>
      intro a' ha'
      rw [AuctionHouseMgr.shareDeposit] at ha'
      rcases List.mem_cons.mp ha' with rfl | ha'
      · exact ⟨a, List.mem_cons_self, rfl, rfl, rfl, rfl⟩
      · obtain ⟨c, hc, hsame⟩ := ih a' ha'
        exact ⟨c, List.mem_cons_of_mem _ hc, hsame⟩
      · exact fun h ↦ absurd h (by simp)

theorem EscrowInv.takeDeposit (h : EscrowInv s) {player : ℕ} {entries : List AuctionEntry}
    (hentries : ∀ a ∈ entries, s.auctions[a.Id]? = some a) :
    EscrowInv (AuctionHouseMgr.takeDeposit rules s player entries) := by
  have hshared (share depositremain : UInt32) : EscrowInv
      ((AuctionHouseMgr.shareDeposit share entries depositremain).foldl
        AuctionHouseMgr.saveAuction s) := by
    refine h.saveAuctions fun a' ha' ↦ ?_
    obtain ⟨a, ha, hsame⟩ := sameBid_shareDeposit a' ha'
    exact ⟨a, hsame.1 ▸ hentries a ha, hsame⟩
  dsimp only [AuctionHouseMgr.takeDeposit]
  split_ifs
  · exact (hshared _ _).congr rfl le_rfl rfl
  · exact (hshared _ _).congr rfl le_rfl rfl

theorem pendingAuctionProcess_effect {player : ℕ}
    (hnext : AuctionHouseMgr.PendingAuctionProcess rules s player = some s') :
    s' = s ∨ ∃ thisAH count entries, s.pendingAuctionMap[player]? = some (thisAH, count) ∧
      s.deref thisAH = some entries ∧ entries ≠ [] ∧
      s' = AuctionHouseMgr.takeDeposit rules s player entries := by
  rw [AuctionHouseMgr.PendingAuctionProcess] at hnext
  cases hpending : s.pendingAuctionMap[player]? with
  | none =>
    rw [hpending] at hnext
    exact .inl (Option.some_inj.mp hnext).symm
  | some pending =>
    rw [hpending] at hnext
    obtain ⟨entries, hderef, hnext⟩ := Option.bind_eq_some_iff.mp hnext
    obtain ⟨hne, hnext⟩ := Option.ite_none_left_eq_some.mp hnext
    exact .inr ⟨_, _, entries, rfl, hderef, hne, (Option.some_inj.mp hnext).symm⟩

theorem EscrowInv.updatePending (h : EscrowInv s) {connected : ℕ → Bool} {now player : ℕ}
    (hnext : AuctionHouseMgr.updatePending rules connected now s player = some s') :
    EscrowInv s' := by
  rw [AuctionHouseMgr.updatePending] at hnext
  cases hpending : s.pendingAuctionMap[player]? with
  | none =>
    rw [hpending] at hnext
    exact Option.some_inj.mp hnext ▸ h
  | some pending =>
    rw [hpending] at hnext
    dsimp only at hnext
    split_ifs at hnext
    · rcases pendingAuctionProcess_effect hnext with rfl | ⟨_, _, entries, -, hderef, -, rfl⟩
      · exact h
      · exact h.takeDeposit (get_of_deref h.keys hderef)
    · exact Option.some_inj.mp hnext ▸ h.congr rfl le_rfl rfl
    · obtain ⟨entries, hderef, rfl⟩ := Option.map_eq_some_iff.mp hnext
      have hfold : entries.foldl (fun s AH ↦ s.saveAuction { AH with expire_time := now }) s =
          (entries.map fun AH : AuctionEntry ↦ { AH with expire_time := now }).foldl
            AuctionHouseMgr.saveAuction s := List.foldl_map.symm
      dsimp only
      rw [hfold]
      refine (h.saveAuctions fun a' ha' ↦ ?_).congr rfl le_rfl rfl
      obtain ⟨a, ha, rfl⟩ := List.mem_map.mp ha'
      exact ⟨a, get_of_deref h.keys hderef a ha, rfl, rfl, rfl, rfl⟩

theorem EscrowInv.updatePendingAuctions (h : EscrowInv s) {connected : ℕ → Bool} {now : ℕ}
    (hnext : AuctionHouseMgr.UpdatePendingAuctions rules s connected now = some s') :
    EscrowInv s' := by
  rw [AuctionHouseMgr.UpdatePendingAuctions] at hnext
  exact foldlM_invariant (fun _ _ _ _ h hfirst ↦ h.updatePending hfirst) h hnext

/-- What `HandleAuctionSellItem` does: nothing, or it makes the next id, or it also puts up an auction that
is pending. -/
theorem handleAuctionSellItem_effect {player : ℕ} {house : AuctionHouse} {item : SellItem}
    {bid buyout etime : UInt32} {now auctionTime : ℕ}
    (hnext : AuctionHouseMgr.HandleAuctionSellItem rules s player house item bid buyout etime now
      auctionTime = some s') :
    s' = s ∨ s' = { s with auctionId := s.auctionId + 1 } ∨
      ∃ AH : AuctionEntry, AH.Id = s.auctionId ∧ AH.bid = 0 ∧ AH.bidder = 0 ∧ AH.owner = player ∧
        (∃ thisAH count, (s.pendingAuctionMap[player]? = some (thisAH, count) ∨
            s.pendingAuctionMap[player]? = none ∧ thisAH = [] ∧ count = 0) ∧
          s'.pendingAuctionMap = s.pendingAuctionMap.insert player (thisAH ++ [AH.Id], count)) ∧
        s'.auctions = s.auctions.insert AH.Id AH ∧ s'.auctionId = s.auctionId + 1 ∧
        s'.rows = insert AH.Id s.rows ∧ s'.movements = s.movements ∧
        s'.successfulMails = s.successfulMails ∧ s'.charged = s.charged ∧ s'.unpaid = s.unpaid ∧
        s'.purses = s.purses ∧ s'.mAitems = insert AH.itemGUIDLow s.mAitems := by
  dsimp only [AuctionHouseMgr.HandleAuctionSellItem] at hnext
  split_ifs at hnext
  · exact .inl (Option.some_inj.mp hnext).symm
  · exact .inl (Option.some_inj.mp hnext).symm
  · exact .inl (Option.some_inj.mp hnext).symm
  · exact .inl (Option.some_inj.mp hnext).symm
  · exact .inl (Option.some_inj.mp hnext).symm
  · refine .inr ?_
    obtain ⟨⟨s₁, added⟩, hadd, rfl⟩ := Option.map_eq_some_iff.mp hnext
    rw [AuctionHouseMgr.PendingAuctionAdd] at hadd
    cases hpending : s.pendingAuctionMap[player]? with
    | none =>
      rw [hpending] at hadd
      obtain ⟨rfl, rfl⟩ := Prod.mk.inj (Option.some_inj.mp hadd)
      exact .inr ⟨_, rfl, rfl, rfl, rfl, ⟨[], 0, .inr ⟨rfl, rfl, rfl⟩, rfl⟩, rfl, rfl, rfl, rfl, rfl, rfl,
        rfl, rfl, rfl⟩
    | some pending =>
      rw [hpending] at hadd
      obtain ⟨entries, -, hadd⟩ := Option.map_eq_some_iff.mp hadd
      dsimp only at hadd
      split_ifs at hadd
      · obtain ⟨rfl, rfl⟩ := Prod.mk.inj hadd
        exact .inl rfl
      · obtain ⟨rfl, rfl⟩ := Prod.mk.inj hadd
        exact .inr ⟨_, rfl, rfl, rfl, rfl, ⟨pending.1, pending.2, .inl rfl, rfl⟩, rfl, rfl, rfl, rfl, rfl,
          rfl, rfl, rfl, rfl⟩

/-! ## Runs -/

theorem EscrowInv.next {purses : ℕ → Purse} {call : AuctionCall} (h : EscrowInv s)
    (hbidders : BiddersExist s call) (hnext : (auctionMachine rules purses).next s call = some s') :
    EscrowInv s' := by
  cases call with
  | HandleAuctionSellItem player house item bid buyout etime now auctionTime =>
    obtain ⟨-, hnext⟩ := Option.ite_none_left_eq_some.mp hnext
    rcases handleAuctionSellItem_effect hnext with
      rfl | rfl | ⟨AH, hId, hbid, hbidder, -, -, hauctions, hid, -, hmovements, -⟩
    · exact h
    · exact h.congr rfl (Nat.le_succ _) rfl
    · have hsound : AH.BidSound := by
        refine ⟨iff_of_true hbidder hbid, ?_, ?_⟩
        · rw [hbid, UInt32.lt_iff_toNat_lt, ← UInt32.toNat_inj]
          exact (Nat.eq_zero_or_pos _)
        · simp [hbid]
      exact h.add hId hsound ⟨hbidder, hbid⟩ hauctions hid hmovements
  | HandleAuctionPlaceBid player house auctionId price sameAccount characters =>
    obtain ⟨hplayer, hnext⟩ := Option.ite_none_left_eq_some.mp hnext
    exact Option.some_inj.mp hnext ▸ h.handleAuctionPlaceBid hplayer hbidders
  | HandleAuctionRemoveItem player house auctionId characters =>
    exact Option.some_inj.mp hnext ▸ h.handleAuctionRemoveItem hbidders
  | Update house curTime characters =>
    exact Option.some_inj.mp hnext ▸ h.update house curTime characters
  | UpdatePendingAuctions connected now => exact h.updatePendingAuctions hnext
  | ModifyMoney player amount => exact Option.some_inj.mp hnext ▸ h.congr rfl le_rfl rfl

theorem EscrowInv.escrowSound (h : EscrowInv s) : EscrowSound rules s := by
  refine ⟨h.bidSound, h.outstanding, h.outstandingOf, ?_⟩
  intro player house auctionId price sameAccount auction hcheck
  obtain ⟨hget, -, hlt, -⟩ := checkBid_eq_some hcheck
  have hsound := h.bidSound _ _ (getAuction_eq_some h.keys hget)
  refine ⟨UInt32.le_of_lt hlt, fun hbuyout ↦ ?_⟩
  push Not at hbuyout
  exact UInt32.le_of_lt (hsound.buyout.resolve_left hbuyout.2)

theorem escrowInv_start (rules : AuctionRules) (purses : ℕ → Purse) :
    EscrowInv (auctionMachine rules purses).start := by
  have hnone (id : ℕ) : (∅ : ExtTreeMap ℕ AuctionEntry)[id]? = none := ExtTreeMap.getElem?_empty
  have hget (id : ℕ) : (auctionMachine rules purses).start.auctions[id]? = none := hnone id
  refine ⟨fun id auction h ↦ ?_, fun id auction h ↦ ?_, rfl, fun id player ↦ ?_⟩
  · simp [hget] at h
  · simp [hget] at h
  · rw [AuctionHouseMgr.bidOf, hget]
    rfl

/-- **The money that is bid.**  In every run in which the bidders exist, the bids are in order, the house
holds just the money that is bid, of every single player and all together, and no subtraction of a bid
wraps around. -/
theorem escrowSound_of_reaches {rules : AuctionRules} {purses : ℕ → Purse} {s : AuctionHouseMgr}
    (h : (auctionMachine rules purses).Reaches BiddersExist s) : EscrowSound rules s :=
  (h.invariant (escrowInv_start rules purses)
    fun _ _ _ hs hbidders hnext ↦ hs.next hbidders hnext).escrowSound

/-! ## Two runs -/

instance (s : AuctionHouseMgr) (call : AuctionCall) : Decidable (BiddersExist s call) := by
  have hdec (characters : ℕ → Bool) : Decidable (∀ (id : ℕ) (auction : AuctionEntry),
      s.auctions[id]? = some auction → auction.bidder ≠ 0 → characters auction.bidder = true) :=
    decidable_of_iff _ (TreeMap.forall_get_iff s.auctions fun _ auction ↦
      auction.bidder ≠ 0 → characters auction.bidder = true).symm
  cases call <;> dsimp only [BiddersExist] <;> infer_instance

/-- A deposit of 10 for every item, a step of 5, and a share of 1 for the house. -/
def plainRules : AuctionRules := ⟨fun _ _ _ count ↦ 10 * count, fun _ ↦ 5, fun _ _ ↦ 1⟩

/-- Everybody has 1000 copper. -/
def thousandEach (_ : ℕ) : Purse := ⟨1000, thousand_le_max⟩

/-- Player 1 puts up an item for 100, with a buyout of 300. -/
def putUp : AuctionCall := .HandleAuctionSellItem 1 .mNeutralAuctions ⟨7, 25, 1⟩ 100 300 720 0 43200

/-- A player bids for the auction. -/
def bid (player : ℕ) (price : UInt32) : AuctionCall :=
  .HandleAuctionPlaceBid player .mNeutralAuctions 1 price false fun _ ↦ true

/-- Two players bid against each other, and the first raises his bid. -/
theorem escrowSound_bids : ∃ s, (auctionMachine plainRules thousandEach).exec BiddersExist
      (auctionMachine plainRules thousandEach).start
      [putUp, bid 2 100, bid 3 110, bid 2 150, bid 2 200] = some s ∧
    s.bids = 200 ∧ EscrowSound plainRules s := by
  refine (Machine.exists_exec _ _ _ (fun s ↦ s.bids = 200) (by decide +kernel)).imp
    fun s ⟨hs, hbids, hreaches⟩ ↦ ⟨hs, hbids, escrowSound_of_reaches hreaches⟩

/-- Of an auction that is bought out nothing is mailed back to the buyer, and there is no bid any more.
What the owner is mailed is not what was taken either. -/
theorem not_mailedBack_of_reaches :
    ¬ ∀ (rules : AuctionRules) (purses : ℕ → Purse) (s : AuctionHouseMgr),
      (auctionMachine rules purses).Reaches BiddersExist s →
        balance (fun m ↦ m.kind ≠ .sold) s.movements = s.bids ∨
          balance (fun m ↦ m.kind ≠ .sold) s.movements -
            (s.successfulMails.map fun mail ↦ mail.profit.toNat).sum = s.bids := by
  intro h
  obtain ⟨s, hs, htriple⟩ := (auctionMachine plainRules thousandEach).exists_reaches BiddersExist [putUp, bid 2
    300]
    (fun s ↦ ((balance (fun m ↦ m.kind ≠ .sold) s.movements, (s.successfulMails.map fun mail ↦
      mail.profit.toNat).sum, s.bids)) = (300, 309, 0)) (by decide +kernel)
  obtain ⟨hbalance, hpair⟩ := Prod.mk.inj htriple
  obtain ⟨hprofit, hbids⟩ := Prod.mk.inj hpair
  have heq := h _ _ s hs
  rw [hbalance, hprofit, hbids] at heq
  exact absurd heq (by decide)

end Gundrak.Auctions
