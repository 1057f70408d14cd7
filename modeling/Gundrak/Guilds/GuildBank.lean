import Gundrak.Guilds.RankStructure
import Gundrak.Players.Money

/-!
# Taking out of a guild bank

A rank says how much money a member may take out of the guild bank in a day and how many items out of
each of its tabs; for both `0xFFFFFFFF` means as much as he likes.  The limits are `uint32` numbers, but
they are compared with what a member has taken as `int32` numbers.

`BankDay` is a guild between two `ResetTimes`.  Next to the guild it has two parts that are not in the
source: what every member has really taken, and the withdrawals he was granted or refused for his limit,
each with the numbers it was decided by.

What the slots of a tab and the bags of a player hold decides whether an item can be moved; of this the
outcome is part of a call (`MoveOutcome`).
-/

open Std (ExtTreeMap)

namespace Gundrak

/-- A side of a move of an item, `MoveItemData`: the player, or a tab of the bank. -/
inductive MoveItemData where
  | player
  | bank (tabId : Fin 6)
deriving DecidableEq

/-- How the contents of the slots decide a move: whether a part of a stack is moved, whether the first
`_DoItemsMove` goes through, whether there is an item to swap with, and whether swapping goes through. -/
structure MoveOutcome where
  split : Bool
  moved : Bool
  destItem : Bool
  swapped : Bool

namespace Guild

variable (guild : Guild)

/-! ## Limits -/

/-- The limit of a rank for money, 0 for a rank that does not exist. -/
def rankMoneyPerDay (rankId : UInt8) : UInt32 :=
  match guild.GetRankInfo rankId with
  | some rankInfo => rankInfo.m_bankMoneyPerDay
  | none => 0

/-- The limit of a rank for a tab, 0 for a rank or a tab that does not exist. -/
def rankTabSlotsPerDay (rankId : UInt8) (tabId : Fin 6) : UInt32 :=
  if tabId.val < guild.purchasedTabs then
    match guild.GetRankInfo rankId with
    | some rankInfo => (rankInfo.m_bankTabRightsAndSlots tabId).slots
    | none => 0
  else 0

/-- `Guild::_GetRankBankMoneyPerDay`. -/
def GetRankBankMoneyPerDay (rankId : UInt8) : ℤ := int32 (guild.rankMoneyPerDay rankId).toNat

/-- `Guild::_GetRankBankTabSlotsPerDay`. -/
def GetRankBankTabSlotsPerDay (rankId : UInt8) (tabId : Fin 6) : ℤ :=
  int32 (guild.rankTabSlotsPerDay rankId tabId).toNat

/-- `Guild::_GetRankBankTabRights`. -/
def GetRankBankTabRights (rankId : UInt8) (tabId : Fin 6) : UInt8 :=
  match guild.GetRankInfo rankId with
  | some rankInfo => (rankInfo.m_bankTabRightsAndSlots tabId).rights
  | none => 0

/-- Whether a rank may look into a tab. -/
def mayView (rankId : UInt8) (tabId : Fin 6) : Bool :=
  (guild.GetRankBankTabRights rankId tabId &&& GUILD_BANK_RIGHT_VIEW_TAB) != 0

/-- Whether a rank has one of the rights to take money. -/
def mayTakeMoney (rankId : UInt8) : Bool :=
  (guild.GetRankRights rankId &&& (GR_RIGHT_WITHDRAW_REPAIR ||| GR_RIGHT_WITHDRAW_GOLD)) != 0

/-- What `_GetMemberRemainingSlots` and `_GetMemberRemainingMoney` return when the member has the right:
what is left of the limit, if it is positive. -/
def remaining (perDay withdrawn : ℤ) : ℤ :=
  let remaining := int32 (perDay - withdrawn)
  if remaining > 0 then remaining else 0

/-- `Guild::_GetMemberRemainingSlots`. -/
def GetMemberRemainingSlots (member : Member) (tabId : Fin 6) : ℤ :=
  if member.m_rankId = GR_GUILDMASTER then int32 GUILD_WITHDRAW_UNLIMITED.toNat
  else if guild.mayView member.m_rankId tabId then
    remaining (guild.GetRankBankTabSlotsPerDay member.m_rankId tabId)
      (member.GetBankWithdrawValue tabId.castSucc)
  else 0

/-- `Guild::_GetMemberRemainingMoney`. -/
def GetMemberRemainingMoney (member : Member) : ℤ :=
  if member.m_rankId = GR_GUILDMASTER then int32 GUILD_WITHDRAW_UNLIMITED.toNat
  else if guild.mayTakeMoney member.m_rankId then
    remaining (guild.GetRankBankMoneyPerDay member.m_rankId) (member.GetBankWithdrawValue moneyTab)
  else 0

/-- `Guild::_UpdateMemberWithdrawSlots`. -/
def UpdateMemberWithdrawSlots (guid : ObjectGuid) (tabId : Fin 6) : Guild :=
  match guild.GetMember guid with
  | none => guild
  | some member =>
    if member.m_rankId ≠ GR_GUILDMASTER ∧ member.GetBankWithdrawValue tabId.castSucc <
        guild.GetRankBankTabSlotsPerDay member.m_rankId tabId then
      guild.modifyMember guid fun member ↦ member.UpdateBankWithdrawValue tabId.castSucc 1
    else guild

/-- `Guild::_MemberHasTabRights`. -/
def MemberHasTabRights (guid : ObjectGuid) (tabId : Fin 6) (rights : UInt8) : Bool :=
  match guild.GetMember guid with
  | none => false
  | some member =>
    if member.IsRank GR_GUILDMASTER || guild.m_leaderGuid == guid then true
    else (guild.GetRankBankTabRights member.m_rankId tabId &&& rights) == rights

/-! ## Items -/

section moving

variable (m_pPlayer : ObjectGuid)

/-- `HasStoreRights` of the side `side`. -/
def HasStoreRights (side pOther : MoveItemData) : Bool :=
  match side with
  | .player => true
  | .bank tabId =>
    pOther = .bank tabId || guild.MemberHasTabRights m_pPlayer tabId GUILD_BANK_RIGHT_DEPOSIT_ITEM

/-- `HasWithdrawRights` of the side `side`. -/
def HasWithdrawRights (side pOther : MoveItemData) : Bool :=
  match side with
  | .player => true
  | .bank tabId =>
    if pOther = .bank tabId then true
    else
      match guild.GetMember m_pPlayer with
      | some member => guild.GetMemberRemainingSlots member tabId != 0
      | none => false

/-- `RemoveItem` of the side `side`, as far as it concerns the limits. -/
def RemoveItem (side pOther : MoveItemData) : Guild :=
  match side with
  | .player => guild
  | .bank tabId =>
    if pOther ≠ .bank tabId then guild.UpdateMemberWithdrawSlots m_pPlayer tabId else guild

/-- The tab that an item of the side `side` is withdrawn from; there is none when it belongs to the
player or stays in its tab. -/
def drawnFrom (side pOther : MoveItemData) : List (Fin 6) :=
  match side with
  | .player => []
  | .bank tabId => if pOther = .bank tabId then [] else [tabId]

/-- `Guild::_MoveItems`.  The second value is not in the source: the tabs from which something was
withdrawn (`true`), or that `HasWithdrawRights` denied (`false`). -/
def MoveItems (pSrc pDest : MoveItemData) (outcome : MoveOutcome) : Guild × List (Fin 6 × Bool) :=
  if !guild.HasStoreRights m_pPlayer pDest pSrc then (guild, [])
  else if !guild.HasWithdrawRights m_pPlayer pSrc pDest then
    (guild, (drawnFrom pSrc pDest).map fun tabId ↦ (tabId, false))
  else if outcome.moved then
    (guild.RemoveItem m_pPlayer pSrc pDest, (drawnFrom pSrc pDest).map fun tabId ↦ (tabId, true))
  else if outcome.split then (guild, [])
  -- the items cannot be merged, so they are swapped
  else if !outcome.destItem then (guild, [])
  else if !guild.HasStoreRights m_pPlayer pSrc pDest then (guild, [])
  else if !guild.HasWithdrawRights m_pPlayer pDest pSrc then
    (guild, (drawnFrom pDest pSrc).map fun tabId ↦ (tabId, false))
  else if !outcome.swapped then (guild, [])
  else
    ((guild.RemoveItem m_pPlayer pSrc pDest).RemoveItem m_pPlayer pDest pSrc,
      (drawnFrom pSrc pDest ++ drawnFrom pDest pSrc).map fun tabId ↦ (tabId, true))

/-- `Guild::SwapItems`. -/
def SwapItems (tabId destTabId : Fin 6) (outcome : MoveOutcome) : Guild × List (Fin 6 × Bool) :=
  if tabId.val ≥ guild.purchasedTabs ∨ destTabId.val ≥ guild.purchasedTabs then (guild, [])
  else guild.MoveItems m_pPlayer (.bank tabId) (.bank destTabId) outcome

/-- `Guild::SwapItemsWithInventory`. -/
def SwapItemsWithInventory (toChar : Bool) (tabId : Fin 6) (outcome : MoveOutcome) :
    Guild × List (Fin 6 × Bool) :=
  if tabId.val ≥ guild.purchasedTabs then (guild, [])
  else if toChar then guild.MoveItems m_pPlayer (.bank tabId) .player outcome
  else guild.MoveItems m_pPlayer .player (.bank tabId) outcome

end moving

/-! ## Money -/

/-- What `HandleMemberWithdrawMoney` makes of the amount it is asked for. -/
def clampMoney (amount : UInt32) : UInt32 := min amount MAX_MONEY_AMOUNT

/-- `Guild::HandleMemberWithdrawMoney`, for a player with the given purse.  The second value is what it
returns. -/
def HandleMemberWithdrawMoney (player : ObjectGuid) (amount : UInt32) (repair : Bool)
    (purse : Purse) : Guild × Bool :=
  let amount := clampMoney amount
  if guild.m_bankMoney < amount.toUInt64 then (guild, false)
  else
    match guild.GetMember player with
    | none => (guild, false)
    | some member =>
      if uint32 (guild.GetMemberRemainingMoney member) < amount.toNat then (guild, false)
      else if !repair && !(purse.ModifyMoney (int32 amount.toNat)).2 then (guild, false)
      else
        ({ guild.modifyMember player fun member ↦ member.UpdateBankWithdrawValue moneyTab amount with
            m_bankMoney := guild.m_bankMoney - amount.toUInt64 }, true)

/-- `Guild::HandleMemberDepositMoney`. -/
def HandleMemberDepositMoney (amount : UInt32) : Guild :=
  { guild with m_bankMoney := guild.m_bankMoney + amount.toUInt64 }

end Guild

/-! ## A day -/

/-- A withdrawal that a member was granted, or refused for the limit of his rank, with the numbers as they
were before. -/
structure Withdrawal where
  rankId : UInt8
  /-- the rights and the limit of the rank -/
  rights : UInt32
  limit : UInt32
  /-- what he has really taken since the last reset -/
  taken : ℕ
  /-- what the server has counted of it -/
  counted : ℕ
  amount : ℕ
  /-- whether it is money that he gets himself -/
  goldToPlayer : Bool
  granted : Bool
deriving DecidableEq

/-- A guild between two resets, with what its members have taken (the money last, as in
`m_bankWithdraw`) and the withdrawals so far. -/
structure BankDay where
  guild : Guild
  taken : ObjectGuid → Fin 7 → ℕ
  withdrawals : List Withdrawal

/-- The calls between two resets, without members who join or leave: withdrawals, deposits, and what
happens to the ranks. -/
inductive BankCall where
  | HandleMemberWithdrawMoney (player : ObjectGuid) (amount : UInt32) (repair : Bool)
    (purse : Purse)
  | SwapItems (player : ObjectGuid) (tabId destTabId : Fin 6) (outcome : MoveOutcome)
  | SwapItemsWithInventory (player : ObjectGuid) (toChar : Bool) (tabId : Fin 6)
    (outcome : MoveOutcome)
  | HandleMemberDepositMoney (amount : UInt32)
  | ranks (call : GuildCall)

namespace BankDay

variable (day : BankDay)

/-- A guild after a reset. -/
def afterReset (guild : Guild) : BankDay := ⟨guild.ResetTimes, fun _ _ ↦ 0, []⟩

/-- Somebody has taken something. -/
def take (guid : ObjectGuid) (tab : Fin 7) (amount : ℕ) : BankDay :=
  { day with
    taken := fun player t ↦
      if player = guid ∧ t = tab then day.taken player t + amount else day.taken player t }

/-- The withdrawal of an item.  Who may not look into the tab is not refused for his limit. -/
def itemWithdrawal (player : ObjectGuid) (tabId : Fin 6) (granted : Bool) : Option Withdrawal :=
  (day.guild.GetMember player).bind fun member ↦
    if !granted && !day.guild.mayView member.m_rankId tabId then none
    else
      some {
        rankId := member.m_rankId
        rights := day.guild.GetRankRights member.m_rankId
        limit := day.guild.rankTabSlotsPerDay member.m_rankId tabId
        taken := day.taken player tabId.castSucc
        counted := (member.m_bankWithdraw tabId.castSucc).toNat
        amount := 1
        goldToPlayer := false
        granted := granted }

/-- The withdrawal of money.  A refusal is for the limit when the bank has the money, the member has one
of the rights, and too little of the limit is left. -/
def moneyWithdrawal (player : ObjectGuid) (amount : UInt32) (repair granted : Bool) :
    Option Withdrawal :=
  (day.guild.GetMember player).bind fun member ↦
    let amount := Guild.clampMoney amount
    let refused := amount.toUInt64 ≤ day.guild.m_bankMoney ∧ day.guild.mayTakeMoney member.m_rankId ∧
      uint32 (day.guild.GetMemberRemainingMoney member) < amount.toNat
    if !granted && !refused then none
    else
      some {
        rankId := member.m_rankId
        rights := day.guild.GetRankRights member.m_rankId
        limit := day.guild.rankMoneyPerDay member.m_rankId
        taken := day.taken player moneyTab
        counted := day.taken player moneyTab
        amount := amount.toNat
        goldToPlayer := !repair
        granted := granted }

/-- The withdrawals of items from the tabs that a move tells. -/
def itemWithdrawals (player : ObjectGuid) (tabs : List (Fin 6 × Bool)) : List Withdrawal :=
  tabs.filterMap fun (tabId, granted) ↦ day.itemWithdrawal player tabId granted

/-- The withdrawals that a call makes or is refused. -/
def asked : BankCall → List Withdrawal
  | .HandleMemberWithdrawMoney player amount repair purse =>
    (day.moneyWithdrawal player amount repair
      (day.guild.HandleMemberWithdrawMoney player amount repair purse).2).toList
  | .SwapItems player tabId destTabId outcome =>
    day.itemWithdrawals player (day.guild.SwapItems player tabId destTabId outcome).2
  | .SwapItemsWithInventory player toChar tabId outcome =>
    day.itemWithdrawals player (day.guild.SwapItemsWithInventory player toChar tabId outcome).2
  | _ => []

/-- A move of items has led to the given guild and tabs. -/
def moved (player : ObjectGuid) (result : Guild × List (Fin 6 × Bool)) : BankDay :=
  result.2.foldl (fun day (tabId, granted) ↦
    if granted then day.take player tabId.castSucc 1 else day) { day with guild := result.1 }

/-- A withdrawal of money has led to the given guild, and has been granted or not. -/
def withdrawn (player : ObjectGuid) (amount : UInt32) (result : Guild × Bool) : BankDay :=
  if result.2 then { day with guild := result.1 }.take player moneyTab amount.toNat
  else { day with guild := result.1 }

/-- What a call does to the guild and to what is taken; `none` for a call that is not made: nobody
withdraws no money at all, and members do not join or leave. -/
def apply : BankCall → Option BankDay
  | .HandleMemberWithdrawMoney player amount repair purse =>
    if amount = 0 then none
    else
      some (day.withdrawn player (Guild.clampMoney amount)
        (day.guild.HandleMemberWithdrawMoney player amount repair purse))
  | .SwapItems player tabId destTabId outcome =>
    some (day.moved player (day.guild.SwapItems player tabId destTabId outcome))
  | .SwapItemsWithInventory player toChar tabId outcome =>
    some (day.moved player (day.guild.SwapItemsWithInventory player toChar tabId outcome))
  | .HandleMemberDepositMoney amount =>
    some { day with guild := day.guild.HandleMemberDepositMoney amount }
  | .ranks (.AddMember ..) | .ranks (.DeleteMember ..) | .ranks (.otherGuild ..) => none
  | .ranks call =>
    (GuildWorld.next ⟨day.guild, ∅⟩ call).map fun w ↦ { day with guild := w.guild }

/-- A call, with its withdrawals written down. -/
def next (call : BankCall) : Option BankDay := (day.apply call).map fun after ↦
    { after with withdrawals := day.withdrawals ++ day.asked call }

end BankDay

/-- The day of a guild. -/
def bankMachine (guild : Guild) : Machine BankDay BankCall where
  start := .afterReset guild
  next := BankDay.next

end Gundrak
