import Gundrak.Util.Int32
import Gundrak.Util.Machine
import Gundrak.Util.ObjectGuid
import Gundrak.Util.TreeMap

/-!
# Guilds

A guild has ranks and members.  The ranks are a vector, the guild master's first, and a member holds
the index of his rank; which member is the leader is stored once more, as a guid.  A rank says what
its members may do, and how much they may take out of the guild bank between two resets.

What is modelled is what the calls of a session or a game master do to these data.  What is only
told to the clients or the database is left out, and so are the notes, the emblem and the logs.

The members are in a hash map, and two functions walk through it.  The order of the walk is not
determined by what the map holds, so these functions are given it.
-/

open Std (ExtTreeMap)

namespace Gundrak

/-! ## Ranks -/

/-- `GUILD_RANKS_MIN_COUNT`. -/
def GUILD_RANKS_MIN_COUNT : UInt8 := 5
/-- `GUILD_RANKS_MAX_COUNT`. -/
def GUILD_RANKS_MAX_COUNT : UInt8 := 10
/-- `GUILD_RANK_NONE`: no rank was passed. -/
def GUILD_RANK_NONE : UInt8 := 0xFF
/-- `GR_GUILDMASTER`. -/
def GR_GUILDMASTER : UInt8 := 0
/-- `GR_OFFICER`. -/
def GR_OFFICER : UInt8 := 1

/-- `GUILD_WITHDRAW_MONEY_UNLIMITED` and `GUILD_WITHDRAW_SLOT_UNLIMITED`. -/
def GUILD_WITHDRAW_UNLIMITED : UInt32 := 0xFFFFFFFF

/-- `GR_RIGHT_EMPTY`, a bit that most of the rights contain. -/
def GR_RIGHT_EMPTY : UInt32 := 0x00000040
/-- `GR_RIGHT_GCHATLISTEN`. -/
def GR_RIGHT_GCHATLISTEN : UInt32 := GR_RIGHT_EMPTY ||| 0x00000001
/-- `GR_RIGHT_GCHATSPEAK`. -/
def GR_RIGHT_GCHATSPEAK : UInt32 := GR_RIGHT_EMPTY ||| 0x00000002
/-- `GR_RIGHT_PROMOTE`. -/
def GR_RIGHT_PROMOTE : UInt32 := GR_RIGHT_EMPTY ||| 0x00000080
/-- `GR_RIGHT_DEMOTE`. -/
def GR_RIGHT_DEMOTE : UInt32 := GR_RIGHT_EMPTY ||| 0x00000100
/-- `GR_RIGHT_WITHDRAW_REPAIR`. -/
def GR_RIGHT_WITHDRAW_REPAIR : UInt32 := 0x00040000
/-- `GR_RIGHT_WITHDRAW_GOLD`. -/
def GR_RIGHT_WITHDRAW_GOLD : UInt32 := 0x00080000
/-- `GR_RIGHT_ALL`. -/
def GR_RIGHT_ALL : UInt32 := 0x001DF1FF

/-- `GUILD_BANK_RIGHT_VIEW_TAB`. -/
def GUILD_BANK_RIGHT_VIEW_TAB : UInt8 := 0x01
/-- `GUILD_BANK_RIGHT_DEPOSIT_ITEM`, the right to view a tab and the right to put an item into it. -/
def GUILD_BANK_RIGHT_DEPOSIT_ITEM : UInt8 := 0x03
/-- `GUILD_BANK_RIGHT_FULL`. -/
def GUILD_BANK_RIGHT_FULL : UInt8 := 0xFF

/-- `GuildBankRightsAndSlots`, without the number of the tab it is stored for. -/
structure GuildBankRightsAndSlots where
  rights : UInt8
  slots : UInt32
deriving DecidableEq

/-- `GuildBankRightsAndSlots::SetGuildMasterValues`. -/
def GuildBankRightsAndSlots.guildMasterValues : GuildBankRightsAndSlots :=
  ⟨GUILD_BANK_RIGHT_FULL, GUILD_WITHDRAW_UNLIMITED⟩

/-- `Guild::RankInfo`.  A bank has at most `GUILD_BANK_MAX_TABS = 6` tabs. -/
structure RankInfo where
  m_rankId : UInt8
  m_name : String
  m_rights : UInt32
  m_bankMoneyPerDay : UInt32
  m_bankTabRightsAndSlots : Fin 6 → GuildBankRightsAndSlots

namespace RankInfo

/-- The constructor of `RankInfo`. -/
def new (rankId : UInt8) (name : String) (rights money : UInt32) : RankInfo where
  m_rankId := rankId
  m_name := name
  m_rights := rights
  m_bankMoneyPerDay := if rankId ≠ GR_GUILDMASTER then money else GUILD_WITHDRAW_UNLIMITED
  m_bankTabRightsAndSlots _ := ⟨0, 0⟩

variable (rank : RankInfo)

/-- `RankInfo::SetRights`; the guild master's rank keeps all rights. -/
def SetRights (rights : UInt32) : RankInfo :=
  { rank with m_rights := if rank.m_rankId = GR_GUILDMASTER then GR_RIGHT_ALL else rights }

/-- `RankInfo::SetBankMoneyPerDay`. -/
def SetBankMoneyPerDay (money : UInt32) : RankInfo :=
  { rank with
    m_bankMoneyPerDay :=
      if rank.m_rankId = GR_GUILDMASTER then GUILD_WITHDRAW_UNLIMITED else money }

/-- `RankInfo::SetBankTabSlotsAndRights`. -/
def SetBankTabSlotsAndRights (tabId : Fin 6) (rightsAndSlots : GuildBankRightsAndSlots) :
    RankInfo :=
  { rank with
    m_bankTabRightsAndSlots := Function.update rank.m_bankTabRightsAndSlots tabId
      (if rank.m_rankId = GR_GUILDMASTER then .guildMasterValues else rightsAndSlots) }

end RankInfo

/-! ## Members -/

/-- The index of the money in `m_bankWithdraw`, `GUILD_BANK_MAX_TABS`; those below are the tabs. -/
def moneyTab : Fin 7 := Fin.last 6

/-- `Guild::Member`. -/
structure Member where
  m_guid : ObjectGuid
  m_name : String
  m_rankId : UInt8
  /-- `int32` numbers: what has been taken from each tab, and last the money. -/
  m_bankWithdraw : Fin 7 → ℤ

namespace Member

variable (member : Member)

/-- `Member::IsRank`. -/
def IsRank (rankId : UInt8) : Bool := member.m_rankId == rankId

/-- `Member::IsRankNotLower`. -/
def IsRankNotLower (rankId : UInt8) : Bool := decide (member.m_rankId ≤ rankId)

/-- `Member::IsSamePlayer`. -/
def IsSamePlayer (guid : ObjectGuid) : Bool := member.m_guid == guid

/-- `Member::ChangeRank`. -/
def ChangeRank (newRank : UInt8) : Member := { member with m_rankId := newRank }

/-- `Member::UpdateBankWithdrawValue`. -/
def UpdateBankWithdrawValue (tabId : Fin 7) (amount : UInt32) : Member :=
  { member with
    m_bankWithdraw := Function.update member.m_bankWithdraw tabId
      (int32 (member.m_bankWithdraw tabId + amount.toNat)) }

/-- `Member::ResetValues`. -/
def ResetValues : Member := { member with m_bankWithdraw := fun _ ↦ 0 }

/-- `Member::GetBankWithdrawValue`. -/
def GetBankWithdrawValue (tabId : Fin 7) : ℤ :=
  if member.IsRank GR_GUILDMASTER then int32 GUILD_WITHDRAW_UNLIMITED.toNat
  else member.m_bankWithdraw tabId

end Member

/-! ## Guilds -/

/-- `Guild`.  Of the bank there is the money and the number of tabs. -/
structure Guild where
  m_leaderGuid : ObjectGuid
  m_bankMoney : UInt64
  m_ranks : List RankInfo
  m_members : ExtTreeMap ObjectGuid Member
  purchasedTabs : ℕ

namespace Guild

variable (guild : Guild)

/-- `Guild::_GetRanksSize`. -/
def GetRanksSize : UInt8 := UInt8.ofNat guild.m_ranks.length

/-- `Guild::_GetLowestRankId`. -/
def GetLowestRankId : UInt8 := UInt8.ofNat guild.m_ranks.length - 1

/-- `Guild::GetRankInfo`. -/
def GetRankInfo (rankId : UInt8) : Option RankInfo :=
  if rankId < guild.GetRanksSize then guild.m_ranks[rankId.toNat]? else none

/-- `Guild::GetMember`, by guid. -/
def GetMember (guid : ObjectGuid) : Option Member := guild.m_members[guid]?

/-- The members in the order of a walk through the hash map. -/
def membersAlong (walk : List ObjectGuid) : List Member := walk.filterMap fun guid ↦ guild.m_members[guid]?

/-- `Guild::GetMember`, by name. -/
def GetMemberByName (walk : List ObjectGuid) (name : String) : Option Member :=
  (guild.membersAlong walk).find? fun member ↦ member.m_name == name

/-- `Guild::_GetRankRights`. -/
def GetRankRights (rankId : UInt8) : UInt32 :=
  match guild.GetRankInfo rankId with
  | some rankInfo => rankInfo.m_rights
  | none => 0

/-- `Guild::_HasRankRight`. -/
def HasRankRight (player : ObjectGuid) (right : UInt32) : Bool :=
  match guild.GetMember player with
  | some member => (guild.GetRankRights member.m_rankId &&& right) != GR_RIGHT_EMPTY
  | none => false

/-- `Guild::_IsLeader`. -/
def IsLeader (player : ObjectGuid) : Bool :=
  if player = guild.m_leaderGuid then true
  else
    match guild.GetMember player with
    | some member => member.IsRank GR_GUILDMASTER
    | none => false

/-- Change a member where he is. -/
def modifyMember (guid : ObjectGuid) (f : Member → Member) : Guild :=
  { guild with m_members := guild.m_members.modify guid f }

/-- `Member::ChangeRank`, on the member with the given guid. -/
def ChangeRank (guid : ObjectGuid) (newRank : UInt8) : Guild :=
  guild.modifyMember guid fun member ↦ member.ChangeRank newRank

/-- `Guild::_SetLeaderGUID`. -/
def SetLeaderGUID (pLeader : Member) : Guild :=
  { guild.ChangeRank pLeader.m_guid GR_GUILDMASTER with m_leaderGuid := pLeader.m_guid }

/-- `Guild::_CreateRank`.  A new rank has no rights in the bank. -/
def CreateRank (name : String) (rights : UInt32) : Guild :=
  let newRankId := guild.GetRanksSize
  if newRankId ≥ GUILD_RANKS_MAX_COUNT then guild
  else { guild with m_ranks := guild.m_ranks ++ [.new newRankId name rights 0] }

/-- A guild starts with five ranks. -/
instance neZero_defaultRanks : NeZero 5 := ⟨by decide⟩

/-- `Guild::_CreateDefaultGuildRanks`, with the names of the ranks in the locale of the leader. -/
def CreateDefaultGuildRanks (names : Fin 5 → String) : Guild :=
  let guild := guild.CreateRank (names 0) GR_RIGHT_ALL
  let guild := guild.CreateRank (names 1) GR_RIGHT_ALL
  let guild := guild.CreateRank (names 2) (GR_RIGHT_GCHATLISTEN ||| GR_RIGHT_GCHATSPEAK)
  let guild := guild.CreateRank (names 3) (GR_RIGHT_GCHATLISTEN ||| GR_RIGHT_GCHATSPEAK)
  guild.CreateRank (names 4) (GR_RIGHT_GCHATLISTEN ||| GR_RIGHT_GCHATSPEAK)

/-! ### What the leader may do -/

/-- `Guild::HandleSetLeader`. -/
def HandleSetLeader (player : ObjectGuid) (walk : List ObjectGuid) (name : String) : Guild :=
  if !guild.IsLeader player then guild
  else
    match guild.GetMember player with
    | none => guild
    | some pOldLeader =>
      match guild.GetMemberByName walk name with
      | none => guild
      | some pNewLeader =>
        (guild.SetLeaderGUID pNewLeader).ChangeRank pOldLeader.m_guid GR_OFFICER

/-- `Guild::HandleSetRankInfo`. -/
def HandleSetRankInfo (player : ObjectGuid) (rankId : UInt8) (name : String)
    (rights moneyPerDay : UInt32) (rightsAndSlots : List (Fin 6 × GuildBankRightsAndSlots)) :
    Guild :=
  if !guild.IsLeader player then guild
  else
    match guild.GetRankInfo rankId with
    | none => guild
    | some rankInfo =>
      let rankInfo := { rankInfo with m_name := name }
      let rankInfo := (rankInfo.SetRights rights).SetBankMoneyPerDay moneyPerDay
      let rankInfo := rightsAndSlots.foldl (fun rankInfo entry ↦
        if entry.1.val ≥ guild.purchasedTabs then rankInfo
        else rankInfo.SetBankTabSlotsAndRights entry.1 entry.2) rankInfo
      { guild with m_ranks := guild.m_ranks.set rankId.toNat rankInfo }

/-- `Guild::HandleAddNewRank`. -/
def HandleAddNewRank (player : ObjectGuid) (name : String) : Guild :=
  if guild.GetRanksSize ≥ GUILD_RANKS_MAX_COUNT then guild
  else if guild.IsLeader player then
    guild.CreateRank name (GR_RIGHT_GCHATLISTEN ||| GR_RIGHT_GCHATSPEAK)
  else guild

/-- `Guild::HandleRemoveRank`.  The rank that goes is the last one, whatever `rankId` is. -/
def HandleRemoveRank (player : ObjectGuid) (rankId : UInt8) : Guild :=
  if guild.GetRanksSize ≤ GUILD_RANKS_MIN_COUNT ∨ rankId ≥ guild.GetRanksSize ∨ !guild.IsLeader player then guild
  else { guild with m_ranks := guild.m_ranks.dropLast }

/-- `Guild::HandleRemoveLowestRank`. -/
def HandleRemoveLowestRank (player : ObjectGuid) : Guild := guild.HandleRemoveRank player guild.GetLowestRankId

/-! ### Changing the rank of a member -/

/-- `Guild::HandleUpdateMemberRank`. -/
def HandleUpdateMemberRank (player : ObjectGuid) (walk : List ObjectGuid) (name : String)
    (demote : Bool) : Guild :=
  if !guild.HasRankRight player (if demote then GR_RIGHT_DEMOTE else GR_RIGHT_PROMOTE) then guild
  else
    match guild.GetMemberByName walk name, guild.GetMember player with
    | some member, some memberMe =>
      if member.IsSamePlayer player then guild
      else
        let rankId := memberMe.m_rankId
        if demote then
          if member.IsRankNotLower rankId then guild
          else if member.m_rankId ≥ guild.GetLowestRankId then guild
          else guild.ChangeRank member.m_guid (member.m_rankId + 1)
        else if member.IsRankNotLower (rankId + 1) then guild
        else guild.ChangeRank member.m_guid (member.m_rankId - 1)
    | _, _ => guild

/-- `Guild::ChangeMemberRank`. -/
def ChangeMemberRank (guid : ObjectGuid) (newRank : UInt8) : Guild :=
  if newRank ≤ guild.GetLowestRankId then
    match guild.GetMember guid with
    | some _ => guild.ChangeRank guid newRank
    | none => guild
  else guild

/-- `Guild::ResetTimes`. -/
def ResetTimes : Guild :=
  { guild with m_members := guild.m_members.map fun _ member ↦ member.ResetValues }

end Guild

/-! ## Joining and leaving -/

/-- A guild among the characters of the realm; `inGuild` are those whose guild id is not 0. -/
structure GuildWorld where
  guild : Guild
  inGuild : Finset ObjectGuid

namespace GuildWorld

variable (w : GuildWorld)

/-- `Guild::AddMember`.  `stats` is the name of the character, with its other data; it is missing for
an offline character whose data are not found or broken. -/
def AddMember (guid : ObjectGuid) (rankId : UInt8) (stats : Option String) : GuildWorld :=
  if guid ∈ w.inGuild then w
  else
    match stats with
    | none => w
    | some name =>
      let rankId := if rankId = GUILD_RANK_NONE then w.guild.GetLowestRankId else rankId
      { guild := { w.guild with
          m_members := w.guild.m_members.insert guid ⟨guid, name, rankId, fun _ ↦ 0⟩ }
        inGuild := insert guid w.inGuild }

/-- One pass of the loop of `DeleteMember` that looks for a new leader. -/
def considerLeader (guid : ObjectGuid) (newLeader : Option Member) (member : Member) : Option Member :=
  if member.m_guid = guid then newLeader
  else
    match newLeader with
    | none => some member
    | some best => if best.m_rankId > member.m_rankId then some member else newLeader

/-- The end of `DeleteMember`. -/
def eraseMember (guid : ObjectGuid) : GuildWorld :=
  { guild := { w.guild with m_members := w.guild.m_members.erase guid }
    inGuild := w.inGuild.erase guid }

/-- `Guild::DeleteMember`, when the guild is not being disbanded.  `none` when it is disbanded now,
because there is nobody left to lead it. -/
def DeleteMember (guid : ObjectGuid) (walk : List ObjectGuid) : Option GuildWorld :=
  if w.guild.m_leaderGuid = guid then
    match (w.guild.membersAlong walk).foldl (considerLeader guid) none with
    | none => none
    | some newLeader =>
      some ({ w with guild := w.guild.SetLeaderGUID newLeader }.eraseMember guid)
  else some (w.eraseMember guid)

/-- `Guild::Create`, for a leader who is not in a guild; `inGuild` are the characters that are. -/
def Create (leader : ObjectGuid) (leaderName : String) (rankNames : Fin 5 → String)
    (inGuild : Finset ObjectGuid) : Option GuildWorld :=
  if leader ∈ inGuild then none
  else
    let guild : Guild := ⟨leader, 0, [], ∅, 0⟩
    some (GuildWorld.AddMember ⟨guild.CreateDefaultGuildRanks rankNames, inGuild⟩ leader
      GR_GUILDMASTER (some leaderName))

end GuildWorld

end Gundrak
