import Gundrak.Util.Machine
import Gundrak.Util.ObjectGuid

/-!
# Groups and raids

A `Group` has a list of member slots, which stay when a member goes offline, and a leader.  A raid also
counts, in eight `uint8`, how many of its slots are in each subgroup.  How many members are *online* a
group only knows from the references that player objects have to it: a player has one reference to the
group it is in, and one to its original group while it is in a battleground or a battlefield.

What is modelled is who is in the group, in which subgroup, and who leads it, for one group and all players
whose objects exist.  Other groups appear by what they do to the references of a player.  Names, roles and
difficulties are left out, and so is loot, which `RollTally` is about.
-/

namespace Gundrak.Grouping

/-- `MAXGROUPSIZE`. -/
def MAXGROUPSIZE : ℕ := 5

/-- `MAXRAIDSIZE`. -/
def MAXRAIDSIZE : ℕ := 40

/-- `MAX_RAID_SUBGROUPS`. -/
def MAX_RAID_SUBGROUPS : ℕ := MAXRAIDSIZE / MAXGROUPSIZE

/-- `RemoveMethod`. -/
inductive RemoveMethod where
  | DEFAULT
  | KICK
  | LEAVE
  | KICK_LFG
deriving DecidableEq

/-- `Group::MemberSlot`. -/
structure MemberSlot where
  guid : ObjectGuid
  group : UInt8
deriving DecidableEq

/-- What a `Player` knows of groups: the `m_guid` of the ones it has references to. -/
structure Player where
  guid : ObjectGuid
  m_group : Option ℕ
  m_originalGroup : Option ℕ
deriving DecidableEq

/-- A created `Group`; `raid` and `lfg` are the flags of its `m_groupType`, and `bg` and `bf` say whether
there are an `m_bgGroup` and an `m_bfGroup`. -/
structure Group where
  m_guid : ℕ
  m_memberSlots : List MemberSlot
  /-- an array of eight, or a null pointer -/
  m_subGroupsCounts : Option (List UInt8)
  m_leaderGuid : ObjectGuid
  raid : Bool
  lfg : Bool
  bg : Bool
  bf : Bool
deriving DecidableEq

/-- The group, while it exists, and the players that `FindConnectedPlayer` finds. -/
structure World where
  players : List Player
  group : Option Group
deriving DecidableEq

/-! ## References -/

namespace Player

variable (p : Player)

/-- `Player::SetGroup`. -/
def SetGroup (group : Option ℕ) : Player := { p with m_group := group }

/-- `Player::SetOriginalGroup`. -/
def SetOriginalGroup (group : Option ℕ) : Player := { p with m_originalGroup := group }

/-- `Player::SetBattlegroundOrBattlefieldRaid`. -/
def SetBattlegroundOrBattlefieldRaid (group : ℕ) : Player :=
  { p.SetOriginalGroup p.m_group with m_group := some group }

/-- `Player::RemoveFromBattlegroundOrBattlefieldRaid`. -/
def RemoveFromBattlegroundOrBattlefieldRaid : Player :=
  { p with m_group := p.m_originalGroup }.SetOriginalGroup none

/-- How a group is linked when it adds a player. -/
def join (group : ℕ) (isBGOrBF : Bool) : Player :=
  if p.m_group.isSome then
    if isBGOrBF then p.SetBattlegroundOrBattlefieldRaid group else p.SetOriginalGroup (some group)
  else p.SetGroup (some group)

/-- How a group is unlinked when it removes a player, or is disbanded. -/
def leave (group : ℕ) (isBGOrBF : Bool) : Player :=
  if isBGOrBF then p.RemoveFromBattlegroundOrBattlefieldRaid
  else if p.m_originalGroup = some group then p.SetOriginalGroup none
  else p.SetGroup none

/-- `Group::DelinkMember`, for the one reference that can be left after `leave`. -/
def DelinkMember (group : ℕ) : Player :=
  if p.m_group = some group then p.SetGroup none
  else if p.m_originalGroup = some group then p.SetOriginalGroup none
  else p

/-- How a group takes a player out; `DelinkMember` is only for groups that are stored. -/
def unlink (group : ℕ) (isBGOrBF : Bool) : Player :=
  if isBGOrBF then p.leave group true else (p.leave group false).DelinkMember group

/-- The destructor of a group invalidates all references to it. -/
def clearReferences (group : ℕ) : Player where
  guid := p.guid
  m_group := if p.m_group = some group then none else p.m_group
  m_originalGroup := if p.m_originalGroup = some group then none else p.m_originalGroup

/-- How many references a player has to a group. -/
def references (group : ℕ) : ℕ :=
  (if p.m_group = some group then 1 else 0) + if p.m_originalGroup = some group then 1 else 0

end Player

/-- `ObjectAccessor::FindConnectedPlayer`. -/
def FindConnectedPlayer (players : List Player) (guid : ObjectGuid) : Option Player := players.find? (·.guid = guid)

/-- Do something to the player object with a guid, if there is one. -/
def update (players : List Player) (guid : ObjectGuid) (f : Player → Player) : List Player :=
  players.map fun p ↦ if p.guid = guid then f p else p

/-! ## Groups -/

namespace Group

variable (g : Group)

/-- `Group::isRaidGroup`. -/
def isRaidGroup : Bool := g.raid

/-- `Group::isLFGGroup`. -/
def isLFGGroup : Bool := g.lfg

/-- `Group::isBGGroup`. -/
def isBGGroup : Bool := g.bg

/-- `Group::isBFGroup`. -/
def isBFGroup : Bool := g.bf

/-- `isBGGroup() || isBFGroup()`. -/
def isBGOrBFGroup : Bool := g.isBGGroup || g.isBFGroup

/-- `Group::GetMembersCount`. -/
def GetMembersCount : ℕ := g.m_memberSlots.length

/-- `Group::IsFull`, which callers ask before they add somebody. -/
def IsFull : Bool :=
  if g.isRaidGroup then MAXRAIDSIZE ≤ g.m_memberSlots.length
  else MAXGROUPSIZE ≤ g.m_memberSlots.length

/-- `Group::IsMember`. -/
def IsMember (guid : ObjectGuid) : Bool := g.m_memberSlots.any (·.guid = guid)

/-- `Group::_getMemberWSlot`; the iterator is the index of the slot. -/
def _getMemberWSlot (guid : ObjectGuid) : Option ℕ := g.m_memberSlots.findIdx? (·.guid = guid)

/-- `Group::GetMemberGroup`. -/
def GetMemberGroup (guid : ObjectGuid) : UInt8 :=
  match g.m_memberSlots.find? (·.guid = guid) with
  | some slot => slot.group
  | none => UInt8.ofNat (MAX_RAID_SUBGROUPS + 1)

/-- `Group::HasFreeSlotSubGroup`. -/
def HasFreeSlotSubGroup (subgroup : UInt8) : Bool :=
  match g.m_subGroupsCounts with
  | none => false
  | some counts => (counts[subgroup.toNat]?).any (·.toNat < MAXGROUPSIZE)

/-- `Group::SubGroupCounterIncrease`. -/
def SubGroupCounterIncrease (subgroup : UInt8) : Group :=
  { g with
    m_subGroupsCounts := g.m_subGroupsCounts.map fun counts ↦ counts.modify subgroup.toNat (· + 1) }

/-- `Group::SubGroupCounterDecrease`. -/
def SubGroupCounterDecrease (subgroup : UInt8) : Group :=
  { g with
    m_subGroupsCounts := g.m_subGroupsCounts.map fun counts ↦ counts.modify subgroup.toNat (· - 1) }

/-- The counters that `_initRaidSubGroupsCounter` makes of a list of slots. -/
def countSlots (slots : List MemberSlot) : List UInt8 :=
  slots.foldl (fun counts slot ↦ counts.modify slot.group.toNat (· + 1))
    (List.replicate MAX_RAID_SUBGROUPS 0)

/-- `Group::_initRaidSubGroupsCounter`. -/
def _initRaidSubGroupsCounter : Group :=
  { g with m_subGroupsCounts := some (countSlots g.m_memberSlots) }

/-- The loop of `AddMember` for the first subgroup that is not full; a group without counters uses the
first one. -/
def freeSubGroup : Option UInt8 :=
  match g.m_subGroupsCounts with
  | none => some 0
  | some counts => (counts.findIdx? (·.toNat < MAXGROUPSIZE)).map UInt8.ofNat

/-- What `AddMember` does to the group, once it has a subgroup. -/
def pushSlot (guid : ObjectGuid) (subGroup : UInt8) : Group :=
  SubGroupCounterIncrease { g with m_memberSlots := g.m_memberSlots ++ [⟨guid, subGroup⟩] } subGroup

/-- `Group::ConvertToRaid`. -/
def ConvertToRaid : Group := { g with raid := true }._initRaidSubGroupsCounter

/-- `Group::ConvertToLFG`. -/
def ConvertToLFG : Group := { g with lfg := true }

/-- `Group::ChangeMembersGroup`; the subgroup that a reference carries is left out. -/
def ChangeMembersGroup (guid : ObjectGuid) (group : UInt8) : Group :=
  if !g.isRaidGroup then g
  else
    match g._getMemberWSlot guid with
    | none => g
    | some slot =>
      if g.GetMemberGroup guid = group then g
      else
        let g' : Group :=
          { g with m_memberSlots := g.m_memberSlots.modify slot ({ · with group := group }) }
        (g'.SubGroupCounterIncrease group).SubGroupCounterDecrease (g.GetMemberGroup guid)

/-- `Group::ChangeLeader`. -/
def ChangeLeader (players : List Player) (newLeaderGuid : ObjectGuid) : Group :=
  match g.m_memberSlots.find? (·.guid = newLeaderGuid) with
  | none => g
  | some slot =>
    match FindConnectedPlayer players slot.guid with
    | none => g
    | some newLeader => { g with m_leaderGuid := newLeader.guid }

/-- `RemoveMember` takes the slot of the member away. -/
def eraseSlot (guid : ObjectGuid) : Group :=
  match g._getMemberWSlot guid with
  | none => g
  | some slot =>
    match g.m_memberSlots[slot]? with
    | none => g
    | some member =>
      { g.SubGroupCounterDecrease member.group with m_memberSlots := g.m_memberSlots.eraseIdx slot }

/-- `RemoveMember` picks the first member that is connected as the new leader, if there is one. -/
def pickLeader (players : List Player) : Group :=
  match g.m_memberSlots.find? fun slot ↦ (FindConnectedPlayer players slot.guid).isSome with
  | none => g
  | some slot => g.ChangeLeader players slot.guid

/-- What `RemoveMember` does to the group: slot and leader. -/
def dropMember (players : List Player) (guid : ObjectGuid) : Group :=
  let g' := g.eraseSlot guid
  if g'.m_leaderGuid = guid then g'.pickLeader players else g'

/-- `m_memberMgr.getSize()`. -/
def getSize (players : List Player) : ℕ := (players.map (·.references g.m_guid)).sum

end Group

/-! ## Calls that concern players and the group -/

namespace World

variable (w : World)

/-- `Group::Disband`: all members who are connected leave, and the group is deleted. -/
def Disband (g : Group) : World where
  players := (g.m_memberSlots.foldl
    (fun players slot ↦ update players slot.guid (·.leave g.m_guid g.isBGOrBFGroup)) w.players).map
      (·.clearReferences g.m_guid)
  group := none

/-- `Group::AddMember`, with what it returns. -/
def AddMember (g : Group) (player : ObjectGuid) : World × Bool :=
  match g.freeSubGroup with
  | none => (w, false)
  | some subGroup =>
    ({ players := update w.players player (·.join g.m_guid g.isBGOrBFGroup)
       group := some (g.pushSlot player subGroup) }, true)

/-- A group before `Create` has done anything; a battleground or battlefield makes it a raid. -/
def created (m_guid : ℕ) (leader : ObjectGuid) (lfg bg bf : Bool) : Group :=
  let g : Group :=
    { m_guid, m_memberSlots := [], m_subGroupsCounts := none, m_leaderGuid := leader
      raid := bg || bf, lfg := lfg && !(bg || bf), bg, bf }
  if g.isRaidGroup then g._initRaidSubGroupsCounter else g

/-- `Group::Create`. -/
def Create (m_guid : ℕ) (leader : ObjectGuid) (lfg bg bf : Bool) : World × Bool :=
  w.AddMember (created m_guid leader lfg bg bf) leader

/-- `Group::RemoveMember`, with what it returns.  `inDungeon` says whether a looking-for-group member that
is left alone may stay: there is a dungeon, and he is on its map or not alive. -/
def RemoveMember (g : Group) (guid : ObjectGuid) (method : RemoveMethod) (inDungeon : Bool) :
    World × Bool :=
  if g.isLFGGroup ∧ method = .KICK then (w, !g.m_memberSlots.isEmpty)
  else if (if g.isBGGroup || g.isLFGGroup || g.isBFGroup then 1 else 2) < g.GetMembersCount then
    let players := update w.players guid (·.unlink g.m_guid g.isBGOrBFGroup)
    let g' := g.dropMember players guid
    let w' : World := ⟨players, some g'⟩
    if g'.isLFGGroup ∧ g'.GetMembersCount = 1 ∧
        ((FindConnectedPlayer players g'.m_leaderGuid).isNone ∨ inDungeon = false) then
      (w'.Disband g', false)
    else if g'.getSize players < (if g'.isLFGGroup || g'.isBGGroup then 1 else 2) then
      (w'.Disband g', true)
    else (w', true)
  else (w.Disband g, false)

end World

/-! ## Runs -/

/-- What happens to a group and to the players around it. -/
inductive Call where
  | Create (m_guid : ℕ) (leader : ObjectGuid) (lfg bg bf : Bool)
  | AddMember (player : ObjectGuid)
  | ConvertToRaid
  | ConvertToLFG
  | ChangeMembersGroup (guid : ObjectGuid) (group : UInt8)
  | RemoveMember (guid : ObjectGuid) (method : RemoveMethod) (inDungeon : Bool)
  | ChangeLeader (newLeaderGuid : ObjectGuid)
  | Disband
  /-- a player logs in; `_LoadGroup` finds the group of his that is stored -/
  | Connect (guid : ObjectGuid) (stored : Option ℕ)
  /-- a player object is deleted, with its references -/
  | Disconnect (guid : ObjectGuid)
  /-- a battleground or battlefield finds a player in the group it has for him -/
  | SetBattlegroundOrBattlefieldRaid (guid : ObjectGuid)
  /-- another group adds a player -/
  | AnotherAdds (group : ℕ) (isBGOrBF : Bool) (guid : ObjectGuid)
  /-- another group removes a player -/
  | AnotherRemoves (group : ℕ) (isBGOrBF : Bool) (guid : ObjectGuid)
  /-- another group is deleted -/
  | AnotherGone (group : ℕ)

namespace World

variable (w : World)

/-- The row that the database has for a player names this group only if he has a slot in it, and it is no
group of a battleground or battlefield, for which nothing is stored. -/
def Stored (guid : ObjectGuid) (stored : Option ℕ) : Prop :=
  ∀ g ∈ w.group, stored = some g.m_guid → g.isBGOrBFGroup = false ∧ g.IsMember guid

instance (guid : ObjectGuid) (stored : Option ℕ) : Decidable (w.Stored guid stored) :=
  inferInstanceAs (Decidable (∀ g ∈ w.group, _))

/-- A group that is not the one modelled. -/
def Another (group : ℕ) : Prop := ∀ g ∈ w.group, g.m_guid ≠ group

instance (group : ℕ) : Decidable (w.Another group) := inferInstanceAs (Decidable (∀ g ∈ w.group, _))

/-- What a call does.  A group is created with an `m_guid` that nothing refers to, and the players that are
handed to it are connected. -/
def next : Call → Option World
  | .Create m_guid leader lfg bg bf =>
    if w.group = none ∧ (∀ p ∈ w.players, p.references m_guid = 0) ∧ (FindConnectedPlayer w.players leader).isSome then
      some (w.Create m_guid leader lfg bg bf).1
    else none
  | .AddMember player => w.group.bind fun g ↦
    if (FindConnectedPlayer w.players player).isSome then some (w.AddMember g player).1 else none
  | .ConvertToRaid => w.group.map fun g ↦ { w with group := some g.ConvertToRaid }
  | .ConvertToLFG => w.group.map fun g ↦ { w with group := some g.ConvertToLFG }
  | .ChangeMembersGroup guid group =>
    w.group.map fun g ↦ { w with group := some (g.ChangeMembersGroup guid group) }
  | .RemoveMember guid method inDungeon =>
    w.group.map fun g ↦ (w.RemoveMember g guid method inDungeon).1
  | .ChangeLeader newLeaderGuid =>
    w.group.map fun g ↦ { w with group := some (g.ChangeLeader w.players newLeaderGuid) }
  | .Disband => w.group.map w.Disband
  | .Connect guid stored =>
    if (FindConnectedPlayer w.players guid).isNone ∧ w.Stored guid stored then
      some { w with players := w.players ++ [(Player.mk guid none none).SetGroup stored] }
    else none
  | .Disconnect guid => some { w with players := w.players.filter (·.guid ≠ guid) }
  | .SetBattlegroundOrBattlefieldRaid guid => w.group.bind fun g ↦
    if g.isBGOrBFGroup ∧ g.IsMember guid then
      some { w with
        players := update w.players guid (·.SetBattlegroundOrBattlefieldRaid g.m_guid) }
    else none
  | .AnotherAdds group isBGOrBF guid =>
    if w.Another group then
      some { w with players := update w.players guid (·.join group isBGOrBF) }
    else none
  | .AnotherRemoves group isBGOrBF guid =>
    if w.Another group then
      some { w with players := update w.players guid (·.unlink group isBGOrBF) }
    else none
  | .AnotherGone group =>
    if w.Another group then some { w with players := w.players.map (·.clearReferences group) }
    else none

end World

/-- The group and the players as a machine; at the start there are neither. -/
def machine : Machine World Call where
  start := ⟨[], none⟩
  next := World.next

end Gundrak.Grouping
