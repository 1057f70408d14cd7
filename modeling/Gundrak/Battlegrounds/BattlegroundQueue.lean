import Gundrak.Util.Machine
import Gundrak.Util.ObjectGuid
import Gundrak.Util.TreeMap

/-!
# The battleground queue

Players queue for a battleground in groups.  A `GroupQueueInfo` stands in one of the five lists of
its level bracket: two for premade groups and rated arena teams, two for everybody else, one for
everybody when factions are mixed.  An update selects groups from these lists into two selection
pools, one a team, and invites the pools to a battleground.

A `GroupQueueInfo` is a heap object that the lists, the pools and the entries of `m_QueuedPlayers`
point to: a `GroupId` names one and `BattlegroundQueue.groups` is the heap.  Its `Players` map leads
from guids to the entries of `m_QueuedPlayers` under the same guids, so only the guids are kept.

What an update asks of its surroundings (the battlegrounds with free slots, the template of the type,
what becomes of a battleground that has to be created, the configuration) is part of the call.  What
goes to clients and to the battleground itself is left out, and so are the waiting time statistics
and the timed events.
-/

open Std (ExtTreeMap)

namespace Gundrak

/-- The two factions: the values of `Team` as well as the indices of `TeamId`. -/
inductive Team where
  | alliance
  | horde
deriving DecidableEq, Repr

namespace Team

/-- The value of the enumeration `Team`, as `CFSTeam` holds it. -/
def id : Team → UInt32
  | alliance => 469
  | horde => 67

/-- The other faction. -/
def other : Team → Team
  | alliance => horde
  | horde => alliance

/-- A pair of values, one a team. -/
def choose {α : Type} (forAlliance forHorde : α) : Team → α
  | alliance => forAlliance
  | horde => forHorde

end Team

/-- `BattlegroundQueueGroupTypes`. -/
inductive QueueGroupType where
  /-- `BG_QUEUE_PREMADE_ALLIANCE` and `BG_QUEUE_PREMADE_HORDE` -/
  | premade (team : Team)
  /-- `BG_QUEUE_NORMAL_ALLIANCE` and `BG_QUEUE_NORMAL_HORDE` -/
  | normal (team : Team)
  /-- `BG_QUEUE_CROSSFACTION` -/
  | crossfaction
deriving DecidableEq, Repr

/-- The group types in the order of their indices. -/
def QueueGroupType.all : List QueueGroupType :=
  [.premade .alliance, .premade .horde, .normal .alliance, .normal .horde, .crossfaction]

/-- `BattlegroundQueueInvitationType`. -/
inductive InvitationType where
  | noBalance
  | balanced
  | even
deriving DecidableEq, Repr

/-- `BattlegroundBracketId`, below `MAX_BATTLEGROUND_BRACKETS`. -/
abbrev BracketId := Fin 16

instance neZero_bracketId : NeZero 16 := ⟨by decide⟩

/-- The address of a `GroupQueueInfo`. -/
abbrev GroupId := ℕ

/-- `PlayerQueueInfo`. -/
structure PlayerQueueInfo where
  LastOnlineTime : UInt32
  GroupInfo : GroupId
deriving DecidableEq, Repr

/-- `GroupQueueInfo`. -/
structure GroupQueueInfo where
  Players : Finset ObjectGuid
  Team : Team
  CFSTeam : UInt32
  BgTypeId : ℕ
  IsRated : Bool
  ArenaType : ℕ
  ArenaTeamId : ℕ
  JoinTime : UInt32
  RemoveInviteTime : UInt32
  IsInvitedToBGInstanceGUID : ℕ
  ArenaTeamRating : UInt32
  ArenaMatchmakerRating : UInt32
  OpponentsTeamRating : UInt32
  OpponentsMatchmakerRating : UInt32
deriving DecidableEq

/-- What a dangling pointer would be read as; the queue holds none. -/
instance : Inhabited GroupQueueInfo where
  default :=
    { Players := ∅, Team := .alliance, CFSTeam := 0, BgTypeId := 0, IsRated := false, ArenaType := 0
      ArenaTeamId := 0, JoinTime := 0, RemoveInviteTime := 0, IsInvitedToBGInstanceGUID := 0
      ArenaTeamRating := 0, ArenaMatchmakerRating := 0, OpponentsTeamRating := 0
      OpponentsMatchmakerRating := 0 }

/-- `BattlegroundQueue::SelectionPool`. -/
structure SelectionPool where
  SelectedGroups : List GroupId
  PlayerCount : ℕ
deriving DecidableEq, Repr

/-- `BattlegroundQueue`, with the heap of its groups. -/
structure BattlegroundQueue where
  m_QueuedPlayers : ExtTreeMap ObjectGuid PlayerQueueInfo
  m_QueuedGroups : BracketId → QueueGroupType → List GroupId
  m_SelectionPools : Team → SelectionPool
  /-- The groups created and not deleted so far. -/
  groups : ExtTreeMap GroupId GroupQueueInfo
  /-- The address the next group is created at. -/
  nextGroup : GroupId

/-- The part of a `Battleground` the queue reads. -/
structure Battleground where
  GetInstanceID : ℕ
  GetTypeID : ℕ
  GetBracketId : BracketId
  GetStatus : ℕ
  GetMinPlayersPerTeam : ℕ
  GetMaxPlayersPerTeam : ℕ
  GetFreeSlotsForTeam : Team → ℕ
  isArena : Bool
  isRated : Bool

/-- A battleground that was created from its template: only templates have the instance id 0. -/
abbrev BattlegroundInstance := {bg : Battleground // bg.GetInstanceID ≠ 0}

/-- The settings of `sWorld` and `sBattlegroundMgr` the queue reads, and the time. -/
structure BattlegroundConfig where
  /-- `BATTLEGROUND_CROSSFACTION_ENABLED` -/
  crossfactionEnabled : Bool
  /-- `CONFIG_BATTLEGROUND_INVITATION_TYPE` -/
  invitationType : InvitationType
  /-- `CONFIG_BATTLEGROUND_PREMADE_GROUP_WAIT_FOR_MATCH` -/
  premadeGroupWaitForMatch : UInt32
  isTesting : Bool
  isArenaTesting : Bool
  GetMaxRatingDifference : UInt32
  GetRatingDiscardTimer : UInt32
  GetGameTimeMS : UInt32

/-- `INVITE_ACCEPT_WAIT_TIME`. -/
def inviteAcceptWaitTime : UInt32 := 60000

namespace BattlegroundQueue

/-- The queue of a server that has just started. -/
def new : BattlegroundQueue where
  m_QueuedPlayers := ∅
  m_QueuedGroups _ _ := []
  m_SelectionPools _ := ⟨[], 0⟩
  groups := ∅
  nextGroup := 0

variable (q : BattlegroundQueue)

/-- Follow a pointer to a group. -/
def group (g : GroupId) : GroupQueueInfo := (q.groups[g]?).getD default

/-- `Players.size()` through a pointer. -/
def size (g : GroupId) : ℕ := (q.group g).Players.card

/-- `IsInvitedToBGInstanceGUID` as a condition. -/
def isInvited (g : GroupId) : Bool := (q.group g).IsInvitedToBGInstanceGUID != 0

/-- Assign to members of the group at `g`. -/
def modifyGroup (g : GroupId) (f : GroupQueueInfo → GroupQueueInfo) : BattlegroundQueue :=
  { q with groups := q.groups.modify g f }

/-- Assign `Team` through a pointer. -/
def setTeam (g : GroupId) (team : Team) : BattlegroundQueue := q.modifyGroup g fun i ↦ { i with Team := team }

/-- Assign one of the lists. -/
def setList (bracket_id : BracketId) (index : QueueGroupType) (l : List GroupId) :
    BattlegroundQueue :=
  { q with
    m_QueuedGroups := Function.update q.m_QueuedGroups bracket_id
        (Function.update (q.m_QueuedGroups bracket_id) index l) }

/-- Assign one of the selection pools. -/
def setPool (team : Team) (pool : SelectionPool) : BattlegroundQueue :=
  { q with m_SelectionPools := Function.update q.m_SelectionPools team pool }

/-- `GetPlayerCount` of a selection pool. -/
def playerCount (team : Team) : ℕ := (q.m_SelectionPools team).PlayerCount

/-! ## Selection pools -/

/-- `SelectionPool::Init`. -/
def init (team : Team) : BattlegroundQueue := q.setPool team ⟨[], 0⟩

/-- `SelectionPool::AddGroup`.  The answer `true` is given when the group was added, but also when it
was not and the pool still has room. -/
def addToPool (team : Team) (ginfo : GroupId) (desiredCount : ℕ) : BattlegroundQueue × Bool :=
  let pool := q.m_SelectionPools team
  if !q.isInvited ginfo ∧ pool.PlayerCount + q.size ginfo ≤ desiredCount then
    (q.setPool team ⟨pool.SelectedGroups ++ [ginfo], pool.PlayerCount + q.size ginfo⟩, true)
  else (q, decide (pool.PlayerCount < desiredCount))

/-- The search of `SelectionPool::KickGroup`: the index of the last group of about the wanted size,
or of the largest one.  `i` is the index of the head of the list and `kick` the best so far, with
its size. -/
def groupToKick (size : ℕ) : List GroupId → (i kick kickSize : ℕ) → (found : Bool) → ℕ
  | [], _, kick, _, _ => kick
  | g :: gs, i, kick, kickSize, found =>
    if q.size g ≤ size + 1 ∧ size ≤ q.size g + 1 then
      groupToKick size gs (i + 1) i (q.size g) true
    else if !found ∧ kickSize ≤ q.size g then groupToKick size gs (i + 1) i (q.size g) found
    else groupToKick size gs (i + 1) kick kickSize found

/-- `SelectionPool::KickGroup`. -/
def kickGroup (team : Team) (size : ℕ) : BattlegroundQueue × Bool :=
  let pool := q.m_SelectionPools team
  let kick := q.groupToKick size pool.SelectedGroups 0 0 (pool.SelectedGroups.head?.elim 0 q.size) false
  match pool.PlayerCount, pool.SelectedGroups[kick]? with
  | _ + 1, some ginfo =>
    (q.setPool team ⟨pool.SelectedGroups.eraseIdx kick, pool.PlayerCount - q.size ginfo⟩,
      decide (size + 1 < q.size ginfo))
  | _, _ => (q, true)

/-! ## Joining and leaving -/

/-- The arguments of `BattlegroundQueue::AddGroup`, and what it reads off them: the faction of the
leader and the members of the leader's group, if there is one.  Nothing assigns `CFSTeam`, so it is
what the memory held before. -/
structure JoinRequest where
  leader : ObjectGuid
  team : Team
  grp : Option (List ObjectGuid)
  BgTypeId : ℕ
  bracketId : BracketId
  ArenaType : ℕ
  isRated : Bool
  isPremade : Bool
  ArenaRating : UInt32
  MatchmakerRating : UInt32
  arenateamid : ℕ
  CFSTeam : UInt32

namespace JoinRequest

/-- The players who join. -/
def members (r : JoinRequest) : List ObjectGuid := r.grp.getD [r.leader]

/-- The list the new group is put in. -/
def index (r : JoinRequest) (crossfactionEnabled : Bool) : QueueGroupType :=
  if crossfactionEnabled && r.ArenaType == 0 then .crossfaction
  else if !r.isRated && !r.isPremade then .normal r.team
  else .premade r.team

/-- The new group. -/
def ginfo (r : JoinRequest) (time : UInt32) : GroupQueueInfo where
  Players := r.members.toFinset
  Team := r.team
  CFSTeam := r.CFSTeam
  BgTypeId := r.BgTypeId
  IsRated := r.isRated
  ArenaType := r.ArenaType
  ArenaTeamId := r.arenateamid
  JoinTime := time
  RemoveInviteTime := 0
  IsInvitedToBGInstanceGUID := 0
  ArenaTeamRating := r.ArenaRating
  ArenaMatchmakerRating := r.MatchmakerRating
  OpponentsTeamRating := 0
  OpponentsMatchmakerRating := 0

end JoinRequest

/-- `BattlegroundQueue::AddGroup`. -/
def AddGroup (config : BattlegroundConfig) (r : JoinRequest) : BattlegroundQueue :=
  let ginfo := q.nextGroup
  let index := r.index config.crossfactionEnabled
  let q :=
    { q with
      nextGroup := q.nextGroup + 1
      groups := q.groups.insert ginfo (r.ginfo config.GetGameTimeMS)
      m_QueuedPlayers := r.members.foldl
        (fun m guid ↦ m.insert guid ⟨config.GetGameTimeMS, ginfo⟩) q.m_QueuedPlayers }
  q.setList r.bracketId index (q.m_QueuedGroups r.bracketId index ++ [ginfo])

/-- The search of `BattlegroundQueue::RemovePlayer` for the list a group is in: the brackets from the
last one down, and in the first bracket that has the group the last list that has it. -/
def findGroup (ginfo : GroupId) : Option (BracketId × QueueGroupType) :=
  ((List.finRange 16).reverse.findSome? fun bracket_id ↦
    (QueueGroupType.all.reverse.find? fun j ↦ ginfo ∈ q.m_QueuedGroups bracket_id j).map
      (bracket_id, ·))

/-- A player is taken out of a group and out of `m_QueuedPlayers`. -/
def leave (guid : ObjectGuid) (group : GroupId) : BattlegroundQueue :=
  { q.modifyGroup group fun ginfo ↦ { ginfo with Players := ginfo.Players.erase guid } with
    m_QueuedPlayers := q.m_QueuedPlayers.erase guid }

/-- A group is taken off its list and deleted. -/
def deleteGroup (bracket_id : BracketId) (index : QueueGroupType) (group : GroupId) :
    BattlegroundQueue :=
  { q.setList bracket_id index ((q.m_QueuedGroups bracket_id index).erase group) with
    groups := q.groups.erase group }

/-- `BattlegroundQueue::RemovePlayer`, for at most `fuel` players: the first leaves, and from a rated
team that was not invited the rest follow. -/
def removePlayerAux : ℕ → BattlegroundQueue → ObjectGuid → BattlegroundQueue
  | 0, q, _ => q
  | fuel + 1, q, guid =>
    match q.m_QueuedPlayers[guid]? with
    | none => q
    | some entry =>
      let group := entry.GroupInfo
      match q.findGroup group with
      | none => q
      | some (bracket_id, index) =>
        let q := q.leave guid group
        if (q.group group).Players = ∅ then q.deleteGroup bracket_id index group
        else if !q.isInvited group ∧ (q.group group).IsRated then
          match (q.group group).Players.min with
          | some next => removePlayerAux fuel q next
          | none => q
        else q

/-- `BattlegroundQueue::RemovePlayer`. -/
def RemovePlayer (guid : ObjectGuid) : BattlegroundQueue := removePlayerAux q.m_QueuedPlayers.size q guid

/-- `BattlegroundQueue::InviteGroupToBG`, with `side = none` for no side. -/
def InviteGroupToBG (config : BattlegroundConfig) (ginfo : GroupId) (bg : Battleground)
    (side : Option Team) : BattlegroundQueue :=
  let q := side.elim q (q.setTeam ginfo)
  if !q.isInvited ginfo then
    q.modifyGroup ginfo fun i ↦
      { i with
        IsInvitedToBGInstanceGUID := bg.GetInstanceID
        RemoveInviteTime := config.GetGameTimeMS + inviteAcceptWaitTime }
  else q

/-! ## Mixed factions -/

/-- A `QueuedGroupMap`, a `std::multimap` from sizes to groups, read from its end: the largest groups
first, and among groups of one size those that were inserted last. -/
def queuedGroupMap (l : List GroupId) : List (ℕ × GroupId) :=
  ((l.map fun g ↦ (q.size g, g)).insertionSort fun a b ↦ a.1 ≤ b.1).reverse

/-- `BattlegroundQueue::PreAddPlayers`, from the given entry of the map to its last.  The result is
the number of players that could still be added. -/
def PreAddPlayers (MaxInTeam : ℕ) :
    BattlegroundQueue → List (ℕ × GroupId) → (LeftToAdd : ℤ) → BattlegroundQueue × ℤ
  | q, [], LeftToAdd => (q, LeftToAdd)
  | q, (PlayerSize, ginfo) :: rest, LeftToAdd =>
    let team := if (q.group ginfo).CFSTeam = Team.alliance.id then Team.alliance else Team.horde
    if PlayerSize ≤ LeftToAdd then
      let (q, added) := q.addToPool team ginfo MaxInTeam
      PreAddPlayers MaxInTeam q rest (if added then LeftToAdd - PlayerSize else LeftToAdd)
    else PreAddPlayers MaxInTeam q rest LeftToAdd

/-- The running counters of `BattlegroundQueue::FillXPlayersToBG`, `valiFree` and `vhordeFree`, with
the queue whose pools they count. -/
structure FillState where
  queue : BattlegroundQueue
  vFree : Team → ℤ

/-- The condition under which the second loop passes over a group. -/
def passedOver (bg : Battleground) (ginfo : GroupId) : Bool :=
  q.isInvited ginfo || (q.m_SelectionPools .alliance).SelectedGroups.contains ginfo ||
    (q.m_SelectionPools .horde).SelectedGroups.contains ginfo ||
    (decide (bg.GetMinPlayersPerTeam ≤ q.playerCount .alliance) &&
      decide (bg.GetMinPlayersPerTeam ≤ q.playerCount .horde))

/-- The team the second loop sends a group to: the one with more free slots, by the counters. -/
def sideFor (ginfo : GroupId) (vFree : Team → ℤ) : Team :=
  if vFree .alliance = vFree .horde then (q.group ginfo).Team
  else if vFree .alliance < vFree .horde then .horde else .alliance

/-- One pass of the second loop of `FillXPlayersToBG`. -/
def fillStep (bg : Battleground) (free : Team → ℕ) (s : FillState) (entry : ℕ × GroupId) :
    FillState :=
  let ginfo := entry.2
  if s.queue.passedOver bg ginfo then s
  else
    let team := s.queue.sideFor ginfo s.vFree
    let q := s.queue.setTeam ginfo team
    let (q, added) := q.addToPool team ginfo (free team)
    ⟨q, if added then Function.update s.vFree team (s.vFree team - q.size ginfo) else s.vFree⟩

/-- The free slots `FillXPlayersToBG` starts from. -/
def slots (bg : Battleground) (start : Bool) (team : Team) : ℕ :=
  if start then bg.GetMaxPlayersPerTeam else bg.GetFreeSlotsForTeam team

/-- The groups in the cross faction list that are not invited. -/
def waiting (bracket_id : BracketId) : List GroupId :=
  (q.m_QueuedGroups bracket_id .crossfaction).filter fun g ↦ !q.isInvited g

/-- The waiting groups `PreAddPlayers` gets for a team: those whose `CFSTeam` is the alliance, and the
others. -/
def preGroups (bracket_id : BracketId) (team : Team) : List GroupId := (q.waiting bracket_id).filter fun g ↦
    decide ((q.group g).CFSTeam = Team.alliance.id) == decide (team = .alliance)

/-- The number of players `FillXPlayersToBG` wants to add to each team in advance. -/
def smallestOfTeams (bracket_id : BracketId) (free : Team → ℕ) : ℕ :=
  let queued := fun team ↦ ((q.preGroups bracket_id team).map q.size).sum
  min (min (free .alliance) (queued .alliance)) (min (free .horde) (queued .horde))

/-- `FillXPlayersToBG` up to its second loop: the pools are emptied and, when the battleground is only
starting, refilled from each team's own groups. -/
def fillStart (bracket_id : BracketId) (bg : Battleground) (start : Bool) : FillState :=
  let free := slots bg start
  let q₀ := (q.init .alliance).init .horde
  if start then
    let most := q₀.smallestOfTeams bracket_id free
    let (q₁, leftAlliance) :=
      q₀.PreAddPlayers (free .alliance) (q₀.queuedGroupMap (q₀.preGroups bracket_id .alliance)) most
    let (q₂, leftHorde) := q₁.PreAddPlayers (free .horde) (q₀.queuedGroupMap (q₀.preGroups bracket_id .horde)) most
    ⟨q₂, Team.choose (free .alliance - leftAlliance) (free .horde - leftHorde)⟩
  else ⟨q₀, fun team ↦ free team⟩

/-- The condition under which `FillXPlayersToBG` does anything.  `queuedPeople` is a `uint8`. -/
def fillsX (config : BattlegroundConfig) (bracket_id : BracketId) (bg : Battleground)
    (start : Bool) : Bool :=
  let queuedPeople := ((q.waiting bracket_id).map q.size).sum % 2 ^ 8
  config.crossfactionEnabled &&
    (config.isTesting || decide (bg.GetMinPlayersPerTeam * 2 ≤ queuedPeople) || !start)

/-- The groups the second loop goes through. -/
def fillEntries (bracket_id : BracketId) : List (ℕ × GroupId) :=
  q.queuedGroupMap (q.m_QueuedGroups bracket_id .crossfaction)

/-- `BattlegroundQueue::FillXPlayersToBG`. -/
def FillXPlayersToBG (config : BattlegroundConfig) (bracket_id : BracketId) (bg : Battleground)
    (start : Bool) : BattlegroundQueue × Bool :=
  if q.fillsX config bracket_id bg start then
    (((q.fillEntries bracket_id).foldl (fillStep bg (slots bg start))
      (q.fillStart bracket_id bg start)).queue, true)
  else (q, false)

/-- `BattlegroundQueue::CheckCrossFactionMatch`.  The minimum is read into a `uint8`. -/
def CheckCrossFactionMatch (config : BattlegroundConfig) (bracket_id : BracketId)
    (bg : Battleground) : BattlegroundQueue × Bool :=
  if !config.crossfactionEnabled || bg.isArena then (q, false)
  else
    let (q, _) := q.FillXPlayersToBG config bracket_id bg true
    let MPT := bg.GetMinPlayersPerTeam % 2 ^ 8
    if config.isTesting ∧ (0 < q.playerCount .alliance ∨ 0 < q.playerCount .horde) then (q, true)
    else (q, decide (MPT ≤ q.playerCount .alliance) && decide (MPT ≤ q.playerCount .horde))

/-! ## Filling a running battleground -/

/-- Add the groups of a list to a pool until the pool is full; what is left of the list is returned. -/
def addWhile (team : Team) (desiredCount : ℕ) :
    BattlegroundQueue → List GroupId → BattlegroundQueue × List GroupId
  | q, [] => (q, [])
  | q, g :: gs =>
    match q.addToPool team g desiredCount with
    | (q, true) => addWhile team desiredCount q gs
    | (q, false) => (q, g :: gs)

/-- What the balancing loop of `FillPlayersToBG` works on: the pools, and the groups of each team that
have not been offered to its pool yet. -/
structure Balance where
  queue : BattlegroundQueue
  rest : Team → List GroupId

/-- The free slots of a team that its pool leaves free. -/
def Balance.diff (s : Balance) (free : Team → ℤ) (team : Team) : ℤ := free team - s.queue.playerCount team

/-- One pass of the balancing loop, in which the pool of `team` is the fuller one.  The two branches
of the source differ in the team only.  The answer `false` is the loop's `break`. -/
def balanceStep (free : Team → ℤ) (team : Team) (s : Balance) : Balance × Bool :=
  let diffTeam := s.diff free team
  let diffOther := s.diff free team.other
  let size := (diffOther - diffTeam).toNat
  let (q, again) := s.queue.kickGroup team size
  let (q, left) :=
    if again then
      addWhile team (if diffOther ≤ free team then free team - diffOther else 0).toNat q (s.rest team)
    else (q, s.rest team)
  let rest := Function.update s.rest team left
  if q.playerCount team = 0 then
    if free team ≤ diffOther + 1 then (⟨q, rest⟩, false)
    else (⟨(q.kickGroup team.other size).1, rest⟩, true)
  else (⟨q, rest⟩, true)

/-- The balancing loop of `FillPlayersToBG`. -/
def balanceLoop (free : Team → ℤ) : ℕ → Balance → BattlegroundQueue
  | 0, s => s.queue
  | fuel + 1, s =>
    let diffAli := s.diff free .alliance
    let diffHorde := s.diff free .horde
    if 1 < (diffAli - diffHorde).natAbs ∧ (0 < s.queue.playerCount .horde ∨ 0 < s.queue.playerCount .alliance) then
      match balanceStep free (if diffAli < diffHorde then .alliance else .horde) s with
      | (s, true) => balanceLoop free fuel s
      | (s, false) => s.queue
    else s.queue

/-- The free slots `FillPlayersToBG` fills up, by the invitation type. -/
def fillSlots (config : BattlegroundConfig) (bg : Battleground) (count : Team → ℕ) (team : Team) :
    ℤ :=
  let free : Team → ℤ := fun team ↦ bg.GetFreeSlotsForTeam team
  if config.invitationType = .even ∧ free .horde = 1 ∧ free .alliance = 1 ∧ count .alliance ≠ count .horde then
    max (free team - max ((count team : ℤ) - count team.other) 0) 0
  else free team

/-- `BattlegroundQueue::FillPlayersToBG`.  Each pass of the balancing loop takes a group out of a pool
or one off a list, so the loop ends within twice the number of groups. -/
def FillPlayersToBG (config : BattlegroundConfig) (bg : Battleground) (bracket_id : BracketId) :
    BattlegroundQueue :=
  let lists := fun team ↦ q.m_QueuedGroups bracket_id (.normal team)
  let (q, filled) := if bg.isArena then (q, false) else q.FillXPlayersToBG config bracket_id bg false
  if filled then q
  else
    let free := fillSlots config bg fun team ↦ (lists team).length
    let (q, leftAlliance) := addWhile .alliance (free .alliance).toNat q (lists .alliance)
    let (q, leftHorde) := addWhile .horde (free .horde).toNat q (lists .horde)
    if config.invitationType = .noBalance then q
    else
      balanceLoop free (2 * ((lists .alliance).length + (lists .horde).length))
        ⟨q, Team.choose leftAlliance leftHorde⟩

/-! ## Starting a new battleground -/

/-- Offer the groups of a list that are not invited to a pool until it is full. -/
def addUninvited (team : Team) (desiredCount : ℕ) : BattlegroundQueue → List GroupId → BattlegroundQueue
  | q, [] => q
  | q, g :: gs =>
    if q.isInvited g then addUninvited team desiredCount q gs
    else
      match q.addToPool team g desiredCount with
      | (q, true) => addUninvited team desiredCount q gs
      | (q, false) => q

/-- The end of `CheckPremadeMatch` for one team: a premade group that has waited too long or has
become too small moves to the front of the normal queue. -/
def demotePremade (config : BattlegroundConfig) (bracket_id : BracketId) (MinPlayersPerTeam : ℕ)
    (q : BattlegroundQueue) (team : Team) : BattlegroundQueue :=
  let time_before := config.GetGameTimeMS - config.premadeGroupWaitForMatch
  match q.m_QueuedGroups bracket_id (.premade team) with
  | [] => q
  | g :: rest =>
    if !q.isInvited g ∧ ((q.group g).JoinTime < time_before ∨ q.size g < MinPlayersPerTeam) then
      (q.setList bracket_id (.normal team) (g :: q.m_QueuedGroups bracket_id (.normal team))).setList
        bracket_id (.premade team) rest
    else q

/-- `BattlegroundQueue::CheckPremadeMatch`. -/
def CheckPremadeMatch (config : BattlegroundConfig) (bracket_id : BracketId)
    (MinPlayersPerTeam MaxPlayersPerTeam : ℕ) : BattlegroundQueue × Bool :=
  let first := fun team ↦ (q.m_QueuedGroups bracket_id (.premade team)).find? fun g ↦ !q.isInvited g
  match first .alliance, first .horde with
  | some ali_group, some horde_group =>
    let q := (q.addToPool .alliance ali_group MaxPlayersPerTeam).1
    let q := (q.addToPool .horde horde_group MaxPlayersPerTeam).1
    let maxPlayers := min (q.playerCount .alliance) (q.playerCount .horde)
    let q := addUninvited .alliance maxPlayers q (q.m_QueuedGroups bracket_id (.normal .alliance))
    (addUninvited .horde maxPlayers q (q.m_QueuedGroups bracket_id (.normal .horde)), true)
  | _, _ =>
    (demotePremade config bracket_id MinPlayersPerTeam
      (demotePremade config bracket_id MinPlayersPerTeam q .alliance) .horde, false)

/-- The first loop of `CheckNormalMatch` for one team: select groups until there are enough players.
What follows the last group selected is returned, or `none` when the list came to its end first. -/
def selectEnough (team : Team) (minPlayers maxPlayers : ℕ) :
    BattlegroundQueue → List GroupId → BattlegroundQueue × Option (List GroupId)
  | q, [] => (q, none)
  | q, g :: gs =>
    if q.isInvited g then selectEnough team minPlayers maxPlayers q gs
    else
      let q := (q.addToPool team g maxPlayers).1
      if minPlayers ≤ q.playerCount team then (q, some gs)
      else selectEnough team minPlayers maxPlayers q gs

/-- The answer of `CheckNormalMatch` once the pools are set. -/
def enoughSelected (config : BattlegroundConfig) (bg_template : Battleground) (minPlayers : ℕ) : Bool :=
  (config.isTesting && !bg_template.isArena &&
      (decide (0 < q.playerCount .alliance) || decide (0 < q.playerCount .horde))) ||
    (decide (minPlayers ≤ q.playerCount .alliance) && decide (minPlayers ≤ q.playerCount .horde))

/-- `BattlegroundQueue::CheckNormalMatch`.  It is undefined when the iterator it advances is at the
end of its list, which takes a minimum of no players. -/
def CheckNormalMatch (config : BattlegroundConfig) (bg_template : Battleground)
    (bracket_id : BracketId) (minPlayers maxPlayers : ℕ) : Option (BattlegroundQueue × Bool) :=
  let (q, leftAlliance) :=
    selectEnough .alliance minPlayers maxPlayers q (q.m_QueuedGroups bracket_id (.normal .alliance))
  let (q, leftHorde) := selectEnough .horde minPlayers maxPlayers q (q.m_QueuedGroups bracket_id (.normal .horde))
  let j := if q.playerCount .horde < q.playerCount .alliance then Team.horde else Team.alliance
  if config.invitationType ≠ .noBalance ∧ minPlayers ≤ q.playerCount .horde ∧ minPlayers ≤ q.playerCount .alliance then
    (Team.choose leftAlliance leftHorde j).map fun left ↦
      let q := addUninvited j (q.playerCount j.other) q left
      if 2 < ((q.playerCount .horde : ℤ) - q.playerCount .alliance).natAbs then (q, false)
      else (q, q.enoughSelected config bg_template minPlayers)
  else some (q, q.enoughSelected config bg_template minPlayers)

/-- Erase a group from the part of a list that follows another. -/
def eraseAfter (last g : GroupId) : List GroupId → List GroupId
  | [] => []
  | x :: xs => if x = last then x :: xs.erase g else x :: eraseAfter last g xs

/-- What follows a group in a list, if the list has the group. -/
def listAfter (last : GroupId) : List GroupId → Option (List GroupId)
  | [] => none
  | x :: xs => if x = last then some xs else listAfter last xs

/-- The end of `CheckSkirmishForSameFaction` for one group: it changes sides. -/
def changeSides (bracket_id : BracketId) (team : Team) (last : GroupId) (q : BattlegroundQueue)
    (g : GroupId) : BattlegroundQueue :=
  let q := q.setTeam g team.other
  let q := q.setList bracket_id (.normal team.other)
    (g :: q.m_QueuedGroups bracket_id (.normal team.other))
  q.setList bracket_id (.normal team) (eraseAfter last g (q.m_QueuedGroups bracket_id (.normal team)))

/-- `BattlegroundQueue::CheckSkirmishForSameFaction`.  It is undefined when it asks for the last group
of an empty pool. -/
def CheckSkirmishForSameFaction (bracket_id : BracketId) (minPlayersPerTeam : ℕ) :
    Option (BattlegroundQueue × Bool) :=
  if q.playerCount .alliance < minPlayersPerTeam ∧ q.playerCount .horde < minPlayersPerTeam then
    some (q, false)
  else
    let team := if q.playerCount .horde = minPlayersPerTeam then Team.horde else Team.alliance
    let q := q.init team.other
    (q.m_SelectionPools team).SelectedGroups.getLast?.map fun ginfo ↦
      match listAfter ginfo (q.m_QueuedGroups bracket_id (.normal team)) with
      | none => (q, false)
      | some left =>
        let q := addUninvited team.other minPlayersPerTeam q left
        if q.playerCount team.other ≠ minPlayersPerTeam then (q, false)
        else
          ((q.m_SelectionPools team.other).SelectedGroups.foldl (changeSides bracket_id team ginfo) q, true)

/-! ## The update -/

/-- Invite every group of a pool, for the team it has. -/
def invitePool (config : BattlegroundConfig) (bg : Battleground) (q : BattlegroundQueue)
    (team : Team) : BattlegroundQueue :=
  (q.m_SelectionPools team).SelectedGroups.foldl
    (fun q g ↦ q.InviteGroupToBG config g bg (some (q.group g).Team)) q

/-- Invite both pools. -/
def invitePools (config : BattlegroundConfig) (bg : Battleground) : BattlegroundQueue :=
  invitePool config bg (invitePool config bg q .alliance) .horde

/-- A call of `BattlegroundQueueUpdate` and what it finds around it. -/
structure UpdateCall where
  config : BattlegroundConfig
  bgTypeId : ℕ
  bracket_id : BracketId
  arenaType : ℕ
  isRated : Bool
  arenaRating : UInt32
  /-- The battlegrounds of the type with free slots. -/
  bgQueues : List BattlegroundInstance
  /-- The template of the type and its entry for the bracket, if both are found. -/
  bg_template : Option Battleground
  /-- What `CreateNewBattleground` gives for a premade match. -/
  premadeBattleground : Option BattlegroundInstance
  /-- What `CreateNewBattleground` gives for the match after it. -/
  newBattleground : Option BattlegroundInstance

/-- The first loop of `BattlegroundQueueUpdate`: fill up the battlegrounds that run. -/
def fillRunning (c : UpdateCall) (q : BattlegroundQueue) (bg : BattlegroundInstance) :
    BattlegroundQueue :=
  if !bg.1.isRated ∧ bg.1.GetTypeID = c.bgTypeId ∧ bg.1.GetBracketId = c.bracket_id ∧
      1 < bg.1.GetStatus ∧ bg.1.GetStatus < 4 then
    (((q.init .alliance).init .horde).FillPlayersToBG c.config bg.1 c.bracket_id).invitePools
      c.config bg.1
  else q

/-- The least and the most players a team of a new battleground has. -/
def teamSizes (c : UpdateCall) (bg_template : Battleground) : ℕ × ℕ :=
  if bg_template.isArena then (if c.config.isArenaTesting then 1 else c.arenaType, c.arenaType)
  else
    (if c.config.isTesting then 1 else bg_template.GetMinPlayersPerTeam, bg_template.GetMaxPlayersPerTeam)

/-- The part of `BattlegroundQueueUpdate` for games that are not rated. -/
def updateNormal (c : UpdateCall) (bg_template : Battleground) (minPlayers maxPlayers : ℕ) :
    Option BattlegroundQueue :=
  (q.CheckNormalMatch c.config bg_template c.bracket_id minPlayers maxPlayers).bind fun (q, matched) ↦
      (if !matched && bg_template.isArena then q.CheckSkirmishForSameFaction c.bracket_id minPlayers
        else some (q, matched)).map fun (q, matched) ↦
          let (q, matched) :=
            if !matched then q.CheckCrossFactionMatch c.config c.bracket_id bg_template
            else (q, matched)
          match matched, c.newBattleground with
          | true, some bg2 => q.invitePools c.config bg2.1
          | _, _ => q

/-- The rating a rated arena match is looked for with, when no team has just joined: that of the team
at the front of a list that has waited longer. -/
def frontRating (bracket_id : BracketId) : Option UInt32 :=
  match q.m_QueuedGroups bracket_id (.premade .alliance), q.m_QueuedGroups bracket_id (.premade .horde) with
  | [], [] => none
  | front1 :: _, [] => some (q.group front1).ArenaMatchmakerRating
  | [], front2 :: _ => some (q.group front2).ArenaMatchmakerRating
  | front1 :: _, front2 :: _ =>
    if (q.group front1).JoinTime < (q.group front2).JoinTime then
      some (q.group front1).ArenaMatchmakerRating
    else some (q.group front2).ArenaMatchmakerRating

/-- A team may play a rated match: its rating is in range or it has waited too long for that to
matter. -/
def suits (config : BattlegroundConfig) (arenaRating : UInt32) (g : GroupId) : Bool :=
  let arenaMinRating :=
    if arenaRating ≤ config.GetMaxRatingDifference then 0
    else arenaRating - config.GetMaxRatingDifference
  let arenaMaxRating := arenaRating + config.GetMaxRatingDifference
  let discardTime := (config.GetGameTimeMS - config.GetRatingDiscardTimer).toInt32
  !q.isInvited g && ((decide (arenaMinRating ≤ (q.group g).ArenaMatchmakerRating) &&
        decide ((q.group g).ArenaMatchmakerRating ≤ arenaMaxRating)) ||
      decide ((q.group g).JoinTime.toInt32 < discardTime))

/-- The two teams of a rated match, each with the list it was found in. -/
def ratedTeams (config : BattlegroundConfig) (bracket_id : BracketId) (arenaRating : UInt32) :
    Option ((GroupId × Team) × (GroupId × Team)) :=
  let lists := fun team ↦ q.m_QueuedGroups bracket_id (.premade team)
  let suits := q.suits config arenaRating
  let second := fun (team : Team) (g : GroupId) ↦
    (((lists team).dropWhile fun x ↦ x != g).find? fun x ↦
      suits x && (q.group g).ArenaTeamId != (q.group x).ArenaTeamId).map fun h ↦ ((g, team), (h, team))
  match (lists .alliance).find? suits, (lists .horde).find? suits with
  | none, none => none
  | some g, none => second .alliance g
  | none, some g => second .horde g
  | some g, some h => some ((g, .alliance), (h, .horde))

/-- Assign the ratings of the opponents to a team of a rated match. -/
def setOpponents (g : GroupId) (opponents : GroupQueueInfo) : BattlegroundQueue := q.modifyGroup g fun i ↦
    { i with
      OpponentsTeamRating := opponents.ArenaTeamRating
      OpponentsMatchmakerRating := opponents.ArenaMatchmakerRating }

/-- Move a team of a rated match from the list it was found in to that of the side it plays for.  The
source goes by the team the group has, and erases the group's iterator from the opposite list. -/
def moveRated (bracket_id : BracketId) (side : Team) (q : BattlegroundQueue) (g : GroupId) :
    BattlegroundQueue :=
  if (q.group g).Team ≠ side then
    let q := q.setList bracket_id (.premade side) (g :: q.m_QueuedGroups bracket_id (.premade side))
    q.setList bracket_id (.premade side.other)
      ((q.m_QueuedGroups bracket_id (.premade side.other)).erase g)
  else q

/-- The part of `BattlegroundQueueUpdate` for rated arenas. -/
def updateRated (c : UpdateCall) : BattlegroundQueue :=
  match if c.arenaRating = 0 then q.frontRating c.bracket_id else some c.arenaRating with
  | none => q
  | some arenaRating =>
    match q.ratedTeams c.config c.bracket_id arenaRating, c.newBattleground with
    | some ((aTeam, _), (hTeam, _)), some arena =>
      let a := q.group aTeam
      let h := q.group hTeam
      let q := (q.setOpponents aTeam h).setOpponents hTeam a
      let q := moveRated c.bracket_id .alliance q aTeam
      let q := moveRated c.bracket_id .horde q hTeam
      let q := q.InviteGroupToBG c.config aTeam arena.1 (some .alliance)
      q.InviteGroupToBG c.config hTeam arena.1 (some .horde)
    | _, _ => q

/-- `BattlegroundQueue::BattlegroundQueueUpdate`. -/
def BattlegroundQueueUpdate (c : UpdateCall) : Option BattlegroundQueue :=
  if QueueGroupType.all.all fun j ↦ (q.m_QueuedGroups c.bracket_id j).isEmpty then some q
  else
    let q := c.bgQueues.foldl (fillRunning c) q
    match c.bg_template with
    | none => some q
    | some bg_template =>
      let (minPlayers, maxPlayers) := teamSizes c bg_template
      let q := (q.init .alliance).init .horde
      let (q, premade) :=
        if bg_template.isArena then (q, false)
        else q.CheckPremadeMatch c.config c.bracket_id minPlayers maxPlayers
      match premade, c.premadeBattleground with
      | true, none => some q
      | true, some bg2 =>
        let q := ((q.invitePools c.config bg2.1).init .alliance).init .horde
        if !c.isRated then q.updateNormal c bg_template minPlayers maxPlayers else some q
      | false, _ =>
        if !c.isRated then q.updateNormal c bg_template minPlayers maxPlayers
        else if bg_template.isArena then some (q.updateRated c)
        else some q

/-! ## Reading the queue after a write -/

variable {q} {team : Team} {g x : GroupId}

theorem group_modifyGroup (q : BattlegroundQueue) (g x : GroupId) (f : GroupQueueInfo → GroupQueueInfo) :
    (q.modifyGroup g f).group x =
      if g = x ∧ g ∈ q.groups then f (q.group g) else q.group x := by
  simp only [group, modifyGroup, TreeMap.get_modify]
  by_cases hgx : g = x
  · subst hgx
    cases hg : q.groups[g]? with
    | none => simp [TreeMap.mem_iff, hg]
    | some i => simp [TreeMap.mem_iff, hg]
  · simp [hgx]

theorem group_modifyGroup_field {β : Type} (p : GroupQueueInfo → β) (q : BattlegroundQueue)
    (g x : GroupId) (f : GroupQueueInfo → GroupQueueInfo) (hf : ∀ i, p (f i) = p i) :
    p ((q.modifyGroup g f).group x) = p (q.group x) := by
  rw [group_modifyGroup]
  split
  · next h => rw [hf, h.1]
  · rfl

section

variable (q : BattlegroundQueue)

theorem isInvited_setTeam (g x : GroupId) (team : Team) : (q.setTeam g team).isInvited x = q.isInvited x := by
  have h := group_modifyGroup_field (·.IsInvitedToBGInstanceGUID) q g x
    (fun i ↦ { i with Team := team }) fun _ ↦ rfl
  rw [isInvited, isInvited, setTeam, h]

theorem size_setTeam (g x : GroupId) (team : Team) : (q.setTeam g team).size x = q.size x := by
  have h := group_modifyGroup_field (·.Players) q g x (fun i ↦ { i with Team := team }) fun _ ↦ rfl
  rw [size, size, setTeam, h]

@[simp]
theorem size_setPool (team : Team) (pool : SelectionPool) (x : GroupId) : (q.setPool team pool).size x = q.size x := rfl

@[simp]
theorem playerCount_setPool (team t : Team) (pool : SelectionPool) :
    (q.setPool team pool).playerCount t = if t = team then pool.PlayerCount else q.playerCount t := by
  simp only [playerCount, setPool, Function.update_apply]
  split <;> rfl

theorem setPool_self (team : Team) : q.setPool team (q.m_SelectionPools team) = q := by
  simp [setPool]

theorem setPool_setPool (team : Team) (pool pool' : SelectionPool) :
    (q.setPool team pool).setPool team pool' = q.setPool team pool' := by
  simp [setPool]

theorem selectedGroups_setPool (team t : Team) (pool : SelectionPool) :
    ((q.setPool team pool).m_SelectionPools t).SelectedGroups =
      if t = team then pool.SelectedGroups else (q.m_SelectionPools t).SelectedGroups := by
  simp only [setPool, Function.update_apply]
  split <;> rfl

theorem addToPool_of_le (team : Team) (desired : ℕ) (hi : q.isInvited g = false)
    (h : q.playerCount team + q.size g ≤ desired) :
    q.addToPool team g desired = (q.setPool team ⟨(q.m_SelectionPools team).SelectedGroups ++ [g],
        q.playerCount team + q.size g⟩, true) := by
  rw [addToPool, if_pos ⟨by rw [hi]; rfl, h⟩, playerCount]

theorem addToPool_of_lt (team : Team) (desired : ℕ) (h : desired < q.playerCount team + q.size g) :
    q.addToPool team g desired = (q, decide (q.playerCount team < desired)) := by
  rw [addToPool, if_neg fun hc ↦ absurd hc.2 (not_le.mpr h), playerCount]

end

/-! ## The machine -/

/-- The calls that reach a battleground queue. -/
inductive Call where
  | AddGroup (config : BattlegroundConfig) (r : JoinRequest)
  | RemovePlayer (guid : ObjectGuid)
  | InviteGroupToBG (config : BattlegroundConfig) (ginfo : GroupId) (bg : BattlegroundInstance)
      (side : Option Team)
  | BattlegroundQueueUpdate (c : UpdateCall)

/-- What a call does.  A group that joins has its leader among its members, and none of them may be
queued already; a group that is invited has to exist. -/
def next (q : BattlegroundQueue) : Call → Option BattlegroundQueue
  | .AddGroup config r =>
    if r.leader ∈ r.members ∧ ∀ guid ∈ r.members, guid ∉ q.m_QueuedPlayers then
      some (q.AddGroup config r)
    else none
  | .RemovePlayer guid => some (q.RemovePlayer guid)
  | .InviteGroupToBG config ginfo bg side =>
    if ginfo ∈ q.groups then some (q.InviteGroupToBG config ginfo bg.1 side) else none
  | .BattlegroundQueueUpdate c => q.BattlegroundQueueUpdate c

end BattlegroundQueue

/-- The battleground queue, driven by calls. -/
def battlegroundQueueMachine : Machine BattlegroundQueue BattlegroundQueue.Call where
  start := .new
  next := BattlegroundQueue.next

end Gundrak
