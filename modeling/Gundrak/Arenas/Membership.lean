import Gundrak.Arenas.ArenaTeam

/-!
# Getting into an arena team and out of it

Who is in which arena team is kept in three places: the list of members of the team, the entry of the
character in the character cache, and an info field of the player object while he is connected.  The handlers
of `CMSG_TURN_IN_PETITION` and of the `CMSG_ARENA_TEAM` requests, `ArenaTeam::AddMember`,
`ArenaTeam::DelMember`, `ArenaTeam::SetCaptain` and `ArenaTeam::Disband` change them.  The table
`arena_team_member` is read when a player logs in, and gives him his info fields.

A type of team has one slot, so slots are named by types.
-/

open Std (ExtTreeMap)

namespace Gundrak.Arenas

/-- `Player`, with the fields `ARENA_TEAM_ID` of the slots. -/
structure Player where
  ARENA_TEAM_ID : ArenaTeamTypes → ℕ
  ArenaTeamIdInvited : ℕ
  IsInWorld : Bool

/-- What the requests read and change: the teams, the arena teams in the character cache, the connected
players and the table of the members. -/
structure Membership where
  ArenaTeamStore : ExtTreeMap ℕ ArenaTeam
  NextArenaTeamId : ℕ
  ArenaTeamId : ObjectGuid → ArenaTeamTypes → ℕ
  players : ObjectGuid → Option Player
  arena_team_member : List (ℕ × ObjectGuid)

/-- What comes from outside: the settings, with the characters that the cache has, and the names. -/
structure Realm extends Setup where
  GetName : ObjectGuid → String

namespace Membership

variable (r : Realm) (s : Membership)

/-- `ObjectAccessor::FindPlayer`: a player who is loading a map is not found. -/
def FindPlayer (guid : ObjectGuid) : Option Player := (s.players guid).filter (·.IsInWorld)

/-- Change a connected player. -/
def modifyPlayer (guid : ObjectGuid) (f : Player → Player) : Membership :=
  { s with players := Function.update s.players guid ((s.players guid).map f) }

/-- `Player::SetArenaTeamInfoField` for `ARENA_TEAM_ID`, of a player that `FindPlayer` finds. -/
def SetArenaTeamId (guid : ObjectGuid) (type : ArenaTeamTypes) (id : ℕ) : Membership := s.modifyPlayer guid fun p ↦
    if p.IsInWorld then { p with ARENA_TEAM_ID := Function.update p.ARENA_TEAM_ID type id } else p

/-- `Player::SetArenaTeamIdInvited`, of a player that `FindPlayer` finds. -/
def SetArenaTeamIdInvited (guid : ObjectGuid) (id : ℕ) : Membership :=
  s.modifyPlayer guid fun p ↦ if p.IsInWorld then { p with ArenaTeamIdInvited := id } else p

/-- `CharacterCache::UpdateCharacterArenaTeamId`. -/
def UpdateCharacterArenaTeamId (guid : ObjectGuid) (type : ArenaTeamTypes) (id : ℕ) : Membership :=
  if r.characters guid then
    { s with ArenaTeamId := Function.update s.ArenaTeamId guid (Function.update (s.ArenaTeamId guid) type id) }
  else s

/-- Change a team. -/
def modifyTeam (id : ℕ) (f : ArenaTeam → ArenaTeam) : Membership :=
  { s with ArenaTeamStore := s.ArenaTeamStore.modify id f }

/-! ## Members -/

/-- When `ArenaTeam::AddMember` adds a character to a team. -/
def CanAdd (t : ArenaTeam) (guid : ObjectGuid) : Prop :=
  t.Members.length < t.GetType.toNat * 2 ∧ ((s.FindPlayer guid).isSome ∨ r.characters guid) ∧
    (∀ p ∈ s.FindPlayer guid, p.ARENA_TEAM_ID t.GetType = 0) ∧ s.ArenaTeamId guid t.GetType = 0

instance (t : ArenaTeam) (guid : ObjectGuid) : Decidable (s.CanAdd r t guid) := inferInstanceAs (Decidable (_ ∧ _))

/-- `ArenaTeam::AddMember`. -/
def AddMember (id : ℕ) (guid : ObjectGuid) : Membership :=
  match s.ArenaTeamStore[id]? with
  | none => s
  | some t =>
    if s.CanAdd r t guid then
      let s := s.modifyTeam id fun t ↦ { t with Members := t.Members ++ [t.newMember r.toSetup guid] }
      let s := s.UpdateCharacterArenaTeamId r guid t.GetType id
      let s := { s with arena_team_member := s.arena_team_member ++ [(id, guid)] }
      (s.SetArenaTeamId guid t.GetType id).SetArenaTeamIdInvited guid 0
    else s

/-- `ArenaTeam::DelMember`.  The info field is set to 0 whether the player was a member or not. -/
def DelMember (id : ℕ) (guid : ObjectGuid) (cleanDb : Bool) : Membership :=
  match s.ArenaTeamStore[id]? with
  | none => s
  | some t =>
    let s := if t.IsMember guid then
        (s.modifyTeam id fun t ↦ { t with Members := t.Members.eraseP (·.Guid = guid) }).UpdateCharacterArenaTeamId
          r guid t.GetType 0
      else s
    let s := s.SetArenaTeamId guid t.GetType 0
    if cleanDb then
      { s with arena_team_member := s.arena_team_member.filter (· ≠ (id, guid)) }
    else s

/-- `ArenaTeam::Disband`, with `RemoveArenaTeam`. -/
def Disband (id : ℕ) (t : ArenaTeam) : Membership :=
  let s := t.Members.foldl (fun s m ↦ s.DelMember r id m.Guid false) s
  { s with
    ArenaTeamStore := s.ArenaTeamStore.erase id
    arena_team_member := s.arena_team_member.filter (·.1 ≠ id) }

/-- A team is made and registered, by `GenerateArenaTeamId` and `AddArenaTeam`. -/
def AddArenaTeam (type : ArenaTeamTypes) (captainGuid : ObjectGuid) : Membership :=
  { s with
    NextArenaTeamId := s.NextArenaTeamId + 1
    ArenaTeamStore := s.ArenaTeamStore.insert s.NextArenaTeamId
      ⟨type, captainGuid, [], ⟨r.CONFIG_ARENA_START_RATING, 0, 0, 0, 0, 0⟩⟩ }

/-- `ArenaTeam::Create`, for a team with the next id. -/
def Create (type : ArenaTeamTypes) (captainGuid : ObjectGuid) : Membership :=
  (s.AddArenaTeam r type captainGuid).AddMember r s.NextArenaTeamId captainGuid

/-! ## Requests

The first argument of a request is the player who has sent it; he is in the world.  What a handler checks that
is not part of the state here is one more argument. -/

/-- `WorldSession::HandleTurnInPetitionOpcode`, for an arena charter. -/
def HandleTurnInPetitionOpcode (player : Player) (guid : ObjectGuid) (type : ArenaTeamTypes)
    (signatures : List ObjectGuid) : Membership :=
  if player.ARENA_TEAM_ID type ≠ 0 then s
  else if signatures.length < type.toNat - 1 then s
  else signatures.foldl (fun s' signature ↦ s'.AddMember r s.NextArenaTeamId signature) (s.Create r type guid)

/-- `WorldSession::HandleArenaTeamInviteOpcode`, of a player in the world whom the player may invite. -/
def HandleArenaTeamInviteOpcode (player : Player) (arenaTeamId : ℕ) (invited : ObjectGuid) : Membership :=
  match s.ArenaTeamStore[arenaTeamId]?, s.FindPlayer invited with
  | some t, some p =>
    if player.ARENA_TEAM_ID t.GetType ≠ arenaTeamId then s
    else if p.ARENA_TEAM_ID t.GetType ≠ 0 then s
    else if p.ArenaTeamIdInvited ≠ 0 then s
    else if t.Members.length ≥ t.GetType.toNat * 2 then s
    else s.SetArenaTeamIdInvited invited arenaTeamId
  | _, _ => s

/-- `WorldSession::HandleArenaTeamAcceptOpcode`; `allied` is that the player may join the captain. -/
def HandleArenaTeamAcceptOpcode (player : Player) (guid : ObjectGuid) (allied : Bool) : Membership :=
  match s.ArenaTeamStore[player.ArenaTeamIdInvited]? with
  | none => s
  | some t =>
    if player.ARENA_TEAM_ID t.GetType ≠ 0 then s
    else if allied then s.AddMember r player.ArenaTeamIdInvited guid
    else s

/-- `WorldSession::HandleArenaTeamLeaveOpcode`. -/
def HandleArenaTeamLeaveOpcode (guid : ObjectGuid) (arenaTeamId : ℕ) (InArena : Bool) : Membership :=
  match s.ArenaTeamStore[arenaTeamId]? with
  | none => s
  | some t =>
    if InArena then s
    else if guid = t.CaptainGuid ∧ t.Members.length > 1 then s
    else if guid = t.CaptainGuid then s.Disband r arenaTeamId t
    else s.DelMember r arenaTeamId guid true

/-- `WorldSession::HandleArenaTeamDisbandOpcode`. -/
def HandleArenaTeamDisbandOpcode (guid : ObjectGuid) (arenaTeamId : ℕ) (IsFighting : Bool) : Membership :=
  match s.ArenaTeamStore[arenaTeamId]? with
  | none => s
  | some t =>
    if t.CaptainGuid ≠ guid then s
    else if IsFighting then s
    else s.Disband r arenaTeamId t

/-- `ArenaTeam::GetMember`, by name. -/
def GetMember (t : ArenaTeam) (name : String) : Option ArenaTeamMember :=
  t.Members.find? fun m ↦ r.GetName m.Guid = name

/-- `WorldSession::HandleArenaTeamRemoveOpcode`. -/
def HandleArenaTeamRemoveOpcode (guid : ObjectGuid) (arenaTeamId : ℕ) (name : String) (IsFighting : Bool) :
    Membership :=
  match s.ArenaTeamStore[arenaTeamId]? with
  | none => s
  | some t =>
    if t.CaptainGuid ≠ guid then s
    else
      match GetMember r t name with
      | none => s
      | some member =>
        if t.CaptainGuid = member.Guid then s
        else if IsFighting then s
        else s.DelMember r arenaTeamId member.Guid true

/-- `WorldSession::HandleArenaTeamLeaderOpcode`. -/
def HandleArenaTeamLeaderOpcode (guid : ObjectGuid) (arenaTeamId : ℕ) (name : String) : Membership :=
  match s.ArenaTeamStore[arenaTeamId]? with
  | none => s
  | some t =>
    if t.CaptainGuid ≠ guid then s
    else
      match GetMember r t name with
      | none => s
      | some member =>
        if t.CaptainGuid = member.Guid then s
        else s.modifyTeam arenaTeamId fun t ↦ { t with CaptainGuid := member.Guid }

/-! ## Logging in -/

/-- One turn of the loop of `Player::_LoadArenaTeamInfo`. -/
def loadInfo (info : ArenaTeamTypes → ℕ) (arenaTeamId : ℕ) : ArenaTeamTypes → ℕ :=
  match s.ArenaTeamStore[arenaTeamId]? with
  | none => info
  | some t => Function.update info t.GetType arenaTeamId

/-- The check of the arena teams in `Player::LoadFromDB`. -/
def checkInfo (guid : ObjectGuid) (info : ArenaTeamTypes → ℕ) (type : ArenaTeamTypes) : ℕ :=
  match s.ArenaTeamStore[info type]? with
  | some t => if t.IsMember guid then info type else 0
  | none => 0

/-- The info fields of a player who logs in. -/
def _LoadArenaTeamInfo (guid : ObjectGuid) : ArenaTeamTypes → ℕ :=
  s.checkInfo guid (((s.arena_team_member.filter (·.2 = guid)).map Prod.fst).foldl s.loadInfo fun _ ↦ 0)

/-- What happens: a request of a player, or a player comes, goes, starts or stops loading a map. -/
inductive Event where
  | HandleTurnInPetitionOpcode (guid : ObjectGuid) (type : ArenaTeamTypes) (signatures : List ObjectGuid)
  | HandleArenaTeamInviteOpcode (guid : ObjectGuid) (arenaTeamId : ℕ) (invited : ObjectGuid)
  | HandleArenaTeamAcceptOpcode (guid : ObjectGuid) (allied : Bool)
  | HandleArenaTeamDeclineOpcode (guid : ObjectGuid)
  | HandleArenaTeamLeaveOpcode (guid : ObjectGuid) (arenaTeamId : ℕ) (InArena : Bool)
  | HandleArenaTeamDisbandOpcode (guid : ObjectGuid) (arenaTeamId : ℕ) (IsFighting : Bool)
  | HandleArenaTeamRemoveOpcode (guid : ObjectGuid) (arenaTeamId : ℕ) (name : String) (IsFighting : Bool)
  | HandleArenaTeamLeaderOpcode (guid : ObjectGuid) (arenaTeamId : ℕ) (name : String)
  | login (guid : ObjectGuid)
  | logout (guid : ObjectGuid)
  | setInWorld (guid : ObjectGuid) (IsInWorld : Bool)

/-- What an event does.  Only a player in the world sends a request, only a character in the cache logs in,
and the server stops when it is out of team ids. -/
def next (s : Membership) : Event → Option Membership
  | .HandleTurnInPetitionOpcode guid type signatures =>
    if s.NextArenaTeamId < 0xFFFFFFFE then
      (s.FindPlayer guid).map fun p ↦ s.HandleTurnInPetitionOpcode r p guid type signatures
    else none
  | .HandleArenaTeamInviteOpcode guid arenaTeamId invited =>
    (s.FindPlayer guid).map fun p ↦ s.HandleArenaTeamInviteOpcode p arenaTeamId invited
  | .HandleArenaTeamAcceptOpcode guid allied =>
    (s.FindPlayer guid).map fun p ↦ s.HandleArenaTeamAcceptOpcode r p guid allied
  | .HandleArenaTeamDeclineOpcode guid => (s.FindPlayer guid).map fun _ ↦ s.SetArenaTeamIdInvited guid 0
  | .HandleArenaTeamLeaveOpcode guid arenaTeamId InArena =>
    (s.FindPlayer guid).map fun _ ↦ s.HandleArenaTeamLeaveOpcode r guid arenaTeamId InArena
  | .HandleArenaTeamDisbandOpcode guid arenaTeamId IsFighting =>
    (s.FindPlayer guid).map fun _ ↦ s.HandleArenaTeamDisbandOpcode r guid arenaTeamId IsFighting
  | .HandleArenaTeamRemoveOpcode guid arenaTeamId name IsFighting =>
    (s.FindPlayer guid).map fun _ ↦ s.HandleArenaTeamRemoveOpcode r guid arenaTeamId name IsFighting
  | .HandleArenaTeamLeaderOpcode guid arenaTeamId name =>
    (s.FindPlayer guid).map fun _ ↦ s.HandleArenaTeamLeaderOpcode r guid arenaTeamId name
  | .login guid =>
    if (s.players guid).isNone ∧ r.characters guid then
      some { s with players := Function.update s.players guid (some ⟨s._LoadArenaTeamInfo guid, 0, true⟩) }
    else none
  | .logout guid => some { s with players := Function.update s.players guid none }
  | .setInWorld guid IsInWorld => some (s.modifyPlayer guid fun p ↦ { p with IsInWorld := IsInWorld })

/-- The server from its start, without a team. -/
def memberships : Machine Membership Event where
  start := ⟨∅, 1, fun _ _ ↦ 0, fun _ ↦ none, []⟩
  next s event := s.next r event

end Membership

end Gundrak.Arenas
