import Gundrak.Util.Machine
import Gundrak.Util.ObjectGuid
import Gundrak.Util.TreeMap

/-!
# Arena teams

An arena team has a type, a captain, members, and statistics for the week and for the season.  All of it is
in memory and in the tables `arena_team` and `arena_team_member`.  A match changes the statistics of a team
and of the members that played and saves them, the weekly distribution sets those of the week to zero and
saves them, and the membership is written when it changes.

`SaveToDB` leaves out the members without a game in the week.  `LoadArenaTeams` makes the teams again from
the two tables: it reads the rows of the members in the order of the team ids, with one cursor for all
teams.
-/

open Std (ExtTreeMap)

namespace Gundrak.Arenas

/-- `ArenaTeamTypes`. -/
inductive ArenaTeamTypes where
  | ARENA_TEAM_2v2
  | ARENA_TEAM_3v3
  | ARENA_TEAM_5v5
deriving DecidableEq

/-- The number of a type, the players on one side. -/
def ArenaTeamTypes.toNat : ArenaTeamTypes → ℕ
  | ARENA_TEAM_2v2 => 2
  | ARENA_TEAM_3v3 => 3
  | ARENA_TEAM_5v5 => 5

/-- `ArenaTeamMember`, with what a row of `arena_team_member` has. -/
structure ArenaTeamMember where
  Guid : ObjectGuid
  WeekGames : UInt16
  WeekWins : UInt16
  SeasonGames : UInt16
  SeasonWins : UInt16
  PersonalRating : UInt16
deriving DecidableEq

/-- `ArenaTeamStats`. -/
structure ArenaTeamStats where
  Rating : UInt16
  WeekGames : UInt16
  WeekWins : UInt16
  SeasonGames : UInt16
  SeasonWins : UInt16
  Rank : UInt32
deriving DecidableEq

/-- `ArenaTeam`. -/
structure ArenaTeam where
  GetType : ArenaTeamTypes
  CaptainGuid : ObjectGuid
  Members : List ArenaTeamMember
  Stats : ArenaTeamStats
deriving DecidableEq

/-- A row of `arena_team`. -/
structure TeamRow where
  type : ArenaTeamTypes
  captainGuid : ObjectGuid
  Stats : ArenaTeamStats
deriving DecidableEq

/-- What comes from outside: the configured ratings, what the columns have that an `INSERT` leaves out, and
which characters have a name. -/
structure Setup where
  CONFIG_ARENA_START_RATING : UInt16
  CONFIG_ARENA_START_PERSONAL_RATING : UInt32
  memberColumns : ArenaTeamMember
  teamColumns : ArenaTeamStats
  characters : ObjectGuid → Bool

/-! ## Matches -/

/-- A rating after a change: it can only drop to 0. -/
def changeRating (rating : UInt16) (mod : ℤ) : UInt16 :=
  if rating.toNat + mod < 0 then 0 else UInt16.ofNat (rating.toNat + mod).toNat

namespace ArenaTeamMember

/-- `MemberLost`, and `OfflineMemberLost`, for the member; the change of the personal rating is given. -/
def lost (m : ArenaTeamMember) (mod : ℤ) : ArenaTeamMember :=
  { m with
    PersonalRating := changeRating m.PersonalRating mod
    WeekGames := m.WeekGames + 1
    SeasonGames := m.SeasonGames + 1 }

/-- `MemberWon`, for the member. -/
def won (m : ArenaTeamMember) (mod : ℤ) : ArenaTeamMember :=
  { m with
    PersonalRating := changeRating m.PersonalRating mod
    WeekGames := m.WeekGames + 1
    SeasonGames := m.SeasonGames + 1
    SeasonWins := m.SeasonWins + 1
    WeekWins := m.WeekWins + 1 }

end ArenaTeamMember

namespace ArenaTeam

variable (t : ArenaTeam)

/-- `ArenaTeam::IsMember`. -/
def IsMember (guid : ObjectGuid) : Bool := t.Members.any (·.Guid = guid)

/-- Change the first member with a guid. -/
def modifyMember (guid : ObjectGuid) (f : ArenaTeamMember → ArenaTeamMember) :
    List ArenaTeamMember → List ArenaTeamMember
  | [] => []
  | m :: ms => if m.Guid = guid then f m :: ms else m :: modifyMember guid f ms

/-- `ArenaTeam::MemberLost`, and `ArenaTeam::OfflineMemberLost`. -/
def MemberLost (guid : ObjectGuid) (mod : ℤ) : ArenaTeam :=
  { t with Members := modifyMember guid (·.lost mod) t.Members }

/-- `ArenaTeam::MemberWon`. -/
def MemberWon (guid : ObjectGuid) (mod : ℤ) : ArenaTeam :=
  { t with Members := modifyMember guid (·.won mod) t.Members }

/-- `ArenaTeam::FinishGame`, with the other teams. -/
def FinishGame (others : List ArenaTeam) (mod : ℤ) : ArenaTeam :=
  let rating := changeRating t.Stats.Rating mod
  { t with
    Stats :=
      { t.Stats with
        Rating := rating
        WeekGames := t.Stats.WeekGames + 1
        SeasonGames := t.Stats.SeasonGames + 1
        Rank := 1 + UInt32.ofNat (others.countP fun o ↦ o.GetType = t.GetType ∧ o.Stats.Rating > rating) } }

/-- `ArenaTeam::WonAgainst`; the change of the rating is given. -/
def WonAgainst (others : List ArenaTeam) (rating_change : ℤ) : ArenaTeam :=
  let t' := t.FinishGame others rating_change
  { t' with
    Stats :=
      { t'.Stats with
        WeekWins := t'.Stats.WeekWins + 1
        SeasonWins := t'.Stats.SeasonWins + 1 } }

/-- `ArenaTeam::LostAgainst`. -/
def LostAgainst (others : List ArenaTeam) (rating_change : ℤ) : ArenaTeam := t.FinishGame others rating_change

/-- `ArenaTeam::FinishWeek`, for a team that has played. -/
def FinishWeek : ArenaTeam :=
  { t with
    Stats := { t.Stats with WeekGames := 0, WeekWins := 0 }
    Members := t.Members.map fun m ↦ { m with WeekGames := 0, WeekWins := 0 } }

/-- The row of a team. -/
def row : TeamRow := ⟨t.GetType, t.CaptainGuid, t.Stats⟩

/-- The new member that `ArenaTeam::AddMember` makes. -/
def newMember (setup : Setup) (guid : ObjectGuid) : ArenaTeamMember where
  Guid := guid
  WeekGames := 0
  WeekWins := 0
  SeasonGames := 0
  SeasonWins := 0
  PersonalRating :=
    if setup.CONFIG_ARENA_START_PERSONAL_RATING > 0 then setup.CONFIG_ARENA_START_PERSONAL_RATING.toUInt16
    else if t.Stats.Rating ≥ 1000 then 1000 else 0

end ArenaTeam

/-! ## The points of a week -/

/-- One turn of the loop of `UpdateArenaPointsHelper`: a player has the most of what his teams give. -/
def creditPoints (points : ArenaTeamMember → ℕ) (playerPoints : ExtTreeMap ObjectGuid ℕ)
    (m : ArenaTeamMember) : ExtTreeMap ObjectGuid ℕ :=
  match playerPoints[m.Guid]? with
  | some old => if old < points m then playerPoints.insert m.Guid (points m) else playerPoints
  | none => playerPoints.insert m.Guid (points m)

/-- `ArenaTeam::UpdateArenaPointsHelper`.  `requiredGames` and `GetPoints` use floating-point numbers, and
are given. -/
def UpdateArenaPointsHelper (requiredGames : UInt16 → UInt16) (GetPoints : ArenaTeamTypes → UInt16 → UInt16 → ℕ)
    (playerPoints : ExtTreeMap ObjectGuid ℕ) (t : ArenaTeam) : ExtTreeMap ObjectGuid ℕ :=
  if t.Stats.WeekGames < 10 then playerPoints
  else
    t.Members.foldl (creditPoints fun m ↦
      if m.WeekGames ≥ requiredGames t.Stats.WeekGames then GetPoints t.GetType t.Stats.Rating m.PersonalRating
      else 0) playerPoints

/-- `PlayerPoints` of `DistributeArenaPoints`. -/
def PlayerPoints (requiredGames : UInt16 → UInt16) (GetPoints : ArenaTeamTypes → UInt16 → UInt16 → ℕ)
    (teams : List ArenaTeam) : ExtTreeMap ObjectGuid ℕ :=
  teams.foldl (UpdateArenaPointsHelper requiredGames GetPoints) ∅

/-! ## The manager and the tables -/

/-- `ArenaTeamMgr`, with the tables.  A row of `arena_team_member` is a team id and the other columns. -/
structure ArenaTeamMgr where
  ArenaTeamStore : ExtTreeMap ℕ ArenaTeam
  arena_team : ExtTreeMap ℕ TeamRow
  arena_team_member : List (ℕ × ArenaTeamMember)

namespace ArenaTeamMgr

variable (s : ArenaTeamMgr) (setup : Setup)

/-- The `UPDATE` of the row of a member. -/
def updateMember (id : ℕ) (rows : List (ℕ × ArenaTeamMember)) (m : ArenaTeamMember) :
    List (ℕ × ArenaTeamMember) :=
  rows.map fun row ↦ if row.1 = id ∧ row.2.Guid = m.Guid then (id, m) else row

/-- The statements of `SaveToDB` for one member: without a game in the week there is none. -/
def saveMember (id : ℕ) (rows : List (ℕ × ArenaTeamMember)) (m : ArenaTeamMember) :
    List (ℕ × ArenaTeamMember) :=
  if m.WeekGames = 0 then rows else updateMember id rows m

/-- A team changes, and is saved by `ArenaTeam::SaveToDB`. -/
def SaveToDB (id : ℕ) (t : ArenaTeam) : ArenaTeamMgr where
  ArenaTeamStore := s.ArenaTeamStore.insert id t
  arena_team := s.arena_team.modify id fun row ↦ { row with Stats := t.Stats }
  arena_team_member := t.Members.foldl (saveMember id) s.arena_team_member

/-- The other teams. -/
def others (id : ℕ) : List ArenaTeam := (s.ArenaTeamStore.erase id).toList.map Prod.snd

/-- `ArenaTeam::Create`, which adds the captain as a member, or does not if `AddMember` refuses him, and
`AddArenaTeam`. -/
def Create (id : ℕ) (type : ArenaTeamTypes) (captainGuid : ObjectGuid) (added : Bool) : ArenaTeamMgr :=
  let t : ArenaTeam := ⟨type, captainGuid, [], ⟨setup.CONFIG_ARENA_START_RATING, 0, 0, 0, 0, 0⟩⟩
  { ArenaTeamStore := s.ArenaTeamStore.insert id
      { t with Members := if added then [t.newMember setup captainGuid] else [] }
    arena_team := s.arena_team.insert id
      ⟨type, captainGuid, { setup.teamColumns with Rating := setup.CONFIG_ARENA_START_RATING }⟩
    arena_team_member := if added then
        s.arena_team_member ++ [(id, { setup.memberColumns with Guid := captainGuid })]
      else s.arena_team_member }

/-- `ArenaTeam::AddMember`, of a character that is in no team of the type. -/
def AddMember (id : ℕ) (t : ArenaTeam) (guid : ObjectGuid) : ArenaTeamMgr :=
  if t.Members.length ≥ t.GetType.toNat * 2 then s
  else
    { s with
      ArenaTeamStore := s.ArenaTeamStore.insert id
        { t with Members := t.Members ++ [t.newMember setup guid] }
      arena_team_member := s.arena_team_member ++ [(id, { setup.memberColumns with Guid := guid })] }

/-- `ArenaTeam::DelMember`, with `cleanDb`. -/
def DelMember (id : ℕ) (t : ArenaTeam) (guid : ObjectGuid) : ArenaTeamMgr :=
  { s with
    ArenaTeamStore := s.ArenaTeamStore.insert id { t with Members := t.Members.eraseP (·.Guid = guid) }
    arena_team_member := s.arena_team_member.filter fun row ↦ ¬ (row.1 = id ∧ row.2.Guid = guid) }

/-- `ArenaTeam::SetCaptain`. -/
def SetCaptain (id : ℕ) (t : ArenaTeam) (guid : ObjectGuid) : ArenaTeamMgr :=
  { s with
    ArenaTeamStore := s.ArenaTeamStore.insert id { t with CaptainGuid := guid }
    arena_team := s.arena_team.modify id fun row ↦ { row with captainGuid := guid } }

/-- `ArenaTeam::Disband`. -/
def Disband (id : ℕ) : ArenaTeamMgr where
  ArenaTeamStore := s.ArenaTeamStore.erase id
  arena_team := s.arena_team.erase id
  arena_team_member := s.arena_team_member.filter fun row ↦ row.1 ≠ id

/-- One turn of the last loop of `DistributeArenaPoints`. -/
def finishWeek (s : ArenaTeamMgr) (team : ℕ × ArenaTeam) : ArenaTeamMgr :=
  if team.2.Stats.WeekGames = 0 then s else s.SaveToDB team.1 team.2.FinishWeek

/-- `ArenaTeamMgr::DistributeArenaPoints`, for the teams. -/
def DistributeArenaPoints : ArenaTeamMgr := s.ArenaTeamStore.toList.foldl finishWeek s

/-- The operations on the teams. -/
inductive Call where
  | Create (id : ℕ) (type : ArenaTeamTypes) (captainGuid : ObjectGuid) (added : Bool)
  | AddMember (id : ℕ) (guid : ObjectGuid)
  | DelMember (id : ℕ) (guid : ObjectGuid)
  | SetCaptain (id : ℕ) (guid : ObjectGuid)
  | Disband (id : ℕ)
  | WonAgainst (id : ℕ) (rating_change : ℤ)
  | LostAgainst (id : ℕ) (rating_change : ℤ)
  | MemberWon (id : ℕ) (guid : ObjectGuid) (mod : ℤ)
  | MemberLost (id : ℕ) (guid : ObjectGuid) (mod : ℤ)
  | DistributeArenaPoints

/-- What an operation does.  A new team has an id that is not in use, only a character with a name gets
into a team, and only one that is not in it; the changes by a match are saved. -/
def next (s : ArenaTeamMgr) : Call → Option ArenaTeamMgr
  | .Create id type captainGuid added =>
    if id ∉ s.ArenaTeamStore ∧ setup.characters captainGuid then
      some (s.Create setup id type captainGuid added) else none
  | .AddMember id guid => s.ArenaTeamStore[id]?.bind fun t ↦
      if t.IsMember guid = false ∧ setup.characters guid then some (s.AddMember setup id t guid) else none
  | .DelMember id guid => s.ArenaTeamStore[id]?.map fun t ↦ s.DelMember id t guid
  | .SetCaptain id guid => s.ArenaTeamStore[id]?.map fun t ↦ s.SetCaptain id t guid
  | .Disband id => s.ArenaTeamStore[id]?.map fun _ ↦ s.Disband id
  | .WonAgainst id rating_change => s.ArenaTeamStore[id]?.map fun t ↦
      s.SaveToDB id (t.WonAgainst (s.others id) rating_change)
  | .LostAgainst id rating_change => s.ArenaTeamStore[id]?.map fun t ↦
      s.SaveToDB id (t.LostAgainst (s.others id) rating_change)
  | .MemberWon id guid mod => s.ArenaTeamStore[id]?.map fun t ↦ s.SaveToDB id (t.MemberWon guid mod)
  | .MemberLost id guid mod => s.ArenaTeamStore[id]?.map fun t ↦ s.SaveToDB id (t.MemberLost guid mod)
  | .DistributeArenaPoints => some s.DistributeArenaPoints

/-- The server from its start, without a team. -/
def arenaTeams : Machine ArenaTeamMgr Call where
  start := ⟨∅, ∅, []⟩
  next s call := s.next setup call

/-! ## Loading -/

/-- `ArenaTeam::LoadMembersFromDB`: the rows up to the first one of a later team. -/
def LoadMembersFromDB (TeamId : ℕ) (result : List (ℕ × ArenaTeamMember)) : List ArenaTeamMember :=
  ((result.takeWhile (·.1 ≤ TeamId)).map Prod.snd).filter fun m ↦ setup.characters m.Guid

/-- The loop of `ArenaTeamMgr::LoadArenaTeams`: a team without its captain is disbanded. -/
def loadArenaTeams : List (ℕ × TeamRow) → List (ℕ × ArenaTeamMember) → List (ℕ × ArenaTeam)
  | [], _ => []
  | (id, row) :: teams, result =>
    let members := LoadMembersFromDB setup id result
    let rest := loadArenaTeams teams (result.dropWhile (·.1 ≤ id))
    if members.any (·.Guid = row.captainGuid) then
      (id, ⟨row.type, row.captainGuid, members, row.Stats⟩) :: rest
    else rest

/-- The second query of `LoadArenaTeams`: the rows of the teams there are, `ORDER BY arenateamid ASC`. -/
def IsResult (result : List (ℕ × ArenaTeamMember)) : Prop :=
  result.Perm (s.arena_team_member.filter fun row ↦ row.1 ∈ s.arena_team) ∧ result.Pairwise fun x y ↦ x.1 ≤ y.1

/-- `ArenaTeamMgr::LoadArenaTeams`, with the result of the second query. -/
def LoadArenaTeams (result : List (ℕ × ArenaTeamMember)) : List (ℕ × ArenaTeam) :=
  loadArenaTeams setup s.arena_team.toList result

end ArenaTeamMgr

end Gundrak.Arenas
