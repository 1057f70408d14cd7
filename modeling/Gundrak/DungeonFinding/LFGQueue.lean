import Gundrak.DungeonFinding.LFG
import Gundrak.Util.JoinedNumbers
import Gundrak.Util.TreeMap

/-!
# The queue of the dungeon finder

An `LFGQueue` holds the data of the players and groups that are queued, the ones that are new and the
ones that have been compared with the others already, and a cache: for a combination of guids, under
the joined text of the guids, how well it goes together.  `FindGroups` takes the new ones one after
the other, and `FindNewGroups` adds guids that are queued to it until `CheckCompatibility` says that
the group is complete.

`CheckCompatibility` also writes: to the cache, to the best combination that each queue entry
remembers, and when the group is complete it takes its guids off the lists and hands a proposal to
the manager.  Its decision is split off as `judge`, which only reads; what follows from the decision is
`carryOut`.

The proposals handed to `LFGMgr::AddProposal` are kept in order (`QueueSearch.added`), for the manager
to store.  Join and wait times, and the packets that tell players about them, are left out.
-/

open Std (ExtTreeMap)
open JoinedNumbers (text join sortedSet)

namespace Gundrak.Lfg

/-! ## Proposals -/

/-- `LfgProposalState`. -/
inductive LfgProposalState where
  | initiating
  | failed
  | success
deriving DecidableEq, Repr

/-- `LfgProposalPlayer`. -/
structure LfgProposalPlayer where
  role : UInt8
  accept : LfgAnswer
  /-- Original group guid. -/
  group : ObjectGuid
deriving DecidableEq

/-- `LfgProposal`. -/
structure LfgProposal where
  id : UInt32
  dungeonId : ℕ
  state : LfgProposalState
  /-- Proposal group (0 if new). -/
  group : ObjectGuid
  leader : ObjectGuid
  cancelTime : ℕ
  isNew : Bool
  /-- Queue ids to remove or add again. -/
  queues : List ObjectGuid
  players : ExtTreeMap ObjectGuid LfgProposalPlayer

/-- `LFG_TIME_PROPOSAL`. -/
def LFG_TIME_PROPOSAL : ℕ := 45

/-! ## Data of the queue -/

/-- `LfgCompatibility`. -/
inductive LfgCompatibility where
  | pending
  | wrongGroupSize
  | tooMuchPlayers
  | multipleLfgGroups
  | hasIgnores
  | noRoles
  | noDungeons
  | withLessPlayers
  | badStates
  | match
deriving DecidableEq, Repr

/-- Values under `LFG_COMPATIBLES_WITH_LESS_PLAYERS` are not compatible. -/
def LfgCompatibility.compatible : LfgCompatibility → Bool
  | .withLessPlayers | .badStates | .match => true
  | _ => false

/-- The key of a combination in the cache. -/
abbrev Key := List Char

/-- `LfgCompatibilityData`. -/
structure LfgCompatibilityData where
  compatibility : LfgCompatibility
  roles : LfgRolesMap

/-- `LfgQueueData`. -/
structure LfgQueueData where
  tanks : UInt8
  healers : UInt8
  dps : UInt8
  dungeons : LfgDungeonSet
  roles : LfgRolesMap
  bestCompatible : Key

namespace LfgQueueData

/-- The constructor of `LfgQueueData`. -/
def new (dungeons : LfgDungeonSet) (roles : LfgRolesMap) : LfgQueueData where
  tanks := UInt8.ofNat LFG_TANKS_NEEDED
  healers := UInt8.ofNat LFG_HEALERS_NEEDED
  dps := UInt8.ofNat LFG_DPS_NEEDED
  dungeons := dungeons
  roles := roles
  bestCompatible := []

/-- One step of the loop that counts down who is still needed. -/
def count (queueData : LfgQueueData) (role : UInt8) : LfgQueueData :=
  if role &&& PLAYER_ROLE_TANK ≠ 0 then { queueData with tanks := queueData.tanks - 1 }
  else if role &&& PLAYER_ROLE_HEALER ≠ 0 then { queueData with healers := queueData.healers - 1 }
  else { queueData with dps := queueData.dps - 1 }

/-- The number of guids in a key, in a byte. -/
def keySize (key : Key) : ℕ := (key.count '|' + 1) % 256

/-- The number of guids in the best combination so far. -/
def storedSize (queueData : LfgQueueData) : ℕ :=
  if queueData.bestCompatible = [] then 0 else keySize queueData.bestCompatible

/-- `LFGQueue::UpdateBestCompatibleInQueue`. -/
def UpdateBestCompatibleInQueue (queueData : LfgQueueData) (key : Key) (roles : LfgRolesMap) :
    LfgQueueData :=
  if keySize key ≤ queueData.storedSize then queueData
  else
    (roles.toList.map Prod.snd).foldl count { queueData with
        bestCompatible := key
        tanks := UInt8.ofNat LFG_TANKS_NEEDED
        healers := UInt8.ofNat LFG_HEALERS_NEEDED
        dps := UInt8.ofNat LFG_DPS_NEEDED }

/-- `LFGQueue::FindBestCompatibleInQueue`, for the entry of `guid`. -/
def FindBestCompatibleInQueue (CompatibleMapStore : ExtTreeMap Key LfgCompatibilityData)
    (guid : ObjectGuid) (queueData : LfgQueueData) : LfgQueueData :=
  CompatibleMapStore.toList.foldl (fun queueData entry ↦
    if entry.2.compatibility = .withLessPlayers ∧ text guid <:+: entry.1 then
      queueData.UpdateBestCompatibleInQueue entry.1 entry.2.roles
    else queueData) queueData

end LfgQueueData

/-- `LFGQueue`. -/
structure LFGQueue where
  QueueDataStore : ExtTreeMap ObjectGuid LfgQueueData
  CompatibleMapStore : ExtTreeMap Key LfgCompatibilityData
  currentQueueStore : List ObjectGuid
  newToQueueStore : List ObjectGuid

/-- `ConcatenateGuids`. -/
def ConcatenateGuids (check : List ObjectGuid) : Key := join '|' (sortedSet check)

namespace LFGQueue

variable (queue : LFGQueue)

/-- Nobody is queued. -/
def empty : LFGQueue := ⟨∅, ∅, [], []⟩

/-! ## Adding and removing -/

/-- `AddToNewQueue`. -/
def AddToNewQueue (guid : ObjectGuid) : LFGQueue :=
  { queue with newToQueueStore := queue.newToQueueStore ++ [guid] }

/-- `RemoveFromNewQueue`. -/
def RemoveFromNewQueue (guid : ObjectGuid) : LFGQueue :=
  { queue with newToQueueStore := queue.newToQueueStore.filter (· ≠ guid) }

/-- `AddToCurrentQueue`. -/
def AddToCurrentQueue (guid : ObjectGuid) : LFGQueue :=
  { queue with currentQueueStore := queue.currentQueueStore ++ [guid] }

/-- `AddToFrontCurrentQueue`. -/
def AddToFrontCurrentQueue (guid : ObjectGuid) : LFGQueue :=
  { queue with currentQueueStore := guid :: queue.currentQueueStore }

/-- `RemoveFromCurrentQueue`. -/
def RemoveFromCurrentQueue (guid : ObjectGuid) : LFGQueue :=
  { queue with currentQueueStore := queue.currentQueueStore.filter (· ≠ guid) }

/-- `AddToQueue`. -/
def AddToQueue (guid : ObjectGuid) (reAdd : Bool) : LFGQueue :=
  if guid ∉ queue.QueueDataStore then queue
  else if reAdd then queue.AddToFrontCurrentQueue guid
  else queue.AddToNewQueue guid

/-- `AddQueueData`. -/
def AddQueueData (guid : ObjectGuid) (dungeons : LfgDungeonSet) (rolesMap : LfgRolesMap) : LFGQueue :=
  { queue with
    QueueDataStore := queue.QueueDataStore.insert guid (.new dungeons rolesMap) }.AddToQueue guid false

/-- `RemoveFromCompatibles`. -/
def RemoveFromCompatibles (guid : ObjectGuid) : LFGQueue :=
  { queue with
    CompatibleMapStore := queue.CompatibleMapStore.filter fun key _ ↦ ¬ text guid <:+: key }

/-- What `RemoveFromQueue` does with the entries of the others: those whose best combination contains
the text of the guid look for another one. -/
def forgetBest (guid : ObjectGuid) : LFGQueue :=
  { queue with
    QueueDataStore := queue.QueueDataStore.map fun other queueData ↦
      if other ≠ guid ∧ text guid <:+: queueData.bestCompatible then
        { queueData with bestCompatible := [] }.FindBestCompatibleInQueue queue.CompatibleMapStore other
      else queueData }

/-- `RemoveFromQueue`. -/
def RemoveFromQueue (guid : ObjectGuid) : LFGQueue :=
  let queue := (queue.RemoveFromNewQueue guid).RemoveFromCurrentQueue guid
  let queue := (queue.RemoveFromCompatibles guid).forgetBest guid
  { queue with QueueDataStore := queue.QueueDataStore.erase guid }

/-- `UpdateQueueTimers`, as far as the queue itself is concerned. -/
def UpdateQueueTimers : LFGQueue :=
  { queue with
    QueueDataStore := queue.QueueDataStore.map fun guid queueData ↦
      if queueData.bestCompatible = [] then
        queueData.FindBestCompatibleInQueue queue.CompatibleMapStore guid
      else queueData }

/-! ## The cache -/

/-- `SetCompatibles`: the roles of a combination that is cached already stay. -/
def SetCompatibles (key : Key) (compatibles : LfgCompatibility) : LFGQueue :=
  { queue with
    CompatibleMapStore := queue.CompatibleMapStore.insert key
      ⟨compatibles, (queue.CompatibleMapStore[key]?.map (·.roles)).getD ∅⟩ }

/-- `SetCompatibilityData`. -/
def SetCompatibilityData (key : Key) (data : LfgCompatibilityData) : LFGQueue :=
  { queue with CompatibleMapStore := queue.CompatibleMapStore.insert key data }

/-- `GetCompatibles`. -/
def GetCompatibles (key : Key) : LfgCompatibility :=
  (queue.CompatibleMapStore[key]?.map (·.compatibility)).getD .pending

/-- `UpdateBestCompatibleInQueue` for the entries of all of `check`. -/
def updateBest (check : List ObjectGuid) (key : Key) (roles : LfgRolesMap) : LFGQueue :=
  { queue with
    QueueDataStore := check.foldl (fun store guid ↦
      store.modify guid fun queueData ↦ queueData.UpdateBestCompatibleInQueue key roles)
      queue.QueueDataStore }

/-- The roles of a queue entry, read with `operator[]`. -/
def rolesOf (guid : ObjectGuid) : LfgRolesMap := (queue.QueueDataStore[guid]?.map (·.roles)).getD ∅

/-- The dungeons of a queue entry, read with `operator[]`. -/
def dungeonsOf (guid : ObjectGuid) : LfgDungeonSet := (queue.QueueDataStore[guid]?.map (·.dungeons)).getD ⟨[], .nil⟩

end LFGQueue

/-! ## Judging a combination -/

/-- What the queue asks its manager and the rest of the server: the states of players and groups, who
ignores whom, the time, and the random numbers for the proposals it makes, by how many it has made. -/
structure MgrView where
  IsLfgGroup : ObjectGuid → Bool
  GetState : ObjectGuid → LfgState
  GetOldState : ObjectGuid → LfgState
  HasIgnore : ObjectGuid → ObjectGuid → Bool
  /-- Both players are asked. -/
  HasIgnore_comm : ∀ guid1 guid2, HasIgnore guid1 guid2 = HasIgnore guid2 guid1
  time : ℕ
  /-- The number that `SelectRandomContainerElement` draws. -/
  select : ℕ → ℕ
  /-- `urand(0, 1)` at a player who may be made leader. -/
  coin : ℕ → ObjectGuid → Bool

namespace MgrView

variable (view : MgrView)

/-- `LFGMgr::AllQueued`. -/
def AllQueued (check : List ObjectGuid) : Bool := !check.isEmpty && check.all fun guid ↦ view.GetState guid = .queued

end MgrView

/-- What `CheckCompatibility` counts in its first loop. -/
structure Census where
  /-- a byte -/
  numPlayers : ℕ
  numLfgGroups : ℕ
  /-- `proposal.group` -/
  group : ObjectGuid
  proposalGroups : ExtTreeMap ObjectGuid ObjectGuid

/-- The counters at the beginning of the loop. -/
def Census.init : Census := ⟨0, 0, .Empty, ∅⟩

/-- One entry of the queue is counted. -/
def Census.add (view : MgrView) (census : Census) (guid : ObjectGuid) (roles : LfgRolesMap) : Census where
  numPlayers := (census.numPlayers + roles.size) % 256
  numLfgGroups := census.numLfgGroups + if view.IsLfgGroup guid then 1 else 0
  group := if view.IsLfgGroup guid ∧ census.numLfgGroups = 0 then guid else census.group
  proposalGroups := roles.keys.foldl (fun groups player ↦
    groups.insert player (if guid.isGroup then guid else .Empty)) census.proposalGroups

/-- A combination that is complete. -/
structure Formation where
  dungeons : LfgDungeonSet
  roles : LfgRolesMap
  groups : ExtTreeMap ObjectGuid ObjectGuid
  group : ObjectGuid
  isNew : Bool

/-- What `CheckCompatibility` finds out about a combination of the right size whose tail is compatible. -/
inductive Verdict where
  /-- The guid is not queued but listed as queued. -/
  | notQueued (guid : ObjectGuid)
  | incompatible (reason : LfgCompatibility)
  | lessPlayers (roles : LfgRolesMap)
  | badStates
  | complete (formation : Formation)

namespace LFGQueue

variable (view : MgrView) (queue : LFGQueue)

/-- The first loop of `CheckCompatibility`, or the guid at which it gives up. -/
def census (counted : Census) : List ObjectGuid → Except ObjectGuid Census
  | [] => .ok counted
  | guid :: check =>
    if counted.numLfgGroups < 2 ∧ counted.numPlayers ≤ MAXGROUPSIZE then
      match queue.QueueDataStore[guid]? with
      | none => .error guid
      | some queueData => census (counted.add view guid queueData.roles) check
    else .ok counted

/-- A player joins those before, if none of them and the player ignore each other. -/
def joinRole (proposalRoles : LfgRolesMap) (entry : ObjectGuid × UInt8) : LfgRolesMap :=
  if proposalRoles.keys.any fun other ↦ entry.1 ≠ other && view.HasIgnore entry.1 other then
    proposalRoles
  else proposalRoles.insert entry.1 entry.2

/-- The dungeons all entries have chosen. -/
def commonDungeons : List ObjectGuid → LfgDungeonSet
  | [] => ⟨[], .nil⟩
  | guid :: check => check.foldl (fun proposalDungeons other ↦
      proposalDungeons.intersection (queue.dungeonsOf other)) (queue.dungeonsOf guid)

/-- The roles and the dungeons of a combination, or why it has none.  A single entry has been checked
before it was queued. -/
def combine (check : List ObjectGuid) (numPlayers : ℕ) :
    Except LfgCompatibility (LfgRolesMap × LfgDungeonSet) :=
  if 1 < check.length then
    let proposalRoles := check.foldl (fun proposalRoles guid ↦
      (queue.rolesOf guid).toList.foldl (joinRole view) proposalRoles) ∅
    if proposalRoles.size % 256 ≠ numPlayers then .error .hasIgnores
    else match CheckGroupRoles proposalRoles with
      | none => .error .noRoles
      | some proposalRoles =>
        let proposalDungeons := queue.commonDungeons check
        if proposalDungeons.ids = [] then .error .noDungeons
        else .ok (proposalRoles, proposalDungeons)
  else
    let roles := queue.rolesOf (check.headD .Empty)
    .ok ((CheckGroupRoles roles).getD roles, queue.dungeonsOf (check.headD .Empty))

/-- What `CheckCompatibility` finds out about a combination, after the check of all but the first. -/
def judge (check : List ObjectGuid) : Verdict :=
  match queue.census view .init check with
  | .error guid => .notQueued guid
  | .ok counted =>
    if check.length = 1 ∧ counted.numPlayers ≠ MAXGROUPSIZE then
      let roles := queue.rolesOf (check.headD .Empty)
      .lessPlayers ((CheckGroupRoles roles).getD roles)
    else if 1 < counted.numLfgGroups then .incompatible .multipleLfgGroups
    else if MAXGROUPSIZE < counted.numPlayers then .incompatible .tooMuchPlayers
    else match queue.combine view check counted.numPlayers with
      | .error reason => .incompatible reason
      | .ok (proposalRoles, proposalDungeons) =>
        if counted.numPlayers ≠ MAXGROUPSIZE then .lessPlayers proposalRoles
        else if !view.AllQueued check then .badStates
        else .complete
          { dungeons := proposalDungeons
            roles := proposalRoles
            groups := counted.proposalGroups
            group := counted.group
            isNew := counted.numLfgGroups ≠ 1 ∨ view.GetOldState (check.headD .Empty) ≠ .dungeon }

end LFGQueue

/-! ## Making a proposal -/

/-- One step of the choice of a leader: those who want to lead go before the others, and chance decides
between those who do.  The Boolean says whether anybody who wants to has been seen. -/
def chooseLeader (coin : ObjectGuid → Bool) (chosenLeader : Bool × ObjectGuid)
    (entry : ObjectGuid × UInt8) : Bool × ObjectGuid :=
  if entry.2 &&& PLAYER_ROLE_LEADER ≠ 0 then
    (true, if !chosenLeader.1 ∨ chosenLeader.2 = .Empty ∨ coin entry.1 then entry.1
      else chosenLeader.2)
  else if !chosenLeader.1 ∧ (chosenLeader.2 = .Empty ∨ coin entry.1) then (chosenLeader.1, entry.1)
  else chosenLeader

/-- The player of a proposal; one from an existing group accepts by itself. -/
def proposalPlayer (formation : Formation) (guid : ObjectGuid) (role : UInt8) : LfgProposalPlayer :=
  let group := (formation.groups[guid]?).getD .Empty
  { role := role
    group := group
    accept := if !formation.isNew ∧ group ≠ .Empty ∧ group = formation.group then .agree else .pending }

/-- The new proposal for a combination that is complete, the `n`-th of this search.  Its id is given to
it by the manager. -/
def newProposal (view : MgrView) (n : ℕ) (check : List ObjectGuid) (formation : Formation) :
    LfgProposal where
  id := 0
  dungeonId := (formation.dungeons.ids[view.select n % formation.dungeons.ids.length]?).getD 0
  state := .initiating
  group := formation.group
  leader := (formation.roles.toList.foldl (chooseLeader (view.coin n)) (false, .Empty)).2
  cancelTime := view.time + LFG_TIME_PROPOSAL
  isNew := formation.isNew
  queues := check
  players := formation.roles.map (proposalPlayer formation)

/-! ## The search -/

/-- A queue that is being searched, and the proposals it has handed to `LFGMgr::AddProposal`. -/
structure QueueSearch where
  queue : LFGQueue
  added : List LfgProposal

namespace QueueSearch

variable (view : MgrView)

/-- Only the queue changes. -/
def onQueue (search : QueueSearch) (f : LFGQueue → LFGQueue) : QueueSearch :=
  { search with queue := f search.queue }

/-- What `CheckCompatibility` does about its verdict. -/
def carryOut (check : List ObjectGuid) (search : QueueSearch) : Verdict → LfgCompatibility × QueueSearch
  | .notQueued guid => (.pending, search.onQueue (·.RemoveFromQueue guid))
  | .incompatible reason =>
    (reason, search.onQueue (·.SetCompatibles (ConcatenateGuids check) reason))
  | .lessPlayers roles =>
    (.withLessPlayers, search.onQueue fun queue ↦
      (queue.updateBest check (ConcatenateGuids check) roles).SetCompatibilityData
        (ConcatenateGuids check) ⟨.withLessPlayers, roles⟩)
  | .badStates => (.badStates, search.onQueue (·.SetCompatibles (ConcatenateGuids check) .badStates))
  | .complete formation =>
    let queue := check.foldl (fun queue guid ↦
      (queue.RemoveFromNewQueue guid).RemoveFromCurrentQueue guid) search.queue
    (.match,
      { queue := queue.SetCompatibles (ConcatenateGuids check) .match
        added := search.added ++ [newProposal view search.added.length check formation] })

/-- `CheckCompatibility` after the check of all but the first. -/
def CheckTogether (check : List ObjectGuid) (search : QueueSearch) : LfgCompatibility × QueueSearch :=
  search.carryOut view check (search.queue.judge view check)

/-- `LFGQueue::CheckCompatibility`. -/
def CheckCompatibility : List ObjectGuid → QueueSearch → LfgCompatibility × QueueSearch
  | [], search => (.wrongGroupSize, search)
  | guid :: check, search =>
    if MAXGROUPSIZE < (guid :: check).length then (.wrongGroupSize, search)
    else if 2 < (guid :: check).length then
      -- Check all-but-new compatibilities (New, A, B, C, D) --> check(A, B, C, D)
      let child := CheckCompatibility check search
      if !child.1.compatible then
        (child.1, child.2.onQueue (·.SetCompatibles (ConcatenateGuids (guid :: check)) child.1))
      else CheckTogether view (guid :: check) child.2
    else CheckTogether view (guid :: check) search

/-- The compatibility of `check` that `FindNewGroups` goes by: the cached one, or else a new one. -/
def lookOrCheck (check : List ObjectGuid) (search : QueueSearch) : LfgCompatibility × QueueSearch :=
  if search.queue.GetCompatibles (ConcatenateGuids check) = .pending then
    search.CheckCompatibility view check
  else (search.queue.GetCompatibles (ConcatenateGuids check), search)

/-- The loop at the end of `FindNewGroups`; `find` is the call it makes for `check` and the next queued
guid, which also returns what that call has left of the list `all` both share. -/
def tryQueued (find : List ObjectGuid → List ObjectGuid → QueueSearch →
      LfgCompatibility × List ObjectGuid × QueueSearch) (check : List ObjectGuid) :
    ℕ → List ObjectGuid → QueueSearch → LfgCompatibility × List ObjectGuid × QueueSearch
  | 0, all, search => (.withLessPlayers, all, search)
  | _ + 1, [], search => (.withLessPlayers, [], search)
  | rounds + 1, guid :: all, search =>
    let sub := find (check ++ [guid]) all search
    if sub.1 = .match then sub else tryQueued find check rounds sub.2.1 sub.2.2

/-- `LFGQueue::FindNewGroups`, with what it leaves of `all`.  Both recursions take from `all`, so that
its length bounds them. -/
def FindNewGroups : ℕ → List ObjectGuid → List ObjectGuid → QueueSearch →
    LfgCompatibility × List ObjectGuid × QueueSearch
  | 0, _, all, search => (.pending, all, search)
  | fuel + 1, check, all, search =>
    let looked := search.lookOrCheck view check
    if looked.1 = .badStates ∧ view.AllQueued check then
      -- compatibles (cached) changed from bad states to match
      (.match, all, looked.2.onQueue (·.SetCompatibles (ConcatenateGuids check) .match))
    else if looked.1 ≠ .withLessPlayers then (looked.1, all, looked.2)
    else tryQueued (FindNewGroups fuel) check all.length all looked.2

/-- The loop of `FindGroups`, which ends because nothing is added to the new ones. -/
def findGroupsLoop : ℕ → ℕ → QueueSearch → ℕ × QueueSearch
  | 0, proposals, search => (proposals, search)
  | fuel + 1, proposals, search =>
    match search.queue.newToQueueStore with
    | [] => (proposals, search)
    | frontguid :: _ =>
      let search := search.onQueue (·.RemoveFromNewQueue frontguid)
      let temporalList := search.queue.currentQueueStore
      let found := search.FindNewGroups view (temporalList.length + 1) [frontguid] temporalList
      if found.1 = .match then findGroupsLoop fuel ((proposals + 1) % 256) found.2.2
      else findGroupsLoop fuel proposals (found.2.2.onQueue (·.AddToCurrentQueue frontguid))

end QueueSearch

/-- `LFGQueue::FindGroups`: the number of groups it returns, the queue it leaves and the proposals it has
added. -/
def LFGQueue.FindGroups (view : MgrView) (queue : LFGQueue) : ℕ × QueueSearch :=
  QueueSearch.findGroupsLoop view queue.newToQueueStore.length 0 ⟨queue, []⟩

end Gundrak.Lfg
