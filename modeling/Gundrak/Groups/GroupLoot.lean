import Gundrak.Loot.Loot

/-!
# Rolling for loot in a group

With group loot and need before greed the members of a group who are near roll for the better items of a
loot.  A `Roll` remembers what every one of them has voted, and in four `uint8` counters how many take
part and how many votes of each kind there are.  `CountRollVote` counts a vote and decides the roll
when there are as many votes as players, `RemoveMember` takes a member out of all rolls, and `EndRoll`
decides those that are left when the time is up.

Deciding a roll gives the item to somebody or unblocks it, and removes the roll; of this only the removal
is modelled.  A loot can be gone, or its items can, while it is being rolled for; how it stands is part
of a call (`LootState`).
-/

open Std (ExtTreeMap)

namespace Gundrak.Looting

/-- `MAXRAIDSIZE`. -/
def MAXRAIDSIZE : ℕ := 40

/-- `RollVote`. -/
inductive RollVote where
  | PASS
  | NEED
  | GREED
  | DISENCHANT
  | NOT_EMITED_YET
  | NOT_VALID
deriving DecidableEq

/-- `RollType`, the vote that a number from a client stands for; `MAX_ROLL_TYPE` and above are none. -/
def rollType (Choice : UInt8) : Option RollVote :=
  match Choice.toNat with
  | 0 => some .PASS
  | 1 => some .NEED
  | 2 => some .GREED
  | 3 => some .DISENCHANT
  | _ => none

/-- `MAX_ROLL_TYPE`. -/
def MAX_ROLL_TYPE : UInt8 := 4

/-- `Roll`. -/
structure Roll where
  itemGUID : ObjectGuid
  itemid : ℕ
  playerVote : ExtTreeMap ObjectGuid RollVote
  totalPlayersRolling : UInt8
  totalNeed : UInt8
  totalGreed : UInt8
  totalPass : UInt8
  itemSlot : UInt8

/-- A member of a group when loot is rolled for. -/
structure Roller where
  guid : ObjectGuid
  /-- whether he is there and has a session -/
  hasSession : Bool
  IsAtGroupRewardDistance : Bool
  GetPassOnGroupLoot : Bool
  allowed : LootItem → Bool

/-- The members of a group.  A player is linked to a group once, and the largest groups are raids of eight
subgroups of five. -/
structure GroupMembers where
  list : List Roller
  nodup : (list.map Roller.guid).Nodup
  length_le : list.length ≤ MAXRAIDSIZE

/-- How the loot of a roll stands: whether it still exists, and whether it has no items any more. -/
structure LootState where
  isValid : Bool
  itemsEmpty : Bool

namespace Roll

/-- The constructor of `Roll`, for an item in a slot. -/
def new (itemGUID : ObjectGuid) (li : LootItem) (itemSlot : ℕ) : Roll :=
  ⟨itemGUID, li.itemid, ∅, 0, 0, 0, 0, UInt8.ofNat itemSlot⟩

/-- One pass of the loops through the members that start a roll.  For the quest items nobody passes
automatically. -/
def addRoller (autoPass : Bool) (li : LootItem) (roll : Roll) (member : Roller) : Roll :=
  if !member.hasSession then roll
  else if member.IsAtGroupRewardDistance && member.allowed li then
    if autoPass && member.GetPassOnGroupLoot then
      { roll with
        totalPlayersRolling := roll.totalPlayersRolling + 1
        playerVote := roll.playerVote.insert member.guid .PASS
        totalPass := roll.totalPass + 1 }
    else
      { roll with
        totalPlayersRolling := roll.totalPlayersRolling + 1
        playerVote := roll.playerVote.insert member.guid .NOT_EMITED_YET }
  else roll

/-- A roll for an item, with all members who take part. -/
def start (autoPass : Bool) (members : GroupMembers) (itemGUID : ObjectGuid) (li : LootItem)
    (itemSlot : ℕ) : Roll :=
  members.list.foldl (addRoller autoPass li) (new itemGUID li itemSlot)

/-- The `switch` of `CountRollVote`. -/
def vote (roll : Roll) (playerGUID : ObjectGuid) (Choice : UInt8) : Roll :=
  match rollType Choice with
  | some .PASS =>
    { roll with
      totalPass := roll.totalPass + 1
      playerVote := roll.playerVote.insert playerGUID .PASS }
  | some .NEED =>
    { roll with
      totalNeed := roll.totalNeed + 1
      playerVote := roll.playerVote.insert playerGUID .NEED }
  | some .GREED =>
    { roll with
      totalGreed := roll.totalGreed + 1
      playerVote := roll.playerVote.insert playerGUID .GREED }
  | some .DISENCHANT =>
    { roll with
      totalGreed := roll.totalGreed + 1
      playerVote := roll.playerVote.insert playerGUID .DISENCHANT }
  | _ => roll

/-- The part of `RemoveMember` on one roll in which the member has the given vote. -/
def removeVoter (roll : Roll) (guid : ObjectGuid) (vote : RollVote) : Roll :=
  let roll :=
    if vote = .GREED ∨ vote = .DISENCHANT then { roll with totalGreed := roll.totalGreed - 1 }
    else if vote = .NEED then { roll with totalNeed := roll.totalNeed - 1 }
    else if vote = .PASS then { roll with totalPass := roll.totalPass - 1 }
    else roll
  let roll :=
    if vote ≠ .NOT_VALID then { roll with totalPlayersRolling := roll.totalPlayersRolling - 1 }
    else roll
  { roll with playerVote := roll.playerVote.erase guid }

end Roll

/-- The rolls of a group.  `decided` is not in the source: it keeps the rolls that `CountRollVote` has
decided, as they stood then. -/
structure GroupRolls where
  RollId : List Roll
  decided : List Roll

namespace GroupRolls

variable (group : GroupRolls)

/-! ## Starting rolls -/

/-- One pass of the loops of `GroupLoot` and `NeedBeforeGreed` through the items: the next guid is
generated for the roll, which is dropped when nobody takes part. -/
def rollFor (autoPass : Bool) (members : GroupMembers) (itemGUIDs : ℕ → ObjectGuid)
    (li : LootItem) (itemSlot drawn : ℕ) (RollId : List Roll) : List Roll :=
  let r := Roll.start autoPass members (itemGUIDs drawn) li itemSlot
  if 0 < r.totalPlayersRolling then RollId ++ [r] else RollId

/-- The loop through the items of the loot: those above the threshold are rolled for. -/
def rollItems (members : GroupMembers) (m_lootThreshold : ℕ) (itemGUIDs : ℕ → ObjectGuid) :
    List LootItem → (itemSlot drawn : ℕ) → List Roll → ℕ × List Roll
  | [], _, drawn, RollId => (drawn, RollId)
  | li :: rest, itemSlot, drawn, RollId =>
    if !li.freeforall && decide (m_lootThreshold ≤ li.proto.Quality) then
      rollItems members m_lootThreshold itemGUIDs rest (itemSlot + 1) (drawn + 1)
        (rollFor true members itemGUIDs li itemSlot drawn RollId)
    else rollItems members m_lootThreshold itemGUIDs rest (itemSlot + 1) drawn RollId

/-- The loop through the quest items of the loot: those that follow the loot rules are rolled for. -/
def rollQuestItems (members : GroupMembers) (itemGUIDs : ℕ → ObjectGuid) :
    List LootItem → (itemSlot drawn : ℕ) → List Roll → List Roll
  | [], _, _, RollId => RollId
  | li :: rest, itemSlot, drawn, RollId =>
    if li.follow_loot_rules then
      rollQuestItems members itemGUIDs rest (itemSlot + 1) (drawn + 1)
        (rollFor false members itemGUIDs li itemSlot drawn RollId)
    else rollQuestItems members itemGUIDs rest (itemSlot + 1) drawn RollId

/-- `Group::GroupLoot`, as far as it concerns the rolls. -/
def GroupLoot (loot : Loot) (members : GroupMembers) (m_lootThreshold : ℕ)
    (itemGUIDs : ℕ → ObjectGuid) : GroupRolls :=
  let (drawn, RollId) := rollItems members m_lootThreshold itemGUIDs loot.items 0 0 group.RollId
  { group with
    RollId := rollQuestItems members itemGUIDs loot.quest_items loot.items.length drawn RollId }

/-- `Group::NeedBeforeGreed`.  It differs from `GroupLoot` in which votes the clients offer. -/
def NeedBeforeGreed (loot : Loot) (members : GroupMembers) (m_lootThreshold : ℕ)
    (itemGUIDs : ℕ → ObjectGuid) : GroupRolls :=
  group.GroupLoot loot members m_lootThreshold itemGUIDs

/-! ## Votes -/

/-- `Group::GetRoll`: the place of the roll for an item whose loot is still there. -/
def GetRoll (loots : ObjectGuid → LootState) (Guid : ObjectGuid) : Option ℕ :=
  group.RollId.findIdx? fun roll ↦ roll.itemGUID == Guid && (loots roll.itemGUID).isValid

/-- `Group::CountRollVote`. -/
def CountRollVote (loots : ObjectGuid → LootState) (playerGUID Guid : ObjectGuid)
    (Choice : UInt8) : GroupRolls :=
  match group.GetRoll loots Guid with
  | none => group
  | some rollI =>
    match group.RollId[rollI]? with
    | none => group
    | some roll =>
      if !roll.playerVote.contains playerGUID then group
      else if (loots roll.itemGUID).itemsEmpty then group
      else
        let roll := roll.vote playerGUID Choice
        if roll.totalPass.toNat + roll.totalNeed.toNat + roll.totalGreed.toNat ≥
            roll.totalPlayersRolling.toNat then
          { RollId := group.RollId.eraseIdx rollI, decided := group.decided ++ [roll] }
        else { group with RollId := group.RollId.set rollI roll }

/-- One pass of the loop of `Group::RemoveMember` through the rolls. -/
def removeFromRoll (loots : ObjectGuid → LootState) (guid : ObjectGuid) (group : GroupRolls)
    (it : ℕ) : GroupRolls :=
  match group.RollId[it]? with
  | none => group
  | some roll =>
    match roll.playerVote[guid]? with
    | none => group
    | some vote =>
      CountRollVote { group with RollId := group.RollId.set it (roll.removeVoter guid vote) } loots
        guid roll.itemGUID MAX_ROLL_TYPE

/-- `Group::RemoveMember`, as far as it concerns the rolls of a group that is not disbanded. -/
def RemoveMember (loots : ObjectGuid → LootState) (guid : ObjectGuid) : GroupRolls :=
  (List.range group.RollId.length).foldl (removeFromRoll loots guid) group

/-- `Group::EndRoll`, for the loots of the rolls that `ended` tells. -/
def EndRoll (ended : ObjectGuid → Bool) : GroupRolls :=
  { group with RollId := group.RollId.filter fun roll ↦ !ended roll.itemGUID }

end GroupRolls

/-! ## The machine -/

/-- The calls that change the rolls of a group. -/
inductive RollCall where
  | GroupLoot (loot : Loot) (members : GroupMembers) (m_lootThreshold : ℕ)
    (itemGUIDs : ℕ → ObjectGuid)
  | NeedBeforeGreed (loot : Loot) (members : GroupMembers) (m_lootThreshold : ℕ)
    (itemGUIDs : ℕ → ObjectGuid)
  | CountRollVote (loots : ObjectGuid → LootState) (playerGUID Guid : ObjectGuid) (Choice : UInt8)
  | RemoveMember (loots : ObjectGuid → LootState) (guid : ObjectGuid)
  | EndRoll (ended : ObjectGuid → Bool)

/-- The rolls of a group, without any at the start. -/
def rollMachine : Machine GroupRolls RollCall where
  start := ⟨[], []⟩
  next group
    | .GroupLoot loot members m_lootThreshold itemGUIDs =>
      some (group.GroupLoot loot members m_lootThreshold itemGUIDs)
    | .NeedBeforeGreed loot members m_lootThreshold itemGUIDs =>
      some (group.NeedBeforeGreed loot members m_lootThreshold itemGUIDs)
    | .CountRollVote loots playerGUID Guid Choice =>
      some (group.CountRollVote loots playerGUID Guid Choice)
    | .RemoveMember loots guid => some (group.RemoveMember loots guid)
    | .EndRoll ended => some (group.EndRoll ended)

end Gundrak.Looting
