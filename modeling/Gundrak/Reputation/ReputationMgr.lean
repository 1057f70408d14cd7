import Gundrak.Util.CheckedArithmetic
import Gundrak.Util.Int32
import Gundrak.Util.Machine

/-!
# The reputation of a player

A faction that can be in the reputation list of a player has a `reputationListID`, which is not negative, and
for it the `ReputationMgr` keeps a state: the standing, which counts from a base that depends on race and class,
and flags.  Beside the states there are four counters, of the factions that are visible, and of those that the
player is honored, revered or exalted with.

Reputation with one faction spills over to others, by a template or to the factions with the same parent; each
change goes through `SetOneFactionReputation`.  Rates are rational numbers here.  Where a sum or a scaled number
does not fit in an `int32`, a call is undefined.

`touched` is not in the source: the list ids of all factions that have had a change or a stored row.
-/

namespace Gundrak

open Checked (asInt32 truncate)

/-! ## The data -/

abbrev RepListID : Type := ℕ

/-- `ReputationRank`, as a number: the ranks are compared, and cast from numbers of the stores. -/
abbrev ReputationRank : Type := ℕ

def REP_HATED : ReputationRank := 0
def REP_HOSTILE : ReputationRank := 1
def REP_HONORED : ReputationRank := 5
def REP_REVERED : ReputationRank := 6
def REP_EXALTED : ReputationRank := 7

/-- The bits of `FactionFlags`. -/
structure FactionFlags where
  visible : Bool := false
  atWar : Bool := false
  hidden : Bool := false
  invisibleForced : Bool := false
  peaceForced : Bool := false
  inactive : Bool := false
  rival : Bool := false
  special : Bool := false
deriving DecidableEq

/-- One of the four bases of a faction, with the races and classes that it is for. -/
structure BaseReputation where
  BaseRepRaceMask : UInt32
  BaseRepClassMask : UInt32
  BaseRepValue : ℤ
  ReputationFlags : FactionFlags
deriving DecidableEq

structure FactionEntry where
  ID : ℕ
  reputationListID : ℤ
  bases : List BaseReputation
  team : ℕ
  spilloverRateIn : ℚ
  spilloverRateOut : ℚ
  spilloverMaxRankIn : ReputationRank
deriving DecidableEq

/-- `sFactionStore`: the entries in the order of their ids.  0 is not the id of a faction. -/
structure FactionStore where
  rows : List FactionEntry
  ascending : rows.Pairwise fun f g ↦ f.ID < g.ID
  pos : ∀ f ∈ rows, 0 < f.ID
  int32 : ∀ f ∈ rows, -2 ^ 31 ≤ f.reputationListID ∧ f.reputationListID < 2 ^ 31

namespace FactionStore

variable (store : FactionStore)

def LookupEntry (id : ℕ) : Option FactionEntry := store.rows.find? fun f ↦ decide (f.ID = id)

/-- `GetFactionTeamList`: the ids of the factions with this parent. -/
def GetFactionTeamList (faction : ℕ) : Option (List ℕ) :=
  let flist := (store.rows.filter fun f ↦ decide (f.team ≠ 0 ∧ f.team = faction)).map (·.ID)
  if flist = [] then none else some flist

/-- The factions that can be in the list of a player. -/
def listed : List FactionEntry := store.rows.filter fun f ↦ decide (0 ≤ f.reputationListID)

end FactionStore

/-- One of the factions of a `RepSpilloverTemplate`. -/
structure Spillover where
  faction : ℕ
  faction_rate : ℚ
  faction_rank : ReputationRank

/-- The stores and settings that the reputation of a player depends on, and its race and class. -/
structure ReputationStores where
  factions : FactionStore
  GetRepSpilloverTemplate : ℕ → Option (List Spillover)
  RATE_REPUTATION_GAIN : ℚ
  raceMask : UInt32
  classMask : UInt32

structure FactionState where
  ID : ℕ := 0
  ReputationListID : RepListID := 0
  Standing : ℤ := 0
  Flags : FactionFlags := {}
  needSend : Bool := false
  needSave : Bool := false
deriving DecidableEq

/-- A row of the table `character_reputation`; `otherFlags` says whether there are bits above the eight. -/
structure ReputationRow where
  faction : ℕ
  standing : ℤ
  flags : FactionFlags
  otherFlags : Bool

structure ReputationMgr where
  _factions : RepListID → Option FactionState
  _visibleFactionCount : ℕ
  _honoredFactionCount : ℕ
  _reveredFactionCount : ℕ
  _exaltedFactionCount : ℕ
  _sendFactionIncreased : Bool
  touched : List RepListID

/-! ## Ranks -/

namespace ReputationMgr

def PointsInRank : List ℤ := [36000, 3000, 3000, 3000, 6000, 12000, 21000, 1000]

def Reputation_Cap : ℤ := 42999

def Reputation_Bottom : ℤ := -42000

/-- The loop of `ReputationToRank`, from rank `i` down. -/
def rankFrom (standing limit : ℤ) : ℕ → ReputationRank
  | 0 => REP_HATED
  | i + 1 =>
    let limit := limit - PointsInRank.getD i 0
    if standing ≥ limit then i else rankFrom standing limit i

def ReputationToRank (standing : ℤ) : ReputationRank := rankFrom standing (Reputation_Cap + 1) 8

variable (stores : ReputationStores) (m : ReputationMgr)

/-- The first of the four bases that is for the race and class of the player. -/
def baseOf (factionEntry : FactionEntry) : Option BaseReputation := factionEntry.bases.find? fun b ↦
    (b.BaseRepRaceMask &&& stores.raceMask != 0 || b.BaseRepRaceMask == 0 && b.BaseRepClassMask != 0) &&
      (b.BaseRepClassMask &&& stores.classMask != 0 || b.BaseRepClassMask == 0)

def GetBaseReputation (factionEntry : FactionEntry) : ℤ := ((baseOf stores factionEntry).map (·.BaseRepValue)).getD 0

def GetDefaultStateFlags (factionEntry : FactionEntry) : FactionFlags :=
  ((baseOf stores factionEntry).map (·.ReputationFlags)).getD {}

def GetState (factionEntry : FactionEntry) : Option FactionState :=
  if 0 ≤ factionEntry.reputationListID then m._factions (uint32 factionEntry.reputationListID) else none

def GetReputation (factionEntry : FactionEntry) : ℤ :=
  match m.GetState factionEntry with
  | some state => GetBaseReputation stores factionEntry + state.Standing
  | none => 0

def GetRank (factionEntry : FactionEntry) : ReputationRank := ReputationToRank (m.GetReputation stores factionEntry)

def GetBaseRank (factionEntry : FactionEntry) : ReputationRank :=
  ReputationToRank (GetBaseReputation stores factionEntry)

/-- `Player::GetReputationRank`. -/
def GetReputationRank (faction : ℕ) : ReputationRank :=
  match stores.factions.LookupEntry faction with
  | some factionEntry => m.GetRank stores factionEntry
  | none => ReputationToRank 0

/-! ## Counters and states -/

/-- `++` of a `uint8`. -/
def increment (count : ℕ) : ℕ := (count + 1) % 256

/-- `--` of a `uint8`. -/
def decrement (count : ℕ) : ℕ := (count + 255) % 256

/-- The counter of the factions from rank `rank` on. -/
def updateCounter (rank old_rank new_rank : ReputationRank) (count : ℕ) : ℕ :=
  let count := if old_rank ≥ rank then decrement count else count
  if new_rank ≥ rank then increment count else count

def UpdateRankCounters (old_rank new_rank : ReputationRank) : ReputationMgr :=
  { m with
    _exaltedFactionCount := updateCounter REP_EXALTED old_rank new_rank m._exaltedFactionCount
    _reveredFactionCount := updateCounter REP_REVERED old_rank new_rank m._reveredFactionCount
    _honoredFactionCount := updateCounter REP_HONORED old_rank new_rank m._honoredFactionCount }

/-- The state with this list id is written, also where there is none. -/
def setState (repListID : RepListID) (state : FactionState) : ReputationMgr :=
  { m with _factions := Function.update m._factions repListID (some state) }

/-- The state with this list id is changed. -/
def modifyState (repListID : RepListID) (f : FactionState → FactionState) : ReputationMgr :=
  match m._factions repListID with
  | none => m
  | some state => m.setState repListID (f state)

/-- `SetVisible(FactionState*)`. -/
def SetVisibleState (repListID : RepListID) : ReputationMgr :=
  match m._factions repListID with
  | none => m
  | some faction =>
    -- always invisible or hidden faction can't be made visible, except if faction has FACTION_FLAG_SPECIAL
    if (faction.Flags.invisibleForced || faction.Flags.hidden) && !faction.Flags.special then m
    else if faction.Flags.visible then m
    else
      { m.setState repListID
          { faction with Flags := { faction.Flags with visible := true }, needSend := true, needSave := true } with
        _visibleFactionCount := increment m._visibleFactionCount }

/-- `SetVisible(FactionEntry const*)`. -/
def SetVisible (factionEntry : FactionEntry) : ReputationMgr :=
  if factionEntry.reputationListID < 0 then m else m.SetVisibleState (uint32 factionEntry.reputationListID)

/-- `SetVisible(FactionTemplateEntry const*)`, for the faction of the template.  The second of the bases tells
the factions of the opposing team. -/
def SetVisibleTemplate (faction : ℕ) : ReputationMgr :=
  if faction = 0 then m
  else
    match stores.factions.LookupEntry faction with
    | none => m
    | some factionEntry =>
      if factionEntry.bases[1]?.any fun b ↦
          b.BaseRepRaceMask &&& stores.raceMask != 0 && b.BaseRepValue == Reputation_Bottom then m
      else m.SetVisible factionEntry

end ReputationMgr

namespace FactionState

variable (faction : FactionState)

/-- `SetAtWar(FactionState*, bool)`. -/
def SetAtWar (atWar : Bool) : FactionState :=
  -- Do not allow to declare war to our own faction. But allow for rival factions (eg Aldor vs Scryer).
  if atWar && faction.Flags.peaceForced && !faction.Flags.rival then faction
  else if faction.Flags.atWar = atWar then faction
  else { faction with Flags := { faction.Flags with atWar := atWar }, needSend := true, needSave := true }

/-- `SetInactive(FactionState*, bool)`. -/
def SetInactive (inactive : Bool) : FactionState :=
  if inactive && ((faction.Flags.invisibleForced || faction.Flags.hidden) || !faction.Flags.visible) then faction
  else if faction.Flags.inactive = inactive then faction
  else { faction with Flags := { faction.Flags with inactive := inactive }, needSend := true, needSave := true }

end FactionState

namespace ReputationMgr

variable (stores : ReputationStores) (m : ReputationMgr)

/-- `SetAtWar(RepListID, bool)`. -/
def SetAtWar (repListID : RepListID) (on : Bool) : ReputationMgr := m.modifyState repListID fun faction ↦
    -- always invisible or hidden faction can't change war state
    if faction.Flags.invisibleForced || faction.Flags.hidden then faction else faction.SetAtWar on

/-- `SetInactive(RepListID, bool)`. -/
def SetInactive (repListID : RepListID) (on : Bool) : ReputationMgr :=
  m.modifyState repListID fun faction ↦ faction.SetInactive on

/-! ## Changes -/

/-- The number a change is to, before it is kept within the bounds. -/
def newStanding (state : FactionState) (BaseRep standing : ℤ) (incremental : Bool) : Option ℤ :=
  if incremental then do
    let gain ← asInt32 ⌊(standing : ℚ) * stores.RATE_REPUTATION_GAIN + 1 / 2⌋
    let current ← asInt32 (state.Standing + BaseRep)
    asInt32 (gain + current)
  else some standing

/-- `standing`, within the bounds. -/
def clamp (standing : ℤ) : ℤ :=
  if standing > Reputation_Cap then Reputation_Cap
  else if standing < Reputation_Bottom then Reputation_Bottom
  else standing

/-- The second half of `SetOneFactionReputation`: the standing is written and what depends on it is updated. -/
def writeStanding (repListID : RepListID) (state : FactionState) (Standing : ℤ) (old_rank new_rank : ReputationRank) :
    ReputationMgr :=
  let m := m.setState repListID { state with Standing, needSend := true, needSave := true }
  let m := m.SetVisibleState repListID
  let m := if new_rank ≤ REP_HOSTILE then m.modifyState repListID (·.SetAtWar true) else m
  let m := if new_rank > old_rank then { m with _sendFactionIncreased := true } else m
  let m := m.UpdateRankCounters old_rank new_rank
  { m with touched := repListID :: m.touched }

/-- `SetOneFactionReputation`, without what it tells the player. -/
def SetOneFactionReputation (factionEntry : FactionEntry) (standing : ℤ) (incremental : Bool) :
    Option (Bool × ReputationMgr) :=
  let repListID := uint32 factionEntry.reputationListID
  match m._factions repListID with
  | none => some (false, m)
  | some state => do
    let BaseRep := GetBaseReputation stores factionEntry
    let standing ← newStanding stores state BaseRep standing incremental
    let standing := clamp standing
    let current ← asInt32 (state.Standing + BaseRep)
    let Standing ← asInt32 (standing - BaseRep)
    some (true, m.writeStanding repListID state Standing (ReputationToRank current) (ReputationToRank standing))

/-- `SendState`: what it changes. -/
def SendState : ReputationMgr :=
  { m with
    _sendFactionIncreased := false
    _factions := fun repListID ↦ (m._factions repListID).map fun state ↦ { state with needSend := false } }

/-- One of the factions of a template gets its share. -/
def spillOverTemplate (standing : ℤ) (incremental : Bool) (m : ReputationMgr) (s : Spillover) :
    Option ReputationMgr :=
  if s.faction ≠ 0 ∧ m.GetReputationRank stores s.faction ≤ s.faction_rank then do
    let spilloverRep ← asInt32 (truncate (standing * s.faction_rate))
    let factionEntry ← stores.factions.LookupEntry s.faction
    let (_, m) ← m.SetOneFactionReputation stores factionEntry spilloverRep incremental
    some m
  else some m

/-- One of the factions of a team gets its share. -/
def spillOverTeam (factionEntry : FactionEntry) (spillOverRepOut : ℚ) (incremental : Bool)
    (acc : Bool × ReputationMgr) (id : ℕ) : Option (Bool × ReputationMgr) :=
  match stores.factions.LookupEntry id with
  | none => some acc
  | some factionEntryCalc =>
    if factionEntryCalc.ID = factionEntry.ID ∨
        acc.2.GetRank stores factionEntryCalc > factionEntryCalc.spilloverMaxRankIn then some acc
    else do
      let spilloverRep ← asInt32 (truncate (spillOverRepOut * factionEntryCalc.spilloverRateIn))
      if spilloverRep ≠ 0 ∨ incremental = false then
        acc.2.SetOneFactionReputation stores factionEntryCalc spilloverRep incremental
      else some acc

/-- What a faction without a template spills over, and the factions that it spills over to. -/
def spillOverOut (factionEntry : FactionEntry) (standing : ℤ) (incremental : Bool) :
    Option (ℚ × Option (List ℕ) × ReputationMgr) :=
  let flist := stores.factions.GetFactionTeamList factionEntry.ID
  -- if has no sub-factions, check for factions with same parent
  if flist = none ∧ factionEntry.team ≠ 0 ∧ factionEntry.spilloverRateOut ≠ 0 then
    let spillOverRepOut := (standing : ℚ) * factionEntry.spilloverRateOut
    match stores.factions.LookupEntry factionEntry.team with
    | none => some (spillOverRepOut, none, m)
    | some parent =>
      -- some team factions have own reputation standing, in this case do not spill to other sub-factions
      if (m._factions (uint32 parent.reputationListID)).any (·.Flags.special) then do
        let spilloverRep ← asInt32 (truncate spillOverRepOut)
        let (_, m) ← m.SetOneFactionReputation stores parent spilloverRep incremental
        some (spillOverRepOut, none, m)
      else some (spillOverRepOut, stores.factions.GetFactionTeamList factionEntry.team, m)
  else some ((standing : ℚ), flist, m)

/-- The spillover of a faction without a template, to the factions below it or beside it. -/
def spillOverDBC (factionEntry : FactionEntry) (standing : ℤ) (incremental : Bool) :
    Option (Bool × ReputationMgr) := do
  let (spillOverRepOut, flist, m) ← m.spillOverOut stores factionEntry standing incremental
  (flist.getD []).foldlM (spillOverTeam stores factionEntry spillOverRepOut incremental) (false, m)

/-- The spillover of a faction.  A template in the database overrides the store. -/
def spillOver (factionEntry : FactionEntry) (standing : ℤ) (incremental : Bool) : Option (Bool × ReputationMgr) :=
  match stores.GetRepSpilloverTemplate factionEntry.ID with
  | some repTemplate =>
    (repTemplate.foldlM (spillOverTemplate stores standing incremental) m).map fun m ↦ (false, m)
  | none => m.spillOverDBC stores factionEntry standing incremental

def SetReputation (factionEntry : FactionEntry) (standing : ℤ) (incremental spillOverOnly : Bool) :
    Option (Bool × ReputationMgr) := do
  let (res, m) ← m.spillOver stores factionEntry standing incremental
  -- spillover done, update faction itself
  if (m._factions (uint32 factionEntry.reputationListID)).isSome then
    -- if we update spillover only, do not update main reputation (rank exceeds creature reward rate)
    let (res, m) ← if spillOverOnly then some (res, m)
      else m.SetOneFactionReputation stores factionEntry standing incremental
    some (res, m.SendState)
  else some (res, m)

/-! ## Loading -/

/-- A faction with the state that it has before anything is loaded. -/
def initializeFaction (m : ReputationMgr) (factionEntry : FactionEntry) : ReputationMgr :=
  if 0 ≤ factionEntry.reputationListID then
    let Flags := GetDefaultStateFlags stores factionEntry
    let newFaction : FactionState :=
      { ID := factionEntry.ID, ReputationListID := uint32 factionEntry.reputationListID, Standing := 0, Flags,
        needSend := true, needSave := true }
    let m := if Flags.visible then { m with _visibleFactionCount := increment m._visibleFactionCount } else m
    (m.UpdateRankCounters REP_HOSTILE (GetBaseRank stores factionEntry)).setState newFaction.ReputationListID newFaction
  else m

def Initialize : ReputationMgr := stores.factions.rows.foldl (initializeFaction stores)
    { _factions := fun _ ↦ none, _visibleFactionCount := 0, _honoredFactionCount := 0, _reveredFactionCount := 0,
      _exaltedFactionCount := 0, _sendFactionIncreased := false, touched := m.touched }

/-- What a stored row does to the war with a faction. -/
def loadAtWar (flags : FactionFlags) (faction : FactionState) : FactionState :=
  if flags.atWar then faction.SetAtWar true
  -- allow remove if visible (and then not FACTION_FLAG_INVISIBLE_FORCED or FACTION_FLAG_HIDDEN)
  else if faction.Flags.visible then faction.SetAtWar false
  else faction

/-- The changed flag is reset if values are similar to saved in DB. -/
def resetChanged (row : ReputationRow) (faction : FactionState) : FactionState :=
  if faction.Flags = row.flags ∧ row.otherFlags = false then { faction with needSend := false, needSave := false }
  else faction

/-- The flags of a stored row are loaded. -/
def loadFlags (factionEntry : FactionEntry) (row : ReputationRow) : ReputationMgr :=
  let repListID := uint32 factionEntry.reputationListID
  let m := if row.flags.visible then m.SetVisibleState repListID else m
  let m := if row.flags.inactive then m.modifyState repListID (·.SetInactive true) else m
  let m := m.modifyState repListID (loadAtWar row.flags)
  -- set atWar for hostile
  let m := if m.GetRank stores factionEntry ≤ REP_HOSTILE then m.modifyState repListID (·.SetAtWar true) else m
  m.modifyState repListID (resetChanged row)

/-- A stored row is loaded. -/
def loadRow (m : ReputationMgr) (row : ReputationRow) : Option ReputationMgr :=
  match stores.factions.LookupEntry row.faction with
  | none => some m
  | some factionEntry =>
    if 0 ≤ factionEntry.reputationListID then do
      let repListID := uint32 factionEntry.reputationListID
      -- update standing to current
      let faction := { (m._factions repListID).getD {} with Standing := row.standing }
      let m := m.setState repListID faction
      -- update counters
      let BaseRep := GetBaseReputation stores factionEntry
      let total ← asInt32 (BaseRep + row.standing)
      let m := m.UpdateRankCounters (ReputationToRank BaseRep) (ReputationToRank total)
      let m := m.loadFlags stores factionEntry row
      some { m with touched := repListID :: m.touched }
    else some m

def LoadFromDB (result : List ReputationRow) : Option ReputationMgr :=
  result.foldlM (loadRow stores) (m.Initialize stores)

end ReputationMgr

/-! ## Runs -/

inductive ReputationCall where
  | LoadFromDB (result : List ReputationRow)
  | SetReputation (factionEntry : FactionEntry) (standing : ℤ) (incremental spillOverOnly : Bool)
  | SetOneFactionReputation (factionEntry : FactionEntry) (standing : ℤ) (incremental : Bool)
  | SetVisible (factionEntry : FactionEntry)
  | SetVisibleTemplate (faction : ℕ)
  | SetAtWar (repListID : RepListID) (on : Bool)
  | SetInactive (repListID : RepListID) (on : Bool)

namespace ReputationMgr

/-- The constructor. -/
def start : ReputationMgr :=
  { _factions := fun _ ↦ none, _visibleFactionCount := 0, _honoredFactionCount := 0, _reveredFactionCount := 0,
    _exaltedFactionCount := 0, _sendFactionIncreased := false, touched := [] }

/-- What a call does.  The entries that are handed in are those of the store. -/
def next (stores : ReputationStores) (m : ReputationMgr) : ReputationCall → Option ReputationMgr
  | .LoadFromDB result => m.LoadFromDB stores result
  | .SetReputation factionEntry standing incremental spillOverOnly =>
    if factionEntry ∈ stores.factions.rows then
      (m.SetReputation stores factionEntry standing incremental spillOverOnly).map Prod.snd
    else none
  | .SetOneFactionReputation factionEntry standing incremental =>
    if factionEntry ∈ stores.factions.rows then
      (m.SetOneFactionReputation stores factionEntry standing incremental).map Prod.snd
    else none
  | .SetVisible factionEntry => if factionEntry ∈ stores.factions.rows then some (m.SetVisible factionEntry) else none
  | .SetVisibleTemplate faction => some (m.SetVisibleTemplate stores faction)
  | .SetAtWar repListID on => some (m.SetAtWar repListID on)
  | .SetInactive repListID on => some (m.SetInactive repListID on)

end ReputationMgr

/-- The reputation of a player as a machine. -/
def reputation (stores : ReputationStores) : Machine ReputationMgr ReputationCall where
  start := ReputationMgr.start
  next := ReputationMgr.next stores

end Gundrak
