import Gundrak.Util.Machine
import Gundrak.Util.ObjectGuid

/-!
# The threat manager

A creature keeps one `HostileReference` for every unit it hates.  The references live in two lists
of its `ThreatManager`: the online container holds those that can be attacked at the moment, the
offline container the others.  A reference moves between the lists, or leaves them, through events
it fires at its manager (`ThreatManager.processThreatEvent`), and the online list is only sorted
when the manager's dirty flag asks for it.

References are heap objects, so the lists hold pointers: a `RefId` names a reference, and
`ThreatManager.refs` is the heap of the references that have been created and not deleted.  A
function of `HostileReference` therefore takes the manager it fires its events at.

Threat values are floats in the source and rationals here.  What the functions ask of the game
world (who is a game master, who can be reached, who owns whom) is a `ThreatWorld`; every call is given
its own, since the world changes between calls.
-/

open Std (ExtTreeMap)

namespace Gundrak

/-- The address of a `HostileReference`. -/
abbrev RefId := ℕ

/-- `HostileReference`, with `isValid` for whether the reference still has its target. -/
structure HostileReference where
  iThreat : ℚ
  iTempThreatModifier : ℚ
  iUnitGuid : ObjectGuid
  iOnline : Bool
  iAccessible : Bool
  isValid : Bool
deriving DecidableEq, Repr

/-- `HostileReference::getThreat`. -/
def HostileReference.getThreat (h : HostileReference) : ℚ := h.iThreat + h.iTempThreatModifier

/-- What the threat code asks of the game world, for the creature that owns the manager. -/
structure ThreatWorld where
  /-- `ObjectAccessor::GetUnit` finds the unit. -/
  getUnit : ObjectGuid → Bool
  /-- The unit is a player in game master mode. -/
  isGameMaster : ObjectGuid → Bool
  /-- `HasUnitState(UNIT_STATE_IN_FLIGHT)`. -/
  inFlight : ObjectGuid → Bool
  isInMap : ObjectGuid → Bool
  inSamePhase : ObjectGuid → Bool
  isInAccessiblePlaceFor : ObjectGuid → Bool
  isWithinCombatRange : ObjectGuid → Bool
  isAlive : ObjectGuid → Bool
  getCharmerOrOwner : ObjectGuid → Option ObjectGuid
  /-- `IsImmunedToDamage` or crowd controlled by an aura that breaks on damage. -/
  isSecondChoice : ObjectGuid → Bool
  canCreatureAttack : ObjectGuid → Bool
  isWithinMeleeRange : ObjectGuid → Bool

/-- `ThreatContainer`: pointers to the references, and whether they may be out of order. -/
structure ThreatContainer where
  iThreatList : List RefId
  iDirty : Bool
deriving DecidableEq, Repr

/-- `ThreatManager`, together with the heap of its references. -/
structure ThreatManager where
  iOwner : ObjectGuid
  iCurrentVictim : Option RefId
  iUpdateTimer : ℕ
  iThreatContainer : ThreatContainer
  iThreatOfflineContainer : ThreatContainer
  /-- The references created and not deleted so far. -/
  refs : ExtTreeMap RefId HostileReference
  /-- The address the next reference is created at. -/
  nextRef : RefId

/-- `THREAT_UPDATE_INTERVAL`. -/
def threatUpdateInterval : ℕ := 1000

/-- The manager of a creature that hates nobody. -/
def ThreatManager.new (owner : ObjectGuid) : ThreatManager where
  iOwner := owner
  iCurrentVictim := none
  iUpdateTimer := threatUpdateInterval
  iThreatContainer := ⟨[], false⟩
  iThreatOfflineContainer := ⟨[], false⟩
  refs := ∅
  nextRef := 0

/-! ## Containers -/

namespace ThreatContainer

/-- `ThreatContainer::remove`. -/
def remove (c : ThreatContainer) (r : RefId) : ThreatContainer :=
  { c with iThreatList := c.iThreatList.filter (· ≠ r) }

/-- `ThreatContainer::addReference`. -/
def addReference (c : ThreatContainer) (r : RefId) : ThreatContainer :=
  { c with iThreatList := c.iThreatList ++ [r] }

/-- `ThreatContainer::empty`. -/
def empty (c : ThreatContainer) : Bool := c.iThreatList.isEmpty

end ThreatContainer

namespace ThreatManager

/-- `getThreat` through a pointer. -/
def getThreat (m : ThreatManager) (r : RefId) : ℚ := (m.refs[r]?).elim 0 HostileReference.getThreat

/-- `isOnline` through a pointer. -/
def isOnline (m : ThreatManager) (r : RefId) : Bool := (m.refs[r]?).elim false (·.iOnline)

/-- The guid of the unit a pointer's reference is about. -/
def unitGuid (m : ThreatManager) (r : RefId) : ObjectGuid := (m.refs[r]?).elim ObjectGuid.Empty (·.iUnitGuid)

/-- Assign to members of the reference at `r`. -/
def modifyRef (m : ThreatManager) (r : RefId) (f : HostileReference → HostileReference) :
    ThreatManager := { m with refs := m.refs.modify r f }

/-- `ThreatManager::setDirty`. -/
def setDirty (m : ThreatManager) (isDirty : Bool) : ThreatManager :=
  { m with iThreatContainer := { m.iThreatContainer with iDirty := isDirty } }

/-- `ThreatManager::setCurrentVictim`. -/
def setCurrentVictim (m : ThreatManager) (pHostileReference : Option RefId) : ThreatManager :=
  { m with iCurrentVictim := pHostileReference }

/-- `ThreatContainer::getReferenceByTarget` on one of the two lists. -/
def getReferenceByTarget (m : ThreatManager) (c : ThreatContainer) (victim : ObjectGuid) :
    Option RefId :=
  c.iThreatList.find? fun r ↦ m.unitGuid r == victim

end ThreatManager

/-! ## Events -/

/-- The events a reference fires at its manager, `UNIT_EVENT_TYPE`. -/
inductive ThreatRefStatusChangeEvent where
  /-- `UEV_THREAT_REF_ONLINE_STATUS` -/
  | onlineStatus
  /-- `UEV_THREAT_REF_THREAT_CHANGE`, with the amount of the change. -/
  | threatChange (fValue : ℚ)
  /-- `UEV_THREAT_REF_REMOVE_FROM_LIST` -/
  | removeFromList
  /-- `UEV_THREAT_REF_ACCESSIBLE_STATUS` -/
  | accessibleStatus

namespace ThreatManager

/-- The first two statements of the offline and of the removal branch: a victim that leaves is no
longer the victim. -/
def dropVictim (m : ThreatManager) (hostilRef : RefId) : ThreatManager :=
  if m.iCurrentVictim = some hostilRef then (m.setCurrentVictim none).setDirty true else m

/-- `ThreatManager::processThreatEvent`. -/
def processThreatEvent (m : ThreatManager) (hostilRef : RefId) :
    ThreatRefStatusChangeEvent → ThreatManager
  | .threatChange fValue =>
    if (m.iCurrentVictim = some hostilRef ∧ fValue < 0) ∨ (m.iCurrentVictim ≠ some hostilRef ∧ 0 < fValue) then
      m.setDirty true
    else m
  | .onlineStatus =>
    if m.isOnline hostilRef = false then
      let m := m.dropVictim hostilRef
      { m with
        iThreatContainer := m.iThreatContainer.remove hostilRef
        iThreatOfflineContainer := m.iThreatOfflineContainer.addReference hostilRef }
    else
      let m := match m.iCurrentVictim with
        | some v => if 11 / 10 * m.getThreat v < m.getThreat hostilRef then m.setDirty true else m
        | none => m
      { m with
        iThreatContainer := m.iThreatContainer.addReference hostilRef
        iThreatOfflineContainer := m.iThreatOfflineContainer.remove hostilRef }
  | .removeFromList =>
    let m := m.dropVictim hostilRef
    if m.isOnline hostilRef then
      { m with iThreatContainer := m.iThreatContainer.remove hostilRef }
    else
      { m with iThreatOfflineContainer := m.iThreatOfflineContainer.remove hostilRef }
  -- the manager has no case for this event
  | .accessibleStatus => m

end ThreatManager

namespace HostileReference

/-- `HostileReference::setAccessibleState`. -/
def setAccessibleState (m : ThreatManager) (r : RefId) (isAccessible : Bool) : ThreatManager :=
  if (m.refs[r]?).elim false (·.iAccessible) ≠ isAccessible then
    (m.modifyRef r fun h ↦ { h with iAccessible := isAccessible }).processThreatEvent r
      .accessibleStatus
  else m

/-- `HostileReference::setOnlineOfflineState`. -/
def setOnlineOfflineState (m : ThreatManager) (r : RefId) (isOnline : Bool) : ThreatManager :=
  if m.isOnline r ≠ isOnline then
    let m := m.modifyRef r fun h ↦ { h with iOnline := isOnline }
    let m := if isOnline = false then setAccessibleState m r false else m
    m.processThreatEvent r .onlineStatus
  else m

/-- The two states `HostileReference::updateOnlineStatus` works out for a reference about `unit`:
whether it is online, and whether it is accessible. -/
def onlineStatus (w : ThreatWorld) (unit : ObjectGuid) (valid : Bool) : Bool × Bool :=
  if valid && !w.isGameMaster unit && !w.inFlight unit && w.isInMap unit && w.inSamePhase unit then
    if w.isInAccessiblePlaceFor unit then (true, true) else (w.isWithinCombatRange unit, false)
  else (false, false)

/-- `HostileReference::updateOnlineStatus`.  A reference whose link was cut is linked again first,
when its unit still exists. -/
def updateOnlineStatus (w : ThreatWorld) (m : ThreatManager) (r : RefId) : ThreatManager :=
  let m := m.modifyRef r fun h ↦ { h with isValid := h.isValid || w.getUnit h.iUnitGuid }
  let status := onlineStatus w (m.unitGuid r) ((m.refs[r]?).elim false (·.isValid))
  setOnlineOfflineState (setAccessibleState m r status.2) r status.1

/-- `HostileReference::removeReference`.  The reference is first taken offline by `invalidate`,
which also cuts its link, and then taken off its list. -/
def removeReference (m : ThreatManager) (r : RefId) : ThreatManager :=
  let m := setOnlineOfflineState m r false
  let m := m.modifyRef r fun h ↦ { h with isValid := false }
  m.processThreatEvent r .removeFromList

end HostileReference

/-! ## Adding threat -/

namespace ThreatManager

/-- `ThreatCalcHelper::isValidProcess`, for the creature that owns the manager and no spell. -/
def isValidProcess (w : ThreatWorld) (m : ThreatManager) (hatedUnit : ObjectGuid) : Bool :=
  hatedUnit != m.iOwner && !w.isGameMaster hatedUnit && w.isAlive hatedUnit &&
    w.isAlive m.iOwner && w.isInMap hatedUnit && w.inSamePhase hatedUnit

/-- `new HostileReference(victim, this, 0)`, put at the end of the online list. -/
def newReference (m : ThreatManager) (victim : ObjectGuid) : ThreatManager :=
  { m with
    refs := m.refs.insert m.nextRef
      { iThreat := 0, iTempThreatModifier := 0, iUnitGuid := victim, iOnline := true
        iAccessible := true, isValid := true }
    nextRef := m.nextRef + 1
    iThreatContainer := m.iThreatContainer.addReference m.nextRef }

/-- The reference the manager has for a unit, if any: the online list is searched first. -/
def findReference (m : ThreatManager) (victim : ObjectGuid) : Option RefId :=
  (m.getReferenceByTarget m.iThreatContainer victim).or
    (m.getReferenceByTarget m.iThreatOfflineContainer victim)

/-- What `ThreatManager::_addThreat` does once the new reference `r` has its threat. -/
def enlist (w : ThreatWorld) (m : ThreatManager) (r : RefId) (victim : ObjectGuid) (isFirst : Bool) :
    ThreatManager :=
  if w.isGameMaster victim then HostileReference.setOnlineOfflineState m r false
  else if isFirst then m.setCurrentVictim (some r)
  else m

/-- `ThreatManager::_addThreat` for no threat at all.  A reference that exists is left alone, since
`HostileReference::addThreat` returns at once. -/
def addNoThreat (w : ThreatWorld) (m : ThreatManager) (victim : ObjectGuid) : ThreatManager :=
  match m.findReference victim with
  | some _ => m
  | none => (m.newReference victim).enlist w m.nextRef victim m.iThreatContainer.empty

/-- The end of `HostileReference::addThreat`: the owner of a pet is hated along with the pet.  The
call is `ThreatManager::addThreat(victimOwner, 0)`; `calcThreat` makes no threat out of none. -/
def addThreatToOwner (w : ThreatWorld) (m : ThreatManager) (r : RefId) : ThreatManager :=
  match w.getCharmerOrOwner (m.unitGuid r) with
  | some victimOwner =>
    if w.isAlive victimOwner && m.isValidProcess w victimOwner then m.addNoThreat w victimOwner
    else m
  | none => m

end ThreatManager

/-- `HostileReference::addThreat`. -/
def HostileReference.addThreat (w : ThreatWorld) (m : ThreatManager) (r : RefId) (modThreat : ℚ) :
    ThreatManager :=
  if modThreat = 0 then m
  else
    let m := m.modifyRef r fun h ↦ { h with iThreat := h.iThreat + modThreat }
    let m := if m.isOnline r = false then updateOnlineStatus w m r else m
    let m := m.processThreatEvent r (.threatChange modThreat)
    if (m.refs[r]?).elim false (·.isValid) ∧ 0 < modThreat then m.addThreatToOwner w r else m

/-- `HostileReference::setThreat`. -/
def HostileReference.setThreat (w : ThreatWorld) (m : ThreatManager) (r : RefId) (threat : ℚ) :
    ThreatManager :=
  addThreat w m r (threat - (m.refs[r]?).elim 0 (·.iThreat))

/-- `HostileReference::addTempThreat`. -/
def HostileReference.addTempThreat (m : ThreatManager) (r : RefId) (threat : ℚ) : ThreatManager :=
  if threat = 0 then m
  else
    (m.modifyRef r fun h ↦ { h with iTempThreatModifier := h.iTempThreatModifier + threat })
      |>.processThreatEvent r (.threatChange threat)

/-- `HostileReference::setTempThreat`. -/
def HostileReference.setTempThreat (m : ThreatManager) (r : RefId) (threat : ℚ) : ThreatManager :=
  addTempThreat m r (threat - (m.refs[r]?).elim 0 (·.iTempThreatModifier))

/-- `HostileReference::resetTempThreat`. -/
def HostileReference.resetTempThreat (m : ThreatManager) (r : RefId) : ThreatManager :=
  addTempThreat m r (-(m.refs[r]?).elim 0 (·.iTempThreatModifier))

namespace ThreatManager

/-- `ThreatManager::_addThreat`. -/
def _addThreat (w : ThreatWorld) (m : ThreatManager) (victim : ObjectGuid) (threat : ℚ) :
    ThreatManager :=
  match m.findReference victim with
  | some r => HostileReference.addThreat w m r threat
  | none =>
    (HostileReference.addThreat w (m.newReference victim) m.nextRef threat).enlist w m.nextRef
      victim m.iThreatContainer.empty

/-! ## Sorting and choosing a victim -/

/-- `Trinity::ThreatOrderPred`: the references with more threat come first. -/
def threatOrder (m : ThreatManager) (a b : RefId) : Prop := m.getThreat b ≤ m.getThreat a

instance (m : ThreatManager) : DecidableRel m.threatOrder := fun _ _ ↦ inferInstanceAs (Decidable (_ ≤ _))

instance (m : ThreatManager) : Std.Total m.threatOrder := ⟨fun _ _ ↦ le_total _ _⟩

instance (m : ThreatManager) : IsTrans RefId m.threatOrder := ⟨fun _ _ _ h h' ↦ h'.trans h⟩

/-- `ThreatContainer::update` on the online list; `std::list::sort` is stable, as `insertionSort`
is. -/
def update (m : ThreatManager) : ThreatManager :=
  { m with
    iThreatContainer :=
      { iThreatList :=
          if m.iThreatContainer.iDirty && decide (1 < m.iThreatContainer.iThreatList.length) then
            m.iThreatContainer.iThreatList.insertionSort m.threatOrder
          else m.iThreatContainer.iThreatList
        iDirty := false } }

/-- How one pass of the loop of `selectNextVictim` ends. -/
inductive Scan where
  | found (r : RefId)
  | notFound
  /-- Everyone is a second choice: start again, without preferences. -/
  | restart (currentVictim : Option RefId)

/-- The loop of `ThreatContainer::selectNextVictim` from one position to the end of the list. -/
def scanVictims (w : ThreatWorld) (m : ThreatManager) (noPriorityTargetFound : Bool) :
    Option RefId → List RefId → Scan
  | _, [] => .notFound
  | currentVictim, r :: rest =>
    if !noPriorityTargetFound && w.isSecondChoice (m.unitGuid r) then
      -- a victim that is a second choice itself is not compared with any more
      if rest.isEmpty then .restart currentVictim
      else m.scanVictims w noPriorityTargetFound
        (if currentVictim = some r then none else currentVictim) rest
    else if w.canCreatureAttack (m.unitGuid r) then
      match currentVictim with
      | none => .found r
      | some v =>
        if v = r ∨ m.getThreat r ≤ 11 / 10 * m.getThreat v then
          .found (if v ≠ r ∧ w.canCreatureAttack (m.unitGuid v) then v else r)
        else if 13 / 10 * m.getThreat v < m.getThreat r ∨
            (11 / 10 * m.getThreat v < m.getThreat r ∧ w.isWithinMeleeRange (m.unitGuid r)) then
          .found r
        else m.scanVictims w noPriorityTargetFound currentVictim rest
    else m.scanVictims w noPriorityTargetFound currentVictim rest

/-- `ThreatContainer::selectNextVictim`. -/
def selectNextVictim (w : ThreatWorld) (m : ThreatManager) (currentVictim : Option RefId) :
    Option RefId :=
  match m.scanVictims w false currentVictim m.iThreatContainer.iThreatList with
  | .found r => some r
  | .notFound => none
  | .restart currentVictim =>
    match m.scanVictims w true currentVictim m.iThreatContainer.iThreatList with
    | .found r => some r
    | _ => none

/-- `ThreatManager::getHostilTarget`, without the unit it returns. -/
def getHostilTarget (w : ThreatWorld) (m : ThreatManager) : ThreatManager :=
  let m := m.update
  m.setCurrentVictim (m.selectNextVictim w m.iCurrentVictim)

/-- `ThreatManager::resetAllAggro`.  The loop follows the list's own links, so it also visits a
reference that is put at the end of the list while it runs; such a reference is an owner's and has
no threat to reset. -/
def resetAllAggro (w : ThreatWorld) (m : ThreatManager) : ThreatManager :=
  if m.iThreatContainer.empty then m
  else
    (m.iThreatContainer.iThreatList.foldl (fun m r ↦ HostileReference.setThreat w m r 0) m).setDirty
      true

/-- `ThreatManager::clearReferences`: every reference of the two lists is unlinked and deleted. -/
def clearReferences (m : ThreatManager) : ThreatManager :=
  { m with
    refs := (m.iThreatContainer.iThreatList ++ m.iThreatOfflineContainer.iThreatList).foldl
      (fun refs r ↦ refs.erase r) m.refs
    iThreatContainer := { m.iThreatContainer with iThreatList := [] }
    iThreatOfflineContainer := { m.iThreatOfflineContainer with iThreatList := [] }
    iCurrentVictim := none
    iUpdateTimer := threatUpdateInterval }

/-- `removeReference` as its callers use it: the reference is deleted afterwards. -/
def deleteReference (m : ThreatManager) (r : RefId) : ThreatManager :=
  let m := HostileReference.removeReference m r
  { m with refs := m.refs.erase r }

/-! ## The machine -/

/-- The calls that reach a threat manager. -/
inductive Call where
  | _addThreat (w : ThreatWorld) (victim : ObjectGuid) (threat : ℚ)
  | addThreat (w : ThreatWorld) (r : RefId) (modThreat : ℚ)
  | setThreat (w : ThreatWorld) (r : RefId) (threat : ℚ)
  | addTempThreat (r : RefId) (threat : ℚ)
  | setTempThreat (r : RefId) (threat : ℚ)
  | resetTempThreat (r : RefId)
  | setOnlineOfflineState (r : RefId) (isOnline : Bool)
  | updateOnlineStatus (w : ThreatWorld) (r : RefId)
  | removeReference (r : RefId)
  | clearReferences
  | setCurrentVictim (r : RefId)
  | resetAllAggro (w : ThreatWorld)
  | getHostilTarget (w : ThreatWorld)

/-- What a call does.  A call through a pointer needs the reference to exist; the one caller of
`setCurrentVictim` outside the manager takes its reference from the online container. -/
def next (m : ThreatManager) : Call → Option ThreatManager
  | ._addThreat w victim threat => some (m._addThreat w victim threat)
  | .addThreat w r modThreat =>
    if r ∈ m.refs then some (HostileReference.addThreat w m r modThreat) else none
  | .setThreat w r threat =>
    if r ∈ m.refs then some (HostileReference.setThreat w m r threat) else none
  | .addTempThreat r threat =>
    if r ∈ m.refs then some (HostileReference.addTempThreat m r threat) else none
  | .setTempThreat r threat =>
    if r ∈ m.refs then some (HostileReference.setTempThreat m r threat) else none
  | .resetTempThreat r =>
    if r ∈ m.refs then some (HostileReference.resetTempThreat m r) else none
  | .setOnlineOfflineState r isOnline =>
    if r ∈ m.refs then some (HostileReference.setOnlineOfflineState m r isOnline) else none
  | .updateOnlineStatus w r =>
    if r ∈ m.refs then some (HostileReference.updateOnlineStatus w m r) else none
  | .removeReference r => if r ∈ m.refs then some (m.deleteReference r) else none
  | .clearReferences => some m.clearReferences
  | .setCurrentVictim r => if m.isOnline r then some (m.setCurrentVictim (some r)) else none
  | .resetAllAggro w => some (m.resetAllAggro w)
  | .getHostilTarget w => some (m.getHostilTarget w)

end ThreatManager

/-- The threat manager of the creature `owner`, driven by calls. -/
def threatMachine (owner : ObjectGuid) : Machine ThreatManager ThreatManager.Call where
  start := .new owner
  next := ThreatManager.next

end Gundrak
