import Gundrak.Util.Machine
import Gundrak.Util.TreeMap

/-!
# Spawn pools

A pool has members: creatures, gameobjects and other pools.  Spawning it activates some of them, at
most `MaxLimit` at a time, chosen at random; an active sub-pool spawns its own members in turn.
When a member is about to respawn, `UpdatePool` gives another one the chance to take its place.

`ActivePoolData` remembers which objects are active and counts, for every pool, its active members.
The random numbers a call draws are part of the call (`Dice`).  What spawning does to the maps is left
out, and so are the pools of quests, which select their members in a way of their own.
-/

open Std (ExtTreeMap)

namespace Gundrak

/-- The classes of objects pools are made of. -/
inductive PoolObjectType where
  | creature
  | gameobject
  | pool
deriving DecidableEq, Repr

instance : Fintype PoolObjectType where
  elems := {.creature, .gameobject, .pool}
  complete type := by cases type <;> simp

/-- `PoolObject`. -/
structure PoolObject where
  guid : ℕ
  chance : ℚ
deriving DecidableEq

/-- `PoolGroup`.  Its `poolId` is that of the pool the group is stored for. -/
structure PoolGroup where
  ExplicitlyChanced : List PoolObject
  EqualChanced : List PoolObject

namespace PoolGroup

/-- `PoolGroup::isEmpty`. -/
def isEmpty (group : PoolGroup) : Bool := group.ExplicitlyChanced.isEmpty && group.EqualChanced.isEmpty

/-- All objects of a group, in the order `DespawnObject` goes through them. -/
def objects (group : PoolGroup) : List PoolObject := group.EqualChanced ++ group.ExplicitlyChanced

end PoolGroup

/-- What `PoolMgr` has loaded.  The search maps lead every object to its pool, and the pools contain
each other without cycles: `depth` is smaller for a sub-pool than for its pool. -/
structure PoolMgr where
  /-- `MaxLimit` of `mPoolTemplate` -/
  MaxLimit : ℕ → ℕ
  /-- `mPoolCreatureGroups`, `mPoolGameobjectGroups` and `mPoolPoolGroups` -/
  group : PoolObjectType → (pool_id : ℕ) → PoolGroup
  /-- `mCreatureSearchMap`, `mGameobjectSearchMap` and `mPoolSearchMap` -/
  searchMap : PoolObjectType → ExtTreeMap ℕ ℕ
  search : ∀ type pool_id, ∀ obj ∈ (group type pool_id).objects, (searchMap type)[obj.guid]? = some pool_id
  depth : ℕ → ℕ
  depth_lt : ∀ pool_id, ∀ obj ∈ (group .pool pool_id).objects, depth obj.guid < depth pool_id

/-- `ActivePoolData`. -/
structure ActivePoolData where
  mSpawnedCreatures : Finset ℕ
  mSpawnedGameobjects : Finset ℕ
  mSpawnedPools : ExtTreeMap ℕ ℕ

/-- The random numbers a call draws, those of `rand_chance` and those of `urand` before they are brought
into their range. -/
structure Dice where
  rand_chance : ℕ → ℚ
  raw : ℕ → ℕ

/-- `urand(min, max)`, as the `n`-th number that is drawn. -/
def Dice.urand (dice : Dice) (n min max : ℕ) : ℕ := min + dice.raw n % (max - min + 1)

namespace ActivePoolData

/-- Nothing is spawned. -/
def empty : ActivePoolData := ⟨∅, ∅, ∅⟩

variable (spawns : ActivePoolData)

/-- `ActivePoolData::GetActiveObjectCount`. -/
def GetActiveObjectCount (pool_id : ℕ) : ℕ := (spawns.mSpawnedPools[pool_id]?).getD 0

/-- `ActivePoolData::IsActiveObject`. -/
def IsActiveObject : PoolObjectType → (guid : ℕ) → Bool
  | .creature, db_guid => decide (db_guid ∈ spawns.mSpawnedCreatures)
  | .gameobject, db_guid => decide (db_guid ∈ spawns.mSpawnedGameobjects)
  | .pool, sub_pool_id => spawns.mSpawnedPools.contains sub_pool_id

/-- Assign to `mSpawnedPools[pool_id]`. -/
def setCount (pool_id n : ℕ) : ActivePoolData :=
  { spawns with mSpawnedPools := spawns.mSpawnedPools.insert pool_id n }

/-- The object alone becomes active; the count of its pool is not touched. -/
def mark : PoolObjectType → (guid : ℕ) → ActivePoolData
  | .creature, db_guid => { spawns with mSpawnedCreatures := insert db_guid spawns.mSpawnedCreatures }
  | .gameobject, db_guid =>
    { spawns with mSpawnedGameobjects := insert db_guid spawns.mSpawnedGameobjects }
  | .pool, sub_pool_id => spawns.setCount sub_pool_id 0

/-- The object alone is no longer active. -/
def unmark : PoolObjectType → (guid : ℕ) → ActivePoolData
  | .creature, db_guid => { spawns with mSpawnedCreatures := spawns.mSpawnedCreatures.erase db_guid }
  | .gameobject, db_guid =>
    { spawns with mSpawnedGameobjects := spawns.mSpawnedGameobjects.erase db_guid }
  | .pool, sub_pool_id => { spawns with mSpawnedPools := spawns.mSpawnedPools.erase sub_pool_id }

/-- `ActivePoolData::ActivateObject`. -/
def ActivateObject (type : PoolObjectType) (guid pool_id : ℕ) : ActivePoolData :=
  let spawns := spawns.mark type guid
  spawns.setCount pool_id (spawns.GetActiveObjectCount pool_id + 1)

/-- `ActivePoolData::RemoveObject`. -/
def RemoveObject (type : PoolObjectType) (guid pool_id : ℕ) : ActivePoolData :=
  let spawns := spawns.unmark type guid
  spawns.setCount pool_id (spawns.GetActiveObjectCount pool_id - 1)

end ActivePoolData

namespace PoolMgr

variable (c : PoolMgr) (dice : Dice)

/-- `PoolMgr::IsPartOfAPool`. -/
def IsPartOfAPool (type : PoolObjectType) (guid : ℕ) : ℕ := ((c.searchMap type)[guid]?).getD 0

/-! ## Despawning -/

/-- One pass of the loops of `DespawnObject`; `despawn` does the removal job on a sub-pool. -/
def despawnStep (despawn : ℕ → ActivePoolData → ActivePoolData) (type : PoolObjectType)
    (pool_id guid : ℕ) (spawns : ActivePoolData) (obj : PoolObject) : ActivePoolData :=
  if spawns.IsActiveObject type obj.guid ∧ (guid = 0 ∨ obj.guid = guid) then
    let spawns := if type = .pool then despawn obj.guid spawns else spawns
    spawns.RemoveObject type obj.guid pool_id
  else spawns

/-- `PoolGroup::DespawnObject`, with `guid = 0` for all objects. -/
def DespawnObject (despawn : ℕ → ActivePoolData → ActivePoolData) (type : PoolObjectType)
    (pool_id guid : ℕ) (spawns : ActivePoolData) : ActivePoolData :=
  (c.group type pool_id).objects.foldl (despawnStep despawn type pool_id guid) spawns

/-- `PoolMgr::DespawnPool`, through at most `fuel` levels of pools. -/
def despawnPoolAux : ℕ → (pool_id : ℕ) → ActivePoolData → ActivePoolData
  | 0, _, spawns => spawns
  | fuel + 1, pool_id, spawns =>
    let spawns := c.DespawnObject (despawnPoolAux fuel) .creature pool_id 0 spawns
    let spawns := c.DespawnObject (despawnPoolAux fuel) .gameobject pool_id 0 spawns
    c.DespawnObject (despawnPoolAux fuel) .pool pool_id 0 spawns

/-- `PoolMgr::DespawnPool`. -/
def DespawnPool (pool_id : ℕ) (spawns : ActivePoolData) : ActivePoolData :=
  c.despawnPoolAux (c.depth pool_id + 1) pool_id spawns

/-! ## Rolling -/

/-- One roll among the objects with a chance: the first one that the roll does not exceed and that
could be spawned.  The triggering object can be rolled as well. -/
def rollOne (spawns : ActivePoolData) (type : PoolObjectType) (triggerFrom : ℕ) :
    ℚ → List PoolObject → Option PoolObject
  | _, [] => none
  | roll, obj :: rest =>
    if roll - obj.chance < 0 ∧ (obj.guid = triggerFrom ∨ !spawns.IsActiveObject type obj.guid) then
      some obj
    else rollOne spawns type triggerFrom (roll - obj.chance) rest

/-- Roll `count` times among the objects with a chance; `drawn` numbers have been drawn so far. -/
def rollExplicitly (spawns : ActivePoolData) (type : PoolObjectType) (triggerFrom : ℕ)
    (ExplicitlyChanced : List PoolObject) : (count : ℕ) → (rolledObjects : List PoolObject) →
      (drawn : ℕ) → List PoolObject × ℕ
  | 0, rolledObjects, drawn => (rolledObjects, drawn)
  | count + 1, rolledObjects, drawn =>
    if rolledObjects.length < ExplicitlyChanced.length then
      match rollOne spawns type triggerFrom (dice.rand_chance drawn) ExplicitlyChanced with
      | some obj =>
        rollExplicitly spawns type triggerFrom ExplicitlyChanced count (rolledObjects ++ [obj])
          (drawn + 1)
      | none =>
        rollExplicitly spawns type triggerFrom ExplicitlyChanced count rolledObjects (drawn + 1)
    else (rolledObjects, drawn)

/-- Remove most of the active objects. -/
def removeActive (spawns : ActivePoolData) (type : PoolObjectType) :
    List PoolObject → (drawn : ℕ) → List PoolObject × ℕ
  | [], drawn => ([], drawn)
  | obj :: rest, drawn =>
    if spawns.IsActiveObject type obj.guid then
      let (kept, after) := removeActive spawns type rest (drawn + 1)
      (if dice.urand drawn 1 4 ≠ 1 then kept else obj :: kept, after)
    else
      let (kept, after) := removeActive spawns type rest drawn
      (obj :: kept, after)

/-- The loop of `Trinity::Containers::RandomResize`. -/
def keepRandom : List PoolObject → (elementsToKeep drawn : ℕ) → List PoolObject × ℕ
  | [], _, drawn => ([], drawn)
  | obj :: rest, elementsToKeep, drawn =>
    if dice.urand drawn 1 (rest.length + 1) ≤ elementsToKeep then
      let (kept, after) := keepRandom rest (elementsToKeep - 1) (drawn + 1)
      (obj :: kept, after)
    else keepRandom rest elementsToKeep (drawn + 1)

/-- `Trinity::Containers::RandomResize`. -/
def RandomResize (container : List PoolObject) (requestedSize drawn : ℕ) : List PoolObject × ℕ :=
  if container.length ≤ requestedSize then (container, drawn)
  else keepRandom dice container requestedSize drawn

/-- The objects `SpawnObject` rolls. -/
def rollObjects (spawns : ActivePoolData) (type : PoolObjectType) (group : PoolGroup)
    (triggerFrom count drawn : ℕ) : List PoolObject × ℕ :=
  if !group.ExplicitlyChanced.isEmpty then
    rollExplicitly dice spawns type triggerFrom group.ExplicitlyChanced count [] drawn
  else
    let (rolledObjects, drawn) := removeActive dice spawns type group.EqualChanced drawn
    RandomResize dice rolledObjects count drawn

/-! ## Spawning -/

/-- The spawned objects, and how many random numbers have been drawn. -/
structure SpawnState where
  spawns : ActivePoolData
  drawn : ℕ

/-- The number of objects `SpawnObject` wants to spawn, an `int`.  The triggering object is taken to be
active and to be counted. -/
def spawnCount (spawns : ActivePoolData) (pool_id triggerFrom : ℕ) : ℤ :=
  ((c.MaxLimit pool_id : ℤ) - spawns.GetActiveObjectCount pool_id +
    if triggerFrom ≠ 0 then 1 else 0).bmod (2 ^ 32)

/-- The end of `SpawnObject`: spawn the rolled objects.  `spawn` does the job on a sub-pool; what is left
of the trigger is returned. -/
def spawnRolled (spawn : ℕ → SpawnState → SpawnState) (type : PoolObjectType) (pool_id : ℕ) :
    List PoolObject → (triggerFrom : ℕ) → SpawnState → SpawnState × ℕ
  | [], triggerFrom, s => (s, triggerFrom)
  | obj :: rest, triggerFrom, s =>
    if s.spawns.IsActiveObject type obj.guid then spawnRolled spawn type pool_id rest triggerFrom s
    else if obj.guid = triggerFrom then spawnRolled spawn type pool_id rest 0 s
    else
      let s := { s with spawns := s.spawns.ActivateObject type obj.guid pool_id }
      spawnRolled spawn type pool_id rest triggerFrom (if type = .pool then spawn obj.guid s else s)

/-- `PoolGroup::SpawnObject`, with `triggerFrom = 0` for no triggering object. -/
def SpawnObject (spawn : ℕ → SpawnState → SpawnState) (type : PoolObjectType)
    (pool_id triggerFrom : ℕ) (s : SpawnState) : SpawnState :=
  let count := c.spawnCount s.spawns pool_id triggerFrom
  let (s, triggerFrom) :=
    if 0 < count then
      let (rolledObjects, drawn) :=
        rollObjects dice s.spawns type (c.group type pool_id) triggerFrom count.toNat s.drawn
      spawnRolled spawn type pool_id rolledObjects triggerFrom { s with drawn := drawn }
    else (s, triggerFrom)
  if triggerFrom ≠ 0 then
    { s with spawns := c.DespawnObject c.DespawnPool type pool_id triggerFrom s.spawns }
  else s

/-- `PoolMgr::SpawnPool<T>`. -/
def spawnGroup (spawn : ℕ → SpawnState → SpawnState) (type : PoolObjectType)
    (pool_id db_guid : ℕ) (s : SpawnState) : SpawnState :=
  if !(c.group type pool_id).isEmpty then c.SpawnObject dice spawn type pool_id db_guid s else s

/-- `PoolMgr::SpawnPool`, through at most `fuel` levels of pools. -/
def spawnPoolAux : ℕ → (pool_id : ℕ) → SpawnState → SpawnState
  | 0, _, s => s
  | fuel + 1, pool_id, s =>
    let s := c.spawnGroup dice (spawnPoolAux fuel) .pool pool_id 0 s
    let s := c.spawnGroup dice (spawnPoolAux fuel) .gameobject pool_id 0 s
    c.spawnGroup dice (spawnPoolAux fuel) .creature pool_id 0 s

/-- `PoolMgr::SpawnPool`. -/
def SpawnPool (pool_id : ℕ) (s : SpawnState) : SpawnState := c.spawnPoolAux dice (c.depth pool_id + 1) pool_id s

/-- The pool, the type and the triggering object `PoolMgr::UpdatePool` spawns with: a sub-pool is
replaced as a whole. -/
def updateTarget (type : PoolObjectType) (pool_id db_guid_or_pool_id : ℕ) : PoolObjectType × ℕ × ℕ :=
  let motherpoolid := c.IsPartOfAPool .pool pool_id
  if motherpoolid ≠ 0 then (.pool, motherpoolid, pool_id)
  else (type, pool_id, db_guid_or_pool_id)

/-- `PoolMgr::UpdatePool`. -/
def UpdatePool (type : PoolObjectType) (pool_id db_guid_or_pool_id : ℕ) (s : SpawnState) :
    SpawnState :=
  let (type, pool_id, triggerFrom) := c.updateTarget type pool_id db_guid_or_pool_id
  c.spawnGroup dice (c.SpawnPool dice) type pool_id triggerFrom s

/-! ## The machine -/

/-- The calls that reach the pool manager. -/
inductive Call where
  | SpawnPool (dice : Dice) (pool_id : ℕ)
  | DespawnPool (pool_id : ℕ)
  | UpdatePool (dice : Dice) (type : PoolObjectType) (pool_id db_guid_or_pool_id : ℕ)

/-- What a call does; all are defined everywhere. -/
def next (spawns : ActivePoolData) : Call → Option ActivePoolData
  | .SpawnPool dice pool_id => some (c.SpawnPool dice pool_id ⟨spawns, 0⟩).spawns
  | .DespawnPool pool_id => some (c.DespawnPool pool_id spawns)
  | .UpdatePool dice type pool_id guid =>
    some (c.UpdatePool dice type pool_id guid ⟨spawns, 0⟩).spawns

end PoolMgr

/-- The pool manager with a given configuration, driven by calls. -/
def poolMachine (c : PoolMgr) : Machine ActivePoolData PoolMgr.Call where
  start := .empty
  next := c.next

end Gundrak
