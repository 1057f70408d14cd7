import Gundrak.Pools.PoolAccounting
import Gundrak.Util.FunctionalGraph

/-!
# Circular references between pools

A row of `pool_pool` puts a pool into a mother pool.  `LoadFromDB` enters the rows in `mPoolPoolGroups` and in
`mPoolSearchMap`, and then follows the mothers of every pool below `max_pool_id`: a link that leads back to a pool it
has been at is removed from both.  The pool `max_pool_id` itself is not looked at, but a cycle has another pool on it.

**`loadPools_untangled`** says what is left: no cycles, every link that was not on a cycle, and all but one of the
links of each cycle.  So spawning and despawning pools ends, which is `despawnPoolIn_ends` and `spawnPoolIn_ends`.
-/

open Std (ExtTreeMap)
open Relation (ReflTransGen TransGen)
open FunctionalGraph

namespace Gundrak

open PoolMgr (SpawnState)

namespace PoolGroup

/-- `PoolGroup::AddEntry`. -/
def AddEntry (group : PoolGroup) (poolitem : PoolObject) (maxentries : ℕ) : PoolGroup :=
  if poolitem.chance ≠ 0 ∧ maxentries = 1 then
    { group with ExplicitlyChanced := group.ExplicitlyChanced ++ [poolitem] }
  else { group with EqualChanced := group.EqualChanced ++ [poolitem] }

/-- `PoolGroup<Pool>::RemoveOneRelation`. -/
def RemoveOneRelation (group : PoolGroup) (child_pool_id : ℕ) : PoolGroup where
  ExplicitlyChanced := group.ExplicitlyChanced.eraseP fun obj ↦ obj.guid == child_pool_id
  EqualChanced := group.EqualChanced.eraseP fun obj ↦ obj.guid == child_pool_id

/-- How often a group has a member. -/
def count (group : PoolGroup) (guid : ℕ) : ℕ := (group.objects.map PoolObject.guid).count guid

theorem mem_iff_count (group : PoolGroup) (guid : ℕ) :
    (∃ obj ∈ group.objects, obj.guid = guid) ↔ 0 < group.count guid := by
  simp [count]

theorem count_AddEntry (group : PoolGroup) (obj : PoolObject) (maxentries guid : ℕ) :
    (group.AddEntry obj maxentries).count guid = group.count guid + if obj.guid = guid then 1 else 0 := by
  have hcount : ∀ explicitly equal : List PoolObject, (PoolGroup.mk explicitly equal).count guid =
        (equal.map PoolObject.guid).count guid + (explicitly.map PoolObject.guid).count guid := by
    intro explicitly equal
    simp [count, objects]
  have hone : ([obj].map PoolObject.guid).count guid = if obj.guid = guid then 1 else 0 := by
    simp [List.count_singleton]
  rw [AddEntry]
  split_ifs <;> rw [hcount, List.map_append, List.count_append, hone, count, objects, List.map_append,
    List.count_append] <;> split_ifs <;> omega

theorem count_RemoveOneRelation (group : PoolGroup) (child guid : ℕ) (h : group.count child ≤ 1) :
    (group.RemoveOneRelation child).count guid = if guid = child then 0 else group.count guid := by
  have herase : ∀ l : List PoolObject, (l.eraseP fun obj ↦ obj.guid == child).map PoolObject.guid =
      (l.map PoolObject.guid).erase child := by
    intro l
    rw [List.erase_eq_eraseP', List.eraseP_map]
    rfl
  rw [count, objects, List.map_append, List.count_append] at h
  rw [count, count, objects, objects, RemoveOneRelation, List.map_append, List.map_append, List.count_append,
    List.count_append, herase, herase, List.count_erase, List.count_erase]
  split_ifs with h1 h2 h2
  · subst h2
    omega
  · exact absurd (beq_iff_eq.mp h1).symm h2
  · exact absurd (beq_iff_eq.mpr h2.symm) h1
  · omega

end PoolGroup

/-- A row of `pool_pool`. -/
structure PoolPoolRow where
  pool_id : ℕ
  mother_pool : ℕ
  chance : ℚ
deriving DecidableEq

/-- Whether `LoadFromDB` takes a row. -/
def PoolPoolRow.accepted (row : PoolPoolRow) (max_pool_id : ℕ) : Bool :=
  !(decide (max_pool_id < row.mother_pool) || decide (max_pool_id < row.pool_id) ||
    decide (row.mother_pool = row.pool_id) || decide (row.chance < 0) || decide (100 < row.chance))

/-- `mPoolSearchMap` and `mPoolPoolGroups`. -/
structure PoolRelations where
  mPoolSearchMap : ExtTreeMap ℕ ℕ
  mPoolPoolGroups : ℕ → PoolGroup

namespace PoolRelations

/-- Nothing is loaded. -/
def empty : PoolRelations := ⟨∅, fun _ ↦ ⟨[], []⟩⟩

/-- The turn of `LoadFromDB` for one row. -/
def loadRow (max_pool_id : ℕ) (MaxLimit : ℕ → ℕ) (s : PoolRelations) (row : PoolPoolRow) : PoolRelations :=
  if row.accepted max_pool_id then
    { mPoolSearchMap := s.mPoolSearchMap.insertIfNew row.pool_id row.mother_pool
      mPoolPoolGroups := Function.update s.mPoolPoolGroups row.mother_pool
        ((s.mPoolPoolGroups row.mother_pool).AddEntry ⟨row.pool_id, row.chance⟩ (MaxLimit row.mother_pool)) }
  else s

/-- The inner loop of the check for circular references, from `pool` on: the first link that leads back to one of the
pools it has been at, if there is one.  It is cut off after some turns. -/
def findBack (mPoolSearchMap : ExtTreeMap ℕ ℕ) : ℕ → List ℕ → ℕ → Option (Option (ℕ × ℕ))
  | 0, _, _ => none
  | turns + 1, checkedPools, pool =>
    match mPoolSearchMap[pool]? with
    | none => some none
    | some mother =>
      if mother ∈ pool :: checkedPools then some (some (pool, mother))
      else findBack mPoolSearchMap turns (pool :: checkedPools) mother

/-- A link is removed from both. -/
def removeLink (s : PoolRelations) (link : ℕ × ℕ) : PoolRelations where
  mPoolSearchMap := s.mPoolSearchMap.erase link.1
  mPoolPoolGroups := Function.update s.mPoolPoolGroups link.2
    ((s.mPoolPoolGroups link.2).RemoveOneRelation link.1)

/-- The check for circular references from the pool `i`. -/
def checkPool (s : PoolRelations) (i : ℕ) : Option PoolRelations :=
  (findBack s.mPoolSearchMap (s.mPoolSearchMap.size + 1) [] i).map fun back ↦ back.elim s s.removeLink

/-- The pools of pools in `PoolMgr::LoadFromDB`. -/
def loadPools (max_pool_id : ℕ) (MaxLimit : ℕ → ℕ) (rows : List PoolPoolRow) : Option PoolRelations :=
  (List.range max_pool_id).foldlM checkPool (rows.foldl (loadRow max_pool_id MaxLimit) empty)

/-! ## Loading the rows -/

/-- The mother of a pool in `mPoolSearchMap`. -/
def links (s : PoolRelations) (child : ℕ) : Option ℕ := s.mPoolSearchMap[child]?

/-- The mother that the table gives a pool. -/
def tableLinks (max_pool_id : ℕ) (rows : List PoolPoolRow) (child : ℕ) : Option ℕ :=
  (rows.find? fun row ↦ row.accepted max_pool_id && row.pool_id == child).map PoolPoolRow.mother_pool

/-- The two containers agree: a pool has a child once if that is its mother, and not else. -/
def Agrees (s : PoolRelations) : Prop :=
  ∀ child mother, (s.mPoolPoolGroups mother).count child = if s.links child = some mother then 1 else 0

variable {s s₀ : PoolRelations} {max_pool_id : ℕ} {MaxLimit : ℕ → ℕ} {rows : List PoolPoolRow}

theorem links_loadRow (row : PoolPoolRow) (child : ℕ) (hnew : s.links row.pool_id = none) :
    (s.loadRow max_pool_id MaxLimit row).links child =
      if row.accepted max_pool_id && row.pool_id == child then some row.mother_pool else s.links child := by
  rw [loadRow, links] at *
  cases row.accepted max_pool_id with
  | false => rfl
  | true =>
    have hnot : row.pool_id ∉ s.mPoolSearchMap := fun hmem ↦ by
      obtain ⟨mother, hmother⟩ := (TreeMap.mem_iff _ _).mp hmem
      simp [hnew] at hmother
    rw [if_pos rfl]
    rw [ExtTreeMap.getElem?_insertIfNew]
    by_cases hchild : row.pool_id = child
    · subst hchild
      simp [hnot]
    · simp [hchild, Std.LawfulEqCmp.compare_eq_iff_eq, links]

theorem Agrees.loadRow (h : s.Agrees) (row : PoolPoolRow) (hnew : s.links row.pool_id = none) :
    (s.loadRow max_pool_id MaxLimit row).Agrees := by
  intro child mother
  rw [links_loadRow row child hnew]
  rw [PoolRelations.loadRow]
  cases row.accepted max_pool_id with
  | false => exact h child mother
  | true =>
    rw [if_pos rfl]
    dsimp only
    by_cases hmother : mother = row.mother_pool
    · subst hmother
      rw [Function.update_self, PoolGroup.count_AddEntry, h]
      by_cases hchild : row.pool_id = child
      · subst hchild
        simp [hnew]
      · simp [hchild]
    · rw [Function.update_of_ne hmother, h]
      by_cases hchild : row.pool_id = child
      · subst hchild
        simp [hnew, Ne.symm hmother]
      · simp [hchild]

/-- Loading a table with at most one row for each pool enters its links, and the two containers agree. -/
theorem foldl_loadRow (hunique : (rows.map PoolPoolRow.pool_id).Nodup) (hagrees : s.Agrees)
    (hnew : ∀ row ∈ rows, s.links row.pool_id = none) :
    (rows.foldl (loadRow max_pool_id MaxLimit) s).Agrees ∧
      ∀ child, (rows.foldl (loadRow max_pool_id MaxLimit) s).links child =
        (tableLinks max_pool_id rows child).or (s.links child) := by
  induction rows generalizing s with
  | nil => exact ⟨hagrees, fun child ↦ rfl⟩
  | cons row rows ih =>
    rw [List.map_cons, List.nodup_cons] at hunique
    have hrow := hnew row List.mem_cons_self
    have hnext : ∀ row' ∈ rows, (s.loadRow max_pool_id MaxLimit row).links row'.pool_id = none := by
      intro row' hrow'
      have hne : row.pool_id ≠ row'.pool_id := fun heq ↦
        hunique.1 (heq ▸ List.mem_map_of_mem hrow')
      simp [links_loadRow row _ hrow, hne, hnew row' (List.mem_cons_of_mem _ hrow')]
    obtain ⟨hagrees', hlinks⟩ := ih hunique.2 (hagrees.loadRow row hrow) hnext
    refine ⟨hagrees', fun child ↦ ?_⟩
    rw [List.foldl_cons, hlinks, links_loadRow row child hrow]
    rw [tableLinks, tableLinks, List.find?_cons]
    by_cases hmatch : (row.accepted max_pool_id && row.pool_id == child) = true
    · have hrest : (rows.find? fun row ↦ row.accepted max_pool_id && row.pool_id == child) = none := by
        refine List.find?_eq_none.mpr fun row' hrow' hmatch' ↦ ?_
        rw [Bool.and_eq_true, beq_iff_eq] at hmatch hmatch'
        exact hunique.1 (hmatch.2.trans hmatch'.2.symm ▸ List.mem_map_of_mem hrow')
      simp [hrest, hmatch]
    · simp [hmatch]

/-- A link of the table leads from a pool to another one, both of them at most `max_pool_id`. -/
theorem tableLinks_spec {child mother : ℕ} (h : tableLinks max_pool_id rows child = some mother) :
    child ≤ max_pool_id ∧ mother ≤ max_pool_id ∧ child ≠ mother := by
  obtain ⟨row, hrow, rfl⟩ := Option.map_eq_some_iff.mp h
  have hmatch := List.find?_some hrow
  rw [Bool.and_eq_true, beq_iff_eq, PoolPoolRow.accepted] at hmatch
  obtain ⟨haccepted, rfl⟩ := hmatch
  simp only [Bool.not_eq_true', Bool.or_eq_false_iff, decide_eq_false_iff_not, not_lt] at haccepted
  obtain ⟨⟨⟨⟨hmother, hchild⟩, hne⟩, -⟩, -⟩ := haccepted
  exact ⟨hchild, hmother, Ne.symm hne⟩

/-! ## Following the mothers -/

theorem links_removeLink (link : ℕ × ℕ) : (s.removeLink link).links = Function.update s.links link.1 none := by
  funext child
  simp [links, removeLink, TreeMap.get_erase, Function.update_apply, eq_comm]

theorem Agrees.removeLink (h : s.Agrees) {child mother : ℕ} (hlink : s.links child = some mother) :
    (s.removeLink (child, mother)).Agrees := by
  intro x p
  rw [links_removeLink]
  rw [PoolRelations.removeLink]
  dsimp only
  have hcount := h child mother
  rw [hlink, if_pos rfl] at hcount
  by_cases hp : p = mother
  · subst hp
    rw [Function.update_self, PoolGroup.count_RemoveOneRelation _ _ _ hcount.le, h]
    by_cases hx : x = child
    · subst hx
      simp
    · simp [hx]
  · rw [Function.update_of_ne hp, h]
    by_cases hx : x = child
    · subst hx
      simp [hlink, Ne.symm hp]
    · rw [Function.update_of_ne hx]

variable {m : ExtTreeMap ℕ ℕ} {turns pool : ℕ} {checkedPools : List ℕ}

theorem findBack_none (h : findBack s.mPoolSearchMap turns checkedPools pool = some none) : Ends s.links pool := by
  induction turns generalizing checkedPools pool with
  | zero => cases h
  | succ turns ih =>
    rw [findBack] at h
    cases hmother : s.mPoolSearchMap[pool]? with
    | none => exact .stop pool hmother
    | some mother =>
      simp only [hmother] at h
      split_ifs at h with hmem
      · cases h
      · exact .step pool mother hmother (ih h)

/-- A link that leads back is on a cycle, and without it the path ends. -/
theorem findBack_some {link : ℕ × ℕ} (h : findBack s.mPoolSearchMap turns checkedPools pool = some (some link))
    (hchecked : ∀ p ∈ checkedPools, ReflTransGen (Step s.links) p pool) :
    s.links link.1 = some link.2 ∧ OnCycle s.links link.1 ∧ Ends (Function.update s.links link.1 none) pool := by
  induction turns generalizing checkedPools pool with
  | zero => cases h
  | succ turns ih =>
    rw [findBack] at h
    cases hmother : s.mPoolSearchMap[pool]? with
    | none =>
      simp [hmother] at h
    | some mother =>
      simp only [hmother] at h
      have hstep : s.links pool = some mother := hmother
      split_ifs at h with hmem
      · obtain rfl := Option.some_inj.mp (Option.some_inj.mp h)
        have hback : ReflTransGen (Step s.links) mother pool := by
          rcases List.mem_cons.mp hmem with rfl | hmem
          · exact .refl
          · exact hchecked mother hmem
        exact ⟨hstep, .head' hstep hback, .stop pool (Function.update_self ..)⟩
      · have hchecked' : ∀ p ∈ pool :: checkedPools, ReflTransGen (Step s.links) p mother := by
          intro p hp
          rcases List.mem_cons.mp hp with rfl | hp
          · exact .single hstep
          · exact (hchecked p hp).tail hstep
        obtain ⟨hlink, hcycle, hends⟩ := ih h hchecked'
        refine ⟨hlink, hcycle, ?_⟩
        by_cases hpool : pool = link.1
        · subst hpool
          exact .stop _ (Function.update_self ..)
        · exact .step pool mother ((Function.update_of_ne hpool ..).trans hstep) hends

/-- The inner loop comes to an end: it never is at a pool twice. -/
theorem findBack_isSome (hnodup : checkedPools.Nodup) (hmem : ∀ p ∈ checkedPools, p ∈ m) (hpool : pool ∉ checkedPools)
    (hturns : m.size < turns + checkedPools.length) : (findBack m turns checkedPools pool).isSome := by
  induction turns generalizing checkedPools pool with
  | zero =>
    have hle := (hnodup.subperm fun p hp ↦ ExtTreeMap.mem_keys.mpr (hmem p hp)).length_le
    rw [ExtTreeMap.length_keys] at hle
    omega
  | succ turns ih =>
    rw [findBack]
    cases hmother : m[pool]? with
    | none => rfl
    | some mother =>
      dsimp only
      split_ifs with hback
      · rfl
      · refine ih (List.nodup_cons.mpr ⟨hpool, hnodup⟩) (fun p hp ↦ ?_) hback ?_
        · rcases List.mem_cons.mp hp with rfl | hp
          · exact (TreeMap.mem_iff m _).mpr ⟨mother, hmother⟩
          · exact hmem p hp
        · rw [List.length_cons]
          omega

/-! ## The check -/

/-- What the check for circular references has made of `s₀` before its `n`-th turn. -/
structure Checked (s₀ s : PoolRelations) (n : ℕ) : Prop where
  agrees : s.Agrees
  pruned : Pruned s₀.links s.links
  ends : ∀ i < n, Ends s.links i

theorem restricts_update (f : ℕ → Option ℕ) (a : ℕ) : Restricts (Function.update f a none) f := by
  intro b c h
  by_cases hb : b = a
  · subst hb
    simp at h
  · rwa [Function.update_of_ne hb] at h

theorem Checked.checkPool {n : ℕ} (h : Checked s₀ s n) : ∃ s', s.checkPool n = some s' ∧ Checked s₀ s' (n + 1) := by
  have hsome : (findBack s.mPoolSearchMap (s.mPoolSearchMap.size + 1) [] n).isSome :=
    findBack_isSome List.nodup_nil (by simp) List.not_mem_nil (by simp)
  obtain ⟨back, hback⟩ := Option.isSome_iff_exists.mp hsome
  rw [PoolRelations.checkPool, hback, Option.map_some]
  refine ⟨_, rfl, ?_⟩
  cases back with
  | none =>
    refine ⟨h.agrees, h.pruned, fun i hi ↦ ?_⟩
    rcases Nat.lt_succ_iff_lt_or_eq.mp hi with hi | rfl
    · exact h.ends i hi
    · exact findBack_none hback
  | some link =>
    obtain ⟨hlink, hcycle, hends⟩ := findBack_some hback (by simp)
    refine ⟨h.agrees.removeLink hlink, ?_, fun i hi ↦ ?_⟩
    · rw [Option.elim_some, links_removeLink]
      exact h.pruned.update hcycle
    · rw [Option.elim_some, links_removeLink]
      rcases Nat.lt_succ_iff_lt_or_eq.mp hi with hi | rfl
      · exact (h.ends i hi).of_restricts (restricts_update _ _)
      · exact hends

theorem foldlM_checkPool (hagrees : s₀.Agrees) (n : ℕ) :
    ∃ s, (List.range n).foldlM PoolRelations.checkPool s₀ = some s ∧ Checked s₀ s n := by
  induction n with
  | zero => exact ⟨s₀, rfl, hagrees, .refl _, fun i hi ↦ absurd hi (Nat.not_lt_zero i)⟩
  | succ n ih =>
    obtain ⟨s, hs, hchecked⟩ := ih
    obtain ⟨s', hs', hchecked'⟩ := hchecked.checkPool
    refine ⟨s', ?_, hchecked'⟩
    rw [List.range_succ, List.foldlM_append, hs]
    simp [hs']

theorem Checked.acyclic (h : Checked s₀ s max_pool_id) (hrange : ∀ child mother, s₀.links child = some mother →
      child ≤ max_pool_id ∧ mother ≤ max_pool_id ∧ child ≠ mother) (pool : ℕ) : ¬ OnCycle s.links pool := by
  intro hcycle
  obtain ⟨mother, hmother, hcycle', -⟩ := hcycle.exists_step
  obtain ⟨hpool, hmother', hne⟩ := hrange _ _ (h.pruned.restricts _ _ hmother)
  rcases Nat.lt_or_ge pool max_pool_id with hlt | hge
  · exact (h.ends pool hlt).not_onCycle hcycle
  · exact (h.ends mother (by omega)).not_onCycle hcycle'

/-- What the check is for: `f₀` are the links of the table. -/
structure Untangled (f₀ : ℕ → Option ℕ) (s : PoolRelations) : Prop where
  /-- The pools have each other as members, once, as `mPoolSearchMap` says. -/
  agrees : s.Agrees
  /-- No pool contains itself, directly or through others. -/
  acyclic : ∀ pool, ¬ TransGen
    (fun child mother ↦ ∃ obj ∈ (s.mPoolPoolGroups mother).objects, obj.guid = child) pool pool
  /-- No link is made up. -/
  restricts : Restricts s.links f₀
  /-- The links that are not on a cycle are kept. -/
  kept : ∀ child, ¬ OnCycle f₀ child → s.links child = f₀ child
  /-- Of each cycle one link is dropped. -/
  dropped : ∀ pool, OnCycle f₀ pool → ∃! child, ReflTransGen (Step f₀) pool child ∧ s.links child = none

theorem Agrees.mem_iff (h : s.Agrees) {child mother : ℕ} :
    (∃ obj ∈ (s.mPoolPoolGroups mother).objects, obj.guid = child) ↔ s.links child = some mother := by
  rw [PoolGroup.mem_iff_count, h]
  split_ifs with hlink <;> simp [hlink]

end PoolRelations

/-! ## The recursion over the pools -/

/-- What spawning and despawning read: `MaxLimit` of `mPoolTemplate`, and the groups. -/
structure PoolTables where
  MaxLimit : ℕ → ℕ
  group : PoolObjectType → (pool_id : ℕ) → PoolGroup

namespace PoolTables

variable (t : PoolTables) (dice : Dice)

/-- One pass of the loops of `DespawnObject`; `despawn` does the removal job on a sub-pool, if that ends. -/
def despawnStep (despawn : ℕ → ActivePoolData → Option ActivePoolData) (type : PoolObjectType)
    (pool_id guid : ℕ) (spawns : ActivePoolData) (obj : PoolObject) : Option ActivePoolData :=
  if spawns.IsActiveObject type obj.guid ∧ (guid = 0 ∨ obj.guid = guid) then
    (if type = .pool then despawn obj.guid spawns else some spawns).map
      fun spawns ↦ spawns.RemoveObject type obj.guid pool_id
  else some spawns

/-- `PoolGroup::DespawnObject`. -/
def DespawnObject (despawn : ℕ → ActivePoolData → Option ActivePoolData) (type : PoolObjectType)
    (pool_id guid : ℕ) (spawns : ActivePoolData) : Option ActivePoolData :=
  (t.group type pool_id).objects.foldlM (despawnStep despawn type pool_id guid) spawns

/-- `PoolMgr::DespawnPool`, cut off at some depth of its calls. -/
def despawnPoolIn : ℕ → (pool_id : ℕ) → ActivePoolData → Option ActivePoolData
  | 0, _, _ => none
  | calls + 1, pool_id, spawns =>
    ((t.DespawnObject (despawnPoolIn calls) .creature pool_id 0 spawns).bind
      (t.DespawnObject (despawnPoolIn calls) .gameobject pool_id 0)).bind
        (t.DespawnObject (despawnPoolIn calls) .pool pool_id 0)

/-- The end of `SpawnObject`; `spawn` does the job on a sub-pool, if that ends. -/
def spawnRolled (spawn : ℕ → SpawnState → Option SpawnState) (type : PoolObjectType) (pool_id : ℕ) :
    List PoolObject → (triggerFrom : ℕ) → SpawnState → Option (SpawnState × ℕ)
  | [], triggerFrom, s => some (s, triggerFrom)
  | obj :: rest, triggerFrom, s =>
    if s.spawns.IsActiveObject type obj.guid then spawnRolled spawn type pool_id rest triggerFrom s
    else if obj.guid = triggerFrom then spawnRolled spawn type pool_id rest 0 s
    else
      let s := { s with spawns := s.spawns.ActivateObject type obj.guid pool_id }
      (if type = .pool then spawn obj.guid s else some s).bind (spawnRolled spawn type pool_id rest triggerFrom)

/-- `PoolGroup::SpawnObject` without a triggering object, as `SpawnPool` calls it. -/
def SpawnObject (spawn : ℕ → SpawnState → Option SpawnState) (type : PoolObjectType) (pool_id : ℕ)
    (s : SpawnState) : Option SpawnState :=
  let count := ((t.MaxLimit pool_id : ℤ) - s.spawns.GetActiveObjectCount pool_id).bmod (2 ^ 32)
  if 0 < count then
    let (rolledObjects, drawn) := PoolMgr.rollObjects dice s.spawns type (t.group type pool_id) 0 count.toNat s.drawn
    (spawnRolled spawn type pool_id rolledObjects 0 { s with drawn := drawn }).map Prod.fst
  else some s

/-- `PoolMgr::SpawnPool<T>`. -/
def spawnGroup (spawn : ℕ → SpawnState → Option SpawnState) (type : PoolObjectType) (pool_id : ℕ)
    (s : SpawnState) : Option SpawnState :=
  if !(t.group type pool_id).isEmpty then t.SpawnObject dice spawn type pool_id s else some s

/-- `PoolMgr::SpawnPool`, cut off at some depth of its calls. -/
def spawnPoolIn : ℕ → (pool_id : ℕ) → SpawnState → Option SpawnState
  | 0, _, _ => none
  | calls + 1, pool_id, s =>
    ((t.spawnGroup dice (spawnPoolIn calls) .pool pool_id s).bind
      (t.spawnGroup dice (spawnPoolIn calls) .gameobject pool_id)).bind
        (t.spawnGroup dice (spawnPoolIn calls) .creature pool_id)

/-- The pools contain each other without cycles: a sub-pool is less deep. -/
def Layered (depth : ℕ → ℕ) : Prop := ∀ pool_id, ∀ obj ∈ (t.group .pool pool_id).objects, depth obj.guid < depth pool_id

/-- Every call of `SpawnPool` and of `DespawnPool` ends: with enough room for its calls it has a result. -/
structure RecursionEnds : Prop where
  despawn : ∀ pool_id spawns, ∃ calls result, ∀ n, calls ≤ n → t.despawnPoolIn n pool_id spawns = some result
  spawn : ∀ (dice : Dice) pool_id s, ∃ calls result, ∀ n, calls ≤ n → t.spawnPoolIn dice n pool_id s = some result

variable {t dice} {depth : ℕ → ℕ} {type : PoolObjectType} {p guid : ℕ}

theorem foldlM_eq_some {α β : Type*} {f : β → α → Option β} {g : β → α → β} {l : List α}
    (h : ∀ b, ∀ a ∈ l, f b a = some (g b a)) (b : β) : l.foldlM f b = some (l.foldl g b) := by
  induction l generalizing b with
  | nil => rfl
  | cons a l ih =>
    rw [List.foldlM_cons, h b a List.mem_cons_self, List.foldl_cons]
    exact ih (fun b a ha ↦ h b a (List.mem_cons_of_mem _ ha)) (g b a)

/-- A removal job that ends on the sub-pools makes `DespawnObject` end. -/
theorem DespawnObject_eq {despawn : ℕ → ActivePoolData → Option ActivePoolData}
    {job : ℕ → ActivePoolData → ActivePoolData}
    (h : ∀ obj ∈ (t.group .pool p).objects, ∀ s, despawn obj.guid s = some (job obj.guid s)) (s : ActivePoolData) :
    t.DespawnObject despawn type p guid s =
      some ((t.group type p).objects.foldl (PoolMgr.despawnStep job type p guid) s) := by
  refine foldlM_eq_some (fun s obj hobj ↦ ?_) s
  rw [despawnStep, PoolMgr.despawnStep]
  split_ifs with hactive htype
  · subst htype
    simp [h obj hobj]
  · rfl
  · rfl

theorem spawnRolled_eq {spawn : ℕ → SpawnState → Option SpawnState} {job : ℕ → SpawnState → SpawnState}
    {l : List PoolObject} (h : type = .pool → ∀ obj ∈ l, ∀ s, spawn obj.guid s = some (job obj.guid s))
    (trigger : ℕ) (s : SpawnState) :
    spawnRolled spawn type p l trigger s = some (PoolMgr.spawnRolled job type p l trigger s) := by
  induction l generalizing trigger s with
  | nil => rfl
  | cons obj l ih =>
    have hrest := ih fun htype obj hobj ↦ h htype obj (List.mem_cons_of_mem _ hobj)
    rw [spawnRolled, PoolMgr.spawnRolled]
    dsimp only
    split_ifs with hactive htrigger htype
    · exact hrest ..
    · exact hrest ..
    · rw [h htype obj List.mem_cons_self, Option.bind_some]
      exact hrest ..
    · exact hrest ..

theorem spawnRolled_rollObjects (t : PoolTables) {spawn : ℕ → SpawnState → Option SpawnState}
    {job : ℕ → SpawnState → SpawnState}
    (h : ∀ obj ∈ (t.group .pool p).objects, ∀ s, spawn obj.guid s = some (job obj.guid s)) (dice : Dice)
    (spawns : ActivePoolData) (count drawn : ℕ) (s : SpawnState) :
    spawnRolled spawn type p (PoolMgr.rollObjects dice spawns type (t.group type p) 0 count drawn).1 0 s =
      some (PoolMgr.spawnRolled job type p
        (PoolMgr.rollObjects dice spawns type (t.group type p) 0 count drawn).1 0 s) := by
  refine spawnRolled_eq ?_ 0 s
  rintro rfl obj hobj
  exact h obj ((PoolMgr.rollObjects_spec ..).2 obj hobj)

/-- A job that ends on the sub-pools makes the spawning of a group end. -/
theorem spawnGroup_ends (t : PoolTables) (dice : Dice) (job : ℕ → SpawnState → SpawnState) (type : PoolObjectType)
    (p : ℕ) : ∃ f : SpawnState → SpawnState, ∀ spawn : ℕ → SpawnState → Option SpawnState,
      (∀ obj ∈ (t.group .pool p).objects, ∀ s, spawn obj.guid s = some (job obj.guid s)) →
        ∀ s, t.spawnGroup dice spawn type p s = some (f s) := by
  refine ⟨fun s ↦ (t.spawnGroup dice (fun guid s ↦ some (job guid s)) type p s).getD s, fun spawn h s ↦ ?_⟩
  have hrolled' : ∀ l s', spawnRolled (fun guid s ↦ some (job guid s)) type p l 0 s' =
      some (PoolMgr.spawnRolled job type p l 0 s') := fun l s' ↦ spawnRolled_eq (fun _ _ _ _ ↦ rfl) 0 s'
  dsimp only
  rw [spawnGroup, spawnGroup, SpawnObject, SpawnObject]
  dsimp only
  rw [spawnRolled_rollObjects t h, hrolled']
  split_ifs <;> rfl

/-- What a job on the pools below a depth can be taken to be, if it ends on each of them. -/
theorem exists_job {σ : Type*} {run : ℕ → ℕ → σ → Option σ} {d : ℕ}
    (h : ∀ guid, depth guid < d → ∃ f : σ → σ, ∀ n, depth guid < n → ∀ s, run n guid s = some (f s)) :
    ∃ job : ℕ → σ → σ, ∀ guid, depth guid < d → ∀ n, depth guid < n → ∀ s, run n guid s = some (job guid s) := by
  have hall : ∀ guid, ∃ f : σ → σ, depth guid < d → ∀ n, depth guid < n → ∀ s, run n guid s = some (f s) := by
    intro guid
    by_cases hguid : depth guid < d
    · obtain ⟨f, hf⟩ := h guid hguid
      exact ⟨f, fun _ ↦ hf⟩
    · exact ⟨id, fun hlt ↦ absurd hlt hguid⟩
  choose job hjob using hall
  exact ⟨job, hjob⟩

theorem Layered.ends {σ : Type} {run : ℕ → ℕ → σ → Option σ} (h : t.Layered depth)
    (hrun : ∀ p (job : ℕ → σ → σ), ∃ f : σ → σ, ∀ n,
      (∀ obj ∈ (t.group .pool p).objects, ∀ s, run n obj.guid s = some (job obj.guid s)) →
        ∀ s, run (n + 1) p s = some (f s)) (p : ℕ) :
    ∃ f : σ → σ, ∀ n, depth p < n → ∀ s, run n p s = some (f s) := by
  induction hd : depth p using Nat.strong_induction_on generalizing p with
  | _ d ih =>
    obtain ⟨job, hjob⟩ := exists_job fun guid hguid ↦ ih (depth guid) hguid guid rfl
    obtain ⟨f, hf⟩ := hrun p job
    refine ⟨f, fun n hn s ↦ ?_⟩
    obtain ⟨n, rfl⟩ := Nat.exists_eq_succ_of_ne_zero (by omega : n ≠ 0)
    refine hf n (fun obj hobj s ↦ ?_) s
    have hlt := h p obj hobj
    exact hjob obj.guid (by omega) n (by omega) s

theorem despawnPoolIn_ends (h : t.Layered depth) (p : ℕ) :
    ∃ f : ActivePoolData → ActivePoolData, ∀ n, depth p < n → ∀ s, t.despawnPoolIn n p s = some (f s) :=
  h.ends (fun p job ↦ ⟨fun s ↦ (t.group .pool p).objects.foldl (PoolMgr.despawnStep job .pool p 0)
    ((t.group .gameobject p).objects.foldl (PoolMgr.despawnStep job .gameobject p 0)
      ((t.group .creature p).objects.foldl (PoolMgr.despawnStep job .creature p 0) s)), fun n hpools s ↦ by
    simp [despawnPoolIn, DespawnObject_eq hpools]⟩) p

theorem spawnPoolIn_ends (h : t.Layered depth) (dice : Dice) (p : ℕ) :
    ∃ f : SpawnState → SpawnState, ∀ n, depth p < n → ∀ s, t.spawnPoolIn dice n p s = some (f s) := by
  refine h.ends (fun p job ↦ ?_) p
  choose f hf using fun type ↦ spawnGroup_ends t dice job type p
  refine ⟨fun s ↦ f .creature (f .gameobject (f .pool s)), fun n hpools s ↦ ?_⟩
  rw [spawnPoolIn, hf .pool _ hpools, Option.bind_some, hf .gameobject _ hpools, Option.bind_some,
    hf .creature _ hpools]

theorem Layered.recursionEnds (h : t.Layered depth) : t.RecursionEnds := by
  constructor
  · intro pool_id spawns
    obtain ⟨f, hf⟩ := despawnPoolIn_ends h pool_id
    exact ⟨depth pool_id + 1, f spawns, fun n hn ↦ hf n hn spawns⟩
  · intro dice pool_id s
    obtain ⟨f, hf⟩ := spawnPoolIn_ends h dice pool_id
    exact ⟨depth pool_id + 1, f s, fun n hn ↦ hf n hn s⟩

end PoolTables

/-! ## What is loaded -/

namespace PoolRelations

variable {s : PoolRelations}

/-- **The check for circular references ends, and leaves no cycles and nearly all the links.** -/
theorem loadPools_untangled (max_pool_id : ℕ) (MaxLimit : ℕ → ℕ) (rows : List PoolPoolRow)
    (hunique : (rows.map PoolPoolRow.pool_id).Nodup) :
    ∃ s, loadPools max_pool_id MaxLimit rows = some s ∧ Untangled (tableLinks max_pool_id rows) s ∧
      ∀ t : PoolTables, t.group .pool = s.mPoolPoolGroups → t.RecursionEnds := by
  obtain ⟨hagrees, hlinks⟩ : (rows.foldl (loadRow max_pool_id MaxLimit) empty).Agrees ∧
      ∀ child, (rows.foldl (loadRow max_pool_id MaxLimit) empty).links child =
        (tableLinks max_pool_id rows child).or (empty.links child) :=
    foldl_loadRow hunique (fun _ _ ↦ rfl) fun _ _ ↦ rfl
  have hloaded : (rows.foldl (loadRow max_pool_id MaxLimit) empty).links = tableLinks max_pool_id rows := by
    funext child
    rw [hlinks]
    exact Option.or_none
  obtain ⟨s, hs, hchecked⟩ := foldlM_checkPool hagrees max_pool_id
  have hacyclic := hchecked.acyclic fun child mother hlink ↦ by
    rw [hloaded] at hlink
    exact tableLinks_spec hlink
  have hpruned := hchecked.pruned
  rw [hloaded] at hpruned
  refine ⟨s, hs, ⟨hchecked.agrees, fun pool hpool ↦ hacyclic pool ?_, hpruned.restricts, fun child hchild ↦ ?_,
    fun pool hpool ↦ hpruned.exists_unique_dropped hacyclic hpool⟩, fun t ht ↦ ?_⟩
  · exact TransGen.mono (fun child mother hmem ↦ hchecked.agrees.mem_iff.mp hmem) _ _ hpool
  · exact (hpruned.eq_or child).resolve_right fun h ↦ hchild h.2
  · have hlayered : t.Layered fun pool ↦ (below s.links s.mPoolSearchMap.keys.toFinset pool).card := by
      intro pool obj hobj
      rw [ht] at hobj
      have hlink := hchecked.agrees.mem_iff.mp ⟨obj, hobj, rfl⟩
      refine below_lt hacyclic (List.mem_toFinset.mpr (ExtTreeMap.mem_keys.mpr ?_)) hlink
      exact (TreeMap.mem_iff _ _).mpr ⟨pool, hlink⟩
    exact hlayered.recursionEnds

/-- Three pools that contain each other in a circle, with a fourth one in the first of them. -/
def circleRows : List PoolPoolRow := [⟨1, 2, 0⟩, ⟨2, 3, 0⟩, ⟨3, 1, 0⟩, ⟨4, 1, 0⟩]

theorem loadPools_untangled_circle : ∃ s, loadPools 4 (fun _ ↦ 2) circleRows = some s ∧
    Untangled (tableLinks 4 circleRows) s ∧ ∀ t : PoolTables, t.group .pool = s.mPoolPoolGroups → t.RecursionEnds :=
  loadPools_untangled 4 (fun _ ↦ 2) circleRows (by decide)

end PoolRelations

end Gundrak
