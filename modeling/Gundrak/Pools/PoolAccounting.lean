import Gundrak.Pools.PoolMgr

/-!
# The count of a pool is the number of its active members

`Accounted` says that `mSpawnedPools` counts, for every pool, its active members; a pool without an entry
has none.  Spawning in a pool (`Grows`) and despawning in it (`Shrinks`) keep this, and they concern
the members of the pool and of its descendants only.

`SpawnObject` takes the triggering object to be active, and an object that becomes active to belong to a
pool that its mother pool knows to be active.  `Admitted` is the condition on a call that this
needs, and `booked_of_reaches` what holds in every run that keeps to it.
-/

open Std (ExtTreeMap)

namespace Gundrak

/-- An object that is a member of a pool. -/
abbrev PoolMember := PoolObjectType × ℕ

namespace ActivePoolData

variable {s : ActivePoolData} {type : PoolObjectType} {guid pool_id p n : ℕ} {o : PoolMember}

/-- An object is active. -/
def active (s : ActivePoolData) (o : PoolMember) : Bool := s.IsActiveObject o.1 o.2

@[simp]
theorem active_creature : s.active (.creature, guid) = true ↔ guid ∈ s.mSpawnedCreatures := decide_eq_true_iff

@[simp]
theorem active_gameobject : s.active (.gameobject, guid) = true ↔ guid ∈ s.mSpawnedGameobjects := decide_eq_true_iff

@[simp]
theorem active_pool : s.active (.pool, guid) = true ↔ guid ∈ s.mSpawnedPools := ExtTreeMap.contains_iff_mem

theorem active_setCount : (s.setCount pool_id n).active o = true ↔ o = (.pool, pool_id) ∨ s.active o = true := by
  obtain ⟨type, guid⟩ := o
  cases type with
  | creature => simp [setCount]
  | gameobject => simp [setCount]
  | pool => simpa [setCount] using or_congr_left eq_comm

theorem active_mark : (s.mark type guid).active o = true ↔ o = (type, guid) ∨ s.active o = true := by
  obtain ⟨type', guid'⟩ := o
  cases type with
  | creature => cases type' <;> simp [mark]
  | gameobject => cases type' <;> simp [mark]
  | pool => exact active_setCount

theorem active_ActivateObject : (s.ActivateObject type guid pool_id).active o = true ↔
    o = (.pool, pool_id) ∨ o = (type, guid) ∨ s.active o = true := by
  rw [ActivateObject, active_setCount, active_mark]

theorem active_unmark : (s.unmark type guid).active o = true ↔ o ≠ (type, guid) ∧ s.active o = true := by
  obtain ⟨type', guid'⟩ := o
  cases type with
  | creature => cases type' <;> simp [unmark]
  | gameobject => cases type' <;> simp [unmark]
  | pool =>
    cases type' with
    | creature => simp [unmark]
    | gameobject => simp [unmark]
    | pool => simpa [unmark] using and_congr_left' (not_congr eq_comm)

theorem count_setCount (s : ActivePoolData) (pool_id n p : ℕ) : (s.setCount pool_id n).GetActiveObjectCount p =
      if pool_id = p then n else s.GetActiveObjectCount p := by
  rw [GetActiveObjectCount, GetActiveObjectCount, setCount, TreeMap.get_insert]
  split <;> rfl

theorem count_mark (s : ActivePoolData) (type : PoolObjectType) (guid p : ℕ) :
    (s.mark type guid).GetActiveObjectCount p =
      if type = .pool ∧ guid = p then 0 else s.GetActiveObjectCount p := by
  cases type with
  | creature => rfl
  | gameobject => rfl
  | pool =>
    rw [mark, count_setCount]
    simp

theorem count_unmark (s : ActivePoolData) (type : PoolObjectType) (guid p : ℕ) :
    (s.unmark type guid).GetActiveObjectCount p =
      if type = .pool ∧ guid = p then 0 else s.GetActiveObjectCount p := by
  cases type with
  | creature => rfl
  | gameobject => rfl
  | pool =>
    rw [unmark, GetActiveObjectCount, GetActiveObjectCount, TreeMap.get_erase]
    by_cases h : guid = p <;> simp [h]

theorem count_of_not_active (h : s.active (.pool, p) = false) : s.GetActiveObjectCount p = 0 := by
  have hp : p ∉ s.mSpawnedPools := fun hp ↦ by
    simp [active_pool.mpr hp] at h
  simp [GetActiveObjectCount, ExtTreeMap.getElem?_eq_none hp]

end ActivePoolData

namespace PoolMgr

open ActivePoolData

variable {c : PoolMgr} {s s' s'' : ActivePoolData} {type : PoolObjectType} {guid p q : ℕ}
variable {o : PoolMember}

/-! ## Members -/

/-- The members of a pool. -/
def members (c : PoolMgr) (p : ℕ) : Finset PoolMember :=
  Finset.univ.biUnion fun type ↦ ((c.group type p).objects.map fun obj ↦ (type, obj.guid)).toFinset

@[simp]
theorem mem_members : o ∈ c.members p ↔ ∃ obj ∈ (c.group o.1 p).objects, obj.guid = o.2 := by
  obtain ⟨type, guid⟩ := o
  simp [members]

theorem members_unique (h : o ∈ c.members p) (h' : o ∈ c.members q) : p = q := by
  obtain ⟨obj, hobj, heq⟩ := mem_members.mp h
  obtain ⟨obj', hobj', heq'⟩ := mem_members.mp h'
  have hp := c.search o.1 p obj hobj
  have hq := c.search o.1 q obj' hobj'
  rw [heq] at hp
  rw [heq'] at hq
  exact Option.some_inj.mp (hp.symm.trans hq)

theorem depth_lt_of_mem (h : (.pool, guid) ∈ c.members p) : c.depth guid < c.depth p := by
  obtain ⟨obj, hobj, rfl⟩ := mem_members.mp h
  exact c.depth_lt p obj hobj

/-- The active members of a pool. -/
def activeMembers (c : PoolMgr) (s : ActivePoolData) (p : ℕ) : Finset PoolMember :=
  (c.members p).filter fun o ↦ s.active o

theorem mem_activeMembers : o ∈ c.activeMembers s p ↔ o ∈ c.members p ∧ s.active o = true := Finset.mem_filter

/-- Every pool has as many active members as are counted for it. -/
def Accounted (c : PoolMgr) (s : ActivePoolData) : Prop := ∀ p, s.GetActiveObjectCount p = (c.activeMembers s p).card

/-- A pool keeps to its limit. -/
def Within (c : PoolMgr) (s : ActivePoolData) (p : ℕ) : Prop := (c.activeMembers s p).card ≤ c.MaxLimit p

/-- A pool is active or no member of another pool. -/
def Anchored (c : PoolMgr) (s : ActivePoolData) (p : ℕ) : Prop :=
  s.active (.pool, p) = true ∨ (c.searchMap .pool)[p]? = none

theorem Anchored.active_of_mem (h : c.Anchored s p) (hmem : (.pool, p) ∈ c.members q) : s.active (.pool, p) = true := by
  rcases h with h | h
  · exact h
  · obtain ⟨obj, hobj, heq⟩ := mem_members.mp hmem
    have hsearch := c.search .pool q obj hobj
    simp [heq, h] at hsearch

theorem Accounted.active_pool (hs : c.Accounted s) (h : o ∈ c.activeMembers s p) : s.active (.pool, p) = true := by
  have hcard : 0 < (c.activeMembers s p).card := Finset.card_pos.mpr ⟨o, h⟩
  have hcount := hs p
  by_contra hp
  rw [count_of_not_active (Bool.eq_false_iff.mpr hp)] at hcount
  omega

/-! ## One object -/

/-- An object that becomes active is one more active member of its pool. -/
theorem activeMembers_ActivateObject (hmem : (type, guid) ∈ c.members p) (hanchored : c.Anchored s p)
    (q : ℕ) : c.activeMembers (s.ActivateObject type guid p) q =
      if q = p then insert (type, guid) (c.activeMembers s p) else c.activeMembers s q := by
  have hactive : ∀ o ∈ c.members q, (s.ActivateObject type guid p).active o = true ↔
      o = (type, guid) ∨ s.active o = true := by
    intro o ho
    rw [active_ActivateObject]
    refine or_iff_right_of_imp ?_
    rintro rfl
    exact .inr (hanchored.active_of_mem ho)
  ext o
  rw [mem_activeMembers, and_congr_right (hactive o)]
  by_cases hq : q = p
  · subst hq
    rw [if_pos rfl, Finset.mem_insert, mem_activeMembers, and_or_left]
    refine or_congr_left (and_iff_right_of_imp ?_)
    rintro rfl
    exact hmem
  · rw [if_neg hq, mem_activeMembers]
    refine and_congr_right fun ho ↦ or_iff_right ?_
    rintro rfl
    exact hq (members_unique ho hmem)

theorem Accounted.ActivateObject (hs : c.Accounted s) (hmem : (type, guid) ∈ c.members p)
    (hidle : s.active (type, guid) = false) (hanchored : c.Anchored s p) :
    c.Accounted (s.ActivateObject type guid p) := by
  intro q
  have hnot : (type, guid) ∉ c.activeMembers s p := fun h ↦ by
    simp [(mem_activeMembers.mp h).2] at hidle
  -- a sub-pool that was not active had no count, and its count starts at zero
  have hmark : ∀ q, (s.mark type guid).GetActiveObjectCount q = s.GetActiveObjectCount q := by
    intro q
    rw [count_mark]
    split
    · next h =>
      obtain ⟨rfl, rfl⟩ := h
      exact (count_of_not_active hidle).symm
    · rfl
  rw [activeMembers_ActivateObject hmem hanchored, ActivePoolData.ActivateObject, count_setCount, hmark, hmark]
  by_cases hq : p = q
  · subst hq
    rw [if_pos rfl, if_pos rfl, Finset.card_insert_of_notMem hnot, hs]
  · rw [if_neg hq, if_neg (Ne.symm hq), hs]

/-- An object that is removed is one active member of its pool less. -/
theorem activeMembers_RemoveObject (hmem : (type, guid) ∈ c.members p) (hactive : s.active (.pool, p) = true) (q : ℕ) :
    c.activeMembers (s.RemoveObject type guid p) q =
      if q = p then (c.activeMembers s p).erase (type, guid) else c.activeMembers s q := by
  have hne : ((.pool, p) : PoolMember) ≠ (type, guid) := fun h ↦ by
    rw [← h] at hmem
    exact absurd (depth_lt_of_mem hmem) (lt_irrefl _)
  have hremove : ∀ o, (s.RemoveObject type guid p).active o = true ↔ o ≠ (type, guid) ∧ s.active o = true := by
    intro o
    rw [RemoveObject, active_setCount, active_unmark]
    refine or_iff_right_of_imp ?_
    rintro rfl
    exact ⟨hne, hactive⟩
  ext o
  rw [mem_activeMembers, hremove]
  by_cases hq : q = p
  · subst hq
    simpa [mem_activeMembers] using and_left_comm
  · rw [if_neg hq, mem_activeMembers]
    refine and_congr_right fun ho ↦ and_iff_right ?_
    rintro rfl
    exact hq (members_unique ho hmem)

theorem Accounted.RemoveObject (hs : c.Accounted s) (hmem : (type, guid) ∈ c.activeMembers s p)
    (hempty : type = .pool → c.activeMembers s guid = ∅) :
    c.Accounted (s.RemoveObject type guid p) := by
  intro q
  have hmark : ∀ q, (s.unmark type guid).GetActiveObjectCount q = s.GetActiveObjectCount q := by
    intro q
    rw [count_unmark]
    split
    · next h =>
      obtain ⟨rfl, rfl⟩ := h
      rw [hs, hempty rfl, Finset.card_empty]
    · rfl
  rw [activeMembers_RemoveObject (mem_activeMembers.mp hmem).1 (hs.active_pool hmem),
    ActivePoolData.RemoveObject, count_setCount, hmark, hmark]
  by_cases hq : p = q
  · subst hq
    rw [if_pos rfl, if_pos rfl, Finset.card_erase_of_mem hmem, hs]
  · rw [if_neg hq, if_neg (Ne.symm hq), hs]

/-! ## Despawning -/

/-- Despawning in a pool touches the active members of this pool and of the pools below it only. -/
structure Shrinks (c : PoolMgr) (p : ℕ) (s s' : ActivePoolData) : Prop where
  accounted : c.Accounted s'
  subset : ∀ q, c.activeMembers s' q ⊆ c.activeMembers s q
  frame : ∀ q, q ≠ p → c.depth p ≤ c.depth q → c.activeMembers s' q = c.activeMembers s q

namespace Shrinks

theorem refl (hs : c.Accounted s) (p : ℕ) : c.Shrinks p s s := ⟨hs, fun _ ↦ Finset.Subset.refl _, fun _ _ _ ↦ rfl⟩

theorem trans (h : c.Shrinks p s s') (h' : c.Shrinks p s' s'') : c.Shrinks p s s'' :=
  ⟨h'.accounted, fun q ↦ (h'.subset q).trans (h.subset q), fun q hq hd ↦ (h'.frame q hq hd).trans (h.frame q hq hd)⟩

theorem of_sub_pool (h : c.Shrinks guid s s') (hmem : (.pool, guid) ∈ c.members p) :
    c.Shrinks p s s' ∧ c.activeMembers s' p = c.activeMembers s p := by
  have hlt := depth_lt_of_mem hmem
  refine ⟨⟨h.accounted, h.subset, fun q hq hd ↦ h.frame q ?_ (by omega)⟩, h.frame p ?_ hlt.le⟩
  · rintro rfl
    omega
  · rintro rfl
    omega

theorem RemoveObject (hs : c.Accounted s) (hmem : (type, guid) ∈ c.activeMembers s p)
    (hempty : type = .pool → c.activeMembers s guid = ∅) :
    c.Shrinks p s (s.RemoveObject type guid p) := by
  have hset := activeMembers_RemoveObject (mem_activeMembers.mp hmem).1 (hs.active_pool hmem)
  refine ⟨hs.RemoveObject hmem hempty, fun q ↦ ?_, fun q hq _ ↦ ?_⟩
  · rw [hset]
    split
    · next h =>
      subst h
      exact Finset.erase_subset ..
    · exact Finset.Subset.refl _
  · rw [hset, if_neg hq]

end Shrinks

/-- What the removal job on a sub-pool has to do. -/
def Despawns (c : PoolMgr) (despawn : ℕ → ActivePoolData → ActivePoolData) (guid : ℕ) : Prop :=
  ∀ s, c.Accounted s → c.Shrinks guid s (despawn guid s) ∧ c.activeMembers (despawn guid s) guid = ∅

section

variable {despawn : ℕ → ActivePoolData → ActivePoolData}
  (hdespawn : ∀ guid, (.pool, guid) ∈ c.members p → c.Despawns despawn guid)
include hdespawn

theorem despawnStep_spec (guid : ℕ) {obj : PoolObject} (hmem : (type, obj.guid) ∈ c.members p) (hs : c.Accounted s) :
    c.Shrinks p s (despawnStep despawn type p guid s obj) ∧
      c.activeMembers (despawnStep despawn type p guid s obj) p = (c.activeMembers s p).filter fun o ↦
          ¬(o = (type, obj.guid) ∧ (guid = 0 ∨ obj.guid = guid)) := by
  rw [despawnStep]
  split
  · next h =>
    have hactive : (type, obj.guid) ∈ c.activeMembers s p := mem_activeMembers.mpr ⟨hmem, h.1⟩
    -- the removal job leaves the pool itself as it was
    have hjob : c.Shrinks p s (if type = .pool then despawn obj.guid s else s) ∧
        c.activeMembers (if type = .pool then despawn obj.guid s else s) p = c.activeMembers s p ∧
        (type = .pool → c.activeMembers (if type = .pool then despawn obj.guid s else s) obj.guid = ∅) := by
      split
      · next htype =>
        subst htype
        obtain ⟨hshrinks, hempty⟩ := hdespawn obj.guid hmem s hs
        obtain ⟨hshrinks, hsame⟩ := hshrinks.of_sub_pool hmem
        exact ⟨hshrinks, hsame, fun _ ↦ hempty⟩
      · next htype => exact ⟨.refl hs p, rfl, fun h ↦ absurd h htype⟩
    obtain ⟨hshrinks, hsame, hempty⟩ := hjob
    rw [← hsame] at hactive
    refine ⟨hshrinks.trans (.RemoveObject hshrinks.accounted hactive hempty), ?_⟩
    rw [activeMembers_RemoveObject hmem (hshrinks.accounted.active_pool hactive), if_pos rfl, hsame]
    ext o
    simp [h.2, and_comm]
  · next h =>
    refine ⟨.refl hs p, (Finset.filter_true_of_mem fun o ho ↦ ?_).symm⟩
    rintro ⟨rfl, hguid⟩
    exact h ⟨(mem_activeMembers.mp ho).2, hguid⟩

/-- `DespawnObject` goes through the objects of a group: those it has come to and that it is meant for
are no longer active. -/
theorem foldl_despawnStep (guid : ℕ)
    (l : List PoolObject) (hl : ∀ obj ∈ l, (type, obj.guid) ∈ c.members p) (hs : c.Accounted s) :
    c.Shrinks p s (l.foldl (despawnStep despawn type p guid) s) ∧
      c.activeMembers (l.foldl (despawnStep despawn type p guid) s) p = (c.activeMembers s p).filter fun o ↦
          ∀ obj ∈ l, ¬(o = (type, obj.guid) ∧ (guid = 0 ∨ obj.guid = guid)) := by
  induction l generalizing s with
  | nil => simp [Shrinks.refl hs]
  | cons obj l ih =>
    obtain ⟨hstep, hset⟩ := despawnStep_spec hdespawn guid (hl obj List.mem_cons_self) hs
    obtain ⟨hrest, hset'⟩ := ih (fun obj hobj ↦ hl obj (List.mem_cons_of_mem _ hobj)) hstep.accounted
    refine ⟨hstep.trans hrest, ?_⟩
    rw [List.foldl_cons, hset', hset, Finset.filter_filter]
    refine Finset.filter_congr fun o _ ↦ ?_
    simp

/-- `DespawnObject` takes away the active members of one type that it is meant for. -/
theorem DespawnObject_spec (type : PoolObjectType) (guid : ℕ) (hs : c.Accounted s) :
    c.Shrinks p s (c.DespawnObject despawn type p guid s) ∧ c.activeMembers (c.DespawnObject despawn type p guid s) p =
        (c.activeMembers s p).filter fun o ↦ ¬(o.1 = type ∧ (guid = 0 ∨ o.2 = guid)) := by
  have hobjects : ∀ obj ∈ (c.group type p).objects, (type, obj.guid) ∈ c.members p :=
    fun obj hobj ↦ mem_members.mpr ⟨obj, hobj, rfl⟩
  obtain ⟨hshrinks, hset⟩ := foldl_despawnStep hdespawn guid _ hobjects hs
  refine ⟨hshrinks, hset.trans (Finset.filter_congr fun o ho ↦ ?_)⟩
  obtain ⟨obj, hobj, heq⟩ := mem_members.mp (mem_activeMembers.mp ho).1
  constructor
  · rintro h ⟨rfl, hguid⟩
    exact h obj hobj ⟨by rw [heq], by rwa [heq]⟩
  · rintro h obj' - ⟨rfl, hguid⟩
    exact h ⟨rfl, hguid⟩

end

theorem despawnPoolAux_spec (fuel p : ℕ) (hfuel : c.depth p < fuel) : c.Despawns (c.despawnPoolAux fuel) p := by
  induction fuel generalizing p with
  | zero => omega
  | succ fuel ih =>
    intro s hs
    have hdespawn : ∀ guid, (.pool, guid) ∈ c.members p → c.Despawns (c.despawnPoolAux fuel) guid := by
      intro guid hmem
      have hlt := depth_lt_of_mem hmem
      exact ih guid (by omega)
    obtain ⟨h₁, hset₁⟩ := DespawnObject_spec hdespawn .creature 0 hs
    obtain ⟨h₂, hset₂⟩ := DespawnObject_spec hdespawn .gameobject 0 h₁.accounted
    obtain ⟨h₃, hset₃⟩ := DespawnObject_spec hdespawn .pool 0 h₂.accounted
    rw [despawnPoolAux]
    refine ⟨(h₁.trans h₂).trans h₃, ?_⟩
    rw [hset₃, hset₂, hset₁, Finset.filter_filter, Finset.filter_filter, Finset.filter_eq_empty_iff]
    rintro ⟨type, guid⟩ -
    cases type <;> simp

theorem DespawnPool_spec (c : PoolMgr) (p : ℕ) : c.Despawns c.DespawnPool p :=
  fun s hs ↦ despawnPoolAux_spec (c.depth p + 1) p (Nat.lt_succ_self _) s hs

theorem DespawnObject_congr {despawn despawn' : ℕ → ActivePoolData → ActivePoolData}
    (h : ∀ obj ∈ (c.group .pool p).objects, despawn obj.guid = despawn' obj.guid)
    (type : PoolObjectType) :
    c.DespawnObject despawn type p guid = c.DespawnObject despawn' type p guid := by
  funext s
  refine List.foldl_ext _ _ _ fun s obj hobj ↦ ?_
  rw [despawnStep, despawnStep]
  by_cases htype : type = .pool
  · subst htype
    rw [h obj hobj]
  · simp [htype]

/-- More fuel does not change what a job does that depends on what it does to the sub-pools. -/
theorem fuel_irrelevant {σ : Type} {job : ℕ → ℕ → σ → σ}
    (hjob : ∀ fuel fuel' p, (∀ obj ∈ (c.group .pool p).objects, job fuel obj.guid = job fuel' obj.guid) →
      ∀ s, job (fuel + 1) p s = job (fuel' + 1) p s)
    (fuel fuel' p : ℕ) (h : c.depth p < fuel) (h' : c.depth p < fuel') : job fuel p = job fuel' p := by
  induction fuel generalizing p fuel' with
  | zero => omega
  | succ fuel ih =>
    cases fuel' with
    | zero => omega
    | succ fuel' =>
      refine funext (hjob fuel fuel' p fun obj hobj ↦ ?_)
      have hlt := c.depth_lt p obj hobj
      exact ih fuel' obj.guid (by omega) (by omega)

theorem despawnPoolAux_fuel (fuel fuel' p : ℕ) (h : c.depth p < fuel) (h' : c.depth p < fuel') :
    c.despawnPoolAux fuel p = c.despawnPoolAux fuel' p :=
  fuel_irrelevant (fun _ _ _ hpools _ ↦ by simp [despawnPoolAux, DespawnObject_congr hpools]) fuel fuel' p h h'

theorem DespawnPool_eq (c : PoolMgr) (p : ℕ) (s : ActivePoolData) :
    c.DespawnPool p s = c.DespawnObject c.DespawnPool .pool p 0 (c.DespawnObject c.DespawnPool .gameobject p 0
        (c.DespawnObject c.DespawnPool .creature p 0 s)) := by
  have hpools : ∀ obj ∈ (c.group .pool p).objects,
      c.despawnPoolAux (c.depth p) obj.guid = c.DespawnPool obj.guid := fun obj hobj ↦
    funext fun _ ↦ congrFun (despawnPoolAux_fuel _ _ _ (c.depth_lt p obj hobj) (Nat.lt_succ_self _)) _
  simp [DespawnPool, despawnPoolAux, DespawnObject_congr hpools]

/-! ## Rolling -/

theorem rollOne_mem {roll : ℚ} {trigger : ℕ} {l : List PoolObject} {obj : PoolObject}
    (h : rollOne s type trigger roll l = some obj) : obj ∈ l := by
  induction l generalizing roll with
  | nil => exact absurd h (by simp [rollOne])
  | cons obj' l ih =>
    rw [rollOne] at h
    split at h
    · rw [Option.some_inj.mp h]
      simp
    · exact List.mem_cons_of_mem _ (ih h)

theorem rollExplicitly_spec (dice : Dice) (s : ActivePoolData) (type : PoolObjectType) (trigger : ℕ)
    (l : List PoolObject) (count : ℕ)
    (rolled : List PoolObject) (drawn : ℕ) (hrolled : ∀ obj ∈ rolled, obj ∈ l) :
    (rollExplicitly dice s type trigger l count rolled drawn).1.length ≤ rolled.length + count ∧
      ∀ obj ∈ (rollExplicitly dice s type trigger l count rolled drawn).1, obj ∈ l := by
  induction count generalizing rolled drawn with
  | zero => exact ⟨le_rfl, hrolled⟩
  | succ count ih =>
    rw [rollExplicitly]
    split
    · split
      · next obj hobj =>
        have hmem : ∀ obj' ∈ rolled ++ [obj], obj' ∈ l := by
          intro obj' h
          rcases List.mem_append.mp h with h | h
          · exact hrolled obj' h
          · rw [List.mem_singleton.mp h]
            exact rollOne_mem hobj
        obtain ⟨hlength, hall⟩ := ih _ (drawn + 1) hmem
        rw [List.length_append, List.length_singleton] at hlength
        exact ⟨by omega, hall⟩
      · obtain ⟨hlength, hall⟩ := ih rolled (drawn + 1) hrolled
        exact ⟨by omega, hall⟩
    · exact ⟨Nat.le_add_right .., hrolled⟩

theorem removeActive_sublist (dice : Dice) (s : ActivePoolData) (type : PoolObjectType) (l : List PoolObject)
    (drawn : ℕ) :
    (removeActive dice s type l drawn).1.Sublist l := by
  induction l generalizing drawn with
  | nil => exact List.Sublist.refl _
  | cons obj l ih =>
    rw [removeActive]
    split
    · dsimp only
      split
      · exact (ih _).cons obj
      · exact (ih _).cons_cons obj
    · exact (ih _).cons_cons obj

theorem keepRandom_spec (dice : Dice) (l : List PoolObject) (keep drawn : ℕ) :
    (keepRandom dice l keep drawn).1.Sublist l ∧ (keepRandom dice l keep drawn).1.length ≤ keep := by
  induction l generalizing keep drawn with
  | nil => exact ⟨List.Sublist.refl _, Nat.zero_le _⟩
  | cons obj l ih =>
    rw [keepRandom]
    split
    · next h =>
      obtain ⟨hsub, hlength⟩ := ih (keep - 1) (drawn + 1)
      have hpos : 1 ≤ keep := le_trans (Nat.le_add_right 1 _) h
      refine ⟨hsub.cons_cons obj, ?_⟩
      rw [List.length_cons]
      omega
    · obtain ⟨hsub, hlength⟩ := ih keep (drawn + 1)
      exact ⟨hsub.cons obj, hlength⟩

/-- No more objects are rolled than are wanted, and they all are objects of the group. -/
theorem rollObjects_spec (dice : Dice) (s : ActivePoolData) (type : PoolObjectType) (group : PoolGroup)
    (trigger count drawn : ℕ) :
    (rollObjects dice s type group trigger count drawn).1.length ≤ count ∧
      ∀ obj ∈ (rollObjects dice s type group trigger count drawn).1, obj ∈ group.objects := by
  rw [rollObjects, PoolGroup.objects]
  split
  · obtain ⟨hlength, hall⟩ := rollExplicitly_spec dice s type trigger group.ExplicitlyChanced count []
      drawn (by simp)
    rw [List.length_nil, Nat.zero_add] at hlength
    exact ⟨hlength, fun obj hobj ↦ List.mem_append_right _ (hall obj hobj)⟩
  · have hsub := removeActive_sublist dice s type group.EqualChanced drawn
    dsimp only
    rw [RandomResize]
    split
    · next h => exact ⟨h, fun obj hobj ↦ List.mem_append_left _ (hsub.subset hobj)⟩
    · obtain ⟨hsub', hlength⟩ := keepRandom_spec dice
        (removeActive dice s type group.EqualChanced drawn).1 count
        (removeActive dice s type group.EqualChanced drawn).2
      exact ⟨hlength, fun obj hobj ↦ List.mem_append_left _ (hsub.subset (hsub'.subset hobj))⟩

/-! ## Spawning -/

/-- Spawning in a pool touches the active members of this pool and of the pools below it only, and the
pools below it keep to their limits. -/
structure Grows (c : PoolMgr) (p : ℕ) (s s' : ActivePoolData) : Prop where
  accounted : c.Accounted s'
  mono : ∀ o, s.active o = true → s'.active o = true
  frame : ∀ q, q ≠ p → c.depth p ≤ c.depth q → c.activeMembers s' q = c.activeMembers s q
  within : ∀ q, q ≠ p → c.Within s q → c.Within s' q

namespace Grows

theorem refl (hs : c.Accounted s) (p : ℕ) : c.Grows p s s := ⟨hs, fun _ ↦ id, fun _ _ _ ↦ rfl, fun _ _ ↦ id⟩

theorem trans (h : c.Grows p s s') (h' : c.Grows p s' s'') : c.Grows p s s'' :=
  ⟨h'.accounted, fun o ho ↦ h'.mono o (h.mono o ho), fun q hq hd ↦ (h'.frame q hq hd).trans (h.frame q hq hd),
    fun q hq hw ↦ h'.within q hq (h.within q hq hw)⟩

theorem of_sub_pool (h : c.Grows guid s s') (hwithin : c.Within s guid → c.Within s' guid)
    (hmem : (.pool, guid) ∈ c.members p) :
    c.Grows p s s' ∧ c.activeMembers s' p = c.activeMembers s p := by
  have hlt := depth_lt_of_mem hmem
  have hne : p ≠ guid := by
    rintro rfl
    omega
  have hsame := h.frame p hne hlt.le
  refine ⟨⟨h.accounted, h.mono, fun q hq hd ↦ h.frame q ?_ (by omega), fun q _ hw ↦ ?_⟩, hsame⟩
  · rintro rfl
    omega
  · by_cases hq : q = guid
    · subst hq
      exact hwithin hw
    · exact h.within q hq hw

theorem anchored (h : c.Grows p s s') (hp : c.Anchored s q) : c.Anchored s' q := hp.imp_left (h.mono _)

theorem ActivateObject (hs : c.Accounted s) (hmem : (type, guid) ∈ c.members p)
    (hidle : s.active (type, guid) = false) (hanchored : c.Anchored s p) :
    c.Grows p s (s.ActivateObject type guid p) := by
  have hset := activeMembers_ActivateObject (s := s) hmem hanchored
  refine ⟨hs.ActivateObject hmem hidle hanchored, fun o ho ↦ ?_, fun q hq _ ↦ ?_, fun q hq hw ↦ ?_⟩
  · exact active_ActivateObject.mpr (.inr (.inr ho))
  · rw [hset, if_neg hq]
  · rw [Within, hset, if_neg hq]
    exact hw

end Grows

/-- What the spawning job on a sub-pool has to do. -/
def Spawns (c : PoolMgr) (spawn : ℕ → SpawnState → SpawnState) (guid : ℕ) : Prop :=
  ∀ s : SpawnState, c.Accounted s.spawns → c.Anchored s.spawns guid → c.Grows guid s.spawns (spawn guid s).spawns ∧
      (c.Within s.spawns guid → c.Within (spawn guid s).spawns guid)

/-- A rolled object is spawned: with its members, if it is a pool. -/
theorem spawnOne_spec {spawn : ℕ → SpawnState → SpawnState} {s : SpawnState}
    (hspawn : ∀ guid, (.pool, guid) ∈ c.members p → c.Spawns spawn guid)
    (hmem : (type, guid) ∈ c.members p) (hs : c.Accounted s.spawns)
    (hidle : s.spawns.active (type, guid) = false) (hanchored : c.Anchored s.spawns p) :
    let s₁ : SpawnState := { s with spawns := s.spawns.ActivateObject type guid p }
    c.Grows p s.spawns (if type = .pool then spawn guid s₁ else s₁).spawns ∧
      c.activeMembers (if type = .pool then spawn guid s₁ else s₁).spawns p =
        insert (type, guid) (c.activeMembers s.spawns p) := by
  intro s₁
  have hactivate := Grows.ActivateObject hs hmem hidle hanchored
  have hset : c.activeMembers s₁.spawns p = insert (type, guid) (c.activeMembers s.spawns p) := by
    rw [activeMembers_ActivateObject hmem hanchored, if_pos rfl]
  split
  · next htype =>
    subst htype
    -- the sub-pool has just become active, so it has no active members yet
    have hne : guid ≠ p := fun h ↦ absurd (depth_lt_of_mem (h ▸ hmem)) (lt_irrefl _)
    have hempty : c.Within s₁.spawns guid := by
      rw [Within, activeMembers_ActivateObject hmem hanchored, if_neg hne, ← hs, count_of_not_active hidle]
      exact Nat.zero_le _
    have hactive : c.Anchored s₁.spawns guid := .inl (active_ActivateObject.mpr (.inr (.inl rfl)))
    obtain ⟨hgrows, hwithin⟩ := hspawn guid hmem s₁ hactivate.accounted hactive
    obtain ⟨hgrows, hsame⟩ := hgrows.of_sub_pool hwithin hmem
    exact ⟨hactivate.trans hgrows, hsame.trans hset⟩
  · exact ⟨hactivate, hset⟩

/-- What `spawnRolled` does to the active members of the pool.  It activates at most the rolled objects,
one less when it comes upon the trigger, and the trigger itself only after that. -/
structure SpawnsRolled (c : PoolMgr) (type : PoolObjectType) (p : ℕ) (rolled : List PoolObject)
    (trigger : ℕ) (s s' : ActivePoolData) (trigger' : ℕ) : Prop where
  grows : c.Grows p s s'
  card : (c.activeMembers s' p).card + (if trigger' = trigger then 0 else 1) ≤
    (c.activeMembers s p).card + rolled.length
  rolled : ∀ o ∈ c.activeMembers s' p, o ∈ c.activeMembers s p ∨ o.1 = type
  left : trigger' = trigger ∨ trigger' = 0
  idle : trigger' = trigger → (type, trigger) ∈ c.activeMembers s' p → (type, trigger) ∈ c.activeMembers s p
  skips : (type, trigger) ∈ c.activeMembers s p → trigger' = trigger

theorem spawnRolled_spec {spawn : ℕ → SpawnState → SpawnState}
    (hspawn : ∀ guid, (.pool, guid) ∈ c.members p → c.Spawns spawn guid) (l : List PoolObject)
    (hl : ∀ obj ∈ l, (type, obj.guid) ∈ c.members p) (trigger : ℕ) {s : SpawnState}
    (hs : c.Accounted s.spawns) (hanchored : c.Anchored s.spawns p) :
    c.SpawnsRolled type p l trigger s.spawns (spawnRolled spawn type p l trigger s).1.spawns
      (spawnRolled spawn type p l trigger s).2 := by
  induction l generalizing s trigger with
  | nil =>
    exact ⟨.refl hs p, by simp [spawnRolled], fun _ ↦ .inl, .inl rfl, fun _ ↦ id, fun _ ↦ rfl⟩
  | cons obj l ih =>
    have hmem := hl obj List.mem_cons_self
    have hrest := fun obj hobj ↦ hl obj (List.mem_cons_of_mem _ hobj)
    rw [spawnRolled]
    split
    · -- already active
      have h := ih hrest trigger hs hanchored
      refine ⟨h.grows, ?_, h.rolled, h.left, h.idle, h.skips⟩
      have hcard := h.card
      rw [List.length_cons]
      omega
    · next hidle =>
      have hidle : s.spawns.active (type, obj.guid) = false := Bool.eq_false_iff.mpr hidle
      split
      · next htrigger =>
        -- the trigger is spawned again, that is, left as it is
        subst htrigger
        have h := ih hrest 0 hs hanchored
        have hzero := h.left.elim id id
        have hcard := h.card
        rw [if_pos hzero] at hcard
        refine ⟨h.grows, ?_, h.rolled, .inr hzero, fun heq ↦ ?_, fun hactive ↦ ?_⟩
        · rw [List.length_cons]
          split <;> omega
        · rw [hzero] at heq
          rw [← heq]
          exact h.idle hzero
        · simp [(mem_activeMembers.mp hactive).2] at hidle
      · next htrigger =>
        obtain ⟨hgrows, hset⟩ := spawnOne_spec hspawn hmem hs hidle hanchored
        dsimp only at hgrows hset ⊢
        have h := ih hrest trigger hgrows.accounted (hgrows.anchored hanchored)
        refine ⟨hgrows.trans h.grows, ?_, fun o ho ↦ ?_, h.left, fun heq ho ↦ ?_, fun ho ↦ ?_⟩
        · have hcard := h.card
          have hinsert := Finset.card_insert_le (type, obj.guid) (c.activeMembers s.spawns p)
          rw [hset] at hcard
          rw [List.length_cons]
          omega
        · rcases h.rolled o ho with hold | htype
          · rw [hset, Finset.mem_insert] at hold
            rcases hold with rfl | hold
            · exact .inr rfl
            · exact .inl hold
          · exact .inr htype
        · have hold := h.idle heq ho
          rw [hset, Finset.mem_insert] at hold
          refine hold.resolve_left fun hc ↦ htrigger ?_
          exact (Prod.mk.inj hc).2.symm
        · refine h.skips ?_
          rw [hset]
          exact Finset.mem_insert_of_mem ho

/-- No more is spawned than the limit allows, and one object for the trigger. -/
theorem spawnCount_le (hs : c.Accounted s) (hwithin : c.Within s p) (trigger : ℕ) :
    (c.activeMembers s p).card + (c.spawnCount s p trigger).toNat ≤ c.MaxLimit p + if trigger = 0 then 0 else 1 := by
  have hle : (c.activeMembers s p).card ≤ c.MaxLimit p := hwithin
  have hbmod : ∀ x : ℤ, 0 ≤ x → x.bmod (2 ^ 32) ≤ x := by
    intro x hx
    rw [Int.bmod_def]
    split <;> omega
  rw [spawnCount, hs]
  by_cases htrigger : trigger = 0
  · rw [if_neg (not_not.mpr htrigger), if_pos htrigger]
    have h := hbmod ((c.MaxLimit p : ℤ) - (c.activeMembers s p).card + 0) (by omega)
    omega
  · rw [if_pos htrigger, if_neg htrigger]
    have h := hbmod ((c.MaxLimit p : ℤ) - (c.activeMembers s p).card + 1) (by omega)
    omega

section

variable {spawn : ℕ → SpawnState → SpawnState}
  (hspawn : ∀ guid, (.pool, guid) ∈ c.members p → c.Spawns spawn guid) (dice : Dice) (type : PoolObjectType)
include hspawn

theorem SpawnObject_spawns (trigger : ℕ) {s : SpawnState} (hs : c.Accounted s.spawns)
    (hanchored : c.Anchored s.spawns p) :
    ∃ (rolled : List PoolObject) (t : SpawnState) (trigger' : ℕ),
      rolled.length ≤ (c.spawnCount s.spawns p trigger).toNat ∧
      c.SpawnsRolled type p rolled trigger s.spawns t.spawns trigger' ∧
      (c.SpawnObject dice spawn type p trigger s).spawns =
        if trigger' ≠ 0 then c.DespawnObject c.DespawnPool type p trigger' t.spawns
        else t.spawns := by
  rw [SpawnObject]
  dsimp only
  split
  · obtain ⟨hlength, hall⟩ := rollObjects_spec dice s.spawns type (c.group type p) trigger
      (c.spawnCount s.spawns p trigger).toNat s.drawn
    generalize rollObjects dice s.spawns type (c.group type p) trigger
      (c.spawnCount s.spawns p trigger).toNat s.drawn = r at hlength hall
    have hl : ∀ obj ∈ r.1, (type, obj.guid) ∈ c.members p := fun obj hobj ↦ mem_members.mpr ⟨obj, hall obj hobj, rfl⟩
    have h := spawnRolled_spec (s := { s with drawn := r.2 }) hspawn r.1 hl trigger hs hanchored
    refine ⟨r.1, _, _, hlength, h, ?_⟩
    split <;> rfl
  · refine ⟨[], s, trigger, Nat.zero_le _, ?_, ?_⟩
    · exact ⟨.refl hs p, by simp, fun _ ↦ .inl, .inl rfl, fun _ ↦ id, fun _ ↦ rfl⟩
    · split <;> rfl

theorem spawnGroup_spec {s : SpawnState} (hs : c.Accounted s.spawns) (hanchored : c.Anchored s.spawns p) :
    c.Grows p s.spawns (c.spawnGroup dice spawn type p 0 s).spawns ∧
      (c.Within s.spawns p → c.Within (c.spawnGroup dice spawn type p 0 s).spawns p) := by
  rw [spawnGroup]
  split
  · obtain ⟨rolled, t, trigger, hlength, h, heq⟩ := SpawnObject_spawns hspawn dice type 0 hs hanchored
    rw [if_neg (not_not.mpr (h.left.elim id id))] at heq
    rw [heq]
    refine ⟨h.grows, fun hwithin ↦ ?_⟩
    have hcount := spawnCount_le hs hwithin 0
    have hcard := h.card
    rw [if_pos rfl] at hcount
    rw [Within]
    omega
  · exact ⟨.refl hs p, id⟩

end

theorem spawnPoolAux_spec (dice : Dice) (fuel p : ℕ) (hfuel : c.depth p < fuel) :
    c.Spawns (c.spawnPoolAux dice fuel) p := by
  induction fuel generalizing p with
  | zero => omega
  | succ fuel ih =>
    intro s hs hanchored
    have hspawn : ∀ guid, (.pool, guid) ∈ c.members p → c.Spawns (c.spawnPoolAux dice fuel) guid := by
      intro guid hmem
      have hlt := depth_lt_of_mem hmem
      exact ih guid (by omega)
    obtain ⟨h₁, hw₁⟩ := spawnGroup_spec hspawn dice .pool hs hanchored
    have hanchored₁ := h₁.anchored hanchored
    obtain ⟨h₂, hw₂⟩ := spawnGroup_spec hspawn dice .gameobject h₁.accounted hanchored₁
    have hanchored₂ := h₂.anchored hanchored₁
    obtain ⟨h₃, hw₃⟩ := spawnGroup_spec hspawn dice .creature h₂.accounted hanchored₂
    exact ⟨(h₁.trans h₂).trans h₃, fun hw ↦ hw₃ (hw₂ (hw₁ hw))⟩

theorem SpawnPool_spec (c : PoolMgr) (dice : Dice) (p : ℕ) : c.Spawns (c.SpawnPool dice) p :=
  fun s hs hanchored ↦ spawnPoolAux_spec dice (c.depth p + 1) p (Nat.lt_succ_self _) s hs hanchored

/-! ### The equations of the source -/

theorem spawnRolled_congr {spawn spawn' : ℕ → SpawnState → SpawnState} (l : List PoolObject)
    (h : type = .pool → ∀ obj ∈ l, spawn obj.guid = spawn' obj.guid) (trigger : ℕ) (s : SpawnState) :
    spawnRolled spawn type p l trigger s = spawnRolled spawn' type p l trigger s := by
  induction l generalizing trigger s with
  | nil => rfl
  | cons obj l ih =>
    have hrest := ih fun htype obj hobj ↦ h htype obj (List.mem_cons_of_mem _ hobj)
    rw [spawnRolled, spawnRolled]
    split
    · exact hrest ..
    · split
      · exact hrest ..
      · dsimp only
        by_cases htype : type = .pool
        · rw [if_pos htype, if_pos htype, h htype obj List.mem_cons_self, hrest]
        · simp [htype, hrest]

theorem spawnGroup_congr {spawn spawn' : ℕ → SpawnState → SpawnState}
    (h : ∀ obj ∈ (c.group .pool p).objects, spawn obj.guid = spawn' obj.guid) (dice : Dice)
    (type : PoolObjectType) (trigger : ℕ) (s : SpawnState) :
    c.spawnGroup dice spawn type p trigger s = c.spawnGroup dice spawn' type p trigger s := by
  have hrolled : ∀ count drawn t, spawnRolled spawn type p
      (rollObjects dice s.spawns type (c.group type p) trigger count drawn).1 trigger t = spawnRolled spawn' type p
          (rollObjects dice s.spawns type (c.group type p) trigger count drawn).1 trigger t := by
    intro count drawn t
    refine spawnRolled_congr _ ?_ trigger t
    rintro rfl obj hobj
    exact h obj ((rollObjects_spec ..).2 obj hobj)
  simp [spawnGroup, SpawnObject, hrolled]

theorem spawnPoolAux_fuel (dice : Dice) (fuel fuel' p : ℕ) (h : c.depth p < fuel)
    (h' : c.depth p < fuel') : c.spawnPoolAux dice fuel p = c.spawnPoolAux dice fuel' p :=
  fuel_irrelevant (fun _ _ _ hpools _ ↦ by simp [spawnPoolAux, spawnGroup_congr hpools]) fuel fuel' p h h'

theorem SpawnPool_eq (c : PoolMgr) (dice : Dice) (p : ℕ) (s : SpawnState) :
    c.SpawnPool dice p s = c.spawnGroup dice (c.SpawnPool dice) .creature p 0
      (c.spawnGroup dice (c.SpawnPool dice) .gameobject p 0 (c.spawnGroup dice (c.SpawnPool dice) .pool p 0 s)) := by
  have hpools : ∀ obj ∈ (c.group .pool p).objects,
      c.spawnPoolAux dice (c.depth p) obj.guid = c.SpawnPool dice obj.guid := fun obj hobj ↦
    funext fun _ ↦ congrFun
      (spawnPoolAux_fuel dice _ _ _ (c.depth_lt p obj hobj) (Nat.lt_succ_self _)) _
  simp [SpawnPool, spawnPoolAux, spawnGroup_congr hpools]

/-! ## Runs -/

/-- The books are kept and no pool exceeds its limit. -/
structure Sound (c : PoolMgr) (s : ActivePoolData) : Prop where
  accounted : c.Accounted s
  within : ∀ p, c.Within s p

theorem Shrinks.sound (h : c.Shrinks p s s') (hs : c.Sound s) : c.Sound s' :=
  ⟨h.accounted, fun q ↦ (Finset.card_le_card (h.subset q)).trans (hs.within q)⟩

theorem Grows.sound (h : c.Grows p s s') (hs : c.Sound s) (hp : c.Within s' p) : c.Sound s' := by
  refine ⟨h.accounted, fun q ↦ ?_⟩
  by_cases hq : q = p
  · exact hq ▸ hp
  · exact h.within q hq (hs.within q)

/-- The members of one type that spawning could activate in place of a trigger. -/
def idleMembers (c : PoolMgr) (s : ActivePoolData) (type : PoolObjectType) (p trigger : ℕ) :
    Finset PoolMember :=
  (c.members p).filter fun o ↦ o.1 = type ∧ o.2 ≠ trigger ∧ s.active o = false

/-- A group may be spawned with a trigger.  Either nothing is spawned, as the group has no objects or
the pool is full; or the trigger is an active member, as the code takes it to be; or the pool may be
active, and there is no trigger or room for all that could be spawned. -/
def MayTrigger (c : PoolMgr) (s : ActivePoolData) (type : PoolObjectType) (p trigger : ℕ) : Prop :=
  (c.group type p).isEmpty = true ∨ c.spawnCount s p trigger ≤ 0 ∨
    (type, trigger) ∈ c.activeMembers s p ∨ c.Anchored s p ∧ (trigger = 0 ∨
        (c.activeMembers s p).card + (c.idleMembers s type p trigger).card ≤ c.MaxLimit p)

/-- A pool that is spawned is active or no member of another pool, unless there is nothing to spawn. -/
def Admitted (c : PoolMgr) (s : ActivePoolData) : Call → Prop
  | .SpawnPool _ p =>
    c.Anchored s p ∨ ∀ type, (c.group type p).isEmpty = true ∨ c.spawnCount s p 0 ≤ 0
  | .DespawnPool _ => True
  | .UpdatePool _ type p guid =>
    let (type, p, trigger) := c.updateTarget type p guid
    c.MayTrigger s type p trigger

theorem SpawnObject_of_nonpos {spawn : ℕ → SpawnState → SpawnState} {trigger : ℕ} {s : SpawnState}
    (h : c.spawnCount s.spawns p trigger ≤ 0) (dice : Dice) :
    (c.SpawnObject dice spawn type p trigger s).spawns =
      if trigger ≠ 0 then c.DespawnObject c.DespawnPool type p trigger s.spawns else s.spawns := by
  rw [SpawnObject]
  dsimp only
  rw [if_neg (not_lt.mpr h)]
  split <;> rfl

theorem Sound.SpawnObject {s : SpawnState} (hs : c.Sound s.spawns) (hanchored : c.Anchored s.spawns p)
    {trigger : ℕ} (htrigger : trigger = 0 ∨ (type, trigger) ∈ c.activeMembers s.spawns p ∨
      (c.activeMembers s.spawns p).card + (c.idleMembers s.spawns type p trigger).card ≤ c.MaxLimit p)
    (dice : Dice) : c.Sound (c.SpawnObject dice (c.SpawnPool dice) type p trigger s).spawns := by
  obtain ⟨rolled, t, trigger', hlength, h, heq⟩ := SpawnObject_spawns
    (fun guid _ ↦ c.SpawnPool_spec dice guid) dice type trigger hs.accounted hanchored
  have hcount := spawnCount_le hs.accounted (hs.within p) trigger
  have hcard := h.card
  rw [heq]
  by_cases hleft : trigger' = 0
  · -- the trigger has been respawned, or there is none
    rw [if_neg (not_not.mpr hleft)]
    refine h.grows.sound hs ?_
    rw [Within]
    by_cases hzero : trigger = 0
    · rw [if_pos hzero] at hcount
      omega
    · rw [if_neg hzero] at hcount
      rw [if_neg (by omega)] at hcard
      omega
  · -- the trigger makes room for the objects that have been spawned
    have htrigger' : trigger' = trigger := h.left.resolve_right hleft
    subst htrigger'
    rw [if_pos hleft]
    obtain ⟨hshrinks, hset⟩ := DespawnObject_spec (fun guid _ ↦ c.DespawnPool_spec guid) type trigger'
      h.grows.accounted
    refine ⟨hshrinks.accounted, fun q ↦ ?_⟩
    by_cases hq : q = p
    · subst hq
      rcases htrigger with hzero | hactive | hroom
      · exact absurd hzero hleft
      · have hstill : (type, trigger') ∈ c.activeMembers t.spawns q :=
          mem_activeMembers.mpr ((mem_activeMembers.mp hactive).imp_right (h.grows.mono _))
        have hless := Finset.card_lt_card (Finset.filter_ssubset
          (p := fun o : PoolMember ↦ ¬(o.1 = type ∧ (trigger' = 0 ∨ o.2 = trigger'))).mpr
            ⟨_, hstill, by simp⟩)
        rw [if_neg hleft] at hcount
        rw [Within, hset]
        omega
      · have hsub : c.activeMembers t.spawns q ⊆
            c.activeMembers s.spawns q ∪ c.idleMembers s.spawns type q trigger' := by
          intro o ho
          rw [Finset.mem_union]
          rcases h.rolled o ho with hold | htype
          · exact .inl hold
          · by_cases hold : o ∈ c.activeMembers s.spawns q
            · exact .inl hold
            · have hmem := (mem_activeMembers.mp ho).1
              refine .inr (Finset.mem_filter.mpr ⟨hmem, htype, ?_, ?_⟩)
              · rintro rfl
                subst htype
                exact hold (h.idle rfl ho)
              · exact Bool.eq_false_iff.mpr fun hc ↦ hold (mem_activeMembers.mpr ⟨hmem, hc⟩)
        have hle := (Finset.card_le_card hsub).trans (Finset.card_union_le _ _)
        have hshrink := Finset.card_le_card (hshrinks.subset q)
        rw [Within]
        omega
    · exact (Finset.card_le_card (hshrinks.subset q)).trans (h.grows.within q hq (hs.within q))

theorem Sound.spawnGroup {s : SpawnState} (hs : c.Sound s.spawns) {trigger : ℕ}
    (h : c.MayTrigger s.spawns type p trigger) (dice : Dice) :
    c.Sound (c.spawnGroup dice (c.SpawnPool dice) type p trigger s).spawns := by
  rw [PoolMgr.spawnGroup]
  split
  · next hempty =>
    rcases h with h | h | h | ⟨hanchored, h⟩
    · simp [h] at hempty
    · rw [SpawnObject_of_nonpos h]
      split
      · exact (DespawnObject_spec (fun guid _ ↦ c.DespawnPool_spec guid) type trigger
          hs.accounted).1.sound hs
      · exact hs
    · exact hs.SpawnObject (.inl (hs.accounted.active_pool h)) (.inr (.inl h)) dice
    · exact hs.SpawnObject hanchored (h.imp_right .inr) dice
  · exact hs

theorem Sound.next (hs : c.Sound s) {call : Call} (h : c.Admitted s call)
    (hn : c.next s call = some s') : c.Sound s' := by
  cases call with
  | SpawnPool dice p =>
    rw [← Option.some_inj.mp hn]
    rcases h with hanchored | hnothing
    · obtain ⟨hgrows, hwithin⟩ := c.SpawnPool_spec dice p ⟨s, 0⟩ hs.accounted hanchored
      exact hgrows.sound hs (hwithin (hs.within p))
    · have hgroup : ∀ type (t : SpawnState), t.spawns = s →
          (c.spawnGroup dice (c.SpawnPool dice) type p 0 t).spawns = s := by
        rintro type t rfl
        rw [PoolMgr.spawnGroup]
        split
        · next hempty =>
          have hcount := (hnothing type).resolve_left (by simpa using hempty)
          simp [SpawnObject_of_nonpos hcount]
        · rfl
      have heq : (c.SpawnPool dice p ⟨s, 0⟩).spawns = s := by
        rw [SpawnPool_eq]
        exact hgroup _ _ (hgroup _ _ (hgroup _ _ rfl))
      rw [heq]
      exact hs
  | DespawnPool p =>
    rw [← Option.some_inj.mp hn]
    exact (c.DespawnPool_spec p s hs.accounted).1.sound hs
  | UpdatePool dice type p guid =>
    rw [← Option.some_inj.mp hn, PoolMgr.UpdatePool]
    rw [Admitted] at h
    generalize c.updateTarget type p guid = target at h ⊢
    obtain ⟨type', p', trigger⟩ := target
    exact Sound.spawnGroup (s := ⟨s, 0⟩) hs h dice

/-- What the count of an active pool is taken to be: the number of its active members, and never more
than its limit. -/
def Booked (c : PoolMgr) (s : ActivePoolData) : Prop :=
  ∀ (p n : ℕ), s.mSpawnedPools[p]? = some n → n = (c.activeMembers s p).card ∧ n ≤ c.MaxLimit p

theorem Sound.booked (hs : c.Sound s) : c.Booked s := by
  intro p n hn
  have hcount : n = (c.activeMembers s p).card := by
    rw [← hs.accounted, GetActiveObjectCount, hn, Option.getD_some]
  exact ⟨hcount, hcount ▸ hs.within p⟩

theorem Sound.empty (c : PoolMgr) : c.Sound .empty := by
  have hnone : ∀ p, c.activeMembers .empty p = ∅ := by
    intro p
    refine Finset.filter_eq_empty_iff.mpr fun o _ ↦ ?_
    obtain ⟨type, guid⟩ := o
    cases type <;> simp [ActivePoolData.empty]
  refine ⟨fun p ↦ ?_, fun p ↦ ?_⟩
  · rw [hnone, GetActiveObjectCount, ActivePoolData.empty, ExtTreeMap.getElem?_empty]
    rfl
  · rw [Within, hnone]
    exact Nat.zero_le _

/-- **The books of the spawn pools.**  In every run whose calls are all admitted where they are made, the
count of every active pool is the number of its active members and within its limit. -/
theorem booked_of_reaches (c : PoolMgr) {s : ActivePoolData}
    (h : (poolMachine c).Reaches c.Admitted s) : c.Booked s :=
  (h.invariant (P := c.Sound) (.empty c) fun _ _ _ hs ha hn ↦ hs.next ha hn).booked

/-! ### Two configurations -/

instance (c : PoolMgr) (s : ActivePoolData) (p : ℕ) : Decidable (c.Anchored s p) := inferInstanceAs (Decidable (_ ∨ _))

instance (c : PoolMgr) (s : ActivePoolData) (type : PoolObjectType) (p trigger : ℕ) :
    Decidable (c.MayTrigger s type p trigger) := inferInstanceAs (Decidable (_ ∨ _))

instance (c : PoolMgr) (s : ActivePoolData) : (call : Call) → Decidable (c.Admitted s call)
  | .SpawnPool _ p => inferInstanceAs (Decidable (_ ∨ _))
  | .DespawnPool _ => inferInstanceAs (Decidable True)
  | .UpdatePool _ type p guid =>
    inferInstanceAs (Decidable (c.MayTrigger s (c.updateTarget type p guid).1
      (c.updateTarget type p guid).2.1 (c.updateTarget type p guid).2.2))

/-- Dice for draws that are given one by one. -/
def draws (l : List ℕ) : Dice := ⟨fun _ ↦ 0, fun n ↦ l.getD n 0⟩

/-- A pool of two pools, one with a creature and one with a gameobject. -/
def twoPools : PoolMgr where
  MaxLimit _ := 1
  group
    | .pool, 1 => ⟨[], [⟨2, 0⟩, ⟨3, 0⟩]⟩
    | .creature, 2 => ⟨[], [⟨10, 0⟩]⟩
    | .gameobject, 3 => ⟨[], [⟨20, 0⟩]⟩
    | _, _ => ⟨[], []⟩
  searchMap
    | .pool => .ofList [(2, 1), (3, 1)]
    | .creature => .ofList [(10, 2)]
    | .gameobject => .ofList [(20, 3)]
  search type pool_id obj hobj := by
    revert hobj
    split
    · rintro (_ | ⟨_, _ | ⟨_, ⟨⟩⟩⟩) <;> decide
    · rintro (_ | ⟨_, ⟨⟩⟩)
      decide
    · rintro (_ | ⟨_, ⟨⟩⟩)
      decide
    · rintro ⟨⟩
  depth pool_id := if pool_id = 1 then 1 else 0
  depth_lt pool_id obj hobj := by
    revert hobj
    split
    · rintro (_ | ⟨_, _ | ⟨_, ⟨⟩⟩⟩) <;> decide
    · next h => exact nomatch h
    · next h => exact nomatch h
    · rintro ⟨⟩

/-- The pool is spawned, and the sub-pool it has chosen is replaced by the other one. -/
def replaced : List Call := [.SpawnPool (draws [0]) 1, .UpdatePool (draws [1]) .creature 2 10]

theorem booked_replaced : ∃ s, (poolMachine twoPools).exec twoPools.Admitted .empty replaced = some s ∧
      s.mSpawnedPools.toList = [(1, 1), (3, 1)] ∧ twoPools.Booked s := by
  refine (Machine.exists_exec (poolMachine twoPools) _ _ (·.mSpawnedPools.toList = [(1, 1), (3, 1)])
    (by decide +kernel)).imp fun s ⟨hs, hlist, hreaches⟩ ↦ ⟨hs, hlist, booked_of_reaches twoPools hreaches⟩

/-- A pool of three creatures, one of which is to be active. -/
def threeCreatures : PoolMgr where
  MaxLimit _ := 1
  group
    | .creature, 1 => ⟨[], [⟨11, 0⟩, ⟨12, 0⟩, ⟨13, 0⟩]⟩
    | _, _ => ⟨[], []⟩
  searchMap
    | .creature => .ofList [(11, 1), (12, 1), (13, 1)]
    | _ => ∅
  search type pool_id obj hobj := by
    revert hobj
    split
    · rintro (_ | ⟨_, _ | ⟨_, _ | ⟨_, ⟨⟩⟩⟩⟩) <;> decide
    · rintro ⟨⟩
  depth _ := 0
  depth_lt pool_id obj hobj := nomatch hobj

/-- The first creature is spawned; the second one, which is not active, is reported to respawn. -/
def staleRespawn : List Call := [.SpawnPool (draws [0, 0, 0]) 1, .UpdatePool (draws [1, 1, 0]) .creature 1 12]

/-- The third creature is spawned while the first one stays active. -/
theorem not_booked_staleRespawn :
    ¬∀ s, (poolMachine threeCreatures).Reachable s → threeCreatures.Booked s := by
  intro h
  obtain ⟨s, hs, hcount⟩ := (poolMachine threeCreatures).exists_reachable staleRespawn
    (·.mSpawnedPools[1]? = some 2) (by decide +kernel)
  have hlimit := (h s hs 1 2 hcount).2
  exact absurd hlimit (by decide)

end PoolMgr

end Gundrak
