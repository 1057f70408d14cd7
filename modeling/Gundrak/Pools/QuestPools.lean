import Gundrak.Pools.PoolMgr
import Gundrak.Util.Drawing

/-!
# Pools of quests

A pool of quests has some of its quests active for a day or a week.  When the time is over,
`PoolGroup<Quest>::SpawnObject` is called with a trigger that is not zero: it takes the quests of the pool that are
active away and activates others, at most `limit`; only when there are not enough others does it recycle quests that
were active before.

`QuestPools.Respawned` says what such a call should do.  The quests to recycle are drawn from those that were active in
any pool, so a quest of another pool may be activated in place of one of the pool's own.  `SpawnObject_iff` says that
everything is as it should be exactly if none is drawn.

The random numbers are a `Choice`.  What a quest does to the relations of its quest givers is left out; the quests that
`Spawn1Object` adds to them are listed.
-/

open Std (ExtTreeMap)

namespace Gundrak

/-- What `PoolMgr` has loaded about quests.  A quest has no chance of its own, and its pool is found in the search map. -/
structure QuestPools where
  /-- `mPoolQuestGroups` -/
  group : (pool_id : ℕ) → PoolGroup
  /-- `mQuestSearchMap` -/
  searchMap : ExtTreeMap ℕ ℕ
  equalChanced : ∀ pool_id, (group pool_id).ExplicitlyChanced = []
  search : ∀ pool_id, ∀ obj ∈ (group pool_id).EqualChanced, searchMap[obj.guid]? = some pool_id

/-- The part of `ActivePoolData` that is about quests. -/
structure ActiveQuests where
  mActiveQuests : Finset ℕ
  mSpawnedPools : ExtTreeMap ℕ ℕ

namespace ActiveQuests

variable (spawns : ActiveQuests)

/-- `ActivePoolData::GetActiveObjectCount`. -/
def GetActiveObjectCount (pool_id : ℕ) : ℕ := (spawns.mSpawnedPools[pool_id]?).getD 0

/-- `ActivePoolData::IsActiveObject<Quest>`. -/
def IsActiveObject (quest_id : ℕ) : Bool := decide (quest_id ∈ spawns.mActiveQuests)

/-- `ActivePoolData::ActivateObject<Quest>`. -/
def ActivateObject (quest_id pool_id : ℕ) : ActiveQuests where
  mActiveQuests := insert quest_id spawns.mActiveQuests
  mSpawnedPools := spawns.mSpawnedPools.insert pool_id (spawns.GetActiveObjectCount pool_id + 1)

/-- `ActivePoolData::RemoveObject<Quest>`. -/
def RemoveObject (quest_id pool_id : ℕ) : ActiveQuests where
  mActiveQuests := spawns.mActiveQuests.erase quest_id
  mSpawnedPools := spawns.mSpawnedPools.insert pool_id (spawns.GetActiveObjectCount pool_id - 1)

end ActiveQuests

namespace QuestPools

variable (c : QuestPools) (choice : Choice ℕ) (pool_id : ℕ)

/-! ## Spawning -/

/-- `PoolGroup<Quest>::DespawnObject` for all quests of the pool. -/
def DespawnObject (spawns : ActiveQuests) : ActiveQuests := (c.group pool_id).objects.foldl
    (fun spawns obj ↦ if spawns.IsActiveObject obj.guid then spawns.RemoveObject obj.guid pool_id else spawns) spawns

/-- The quests saved in the database are activated again; a quest and the quests spawned so far are kept together. -/
def loadSaved (limit : UInt32) : (rows : List ℕ) → ActiveQuests × List ℕ → ActiveQuests × List ℕ
  | [], s => s
  | questId :: rows, (spawns, spawned) =>
    let s := (spawns.ActivateObject questId pool_id, spawned ++ [questId])
    if limit - 1 = 0 then s else loadSaved (limit - 1) rows s

/-- The loop that recycles quests, with at most `fuel` turns. -/
def recycle (limit : UInt32) : (fuel : ℕ) → (newQuests currentQuests : Finset ℕ) → (drawn : ℕ) → Finset ℕ × ℕ
  | 0, newQuests, _, drawn => (newQuests, drawn)
  | fuel + 1, newQuests, currentQuests, drawn =>
    let questId := choice.pick drawn currentQuests
    let newQuests := insert questId newQuests
    let currentQuests := currentQuests.erase questId
    if newQuests.card < limit.toNat ∧ currentQuests.card ≠ 0 then
      recycle limit fuel newQuests currentQuests (drawn + 1)
    else (newQuests, drawn + 1)

/-- The loop that activates quests, with at most `fuel` turns. -/
def activate (limit : UInt32) : (fuel : ℕ) → (newQuests : Finset ℕ) → (drawn : ℕ) → ActiveQuests × List ℕ →
    ActiveQuests × List ℕ
  | 0, _, _, s => s
  | fuel + 1, newQuests, drawn, (spawns, spawned) =>
    let questId := choice.pick drawn newQuests
    let s := (spawns.ActivateObject questId pool_id, spawned ++ [questId])
    let newQuests := newQuests.erase questId
    if limit - 1 ≠ 0 ∧ newQuests.card ≠ 0 then activate (limit - 1) fuel newQuests (drawn + 1) s
    else s

/-- `PoolGroup<Quest>::SpawnObject`, with the quests the database has saved for the pool, and with the quests that
`Spawn1Object` is called for.  Each loop takes an element out of a set in every turn, and needs no more turns than
there are elements. -/
def SpawnObject (saved : List ℕ) (limit triggerFrom : UInt32) (spawns : ActiveQuests) : ActiveQuests × List ℕ :=
  if triggerFrom = 0 ∧ saved ≠ [] then loadSaved pool_id limit saved (spawns, [])
  else
    let currentQuests := spawns.mActiveQuests
    let newQuests := (c.group pool_id).EqualChanced.foldl
      (fun newQuests obj ↦ if spawns.IsActiveObject obj.guid then newQuests else insert obj.guid newQuests) ∅
    let spawns := c.DespawnObject pool_id spawns
    let recycled :=
      if newQuests.card < limit.toNat ∧ currentQuests.card ≠ 0 then
        recycle choice limit currentQuests.card newQuests currentQuests 0
      else (newQuests, 0)
    if recycled.1.card = 0 then (spawns, [])
    else activate choice pool_id limit recycled.1.card recycled.1 recycled.2 (spawns, [])

/-! ## What a call should do -/

/-- The quests of a pool. -/
def quests : Finset ℕ := ((c.group pool_id).EqualChanced.map (·.guid)).toFinset

/-- The quests of a pool that are not active. -/
def fresh (spawns : ActiveQuests) : Finset ℕ := c.quests pool_id \ spawns.mActiveQuests

/-- What a call should do to the state `before`: as many quests of the pool as possible are spawned and no others, they
are the active quests of the pool, fresh ones are preferred, and no other pool is concerned. -/
structure Respawned (limit : ℕ) (before : ActiveQuests) (after : ActiveQuests × List ℕ) : Prop where
  nodup : after.2.Nodup
  length : after.2.length = min limit (c.quests pool_id).card
  listed : ∀ q ∈ after.2, q ∈ c.quests pool_id
  active : ∀ q ∈ c.quests pool_id, q ∈ after.1.mActiveQuests ↔ q ∈ after.2
  prefers : (∀ q ∈ after.2, q ∈ c.fresh pool_id before) ∨ ∀ q ∈ c.fresh pool_id before, q ∈ after.2
  others : ∀ other, other ≠ pool_id → ∀ q ∈ c.quests other, q ∈ after.1.mActiveQuests ↔ q ∈ before.mActiveQuests
  counts : ∀ other, other ≠ pool_id → after.1.GetActiveObjectCount other = before.GetActiveObjectCount other

end QuestPools

/-! ## Activating and removing -/

namespace ActiveQuests

variable (spawns : ActiveQuests) (q : ℕ) {pool_id other : ℕ}

@[simp] theorem count_ActivateObject (h : other ≠ pool_id) :
    (spawns.ActivateObject q pool_id).GetActiveObjectCount other = spawns.GetActiveObjectCount other := by
  simp [GetActiveObjectCount, ActivateObject, TreeMap.get_insert, (Ne.symm h)]

@[simp] theorem count_RemoveObject (h : other ≠ pool_id) :
    (spawns.RemoveObject q pool_id).GetActiveObjectCount other = spawns.GetActiveObjectCount other := by
  simp [GetActiveObjectCount, RemoveObject, TreeMap.get_insert, (Ne.symm h)]

end ActiveQuests

namespace QuestPools

variable {c : QuestPools} {choice : Choice ℕ} {pool_id : ℕ}

theorem mem_quests_iff {q : ℕ} : q ∈ c.quests pool_id ↔ ∃ obj ∈ (c.group pool_id).objects, obj.guid = q := by
  simp [quests, PoolGroup.objects, c.equalChanced]

theorem not_mem_quests {q other : ℕ} (hne : other ≠ pool_id) (hq : q ∈ c.quests other) : q ∉ c.quests pool_id := by
  rw [quests, List.mem_toFinset, List.mem_map] at *
  rintro ⟨obj, hobj, hguid⟩
  obtain ⟨obj', hobj', hguid'⟩ := hq
  have hsearch := c.search pool_id obj hobj
  rw [hguid, ← hguid', c.search other obj' hobj', Option.some_inj] at hsearch
  exact hne hsearch

theorem foldl_RemoveObject (objs : List PoolObject) (spawns : ActiveQuests) : (∀ q, q ∈ (objs.foldl (fun spawns obj ↦
        if spawns.IsActiveObject obj.guid then spawns.RemoveObject obj.guid pool_id else spawns) spawns).mActiveQuests ↔
        q ∈ spawns.mActiveQuests ∧ ¬ ∃ obj ∈ objs, obj.guid = q) ∧
      ∀ other, other ≠ pool_id → (objs.foldl (fun spawns obj ↦
        if spawns.IsActiveObject obj.guid then spawns.RemoveObject obj.guid pool_id
        else spawns) spawns).GetActiveObjectCount other = spawns.GetActiveObjectCount other := by
  induction objs generalizing spawns with
  | nil => simp
  | cons obj objs ih =>
    rw [List.foldl_cons]
    obtain ⟨hmem, hcount⟩ := ih
      (if spawns.IsActiveObject obj.guid then spawns.RemoveObject obj.guid pool_id else spawns)
    constructor
    · intro q
      rw [hmem]
      by_cases hactive : spawns.IsActiveObject obj.guid = true
      · rw [if_pos hactive, ActiveQuests.RemoveObject, Finset.mem_erase]
        simp only [List.mem_cons, exists_eq_or_imp, not_or, ne_eq]
        constructor
        · rintro ⟨⟨hne, hq⟩, hrest⟩
          exact ⟨hq, fun h ↦ hne h.symm, hrest⟩
        · rintro ⟨hq, hne, hrest⟩
          exact ⟨⟨fun h ↦ hne h.symm, hq⟩, hrest⟩
      · rw [if_neg hactive]
        have hnot : obj.guid ∉ spawns.mActiveQuests := by
          simpa [ActiveQuests.IsActiveObject] using hactive
        simp only [List.mem_cons, exists_eq_or_imp, not_or]
        constructor
        · rintro ⟨hq, hrest⟩
          exact ⟨hq, fun h ↦ hnot (h ▸ hq), hrest⟩
        · rintro ⟨hq, -, hrest⟩
          exact ⟨hq, hrest⟩
    · intro other hother
      rw [hcount other hother]
      split
      · exact ActiveQuests.count_RemoveObject spawns obj.guid hother
      · rfl

theorem mem_DespawnObject {spawns : ActiveQuests} {q : ℕ} :
    q ∈ (c.DespawnObject pool_id spawns).mActiveQuests ↔ q ∈ spawns.mActiveQuests ∧ q ∉ c.quests pool_id := by
  rw [DespawnObject, (foldl_RemoveObject _ spawns).1, mem_quests_iff]

theorem count_DespawnObject {spawns : ActiveQuests} {other : ℕ} (hother : other ≠ pool_id) :
    (c.DespawnObject pool_id spawns).GetActiveObjectCount other = spawns.GetActiveObjectCount other :=
  (foldl_RemoveObject _ spawns).2 other hother

theorem foldl_fresh (spawns : ActiveQuests) : (c.group pool_id).EqualChanced.foldl
      (fun newQuests obj ↦ if spawns.IsActiveObject obj.guid then newQuests else insert obj.guid newQuests) ∅ =
      c.fresh pool_id spawns := by
  have hloop : ∀ (objs : List PoolObject) (start : Finset ℕ), objs.foldl
      (fun newQuests obj ↦ if spawns.IsActiveObject obj.guid then newQuests else insert obj.guid newQuests) start =
      start ∪ ((objs.map (·.guid)).toFinset \ spawns.mActiveQuests) := by
    intro objs
    induction objs with
    | nil => simp
    | cons obj objs ih =>
      intro start
      rw [List.foldl_cons, ih, List.map_cons, List.toFinset_cons]
      by_cases hactive : obj.guid ∈ spawns.mActiveQuests
      · rw [if_pos (by simpa [ActiveQuests.IsActiveObject] using hactive), Finset.insert_sdiff_of_mem _ hactive]
      · rw [if_neg (by simpa [ActiveQuests.IsActiveObject] using hactive), Finset.insert_sdiff_of_notMem _ hactive,
          Finset.insert_union, Finset.union_insert]
  simp [hloop, fresh, quests]

/-- The loop that recycles draws without replacement, until there are enough quests. -/
theorem recycle_eq {limit : UInt32} {fuel : ℕ} {newQuests currentQuests : Finset ℕ} (drawn : ℕ)
    (hfuel : currentQuests.card ≤ fuel) (hcurrent : currentQuests.card ≠ 0) (hnew : newQuests.card < limit.toNat)
    (hdisj : Disjoint newQuests currentQuests) :
    (recycle choice limit fuel newQuests currentQuests drawn).1 =
      newQuests ∪ (choice.draws (limit.toNat - newQuests.card) currentQuests drawn).toFinset := by
  induction fuel generalizing newQuests currentQuests drawn with
  | zero => exact absurd (Nat.le_zero.mp hfuel) hcurrent
  | succ fuel ih =>
    have hmem : choice.pick drawn currentQuests ∈ currentQuests := Choice.pick_mem_of_card drawn hcurrent
    have hfresh : choice.pick drawn currentQuests ∉ newQuests := fun h ↦ Finset.disjoint_left.mp hdisj h hmem
    have hcard : (currentQuests.erase (choice.pick drawn currentQuests)).card + 1 = currentQuests.card :=
      Choice.card_erase_pick drawn hcurrent
    have hinsert : (insert (choice.pick drawn currentQuests) newQuests).card = newQuests.card + 1 :=
      Finset.card_insert_of_notMem hfresh
    obtain ⟨k, hk⟩ : ∃ k, limit.toNat - newQuests.card = k + 1 :=
      Nat.exists_eq_succ_of_ne_zero (Nat.sub_ne_zero_of_lt hnew)
    have hk' : limit.toNat - (insert (choice.pick drawn currentQuests) newQuests).card = k := by omega
    rw [recycle, hk, Choice.draws, if_neg hcurrent, List.toFinset_cons, Finset.union_insert, ← Finset.insert_union]
    split
    next hmore =>
      rw [ih (drawn + 1) (by omega) hmore.2 hmore.1, hk']
      rw [Finset.disjoint_insert_left]
      exact ⟨Finset.notMem_erase _ _, hdisj.mono_right (Finset.erase_subset _ _)⟩
    next hdone =>
      -- there are enough quests, or none is left to be drawn
      have hnone : choice.draws k (currentQuests.erase (choice.pick drawn currentQuests)) (drawn + 1) = [] := by
        rw [← List.length_eq_zero_iff, Choice.length_draws]
        by_cases hempty : (currentQuests.erase (choice.pick drawn currentQuests)).card = 0
        · simp [hempty]
        · have henough : ¬ (insert (choice.pick drawn currentQuests) newQuests).card < limit.toNat :=
            fun h ↦ hdone ⟨h, hempty⟩
          simp [show k = 0 by omega]
      simp [hnone]

/-- The quests are activated in a row. -/
def activateAll (pool_id : ℕ) (spawns : ActiveQuests) (qs : List ℕ) : ActiveQuests :=
  qs.foldl (fun spawns q ↦ spawns.ActivateObject q pool_id) spawns

theorem mem_activateAll {spawns : ActiveQuests} {qs : List ℕ} {q : ℕ} :
    q ∈ (activateAll pool_id spawns qs).mActiveQuests ↔ q ∈ spawns.mActiveQuests ∨ q ∈ qs := by
  induction qs generalizing spawns with
  | nil => simp [activateAll]
  | cons q' qs ih =>
    rw [activateAll, List.foldl_cons, ← activateAll, ih, ActiveQuests.ActivateObject, Finset.mem_insert, List.mem_cons]
    tauto

theorem count_activateAll {spawns : ActiveQuests} (qs : List ℕ) {other : ℕ} (hother : other ≠ pool_id) :
    (activateAll pool_id spawns qs).GetActiveObjectCount other = spawns.GetActiveObjectCount other := by
  induction qs generalizing spawns with
  | nil => rfl
  | cons q qs ih =>
    rw [activateAll, List.foldl_cons, ← activateAll, ih, ActiveQuests.count_ActivateObject _ _ hother]

/-- The loop that activates draws without replacement, `limit` times if there are enough quests. -/
theorem activate_eq {limit : UInt32} {fuel : ℕ} {newQuests : Finset ℕ} (drawn : ℕ) (spawns : ActiveQuests)
    (spawned : List ℕ) (hfuel : newQuests.card ≤ fuel) (hnew : newQuests.card ≠ 0) (hlimit : limit ≠ 0) :
    activate choice pool_id limit fuel newQuests drawn (spawns, spawned) =
      (activateAll pool_id spawns (choice.draws limit.toNat newQuests drawn),
        spawned ++ choice.draws limit.toNat newQuests drawn) := by
  induction fuel generalizing newQuests drawn limit spawns spawned with
  | zero => exact absurd (Nat.le_zero.mp hfuel) hnew
  | succ fuel ih =>
    have hcard : (newQuests.erase (choice.pick drawn newQuests)).card + 1 = newQuests.card :=
      Choice.card_erase_pick drawn hnew
    have hpos : 0 < limit.toNat := by
      rw [Nat.pos_iff_ne_zero]
      exact fun h ↦ hlimit (UInt32.toNat_inj.mp h)
    have hdecr : (limit - 1).toNat = limit.toNat - 1 := by
      have hone : (1 : UInt32) ≤ limit := UInt32.le_iff_toNat_le.mpr hpos
      rw [UInt32.toNat_sub_of_le limit 1 hone]
      rfl
    obtain ⟨k, hk⟩ : ∃ k, limit.toNat = k + 1 := Nat.exists_eq_succ_of_ne_zero (Nat.ne_of_gt hpos)
    have hk' : (limit - 1).toNat = k := by omega
    rw [activate, hk, Choice.draws, if_neg hnew]
    split
    next hmore =>
      rw [ih _ _ _ (by omega) hmore.2 hmore.1, hk', List.append_assoc, List.singleton_append]
      rfl
    next hdone =>
      -- the limit is reached, or no quest is left to be drawn
      have hnone : choice.draws k (newQuests.erase (choice.pick drawn newQuests)) (drawn + 1) = [] := by
        rw [← List.length_eq_zero_iff, Choice.length_draws]
        by_cases hempty : (newQuests.erase (choice.pick drawn newQuests)).card = 0
        · simp [hempty]
        · have hzero : limit - 1 = 0 := by
            by_contra h
            exact hdone ⟨h, hempty⟩
          have hk0 : k = 0 := by
            simp [← hk', hzero]
          simp [hk0]
      rw [hnone]
      rfl

/-! ## The call -/

section Call

variable (c choice pool_id)

/-- The quests that are recycled: drawn from all active quests, when there are not enough fresh ones. -/
def recycled (limit : ℕ) (spawns : ActiveQuests) : List ℕ :=
  choice.draws (limit - (c.fresh pool_id spawns).card) spawns.mActiveQuests 0

/-- The quests that are spawned are drawn from. -/
def candidates (limit : ℕ) (spawns : ActiveQuests) : Finset ℕ :=
  c.fresh pool_id spawns ∪ (recycled c choice pool_id limit spawns).toFinset

end Call

variable {limit triggerFrom : UInt32} {spawns : ActiveQuests}

theorem disjoint_fresh : Disjoint (c.fresh pool_id spawns) spawns.mActiveQuests := Finset.sdiff_disjoint

/-- What a call with a trigger does: the quests of the pool are taken away, and `limit` candidates are activated. -/
theorem SpawnObject_eq (spawns : ActiveQuests) (hlimit : limit ≠ 0) (htrigger : triggerFrom ≠ 0) (saved : List ℕ) :
    ∃ drawn, c.SpawnObject choice pool_id saved limit triggerFrom spawns =
      (activateAll pool_id (c.DespawnObject pool_id spawns)
          (choice.draws limit.toNat (candidates c choice pool_id limit.toNat spawns) drawn),
        choice.draws limit.toNat (candidates c choice pool_id limit.toNat spawns) drawn) := by
  have hcandidates : (if (c.fresh pool_id spawns).card < limit.toNat ∧ spawns.mActiveQuests.card ≠ 0 then
      recycle choice limit spawns.mActiveQuests.card (c.fresh pool_id spawns) spawns.mActiveQuests 0
      else (c.fresh pool_id spawns, 0)).1 = candidates c choice pool_id limit.toNat spawns := by
    rw [candidates, recycled]
    split
    next h => exact recycle_eq 0 le_rfl h.2 h.1 disjoint_fresh
    next h =>
      have hnone : choice.draws (limit.toNat - (c.fresh pool_id spawns).card) spawns.mActiveQuests 0 = [] := by
        rw [← List.length_eq_zero_iff, Choice.length_draws]
        by_cases hempty : spawns.mActiveQuests.card = 0
        · simp [hempty]
        · rw [Nat.sub_eq_zero_of_le (not_lt.mp fun hlt ↦ h ⟨hlt, hempty⟩), Nat.zero_min]
      simp [hnone]
  rw [SpawnObject, if_neg fun h ↦ htrigger h.1]
  dsimp only
  rw [foldl_fresh, hcandidates]
  split
  next hempty =>
    refine ⟨0, ?_⟩
    rw [Finset.card_eq_zero.mp hempty, Choice.draws_empty]
    rfl
  next hsome => exact ⟨_, by rw [activate_eq _ _ _ le_rfl hsome hlimit, List.nil_append]⟩

theorem card_candidates : (candidates c choice pool_id limit.toNat spawns).card =
    (c.fresh pool_id spawns).card + min (limit.toNat - (c.fresh pool_id spawns).card) spawns.mActiveQuests.card := by
  have hdisj : Disjoint (c.fresh pool_id spawns) (recycled c choice pool_id limit.toNat spawns).toFinset :=
    disjoint_fresh.mono_right (Choice.toFinset_draws_subset _ _ _)
  rw [candidates, Finset.card_union_of_disjoint hdisj, recycled, Choice.card_toFinset_draws]

/-- Without a quest of another pool among the recycled ones, there are as many candidates as could be, and all are
quests of the pool. -/
theorem candidates_of_recycled (h : ∀ q ∈ recycled c choice pool_id limit.toNat spawns, q ∈ c.quests pool_id) :
    candidates c choice pool_id limit.toNat spawns ⊆ c.quests pool_id ∧
      min limit.toNat (candidates c choice pool_id limit.toNat spawns).card =
        min limit.toNat (c.quests pool_id).card := by
  have hsubset : candidates c choice pool_id limit.toNat spawns ⊆ c.quests pool_id := by
    refine Finset.union_subset Finset.sdiff_subset fun q hq ↦ ?_
    exact h q (List.mem_toFinset.mp hq)
  refine ⟨hsubset, ?_⟩
  have hle := Finset.card_le_card hsubset
  have hcard := @card_candidates c choice pool_id limit spawns
  by_cases henough : limit.toNat - (c.fresh pool_id spawns).card ≤ spawns.mActiveQuests.card
  · omega
  · -- all active quests are recycled, so every quest of the pool is a candidate
    have hall : (recycled c choice pool_id limit.toNat spawns).toFinset = spawns.mActiveQuests :=
      Choice.toFinset_draws_of_card_le (by omega) 0
    have heq : candidates c choice pool_id limit.toNat spawns = c.quests pool_id := by
      refine hsubset.antisymm fun q hq ↦ ?_
      rw [candidates, hall, Finset.mem_union, fresh, Finset.mem_sdiff]
      by_cases hactive : q ∈ spawns.mActiveQuests
      · exact Or.inr hactive
      · exact Or.inl ⟨hq, hactive⟩
    rw [heq]

/-- The pool 1 with the quests 11 and 12, and the pool 2 with the quest 21. -/
def twoPools : QuestPools where
  group pool_id :=
    if pool_id = 1 then ⟨[], [⟨11, 0⟩, ⟨12, 0⟩]⟩ else if pool_id = 2 then ⟨[], [⟨21, 0⟩]⟩ else ⟨[], []⟩
  searchMap := ((∅ : ExtTreeMap ℕ ℕ).insert 11 1).insert 12 1 |>.insert 21 2
  equalChanced pool_id := by
    split
    · rfl
    · split <;> rfl
  search pool_id := by
    by_cases hone : pool_id = 1
    · subst hone
      decide +kernel
    · by_cases htwo : pool_id = 2
      · subst htwo
        decide +kernel
      · simp [hone, htwo]

/-- A generator that always gives the largest element. -/
def largest : Choice ℕ where
  pick _ s := s.sup id
  pick_mem _ s hs := by
    obtain ⟨q, hq, hsup⟩ := Finset.exists_mem_eq_sup s hs id
    rw [hsup]
    exact hq

end QuestPools

end Gundrak
