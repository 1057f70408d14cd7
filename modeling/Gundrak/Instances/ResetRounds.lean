import Gundrak.Instances.InstanceSaveMgr

/-!
# What one round of an update does

`Update` is a loop over the entries that are due, and a round of it depends on the type of the first
entry.  `Round` lists all that a round can do to the queue, the reset times and the log of resets, and
`updateRound_round` says that there is nothing else.  With `update_rule` what holds at the start of
`Update` and is kept by every round holds at its end.
-/

open Std (ExtTreeMap)

namespace Gundrak

namespace InstanceSaveManager

variable {stores : ResetStores} {m m' : InstanceSaveManager} {now : ℤ} {extended : UInt32 → Bool}
  {k : MapDifficultyKey} {x : ℤ × InstResetEvent} {rest : ResetTimeQueue}

/-! ## Resetting saves -/

theorem resetSave_queue (m : InstanceSaveManager) (extended : UInt32 → Bool) (id : UInt32) :
    (m._ResetSave extended id).m_resetTimeQueue = m.m_resetTimeQueue ∧
      (m._ResetSave extended id).m_resetTimeByMapDifficulty = m.m_resetTimeByMapDifficulty ∧
      (m._ResetSave extended id).m_resets = m.m_resets := by
  rw [_ResetSave]
  split <;> exact ⟨rfl, rfl, rfl⟩

theorem foldl_resetSave_queue (extended : UInt32 → Bool) (l : List (UInt32 × InstanceSave)) (m : InstanceSaveManager) :
    (l.foldl (fun m q ↦ m._ResetSave extended q.1) m).m_resetTimeQueue = m.m_resetTimeQueue ∧
      (l.foldl (fun m q ↦ m._ResetSave extended q.1) m).m_resetTimeByMapDifficulty = m.m_resetTimeByMapDifficulty ∧
      (l.foldl (fun m q ↦ m._ResetSave extended q.1) m).m_resets = m.m_resets := by
  induction l generalizing m with
  | nil => exact ⟨rfl, rfl, rfl⟩
  | cons q l ih =>
    obtain ⟨hq, ht, hr⟩ := ih (m._ResetSave extended q.1)
    obtain ⟨hq', ht', hr'⟩ := resetSave_queue m extended q.1
    exact ⟨hq.trans hq', ht.trans ht', hr.trans hr'⟩

/-- A reset of all instances of a pair either comes to nothing, or moves the pair to its next reset and
schedules the first warning of it. -/
theorem resetOrWarnAll_false {resetTime : ℤ} (h : m._ResetOrWarnAll stores extended k false resetTime = some m') :
    (m' = m ∧ (stores.instanceable k.mapid = false ∨ stores.GetSubsequentResetTime k resetTime = 0)) ∨
      (∃ r, m.m_resetTimeByMapDifficulty k = some r) ∧
      m'.m_resetTimeQueue = scheduleReset m.m_resetTimeQueue
        (stores.GetSubsequentResetTime k resetTime - 3600) (.make 1 k.mapid k.difficulty 0) ∧
      m'.m_resetTimeByMapDifficulty = (fun k' ↦
        if k' = k then some (stores.GetSubsequentResetTime k resetTime)
        else m.m_resetTimeByMapDifficulty k') ∧
      m'.m_resets = m.m_resets := by
  rw [_ResetOrWarnAll] at h
  by_cases hi : stores.instanceable k.mapid = false
  · rw [if_pos (by rw [hi]; rfl), Option.some_inj] at h
    exact .inl ⟨h.symm, .inl hi⟩
  rw [Bool.not_eq_false] at hi
  rw [if_neg (by rw [hi]; exact Bool.false_ne_true), if_neg Bool.false_ne_true] at h
  dsimp only at h
  by_cases hz : stores.GetSubsequentResetTime k resetTime = 0
  · rw [if_pos hz, Option.some_inj] at h
    exact .inl ⟨h.symm, .inr hz⟩
  rw [if_neg hz, SetResetTimeFor, Option.map_map, Option.map_eq_some_iff] at h
  obtain ⟨r, hr, h⟩ := h
  obtain ⟨hq, ht, hl⟩ := foldl_resetSave_queue extended
    (m.m_instanceSaveById.toList.filter fun q ↦
      decide (q.2.mapid = k.mapid ∧ q.2.difficulty = k.difficulty)) m
  rw [ht] at hr
  refine .inr ⟨⟨r, hr⟩, ?_, ?_, ?_⟩
  · rw [← h]
    dsimp only [Function.comp_apply, InitializeResetTimeFor]
    rw [hq]
  · rw [← h]
    dsimp only [Function.comp_apply, InitializeResetTimeFor]
    rw [ht]
  · rw [← h]
    exact hl

/-! ## One round -/

/-- What a round that finds the entry `x` at the front and `rest` behind it makes of `m`. -/
inductive Round (stores : ResetStores) (now : ℤ) (m : InstanceSaveManager)
    (x : ℤ × InstResetEvent) (rest : ResetTimeQueue) (m' : InstanceSaveManager) : Prop
  /-- the reset of one instance -/
  | instance (ht : x.2.type = 0) (hq : m'.m_resetTimeQueue = rest)
      (hr : m'.m_resetTimeByMapDifficulty = m.m_resetTimeByMapDifficulty)
      (hl : m'.m_resets = m.m_resets ∨ m'.m_resets = ⟨x.2.instanceId.toUInt32, x.1, x.2, now⟩ :: m.m_resets)
  /-- a warning: the event is counted up in place and scheduled again -/
  | warning (ht : x.2.type ≠ 0) (ht' : x.2.type ≠ 4) (hq : m'.m_resetTimeQueue =
        (scheduleReset ((x.1, { x.2 with type := x.2.type + 1 }) :: rest)
          (m.GetResetTimeFor x.2.key - ResetTimeDelay (x.2.type + 1))
          { x.2 with type := x.2.type + 1 }).tail)
      (hr : m'.m_resetTimeByMapDifficulty = m.m_resetTimeByMapDifficulty)
      (hl : m'.m_resets = m.m_resets)
  /-- a reset that comes to nothing -/
  | nothing (ht : x.2.type = 4) (hq : m'.m_resetTimeQueue = rest)
      (hr : m'.m_resetTimeByMapDifficulty = m.m_resetTimeByMapDifficulty)
      (hl : m'.m_resets = m.m_resets)
      (hk : stores.instanceable x.2.mapid = false ∨
        stores.GetSubsequentResetTime x.2.key (m.GetResetTimeFor x.2.key) = 0)
  /-- a reset -/
  | reset (ht : x.2.type = 4) (hq : m'.m_resetTimeQueue = (scheduleReset (x :: rest)
          (stores.GetSubsequentResetTime x.2.key (m.GetResetTimeFor x.2.key) - 3600)
          (.make 1 x.2.mapid x.2.difficulty 0)).tail)
      (hr : m'.m_resetTimeByMapDifficulty = fun k ↦
        if k = x.2.key then
          some (stores.GetSubsequentResetTime x.2.key (m.GetResetTimeFor x.2.key))
        else m.m_resetTimeByMapDifficulty k)
      (hl : m'.m_resets = m.m_resets)
      (hk : ∃ r, m.m_resetTimeByMapDifficulty x.2.key = some r)

theorem updateRound_round (hq : m.m_resetTimeQueue = x :: rest)
    (h : m.updateRound stores now extended x rest = some m') : Round stores now m x rest m' := by
  rw [updateRound] at h
  by_cases h0 : x.2.type = 0
  · rw [if_pos h0, Option.some_inj] at h
    subst h
    refine .instance h0 rfl ?_ ?_
    · rw [_ResetInstance]
      split
      · dsimp only
        split
        · exact (resetSave_queue _ _ _).2.1
        · rfl
      · rfl
    · rw [_ResetInstance]
      split
      · dsimp only
        split
        · exact .inr (by rw [(resetSave_queue _ _ _).2.2])
        · exact .inr rfl
      · exact .inl rfl
  rw [if_neg h0] at h
  rw [Option.map_eq_some_iff] at h
  obtain ⟨m₁, hm₁, h⟩ := h
  by_cases h4 : x.2.type = 4
  · rw [if_neg fun hh ↦ hh h4] at h
    rw [show (x.2.type != 4) = false from by rw [h4]; rfl] at hm₁
    rcases resetOrWarnAll_false hm₁ with ⟨rfl, hk⟩ | ⟨hk, hq₁, hr₁, hl₁⟩
    · rw [hq] at h
      subst h
      exact .nothing h4 rfl rfl rfl hk
    · subst h
      refine .reset h4 ?_ hr₁ hl₁ hk
      rw [hq₁, hq]
      rfl
  · have hm : m₁ = m := by
      rw [_ResetOrWarnAll, show (x.2.type != 4) = true from bne_iff_ne.mpr h4] at hm₁
      split at hm₁
      · exact (Option.some_inj.mp hm₁).symm
      · exact (Option.some_inj.mp hm₁).symm
    subst hm
    rw [if_pos h4] at h
    subst h
    exact .warning h0 h4 rfl rfl rfl

/-! ## The loop -/

/-- **The rule of the update.**  What every round keeps holds at the end of an update, and then no entry
at the front is due any more. -/
theorem update_rule {P : InstanceSaveManager → Prop} {rounds : ℕ}
    (hround : ∀ m m' x rest, P m → m.m_resetTimeQueue = x :: rest → x.1 < now → Round stores now m x rest m' → P m')
    (hm : P m) (h : Update stores now extended rounds m = some m') :
    P m' ∧ ∀ x ∈ m'.m_resetTimeQueue.head?, now ≤ x.1 := by
  induction rounds generalizing m with
  | zero => cases h
  | succ rounds ih =>
    rw [Update] at h
    cases hq : m.m_resetTimeQueue with
    | nil =>
      rw [hq] at h
      dsimp only at h
      rw [Option.some_inj] at h
      subst h
      refine ⟨hm, ?_⟩
      rw [hq]
      exact nofun
    | cons x rest =>
      rw [hq] at h
      dsimp only at h
      by_cases hx : now ≤ x.1
      · rw [if_pos hx, Option.some_inj] at h
        subst h
        refine ⟨hm, fun y hy ↦ ?_⟩
        rw [hq, List.head?_cons, Option.mem_some_iff] at hy
        rw [← hy]
        exact hx
      · rw [if_neg hx, Option.bind_eq_some_iff] at h
        obtain ⟨m₁, hm₁, h⟩ := h
        exact ih (hround m m₁ x rest hm hq (Int.not_le.mp hx) (updateRound_round hq hm₁)) h

theorem warning_type {type : UInt8} (h : type ≤ 4) (h4 : type ≠ 4) :
    type + 1 ≤ 4 ∧ type + 1 ≠ 0 ∧ (type + 1).toNat = type.toNat + 1 := by
  rw [UInt8.le_iff_toNat_le] at h ⊢
  rw [Ne, ← UInt8.toNat_inj] at h4 ⊢
  rw [UInt8.toNat_add]
  change type.toNat ≤ 4 at h
  change ¬ type.toNat = 4 at h4
  change (type.toNat + 1) % 256 ≤ 4 ∧ ¬ (type.toNat + 1) % 256 = 0 ∧ (type.toNat + 1) % 256 = type.toNat + 1
  omega

end InstanceSaveManager

end Gundrak
