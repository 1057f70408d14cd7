import Gundrak.Instances.GlobalResets
import Gundrak.Util.CheckedArithmetic

/-!
# When the instances of a map are reset

A map with a reset delay should be reset every so many days, at the hour that is configured.  Three formulas
have to agree for that: `LoadResetTimes` has one for a map without a stored time and one for a stored time
that is over, and `GetSubsequentResetTime` says when the next reset is.  All of them go from one start of a
day to another by adding whole periods, and then add the hour.

So the period must be a whole number of days.  The source means to make it one: it divides the delay, scaled
by the rate, by a day and multiplies it by a day again.  But the rate is a `float`, so that the quotient keeps
its fraction.  At a rate that makes a day and a half of it, every second reset is at the wrong hour, and
`LoadResetTimes` can leave a reset time that is over.

**`regularResets_iff`** says that this is the only thing that can go wrong, besides a scaled delay that does
not fit in its `uint32`.
-/

namespace Gundrak

open Checked (truncate asUInt32)

namespace ResetStores

variable (stores : ResetStores)

/-- `uint32(((mapDiff->resetTime * rate) / DAY) * DAY)`, with the rate as a rational. -/
def scaledBy (rate : ℚ) (resetTime : ℕ) : Option ℕ := asUInt32 (truncate (resetTime * rate / DAY * DAY))

/-- The settings with this `RATE_INSTANCE_RESET_TIME`. -/
def atRate (rate : ℚ) : ResetStores :=
  { stores with scaled := fun resetTime ↦ (scaledBy rate resetTime).getD 0 }

/-- A start of a day plus the hour that is configured. -/
def IsResetTime (t : ℤ) : Prop := ∃ day : ℤ, 0 ≤ day ∧ t = day * DAY + stores.diff

end ResetStores

open InstanceSaveManager ResetStores

variable {stores : ResetStores} {rate : ℚ} {now t : ℤ} {k : MapDifficultyKey} {m : InstanceSaveManager}

/-- The resets of a pair follow each other as they should: the delay can be scaled, the time that is loaded is
a reset time and not over, and from any such time on the resets come in periods of at least a day, the period
that was used when loading. -/
structure RegularResets (stores : ResetStores) (rate : ℚ) (now : ℤ) (instances : List InstanceRow)
    (resets : List InstanceResetRow) (k : MapDifficultyKey) : Prop where
  scaled : (scaledBy rate (stores.resetTime k)).isSome = true
  loaded : ∃ t, (LoadResetTimes (stores.atRate rate) now instances resets).m_resetTimeByMapDifficulty k = some t ∧
    stores.IsResetTime t ∧ now ≤ t
  subsequent : ∀ t, stores.IsResetTime t → ∀ n : ℕ,
    ((stores.atRate rate).GetSubsequentResetTime k)^[n] t = t + n * (stores.atRate rate).period k ∧
      stores.IsResetTime (((stores.atRate rate).GetSubsequentResetTime k)^[n] t)
  period : DAY ≤ (stores.atRate rate).period k

/-- The delay, scaled by the rate, is less than a day, which counts as a day, or a whole number of days. -/
def WholeDays (stores : ResetStores) (rate : ℚ) (k : MapDifficultyKey) : Prop :=
  ∃ scaled, scaledBy rate (stores.resetTime k) = some scaled ∧ ((scaled : ℤ) < DAY ∨ DAY ∣ scaled)

/-! ## The period -/

theorem dvd_period_iff (hscaled : (scaledBy rate (stores.resetTime k)).isSome = true) :
    DAY ∣ (stores.atRate rate).period k ↔ WholeDays stores rate k := by
  obtain ⟨scaled, hsome⟩ := Option.isSome_iff_exists.mp hscaled
  have hperiod : (stores.atRate rate).period k = max (scaled : ℤ) DAY := by
    rw [ResetStores.period]
    show max (((scaledBy rate (stores.resetTime k)).getD 0 : ℕ) : ℤ) DAY = _
    simp [hsome]
  have hwhole : WholeDays stores rate k ↔ ((scaled : ℤ) < DAY ∨ DAY ∣ scaled) := by
    rw [WholeDays, hsome]
    exact ⟨fun ⟨_, h, hdays⟩ ↦ Option.some_inj.mp h ▸ hdays, fun hdays ↦ ⟨scaled, rfl, hdays⟩⟩
  rw [hperiod, hwhole]
  rcases lt_or_ge (scaled : ℤ) DAY with hlt | hle
  · rw [max_eq_right hlt.le]
    exact iff_of_true dvd_rfl (Or.inl hlt)
  · rw [max_eq_left hle]
    exact ⟨Or.inr, fun h ↦ h.resolve_left (not_lt.mpr hle)⟩

/-! ## Days -/

theorem tdiv_day (hnonneg : 0 ≤ t) : t.tdiv DAY * DAY ≤ t ∧ t < t.tdiv DAY * DAY + DAY ∧ 0 ≤ t.tdiv DAY := by
  have h := Int.tmod_add_tdiv_mul t DAY
  have hlt := Int.tmod_lt_of_pos t day_pos
  have hle := Int.tmod_nonneg DAY hnonneg
  exact ⟨by omega, by omega, Int.tdiv_nonneg hnonneg day_pos.le⟩

/-- With an hour of the day, the start of the day of a reset time is found by a division, also a minute
later. -/
theorem tdiv_resetTime (hhour : stores.resetTimeHour < 24) {day x : ℤ} (hday : 0 ≤ day) (hx : 0 ≤ x)
    (hx60 : x ≤ 60) : (day * DAY + stores.diff + x).tdiv DAY = day := by
  have hdiff := diff_nonneg stores
  have hlt : stores.diff + x < DAY := by
    rw [ResetStores.diff, DAY]
    omega
  rw [Int.tdiv_eq_ediv_of_nonneg (by have := mul_nonneg hday day_pos.le; omega), add_assoc, add_comm,
    Int.add_mul_ediv_right _ _ day_pos.ne', Int.ediv_eq_zero_of_lt (by omega) hlt, zero_add]

/-! ## The subsequent resets -/

theorem getSubsequentResetTime_eq (hk : stores.HasDelay k) (hhour : stores.resetTimeHour < 24)
    (ht : stores.IsResetTime t) : stores.GetSubsequentResetTime k t = t + stores.period k := by
  obtain ⟨day, hday, rfl⟩ := ht
  rw [ResetStores.GetSubsequentResetTime, if_pos hk, tdiv_resetTime hhour hday (by omega) le_rfl]
  ring

/-- A period later is a reset time again just if the period is a whole number of days. -/
theorem isResetTime_add_period (stores : ResetStores) (ht : stores.IsResetTime t) :
    stores.IsResetTime (t + stores.period k) ↔ DAY ∣ stores.period k := by
  obtain ⟨day, hday, rfl⟩ := ht
  have hperiod := le_period stores k
  have hpos := day_pos
  constructor
  · rintro ⟨day', -, heq⟩
    exact ⟨day' - day, by linarith⟩
  · rintro ⟨days, hdays⟩
    refine ⟨day + days, ?_, by rw [hdays]; ring⟩
    have hnonneg : 0 ≤ days := by
      by_contra hneg
      have := mul_neg_of_pos_of_neg hpos (not_le.mp hneg)
      omega
    omega

theorem iterate_getSubsequentResetTime (stores : ResetStores) (hk : stores.HasDelay k) (hhour : stores.resetTimeHour < 24)
    (hdays : DAY ∣ stores.period k) (ht : stores.IsResetTime t) (n : ℕ) :
    (stores.GetSubsequentResetTime k)^[n] t = t + n * stores.period k ∧
      stores.IsResetTime ((stores.GetSubsequentResetTime k)^[n] t) := by
  induction n with
  | zero => exact ⟨by simp, ht⟩
  | succ n ih =>
    obtain ⟨heq, htime⟩ := ih
    rw [Function.iterate_succ_apply', getSubsequentResetTime_eq hk hhour htime]
    refine ⟨?_, (isResetTime_add_period stores htime).mpr hdays⟩
    rw [heq]
    push_cast
    ring

/-! ## The time that is loaded -/

/-- From the start of a day on, adding whole periods leads to a start of a day after `now`. -/
theorem lt_add_periods {day days : ℤ} (hdays : 0 < days) (hday : day ≤ now.tdiv DAY) :
    now.tdiv DAY < day + ((now.tdiv DAY - day).tdiv days + 1) * days ∧ 0 ≤ (now.tdiv DAY - day).tdiv days := by
  have hnonneg : 0 ≤ now.tdiv DAY - day := by omega
  have hmod := Int.tmod_add_tdiv_mul (now.tdiv DAY - day) days
  have hlt := Int.tmod_lt_of_pos (now.tdiv DAY - day) hdays
  exact ⟨by rw [add_mul, one_mul]; omega, Int.tdiv_nonneg hnonneg hdays.le⟩

section

variable (hhour : stores.resetTimeHour < 24) (hdays : DAY ∣ stores.period k) (hnow : 0 ≤ now)
include hhour hdays hnow

/-- What `LoadResetTimes` does with a reset time: it is kept, or else the next one is found. -/
theorem isResetTime_next (ht : stores.IsResetTime t) :
    let next := if t < now then
        t.tdiv DAY * DAY + (((now.tdiv DAY * DAY - t.tdiv DAY * DAY).tdiv (stores.period k) + 1) * stores.period k +
          stores.diff)
      else t
    stores.IsResetTime next ∧ now ≤ next := by
  intro next
  obtain ⟨day, hday, htime⟩ := ht
  by_cases hlt : t < now
  · obtain ⟨days, hperiod⟩ := hdays
    have hpos := day_pos
    have hdpos : 0 < days := pos_of_mul_pos_right (hperiod ▸ lt_of_lt_of_le hpos (le_period stores k)) hpos.le
    have hstart : t.tdiv DAY = day := by
      simpa [← htime] using tdiv_resetTime hhour hday le_rfl (by omega)
    obtain ⟨hle, hlt', -⟩ := tdiv_day hnow
    have hdiff := diff_nonneg stores
    have hdayle : day ≤ now.tdiv DAY := by
      by_contra hgt
      have := mul_le_mul_of_nonneg_right (Int.add_one_le_of_lt (not_le.mp hgt)) hpos.le
      rw [add_mul, one_mul] at this
      omega
    obtain ⟨hafter, hquot⟩ := lt_add_periods hdpos hdayle
    have hnext : next = (day + ((now.tdiv DAY - day).tdiv days + 1) * days) * DAY + stores.diff := by
      rw [show next = _ from if_pos hlt, hstart, hperiod, ← sub_mul, mul_comm DAY days,
        Int.mul_tdiv_mul_of_pos_left _ _ hpos]
      ring
    refine ⟨⟨_, ?_, hnext⟩, ?_⟩
    · have := mul_nonneg (by omega : 0 ≤ (now.tdiv DAY - day).tdiv days + 1) hdpos.le
      omega
    · have := mul_le_mul_of_nonneg_right (Int.add_one_le_of_lt hafter) hpos.le
      rw [add_mul, one_mul] at this
      omega
  · rw [show next = t from if_neg hlt]
    exact ⟨⟨day, hday, htime⟩, not_lt.mp hlt⟩

/-- What `LoadResetTimes` computes for a pair whose stored time is a reset time, or that has none. -/
theorem nextResetTime_spec (ht : ∀ t, m.m_resetTimeByMapDifficulty k = some t → stores.IsResetTime t) :
    stores.IsResetTime (m.nextResetTime stores now k) ∧ now ≤ m.nextResetTime stores now k := by
  refine isResetTime_next hhour hdays hnow ?_
  by_cases hzero : m.GetResetTimeFor k = 0
  · rw [if_pos hzero, add_right_comm]
    exact (isResetTime_add_period stores ⟨_, (tdiv_day hnow).2.2, rfl⟩).mpr hdays
  · rw [if_neg hzero]
    rw [GetResetTimeFor] at hzero ⊢
    cases htime : m.m_resetTimeByMapDifficulty k with
    | none =>
      rw [htime] at hzero
      exact absurd rfl hzero
    | some t => exact ht t htime

end

theorem nextResetTime_congr {m' : InstanceSaveManager}
    (h : m'.m_resetTimeByMapDifficulty k = m.m_resetTimeByMapDifficulty k) :
    m'.nextResetTime stores now k = m.nextResetTime stores now k := by
  have hget : m'.GetResetTimeFor k = m.GetResetTimeFor k := by rw [GetResetTimeFor, h, ← GetResetTimeFor]
  rw [nextResetTime, hget, ← nextResetTime]

theorem times_loadPair (rows : List InstanceRow) (q : MapDifficultyKey × ℕ) (k : MapDifficultyKey) :
    (loadPair stores now rows m q).m_resetTimeByMapDifficulty k =
      if q.2 ≠ 0 ∧ k = q.1 then some (m.nextResetTime stores now k) else m.m_resetTimeByMapDifficulty k := by
  rw [loadPair]
  by_cases hzero : q.2 = 0
  · simp [hzero]
  · rw [if_neg hzero]
    by_cases hkey : k = q.1
    · rw [if_pos ⟨hzero, hkey⟩, hkey]
      exact if_pos rfl
    · rw [if_neg fun h ↦ hkey h.2]
      exact if_neg hkey

/-- Of the loop over all pairs only the turn of a pair itself sets its reset time. -/
theorem times_loadPairs_of_notMem (rows : List InstanceRow) {l : List (MapDifficultyKey × ℕ)}
    (hk : k ∉ l.map Prod.fst) (m : InstanceSaveManager) :
    (l.foldl (loadPair stores now rows) m).m_resetTimeByMapDifficulty k = m.m_resetTimeByMapDifficulty k := by
  induction l generalizing m with
  | nil => rfl
  | cons q l ih =>
    rw [List.map_cons, List.mem_cons, not_or] at hk
    rw [List.foldl_cons, ih hk.2, times_loadPair, if_neg fun h ↦ hk.1 h.2]

theorem times_loadPairs (rows : List InstanceRow) {l : List (MapDifficultyKey × ℕ)}
    (hnodup : (l.map Prod.fst).Nodup) {q : MapDifficultyKey × ℕ} (hq : q ∈ l) (hdelay : q.2 ≠ 0)
    (m : InstanceSaveManager) :
    (l.foldl (loadPair stores now rows) m).m_resetTimeByMapDifficulty q.1 = some (m.nextResetTime stores now q.1) := by
  induction l generalizing m with
  | nil => exact absurd hq List.not_mem_nil
  | cons head l ih =>
    rw [List.map_cons, List.nodup_cons] at hnodup
    rw [List.foldl_cons]
    rcases List.mem_cons.mp hq with rfl | hmem
    · rw [times_loadPairs_of_notMem rows hnodup.1, times_loadPair, if_pos ⟨hdelay, rfl⟩]
    · have hne : q.1 ≠ head.1 := fun heq ↦ hnodup.1 (heq ▸ List.mem_map_of_mem hmem)
      rw [ih hnodup.2 hmem]
      exact congrArg some (nextResetTime_congr (by rw [times_loadPair, if_neg fun h ↦ hne h.2]))

theorem isResetTime_loadResetTimes (resets : List InstanceResetRow) (k : MapDifficultyKey) (t : ℤ)
    (hm : ∀ t, m.m_resetTimeByMapDifficulty k = some t → stores.IsResetTime t)
    (ht : (resets.foldl (loadResetTime stores) m).m_resetTimeByMapDifficulty k = some t) :
    stores.IsResetTime t := by
  induction resets generalizing m with
  | nil => exact hm t ht
  | cons row resets ih =>
    refine ih (fun t' ht' ↦ ?_) ht
    rw [loadResetTime] at ht'
    by_cases hpair : stores.hasPair ⟨row.mapid, row.difficulty⟩ = true
    · rw [if_pos hpair] at ht'
      by_cases hkey : k = ⟨row.mapid, row.difficulty⟩
      · have hset : (row.resettime : ℤ).tdiv DAY * DAY + stores.diff = t' :=
          Option.some_inj.mp ((if_pos hkey).symm.trans ht')
        exact ⟨_, Int.tdiv_nonneg (Int.natCast_nonneg _) day_pos.le, hset.symm⟩
      · exact hm t' ((if_neg hkey).symm.trans ht')
    · rw [if_neg hpair] at ht'
      exact hm t' ht'

/-- Instances with a reset time of their own do not have to do with the pairs. -/
theorem times_loadInstances (rows : List InstanceRow) (m : InstanceSaveManager) :
    (rows.foldl (loadInstance now) m).m_resetTimeByMapDifficulty = m.m_resetTimeByMapDifficulty := by
  induction rows generalizing m with
  | nil => rfl
  | cons row rows ih =>
    rw [List.foldl_cons, ih, loadInstance]
    exact (apply_ite InstanceSaveManager.m_resetTimeByMapDifficulty _ _ _).trans (ite_self _)

theorem exists_loaded (stores : ResetStores) (hhour : stores.resetTimeHour < 24) (hk : stores.HasDelay k)
    (hdays : DAY ∣ stores.period k) (hnow : 0 ≤ now) (instances : List InstanceRow)
    (resets : List InstanceResetRow) :
    ∃ t, (LoadResetTimes stores now instances resets).m_resetTimeByMapDifficulty k = some t ∧
      stores.IsResetTime t ∧ now ≤ t := by
  obtain ⟨q, hq, rfl⟩ := List.mem_map.mp (mem_of_hasDelay hk)
  have hdelay : q.2 ≠ 0 := resetTime_of_mem hq ▸ hk
  refine ⟨_, times_loadPairs _ stores.nodup hq hdelay _, nextResetTime_spec hhour hdays hnow fun t ht ↦ ?_⟩
  refine isResetTime_loadResetTimes resets q.1 t (fun t' ht' ↦ ?_) ht
  rw [times_loadInstances] at ht'
  exact absurd ht'.symm (Option.some_ne_none t')

/-- **The resets of a pair are regular** just if the period is a whole number of days. -/
theorem regularResets_iff (stores : ResetStores) (hhour : stores.resetTimeHour < 24) (rate : ℚ) (now : ℕ)
    (instances : List InstanceRow) (resets : List InstanceResetRow) {k : MapDifficultyKey}
    (hk : stores.HasDelay k) :
    RegularResets stores rate now instances resets k ↔ WholeDays stores rate k := by
  constructor
  · intro h
    refine (dvd_period_iff h.scaled).mp ?_
    obtain ⟨t, -, htime, -⟩ := h.loaded
    obtain ⟨heq, hnext⟩ := h.subsequent t htime 1
    rw [heq, Nat.cast_one, one_mul] at hnext
    exact (isResetTime_add_period (stores.atRate rate) htime).mp hnext
  · intro h
    have hscaled : (scaledBy rate (stores.resetTime k)).isSome = true := by
      obtain ⟨scaled, hsome, -⟩ := h
      rw [hsome]
      rfl
    have hdays := (dvd_period_iff hscaled).mpr h
    exact ⟨hscaled, exists_loaded (stores.atRate rate) hhour hk hdays (Int.natCast_nonneg now) _ _,
      fun t ht n ↦ iterate_getSubsequentResetTime (stores.atRate rate) hk hhour hdays ht n, le_period _ _⟩

/-! ## A period of a day and a half -/

/-- A raid with a delay of three days; instances reset at midnight. -/
def oneRaid : ResetStores where
  mapEntry _ := some ⟨true, true⟩
  sMapDifficultyMap := [(⟨249, 0⟩, 259200)]
  nodup := List.nodup_singleton _
  scaled := id
  resetTimeHour := 0

theorem regularResets_oneRaid : RegularResets oneRaid 1 172800 [] [] ⟨249, 0⟩ :=
  (regularResets_iff oneRaid (by decide) 1 172800 [] [] (by decide)).mpr
    ⟨259200, by decide +kernel, Or.inr (by decide)⟩

/-- At half the rate, with a reset stored for the start of day 1 and loaded at 18 o'clock of day 2, the next
reset is at noon of day 2. -/
theorem not_regularResets_half : ¬ RegularResets oneRaid (1 / 2) 237600 [] [⟨249, 0, 86400⟩] ⟨249, 0⟩ := by
  intro h
  obtain ⟨t, ht, -, hle⟩ := h.loaded
  have hnoon : (LoadResetTimes (oneRaid.atRate (1 / 2)) 237600 [] [⟨249, 0, 86400⟩]).m_resetTimeByMapDifficulty
      ⟨249, 0⟩ = some 216000 := by
    decide +kernel
  rw [hnoon, Option.some_inj] at ht
  omega

end Gundrak
