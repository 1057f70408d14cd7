import Gundrak.Instances.ResetRounds

/-!
# The resets of all instances of a map

For every pair of a map and a difficulty with a reset delay there should be one event in the queue: the
next warning, or the reset itself, at the stored reset time of the pair minus the delay of the event's
type.  `OneEvent` says so.

`LoadResetTimes` sets this up, unless the table `instance` has an instance of such a pair with a reset
time of its own: it then schedules a second event for the pair.  `Update` keeps it (`Running.round` is
the step), also where it erases the event it has just scheduled instead of the one it has worked off.
`ForceGlobalReset` does not: to cancel the event of its pair it twice asks for an event with the
instance id 0, which is what all these events have, and gets the first two of the queue.

**`oneEvent_of_reaches`** says that this is all: from a table without such instances, in runs that force
a reset only while there is just one event with the instance id 0, every pair keeps its one event.
`exists_rounds` says that an update always comes to its end.
-/

namespace Gundrak

/-- The entry is for all instances of the pair `k`. -/
def isGlobalOf (k : MapDifficultyKey) (x : ℤ × InstResetEvent) : Bool := decide (x.2.instanceId = 0 ∧ x.2.key = k)

/-- The entry has the instance id 0. -/
def hasIdZero (x : ℤ × InstResetEvent) : Bool := decide (x.2.instanceId = 0)

namespace InstanceSaveManager

variable {stores : ResetStores} {m m' : InstanceSaveManager} {now : ℤ}
  {extended : UInt32 → Bool} {k k' : MapDifficultyKey} {q : ResetTimeQueue}

variable (stores m) in
/-- Every pair with a reset delay has exactly one event, of a type from 1 to 4, at its reset time minus
the delay of this type. -/
def OneEvent : Prop := ∀ k, stores.HasDelay k → ∃ e r, m.m_resetTimeQueue.filter (isGlobalOf k) =
      [(r - ResetTimeDelay e.type, e)] ∧
    m.m_resetTimeByMapDifficulty k = some r ∧ 1 ≤ e.type ∧ e.type ≤ 4

/-! ## Times -/

theorem day_pos : 0 < DAY := by decide

theorem le_period (stores : ResetStores) (k : MapDifficultyKey) : DAY ≤ stores.period k := le_max_right _ _

theorem diff_nonneg (stores : ResetStores) : 0 ≤ stores.diff := by
  rw [ResetStores.diff]
  omega

/-- Cutting a time down to the start of its day takes away less than a day. -/
theorem lt_tdiv_day (t : ℤ) : t - DAY < t.tdiv DAY * DAY := by
  have h := Int.tmod_add_tdiv_mul t DAY
  have hlt := Int.tmod_lt_of_pos t day_pos
  omega

theorem lt_getSubsequentResetTime (hk : stores.HasDelay k) (t : ℤ) : t + 60 < stores.GetSubsequentResetTime k t := by
  rw [ResetStores.GetSubsequentResetTime, if_pos hk]
  have h := lt_tdiv_day (t + 60)
  have hp := le_period stores k
  have hd := diff_nonneg stores
  linarith

/-! ## The invariant -/

variable (stores m) in
/-- What holds of the queue and the reset times between the calls, and with a time `now` during an
update at this time: then an event may also be late, if it is still to be worked off. -/
structure Running (late : ℤ → Prop) : Prop where
  sorted : Multimap.Sorted m.m_resetTimeQueue
  global : ∀ x ∈ m.m_resetTimeQueue, x.2.type ≠ 0 → x.2.instanceId = 0 ∧ stores.HasDelay x.2.key ∧ x.2.type ≤ 4
  single : ∀ x ∈ m.m_resetTimeQueue, x.2.type = 0 → ¬ stores.HasDelay x.2.key
  times : ∀ k, stores.HasDelay k → ∃ r, m.m_resetTimeByMapDifficulty k = some r ∧ 0 ≤ r
  one : ∀ k, stores.HasDelay k → ∃ t e, m.m_resetTimeQueue.filter (isGlobalOf k) = [(t, e)] ∧
    (t = m.GetResetTimeFor k - ResetTimeDelay e.type ∨ late t)

theorem getResetTimeFor_of_get {r : ℤ} (h : m.m_resetTimeByMapDifficulty k = some r) : m.GetResetTimeFor k = r := by
  simp [GetResetTimeFor, h]

theorem Running.nonneg {late : ℤ → Prop} (hm : Running stores m late) (hk : stores.HasDelay k) :
    0 ≤ m.GetResetTimeFor k := by
  obtain ⟨r, hr, h0⟩ := hm.times k hk
  rw [getResetTimeFor_of_get hr]
  exact h0

theorem mem_of_filter_eq {x : ℤ × InstResetEvent} (h : q.filter (isGlobalOf k) = [x]) :
    x ∈ q ∧ x.2.instanceId = 0 ∧ x.2.key = k := by
  have hx : x ∈ q.filter (isGlobalOf k) := by rw [h]; exact List.mem_singleton_self x
  rw [List.mem_filter] at hx
  exact ⟨hx.1, of_decide_eq_true hx.2⟩

theorem Running.oneEvent (hm : Running stores m fun _ ↦ False) : OneEvent stores m := by
  intro k hk
  obtain ⟨t, e, hf, ht⟩ := hm.one k hk
  obtain ⟨r, hr, _⟩ := hm.times k hk
  rw [getResetTimeFor_of_get hr, or_false] at ht
  obtain ⟨hmem, _, hkey⟩ := mem_of_filter_eq hf
  have h0 : e.type ≠ 0 := fun h ↦ hm.single _ hmem h (hkey ▸ hk)
  refine ⟨e, r, by rw [hf, ht], hr, ?_, (hm.global _ hmem h0).2.2⟩
  rw [UInt8.le_iff_toNat_le]
  rw [Ne, ← UInt8.toNat_inj] at h0
  exact Nat.one_le_iff_ne_zero.mpr h0

theorem Running.mono {late late' : ℤ → Prop} (hm : Running stores m late)
    (h : ∀ t, late t → late' t) : Running stores m late' where
  sorted := hm.sorted
  global := hm.global
  single := hm.single
  times := hm.times
  one := fun k hk ↦
    let ⟨t, e, hf, ht⟩ := hm.one k hk
    ⟨t, e, hf, ht.imp_right (h t)⟩

/-! ## Replacing the first event of the queue

Rounds that do not just erase the first entry end in one of two ways: the new event comes behind the
first one, which is then erased, or it comes before it and is erased itself. -/

section Replace

variable {x : ℤ × InstResetEvent} {rest : ResetTimeQueue}

theorem tail_scheduleReset_of_lt {time : ℤ} {e : InstResetEvent} (h : time < x.1) :
    (scheduleReset (x :: rest) time e).tail = x :: rest := by
  simp [scheduleReset, Multimap.insert_of_lt h]

theorem tail_scheduleReset_of_le {time : ℤ} {e : InstResetEvent} (h : x.1 ≤ time) :
    (scheduleReset (x :: rest) time e).tail = scheduleReset rest time e := by
  simp [scheduleReset, Multimap.insert_of_le h]

/-- The first entry, when it is for the pair `k`, is the one event of this pair. -/
theorem filter_rest_eq_nil {t : ℤ} {e : InstResetEvent}
    (hf : (x :: rest).filter (isGlobalOf k) = [(t, e)]) (hx : isGlobalOf k x = true) :
    (t, e) = x ∧ rest.filter (isGlobalOf k) = [] := by
  rw [List.filter_cons_of_pos hx, List.cons.injEq] at hf
  exact ⟨hf.1.symm, hf.2⟩

theorem isGlobalOf_eq_true (h0 : x.2.instanceId = 0) : isGlobalOf x.2.key x = true := decide_eq_true ⟨h0, rfl⟩

theorem isGlobalOf_eq_false (h : x.2.key ≠ k) : isGlobalOf k x = false := decide_eq_false fun hh ↦ h hh.2

/-- The queue after a round that leaves the pair of the first entry the entry `y` instead of it. -/
theorem Running.replace {late : ℤ → Prop} {y : ℤ × InstResetEvent} (hm : Running stores m late)
    (hq : m.m_resetTimeQueue = x :: rest) (h0 : x.2.instanceId = 0) (hx : stores.HasDelay x.2.key)
    (hy0 : y.2.instanceId = 0) (hykey : y.2.key = x.2.key) (hytype : y.2.type ≠ 0)
    (hytype' : y.2.type ≤ 4) (hsorted : Multimap.Sorted m'.m_resetTimeQueue)
    (hperm : m'.m_resetTimeQueue.Perm (y :: rest))
    (htimes : ∀ k, k ≠ x.2.key → m'.m_resetTimeByMapDifficulty k = m.m_resetTimeByMapDifficulty k)
    (hr : ∃ r, m'.m_resetTimeByMapDifficulty x.2.key = some r ∧ 0 ≤ r)
    (hlate : y.1 = m'.GetResetTimeFor x.2.key - ResetTimeDelay y.2.type ∨ late y.1) :
    Running stores m' late where
  sorted := hsorted
  global := fun z hz hz0 ↦ by
    rcases List.mem_cons.mp (hperm.mem_iff.mp hz) with rfl | hz
    · exact ⟨hy0, by rw [hykey]; exact hx, hytype'⟩
    · exact hm.global z (by rw [hq]; exact List.mem_cons_of_mem _ hz) hz0
  single := fun z hz hz0 ↦ by
    rcases List.mem_cons.mp (hperm.mem_iff.mp hz) with rfl | hz
    · exact absurd hz0 hytype
    · exact hm.single z (by rw [hq]; exact List.mem_cons_of_mem _ hz) hz0
  times := fun k hk ↦ by
    by_cases hkx : k = x.2.key
    · rw [hkx]
      exact hr
    · rw [htimes k hkx]
      exact hm.times k hk
  one := fun k hk ↦ by
    obtain ⟨t, e, hf, ht⟩ := hm.one k hk
    rw [hq] at hf
    have hpf := hperm.filter (isGlobalOf k)
    by_cases hkx : k = x.2.key
    · subst hkx
      obtain ⟨_, hnil⟩ := filter_rest_eq_nil hf (isGlobalOf_eq_true h0)
      rw [List.filter_cons_of_pos (hykey ▸ isGlobalOf_eq_true hy0), hnil] at hpf
      exact ⟨y.1, y.2, List.perm_singleton.mp hpf, hlate⟩
    · rw [List.filter_cons_of_neg (by rw [isGlobalOf_eq_false fun h ↦ hkx h.symm]
                                      exact Bool.false_ne_true)] at hf
      rw [List.filter_cons_of_neg (by rw [isGlobalOf_eq_false fun h ↦ hkx (h.symm.trans hykey)]
                                      exact Bool.false_ne_true), hf] at hpf
      refine ⟨t, e, List.perm_singleton.mp hpf, ?_⟩
      rw [GetResetTimeFor, htimes k hkx]
      exact ht

end Replace

/-! ## One round -/

/-- The maps of the pairs with a delay can have instances. -/
def MapsInstanceable (stores : ResetStores) : Prop := ∀ k, stores.HasDelay k → stores.instanceable k.mapid = true

/-- **One round of an update** keeps every pair its one event. -/
theorem Running.round {x : ℤ × InstResetEvent} {rest : ResetTimeQueue}
    (hinst : MapsInstanceable stores) (hm : Running stores m (· < now))
    (hq : m.m_resetTimeQueue = x :: rest) (hx : x.1 < now) (hr : Round stores now m x rest m') :
    Running stores m' (· < now) := by
  have hmem : x ∈ m.m_resetTimeQueue := by rw [hq]; exact List.mem_cons_self
  have hsorted : Multimap.Sorted (x :: rest) := hq ▸ hm.sorted
  have hrest : Multimap.Sorted rest := (List.pairwise_cons.mp hsorted).2
  cases hr with
  | «instance» ht hq' hr' _ =>
    have hsub : ∀ y ∈ m'.m_resetTimeQueue, y ∈ m.m_resetTimeQueue := by
      rw [hq', hq]
      exact fun y hy ↦ List.mem_cons_of_mem _ hy
    refine ⟨hq' ▸ hrest, fun y hy ↦ hm.global y (hsub y hy), fun y hy ↦ hm.single y (hsub y hy), ?_, fun k hk ↦ ?_⟩
    · rw [hr']
      exact hm.times
    · obtain ⟨t, e, hf, hlate⟩ := hm.one k hk
      have hne : isGlobalOf k x = false := isGlobalOf_eq_false fun h ↦
        hm.single x hmem ht (h ▸ hk)
      rw [hq, List.filter_cons_of_neg (by rw [hne]; exact Bool.false_ne_true)] at hf
      refine ⟨t, e, by rw [hq', hf], ?_⟩
      rw [GetResetTimeFor, hr']
      exact hlate
  | warning h0 h4 hq' hr' _ =>
    obtain ⟨hzero, hdelay, hle⟩ := hm.global x hmem h0
    obtain ⟨hle', h0', _⟩ := warning_type hle h4
    have hget : m'.GetResetTimeFor x.2.key = m.GetResetTimeFor x.2.key := by
      rw [GetResetTimeFor, hr']
      rfl
    by_cases hlt : m.GetResetTimeFor x.2.key - ResetTimeDelay (x.2.type + 1) < x.1
    · -- the event that was counted up stays where it is, and is late
      replace hq' := hq'.trans (tail_scheduleReset_of_lt hlt)
      exact hm.replace (y := (x.1, { x.2 with type := x.2.type + 1 })) hq hzero hdelay hzero rfl h0'
        hle' (by rw [hq']; exact List.pairwise_cons.mpr (List.pairwise_cons.mp hsorted))
        (by rw [hq']) (fun _ _ ↦ by rw [hr']) (by rw [hr']; exact hm.times _ hdelay) (.inr hx)
    · replace hq' := hq'.trans (tail_scheduleReset_of_le (Int.not_lt.mp hlt))
      refine hm.replace (y := (m.GetResetTimeFor x.2.key - ResetTimeDelay (x.2.type + 1),
        { x.2 with type := x.2.type + 1 })) hq hzero hdelay hzero rfl h0' hle'
        (by rw [hq']; exact hrest.insert) (by rw [hq']; exact Multimap.insert_perm _ _ _)
        (fun _ _ ↦ by rw [hr']) (by rw [hr']; exact hm.times _ hdelay) (.inl ?_)
      rw [hget]
  | nothing ht _ _ _ hk =>
    obtain ⟨_, hdelay, _⟩ := hm.global x hmem (by rw [ht]; decide)
    rcases hk with hk | hk
    · have := hinst _ hdelay
      simp [show x.2.key.mapid = x.2.mapid from rfl, hk] at this
    · have hlt := lt_getSubsequentResetTime hdelay (m.GetResetTimeFor x.2.key)
      have hnn := hm.nonneg hdelay
      omega
  | reset ht hq' hr' _ _ =>
    obtain ⟨hzero, hdelay, _⟩ := hm.global x hmem (by rw [ht]; decide)
    have hlt := lt_getSubsequentResetTime hdelay (m.GetResetTimeFor x.2.key)
    have hnn := hm.nonneg hdelay
    have hget : m'.m_resetTimeByMapDifficulty x.2.key =
        some (stores.GetSubsequentResetTime x.2.key (m.GetResetTimeFor x.2.key)) := by
      simp [hr']
    have htimes : ∀ k, k ≠ x.2.key → m'.m_resetTimeByMapDifficulty k = m.m_resetTimeByMapDifficulty k := fun k hk ↦ by
      simp [hr', hk]
    by_cases hfront : stores.GetSubsequentResetTime x.2.key (m.GetResetTimeFor x.2.key) - 3600 < x.1
    · -- the new event is erased; the old one is late and will be worked off again
      rw [tail_scheduleReset_of_lt hfront] at hq'
      exact hm.replace (y := x) hq hzero hdelay hzero rfl (by rw [ht]; decide)
        (by rw [ht]; decide) (by rw [hq']; exact hsorted) (by rw [hq']) htimes ⟨_, hget, by omega⟩ (.inr hx)
    · rw [tail_scheduleReset_of_le (Int.not_lt.mp hfront)] at hq'
      refine hm.replace (y := (_, .make 1 x.2.mapid x.2.difficulty 0)) hq hzero hdelay rfl rfl
        (by decide : (1 : UInt8) ≠ 0) (by decide : (1 : UInt8) ≤ 4)
        (by rw [hq']; exact hrest.insert) (by rw [hq']; exact Multimap.insert_perm _ _ _) htimes
        ⟨_, hget, by omega⟩ (.inl ?_)
      rw [getResetTimeFor_of_get hget]
      rfl

theorem Running.update {rounds : ℕ} (hinst : MapsInstanceable stores) (hm : Running stores m fun _ ↦ False)
    (h : Update stores now extended rounds m = some m') : Running stores m' fun _ ↦ False := by
  obtain ⟨hrun, hhead⟩ := update_rule (P := fun m ↦ Running stores m (· < now))
    (fun m m' x rest hm hq hx hr ↦ hm.round hinst hq hx hr) (hm.mono fun _ ↦ False.elim) h
  have hall : ∀ x ∈ m'.m_resetTimeQueue, now ≤ x.1 := by
    have hs := hrun.sorted
    cases hq : m'.m_resetTimeQueue with
    | nil => exact nofun
    | cons y rest =>
      rw [hq] at hs
      have hy : now ≤ y.1 := hhead y (by rw [hq]; rfl)
      exact List.forall_mem_cons.mpr
        ⟨hy, fun z hz ↦ Int.le_trans hy ((List.pairwise_cons.mp hs).1 z hz)⟩
  refine ⟨hrun.sorted, hrun.global, hrun.single, hrun.times, fun k hk ↦ ?_⟩
  obtain ⟨t, e, hf, ht⟩ := hrun.one k hk
  refine ⟨t, e, hf, .inl (ht.resolve_right fun hlt ↦ ?_)⟩
  have := hall _ (mem_of_filter_eq hf).1
  exact absurd hlt (Int.not_lt.mpr this)

/-! ## Updates come to an end

A round makes the work smaller that the entries of the queue still are for an update at the time `now`:
the resets of their pairs up to then, and the warnings before each of them. -/

variable (m) in
/-- What is left to be done for an entry. -/
def work (now : ℤ) (x : ℤ × InstResetEvent) : ℕ :=
  if x.1 < now then
    if x.2.type = 0 then 1
    else 1 + 5 * (now + 3600 - m.GetResetTimeFor x.2.key).toNat + (5 - x.2.type.toNat)
  else 0

theorem work_of_not_lt {x : ℤ × InstResetEvent} (h : ¬ x.1 < now) : work m now x = 0 := if_neg h

theorem work_of_type {x : ℤ × InstResetEvent} (h : x.1 < now) (h0 : x.2.type ≠ 0) : work m now x =
      1 + 5 * (now + 3600 - m.GetResetTimeFor x.2.key).toNat + (5 - x.2.type.toNat) := by
  simp [work, h, h0]

theorem work_mono (h : ∀ k, m.GetResetTimeFor k ≤ m'.GetResetTimeFor k) (x : ℤ × InstResetEvent) :
    work m' now x ≤ work m now x := by
  have hk := h x.2.key
  rw [work, work]
  split
  · split
    · exact Nat.le_refl _
    · omega
  · exact Nat.le_refl _

variable (m) in
/-- What is left to be done for the whole queue. -/
def totalWork (now : ℤ) : ℕ := (m.m_resetTimeQueue.map (work m now)).sum

theorem sum_work_mono (h : ∀ k, m.GetResetTimeFor k ≤ m'.GetResetTimeFor k) (q : ResetTimeQueue) :
    (q.map (work m' now)).sum ≤ (q.map (work m now)).sum := by
  induction q with
  | nil => exact Nat.le_refl _
  | cons x q ih =>
    rw [List.map_cons, List.map_cons, List.sum_cons, List.sum_cons]
    exact Nat.add_le_add (work_mono h x) ih

/-- A round that leaves the entry `y` instead of `x` is less work if `y` is. -/
theorem totalWork_lt {x y : ℤ × InstResetEvent} {rest : ResetTimeQueue}
    (hq : m.m_resetTimeQueue = x :: rest) (hq' : m'.m_resetTimeQueue.Perm (y :: rest))
    (h : ∀ k, m.GetResetTimeFor k ≤ m'.GetResetTimeFor k) (hy : work m' now y < work m now x) :
    totalWork m' now < totalWork m now := by
  rw [totalWork, totalWork, (hq'.map _).sum_nat, hq, List.map_cons, List.map_cons, List.sum_cons, List.sum_cons]
  exact Nat.add_lt_add_of_lt_of_le hy (sum_work_mono h rest)

theorem Running.totalWork_round {x : ℤ × InstResetEvent} {rest : ResetTimeQueue}
    (hm : Running stores m (· < now)) (hq : m.m_resetTimeQueue = x :: rest) (hx : x.1 < now)
    (hr : Round stores now m x rest m') : totalWork m' now < totalWork m now := by
  have hmem : x ∈ m.m_resetTimeQueue := by rw [hq]; exact List.mem_cons_self
  have hpos : 0 < work m now x := by
    rw [work, if_pos hx]
    split <;> omega
  have hsame (hr' : m'.m_resetTimeByMapDifficulty = m.m_resetTimeByMapDifficulty)
      (k : MapDifficultyKey) : m.GetResetTimeFor k = m'.GetResetTimeFor k := by
    simp [GetResetTimeFor, hr']
  have hpop (hq' : m'.m_resetTimeQueue = rest)
      (hr' : m'.m_resetTimeByMapDifficulty = m.m_resetTimeByMapDifficulty) :
      totalWork m' now < totalWork m now := by
    have hle : (rest.map (work m' now)).sum ≤ (rest.map (work m now)).sum :=
      sum_work_mono (fun k ↦ Int.le_of_eq (hsame hr' k)) rest
    rw [totalWork, totalWork, hq', hq, List.map_cons, List.sum_cons]
    omega
  cases hr with
  | «instance» _ hq' hr' _ => exact hpop hq' hr'
  | nothing _ hq' hr' _ _ => exact hpop hq' hr'
  | warning h0 h4 hq' hr' _ =>
    obtain ⟨_, h0', hadd⟩ := warning_type (hm.global x hmem h0).2.2 h4
    have hle := UInt8.le_iff_toNat_le.mp (hm.global x hmem h0).2.2
    change x.2.type.toNat ≤ 4 at hle
    -- wherever the event with the next type is in time, it is less work
    have hless (t : ℤ) : work m' now (t, { x.2 with type := x.2.type + 1 }) < work m now x := by
      by_cases ht : t < now
      · rw [work_of_type ht h0', work_of_type hx h0, ← hsame hr']
        show 1 + 5 * (now + 3600 - m.GetResetTimeFor x.2.key).toNat + (5 - (x.2.type + 1).toNat) < _
        omega
      · rw [work_of_not_lt ht]
        exact hpos
    by_cases hlt : m.GetResetTimeFor x.2.key - ResetTimeDelay (x.2.type + 1) < x.1
    · replace hq' := hq'.trans (tail_scheduleReset_of_lt hlt)
      exact totalWork_lt hq (by rw [hq']) (fun k ↦ Int.le_of_eq (hsame hr' k)) (hless x.1)
    · replace hq' := hq'.trans (tail_scheduleReset_of_le (Int.not_lt.mp hlt))
      exact totalWork_lt hq (by rw [hq']; exact Multimap.insert_perm _ _ _)
        (fun k ↦ Int.le_of_eq (hsame hr' k)) (hless _)
  | reset ht hq' hr' _ _ =>
    obtain ⟨_, hdelay, _⟩ := hm.global x hmem (by rw [ht]; decide)
    have hlt := lt_getSubsequentResetTime hdelay (m.GetResetTimeFor x.2.key)
    have hget : m'.GetResetTimeFor x.2.key = stores.GetSubsequentResetTime x.2.key (m.GetResetTimeFor x.2.key) := by
      simp [GetResetTimeFor, hr']
    have hmono (k : MapDifficultyKey) : m.GetResetTimeFor k ≤ m'.GetResetTimeFor k := by
      by_cases hk : k = x.2.key
      · rw [hk, hget]
        omega
      · refine Int.le_of_eq ?_
        simp [GetResetTimeFor, hr', hk]
    have hx4 : work m now x = 1 + 5 * (now + 3600 - m.GetResetTimeFor x.2.key).toNat + 1 := by
      rw [work_of_type hx (by rw [ht]; decide), ht]
      rfl
    by_cases hfront : stores.GetSubsequentResetTime x.2.key (m.GetResetTimeFor x.2.key) - 3600 < x.1
    · rw [tail_scheduleReset_of_lt hfront] at hq'
      refine totalWork_lt hq (by rw [hq']) hmono ?_
      rw [hx4, work_of_type hx (by rw [ht]; decide), hget, ht]
      omega
    · rw [tail_scheduleReset_of_le (Int.not_lt.mp hfront)] at hq'
      refine totalWork_lt hq (by rw [hq']; exact Multimap.insert_perm _ _ _) hmono ?_
      by_cases hdue : stores.GetSubsequentResetTime x.2.key (m.GetResetTimeFor x.2.key) - 3600 < now
      · rw [hx4, work_of_type hdue (by decide : (1 : UInt8) ≠ 0)]
        show 1 + 5 * (now + 3600 - m'.GetResetTimeFor x.2.key).toNat + 4 < _
        omega
      · rw [work_of_not_lt hdue]
        exact hpos

theorem Running.updateRound_isSome {late : ℤ → Prop} {x : ℤ × InstResetEvent} {rest : ResetTimeQueue}
    (hm : Running stores m late) (hq : m.m_resetTimeQueue = x :: rest) (now : ℤ)
    (extended : UInt32 → Bool) : ∃ m', m.updateRound stores now extended x rest = some m' := by
  have hmem : x ∈ m.m_resetTimeQueue := by rw [hq]; exact List.mem_cons_self
  rw [updateRound]
  split
  · exact ⟨_, rfl⟩
  · rename_i h0
    suffices h : ∃ m', m._ResetOrWarnAll stores extended x.2.key (x.2.type != 4)
        (m.GetResetTimeFor x.2.key) = some m' by
      obtain ⟨m', h⟩ := h
      exact ⟨_, by dsimp only; rw [h, Option.map_some]⟩
    obtain ⟨r, hr, _⟩ := hm.times x.2.key (hm.global x hmem h0).2.1
    rw [_ResetOrWarnAll]
    dsimp only
    split
    · exact ⟨_, rfl⟩
    · split
      · exact ⟨_, rfl⟩
      · split
        · exact ⟨_, rfl⟩
        · rw [SetResetTimeFor, (foldl_resetSave_queue extended _ m).2.1, hr]
          exact ⟨_, rfl⟩

/-- **Updates come to an end.**  With enough rounds, an update of a queue in order is carried through. -/
theorem exists_rounds (hinst : MapsInstanceable stores) (hm : Running stores m fun _ ↦ False)
    (now : ℤ) (extended : UInt32 → Bool) :
    ∃ rounds m', Update stores now extended rounds m = some m' := by
  suffices h : ∀ n m, Running stores m (· < now) → totalWork m now < n →
      ∃ rounds m', Update stores now extended rounds m = some m' from
    h _ m (hm.mono fun _ ↦ False.elim) (Nat.lt_succ_self _)
  intro n
  induction n with
  | zero => exact fun m _ h ↦ absurd h (Nat.not_lt_zero _)
  | succ n ih =>
    intro m hm hn
    cases hq : m.m_resetTimeQueue with
    | nil => exact ⟨1, m, by rw [Update, hq]⟩
    | cons x rest =>
      by_cases hx : now ≤ x.1
      · exact ⟨1, m, by rw [Update, hq]; exact if_pos hx⟩
      · obtain ⟨m₁, hm₁⟩ := hm.updateRound_isSome hq now extended
        have hround := updateRound_round hq hm₁
        have hx' := Int.not_le.mp hx
        have hlt := hm.totalWork_round hq hx' hround
        obtain ⟨rounds, m', h⟩ := ih m₁ (hm.round hinst hq hx' hround) (by omega)
        refine ⟨rounds + 1, m', ?_⟩
        simp [Update, hq, hx, hm₁, h]

/-! ## Forcing a reset -/

/-- Cancelling an event with the instance id 0 takes one away, when there is one. -/
theorem filter_cancelReset {type : UInt8} {x : ℤ × InstResetEvent} (hq : q.filter hasIdZero = [x]) :
    (cancelReset q 0 (.make type k.mapid k.difficulty 0)).filter hasIdZero = [] := by
  have hsame (y : ℤ × InstResetEvent) :
      sameEvent y.2 (.make type k.mapid k.difficulty 0) = hasIdZero y := by
    rw [sameEvent, hasIdZero]
    exact decide_eq_decide.mpr ⟨Eq.symm, Eq.symm⟩
  have herase (p : ℤ × InstResetEvent → Bool) (hp : ∀ y, p y = true → hasIdZero y = true)
      (hy : ∃ y ∈ q, p y = true) : (q.eraseP p).filter hasIdZero = [] := by
    obtain ⟨y, hyq, hpy⟩ := hy
    obtain ⟨z, l₁, l₂, _, hpz, hqz, hez⟩ := List.exists_of_eraseP hyq hpy
    rw [hez, List.filter_append]
    rw [hqz, List.filter_append, List.filter_cons_of_pos (hp z hpz)] at hq
    cases hl : l₁.filter hasIdZero with
    | nil =>
      rw [hl, List.nil_append, List.cons.injEq] at hq
      rw [hq.2]
      rfl
    | cons z' l =>
      rw [hl, List.cons_append, List.cons.injEq] at hq
      have := congrArg List.length hq.2
      rw [List.length_append, List.length_cons, List.length_nil] at this
      omega
  have hx : x ∈ q ∧ hasIdZero x = true := by
    rw [← List.mem_filter, hq]
    exact List.mem_singleton_self x
  rw [cancelReset]
  split
  · rename_i hany
    exact herase _ (fun y hy ↦ by rw [Bool.and_eq_true, hsame] at hy; exact hy.2)
      (List.any_eq_true.mp hany)
  · exact herase _ (fun y hy ↦ by rw [hsame] at hy; exact hy) ⟨x, hx.1, by rw [hsame]; exact hx.2⟩

theorem cancelReset_sublist (q : ResetTimeQueue) (time : ℤ) (e : InstResetEvent) :
    (cancelReset q time e).Sublist q := by
  rw [cancelReset]
  split
  · exact List.eraseP_sublist
  · exact List.eraseP_sublist

theorem Running.key_unique {late : ℤ → Prop} (hm : Running stores m late)
    (honly : (m.m_resetTimeQueue.filter hasIdZero).length = 1) (hk : stores.HasDelay k)
    (hk' : stores.HasDelay k') : k = k' := by
  obtain ⟨x, hx⟩ := List.length_eq_one_iff.mp honly
  have hkey {k : MapDifficultyKey} (hk : stores.HasDelay k) : x.2.key = k := by
    obtain ⟨t, e, hf, _⟩ := hm.one k hk
    obtain ⟨hmem, h0, hkey⟩ := mem_of_filter_eq hf
    have : (t, e) ∈ m.m_resetTimeQueue.filter hasIdZero := List.mem_filter.mpr ⟨hmem, decide_eq_true h0⟩
    rw [hx, List.mem_singleton] at this
    rw [← this]
    exact hkey
  exact (hkey hk).symm.trans (hkey hk')

theorem Running.forceGlobalReset {n : ℕ} (hinst : MapsInstanceable stores)
    (hm : Running stores m fun _ ↦ False) (hk : stores.HasDelay k)
    (honly : (m.m_resetTimeQueue.filter hasIdZero).length = 1)
    (h : m.ForceGlobalReset stores n extended k = some m') :
    Running stores m' fun _ ↦ False := by
  obtain ⟨x, hx⟩ := List.length_eq_one_iff.mp honly
  rw [ForceGlobalReset] at h
  have hsub := (cancelReset_sublist (cancelReset m.m_resetTimeQueue 0
    (.make 1 k.mapid k.difficulty 0)) 0 (.make 4 k.mapid k.difficulty 0)).trans
      (cancelReset_sublist m.m_resetTimeQueue 0 (.make 1 k.mapid k.difficulty 0))
  have hnil : (cancelReset (cancelReset m.m_resetTimeQueue 0 (.make 1 k.mapid k.difficulty 0)) 0
      (.make 4 k.mapid k.difficulty 0)).filter hasIdZero = [] := by
    have := (cancelReset_sublist (cancelReset m.m_resetTimeQueue 0
      (.make 1 k.mapid k.difficulty 0)) 0 (.make 4 k.mapid k.difficulty 0)).filter hasIdZero
    rw [filter_cancelReset hx] at this
    exact List.sublist_nil.mp this
  revert h hsub hnil
  generalize cancelReset (cancelReset m.m_resetTimeQueue 0 (.make 1 k.mapid k.difficulty 0)) 0
    (.make 4 k.mapid k.difficulty 0) = q
  intro h hsub hnil
  have hlt := lt_getSubsequentResetTime hk n
  rcases resetOrWarnAll_false h with ⟨_, hi | hz⟩ | ⟨_, hq', hr', _⟩
  · simp [hinst k hk] at hi
  · omega
  · have hget : m'.m_resetTimeByMapDifficulty k = some (stores.GetSubsequentResetTime k n) := by
      simp [hr']
    have hmem : ∀ y ∈ m'.m_resetTimeQueue, y = (stores.GetSubsequentResetTime k n - 3600,
        .make 1 k.mapid k.difficulty 0) ∨ y ∈ m.m_resetTimeQueue := by
      rw [hq']
      exact fun y hy ↦ (Multimap.mem_insert.mp hy).imp_right (hsub.subset ·)
    refine ⟨?_, fun y hy hy0 ↦ ?_, fun y hy hy0 ↦ ?_, fun k' hk' ↦ ?_, fun k' hk' ↦ ?_⟩
    · rw [hq']
      exact Multimap.Sorted.insert (hm.sorted.sublist hsub)
    · rcases hmem y hy with rfl | hy
      · exact ⟨rfl, hk, (by decide : (1 : UInt8) ≤ 4)⟩
      · exact hm.global y hy hy0
    · rcases hmem y hy with rfl | hy
      · exact absurd hy0 (by decide : (1 : UInt8) ≠ 0)
      · exact hm.single y hy hy0
    · rw [← hm.key_unique honly hk hk']
      exact ⟨_, hget, by omega⟩
    · obtain rfl : k = k' := hm.key_unique honly hk hk'
      refine ⟨stores.GetSubsequentResetTime k n - 3600, .make 1 k.mapid k.difficulty 0, ?_, .inl ?_⟩
      · rw [hq']
        refine Multimap.filter_insert_of_pos (decide_eq_true ⟨rfl, rfl⟩) ?_
        refine List.filter_eq_nil_iff.mpr fun y hy hyk ↦ ?_
        exact List.filter_eq_nil_iff.mp hnil y hy (decide_eq_true (of_decide_eq_true hyk).1)
      · rw [getResetTimeFor_of_get hget]
        rfl

/-! ## Loading -/

/-- No stored instance with a reset time of its own is of a pair with a delay. -/
def NoRowOfPair (stores : ResetStores) (instances : List InstanceRow) : Prop :=
  ∀ row ∈ instances, row.resettime ≠ 0 → ¬ stores.HasDelay ⟨row.map, row.difficulty⟩

/-- While the pairs are loaded: the pairs of `rem` are still to come and have no event yet. -/
structure Loading (stores : ResetStores) (m : InstanceSaveManager) (rem : List MapDifficultyKey) :
    Prop where
  sorted : Multimap.Sorted m.m_resetTimeQueue
  global : ∀ x ∈ m.m_resetTimeQueue, x.2.type ≠ 0 → x.2.instanceId = 0 ∧ stores.HasDelay x.2.key ∧ x.2.type ≤ 4
  single : ∀ x ∈ m.m_resetTimeQueue, x.2.type = 0 → ¬ stores.HasDelay x.2.key
  nonneg : ∀ k r, m.m_resetTimeByMapDifficulty k = some r → 0 ≤ r
  none : ∀ k ∈ rem, stores.HasDelay k → m.m_resetTimeQueue.filter (isGlobalOf k) = []
  one : ∀ k, k ∉ rem → stores.HasDelay k → ∃ e r,
    m.m_resetTimeQueue.filter (isGlobalOf k) = [(r - ResetTimeDelay e.type, e)] ∧
      m.m_resetTimeByMapDifficulty k = some r

theorem firstType_le (now t : ℤ) : firstType now t ≤ 4 ∧ firstType now t ≠ 0 := by
  rw [firstType]
  repeat' split
  all_goals exact ⟨by decide, by decide⟩

theorem nextResetTime_nonneg (hnow : 0 ≤ now)
    (hm : ∀ k r, m.m_resetTimeByMapDifficulty k = some r → 0 ≤ r) (k : MapDifficultyKey) :
    0 ≤ m.nextResetTime stores now k := by
  have hday {t : ℤ} (ht : 0 ≤ t) : 0 ≤ t.tdiv DAY * DAY :=
    Int.mul_nonneg (Int.tdiv_nonneg ht (Int.le_of_lt day_pos)) (Int.le_of_lt day_pos)
  have hp := le_period stores k
  have hd := diff_nonneg stores
  have hdp := day_pos
  have hget : 0 ≤ m.GetResetTimeFor k := by
    rw [GetResetTimeFor]
    cases hr : m.m_resetTimeByMapDifficulty k with
    | none => exact Int.le_refl 0
    | some r => exact hm k r hr
  have ht : 0 ≤ (if m.GetResetTimeFor k = 0 then now.tdiv DAY * DAY + stores.period k + stores.diff
      else m.GetResetTimeFor k) := by
    split
    · have := hday hnow
      omega
    · exact hget
  rw [nextResetTime]
  generalize (if m.GetResetTimeFor k = 0 then now.tdiv DAY * DAY + stores.period k + stores.diff
      else m.GetResetTimeFor k) = t at ht ⊢
  split
  · rename_i hlt
    have hle : t.tdiv DAY * DAY ≤ now.tdiv DAY * DAY := by
      rw [Int.tdiv_eq_ediv_of_nonneg ht, Int.tdiv_eq_ediv_of_nonneg hnow]
      exact Int.mul_le_mul_of_nonneg_right (Int.ediv_le_ediv day_pos (Int.le_of_lt hlt))
        (Int.le_of_lt day_pos)
    have hq : 0 ≤ (now.tdiv DAY * DAY - t.tdiv DAY * DAY).tdiv (stores.period k) :=
      Int.tdiv_nonneg (by omega) (by omega)
    have hmul := Int.mul_nonneg (Int.le_add_one hq) (show 0 ≤ stores.period k by omega)
    have := hday ht
    omega
  · exact ht

theorem Loading.pair {rows : List InstanceRow} {q : MapDifficultyKey × ℕ}
    {rem : List MapDifficultyKey} (hm : Loading stores m (q.1 :: rem)) (hnow : 0 ≤ now)
    (hrows : ∀ row ∈ rows, ¬ stores.HasDelay ⟨row.map, row.difficulty⟩)
    (hq : q.2 ≠ 0 ↔ stores.HasDelay q.1) (hrem : q.1 ∉ rem) :
    Loading stores (loadPair stores now rows m q) rem := by
  rw [loadPair]
  by_cases h0 : q.2 = 0
  · rw [if_pos h0]
    refine ⟨hm.sorted, hm.global, hm.single, hm.nonneg,
      fun k hk ↦ hm.none k (List.mem_cons_of_mem _ hk), fun k hk hd ↦ hm.one k ?_ hd⟩
    rw [List.mem_cons, not_or]
    exact ⟨fun h ↦ hq.mpr (h ▸ hd) h0, hk⟩
  · rw [if_neg h0]
    have hd := hq.mp h0
    have hnone : (rows.filter fun row ↦
        decide ((⟨row.map, row.difficulty⟩ : MapDifficultyKey) = q.1)) = [] := by
      refine List.filter_eq_nil_iff.mpr fun row hrow heq ↦ hrows row hrow ?_
      rw [of_decide_eq_true heq]
      exact hd
    rw [hnone]
    dsimp only [List.foldl_nil]
    have ht : 0 ≤ m.nextResetTime stores now q.1 := nextResetTime_nonneg hnow hm.nonneg q.1
    obtain ⟨hle, hne⟩ := firstType_le now (m.nextResetTime stores now q.1)
    revert ht hle hne
    generalize m.nextResetTime stores now q.1 = t
    generalize firstType now t = type
    intro ht hle hne
    have hmem : ∀ y ∈ scheduleReset m.m_resetTimeQueue (t - ResetTimeDelay type)
        (.make type q.1.mapid q.1.difficulty 0), y = (t - ResetTimeDelay type,
          .make type q.1.mapid q.1.difficulty 0) ∨ y ∈ m.m_resetTimeQueue :=
      fun y hy ↦ Multimap.mem_insert.mp hy
    have hget (k : MapDifficultyKey) : (m.InitializeResetTimeFor q.1 t).m_resetTimeByMapDifficulty k =
        if k = q.1 then some t else m.m_resetTimeByMapDifficulty k := rfl
    refine ⟨hm.sorted.insert, fun y hy hy0 ↦ ?_, fun y hy hy0 ↦ ?_, fun k r hr ↦ ?_,
      fun k hk hkd ↦ ?_, fun k hk hkd ↦ ?_⟩
    · rcases hmem y hy with rfl | hy
      · exact ⟨rfl, hd, hle⟩
      · exact hm.global y hy hy0
    · rcases hmem y hy with rfl | hy
      · exact absurd hy0 hne
      · exact hm.single y hy hy0
    · dsimp only at hr
      rw [hget] at hr
      by_cases hkq : k = q.1
      · rw [if_pos hkq, Option.some_inj] at hr
        exact hr ▸ ht
      · rw [if_neg hkq] at hr
        exact hm.nonneg k r hr
    · refine (Multimap.filter_insert_of_neg (decide_eq_false fun h ↦ ?_)).trans
        (hm.none k (List.mem_cons_of_mem _ hk) hkd)
      have hkq : q.1 = k := h.2
      exact hrem (hkq ▸ hk)
    · by_cases hkq : k = q.1
      · subst hkq
        refine ⟨.make type q.1.mapid q.1.difficulty 0, t, ?_, ?_⟩
        · exact Multimap.filter_insert_of_pos (decide_eq_true ⟨rfl, rfl⟩)
            (hm.none q.1 List.mem_cons_self hkd)
        · simp [hget]
      · obtain ⟨e, r, hf, hr⟩ := hm.one k (by rw [List.mem_cons, not_or]; exact ⟨hkq, hk⟩) hkd
        refine ⟨e, r, ?_, ?_⟩
        · exact (Multimap.filter_insert_of_neg (decide_eq_false fun h ↦ hkq h.2.symm)).trans hf
        · simp [hget, hkq, hr]

/-- A pair in the list of all pairs has a delay if it has one there. -/
theorem resetTime_of_mem {q : MapDifficultyKey × ℕ} (hq : q ∈ stores.sMapDifficultyMap) :
    stores.resetTime q.1 = q.2 := by
  obtain ⟨r, hr⟩ : ∃ r, (stores.sMapDifficultyMap.find? fun q' ↦ decide (q'.1 = q.1)) = some r := by
    rw [← Option.isSome_iff_exists, List.find?_isSome]
    exact ⟨q, hq, decide_eq_true rfl⟩
  have hkey := List.find?_some (p := fun q' : MapDifficultyKey × ℕ ↦ decide (q'.1 = q.1)) hr
  rw [decide_eq_true_eq] at hkey
  rw [ResetStores.resetTime, hr, Option.map_some, Option.getD_some,
    List.inj_on_of_nodup_map stores.nodup (List.mem_of_find?_eq_some hr) hq hkey]

theorem mem_of_hasDelay (hk : stores.HasDelay k) : k ∈ stores.sMapDifficultyMap.map Prod.fst := by
  by_contra hne
  refine hk ?_
  have hnone : (stores.sMapDifficultyMap.find? fun q ↦ decide (q.1 = k)) = none := by
    rw [List.find?_eq_none]
    exact fun q hq heq ↦ hne (List.mem_map.mpr ⟨q, hq, of_decide_eq_true heq⟩)
  rw [ResetStores.resetTime, hnone]
  rfl

/-- **After loading** every pair has its event. -/
theorem running_loadResetTimes {now : ℕ} {instances : List InstanceRow}
    (hrows : NoRowOfPair stores instances) (resets : List InstanceResetRow) :
    Running stores (LoadResetTimes stores now instances resets) fun _ ↦ False := by
  have hrow : ∀ row ∈ instances.filter fun row ↦ row.resettime != 0, ¬ stores.HasDelay ⟨row.map, row.difficulty⟩ := by
    intro row hrow
    rw [List.mem_filter] at hrow
    exact hrows row hrow.1 (bne_iff_ne.mp hrow.2)
  rw [LoadResetTimes]
  revert hrow
  generalize instances.filter (fun row ↦ row.resettime != 0) = rows
  intro hrow
  -- the events of single instances
  have hinst : ∀ (l : List InstanceRow), (∀ row ∈ l, row ∈ rows) →
      let m := l.foldl (loadInstance now) {}
      (Multimap.Sorted m.m_resetTimeQueue ∧ ∀ x ∈ m.m_resetTimeQueue, x.2.type = 0 ∧ ¬ stores.HasDelay x.2.key) ∧
        m.m_resetTimeByMapDifficulty = fun _ ↦ none := by
    intro l hl
    refine List.foldlRecOn (motive := fun m : InstanceSaveManager ↦
      (Multimap.Sorted m.m_resetTimeQueue ∧ ∀ x ∈ m.m_resetTimeQueue, x.2.type = 0 ∧ ¬ stores.HasDelay x.2.key) ∧
        m.m_resetTimeByMapDifficulty = fun _ ↦ none) l _ ⟨⟨List.Pairwise.nil, nofun⟩, rfl⟩ ?_
    intro m hm row hrl
    rw [loadInstance]
    split
    · refine ⟨⟨hm.1.1.insert, fun x hx ↦ ?_⟩, hm.2⟩
      rcases Multimap.mem_insert.mp hx with rfl | hx
      · exact ⟨rfl, hrow row (hl row hrl)⟩
      · exact hm.1.2 x hx
    · exact hm
  obtain ⟨hqueue, hnone⟩ := hinst rows fun _ ↦ id
  revert hqueue hnone
  generalize rows.foldl (loadInstance now) {} = m₀
  intro hqueue hnone
  -- the stored reset times
  have hreset : (resets.foldl (loadResetTime stores) m₀).m_resetTimeQueue = m₀.m_resetTimeQueue ∧
      ∀ k r, (resets.foldl (loadResetTime stores) m₀).m_resetTimeByMapDifficulty k = some r → 0 ≤ r := by
    refine List.foldlRecOn (motive := fun m : InstanceSaveManager ↦
      m.m_resetTimeQueue = m₀.m_resetTimeQueue ∧
        ∀ k r, m.m_resetTimeByMapDifficulty k = some r → 0 ≤ r) resets _ ⟨rfl, ?_⟩ ?_
    · intro k r hr
      simp [hnone] at hr
    · intro m hm row _
      rw [loadResetTime]
      split
      · refine ⟨hm.1, fun k r hr ↦ ?_⟩
        rw [InitializeResetTimeFor] at hr
        dsimp only at hr
        split at hr
        · have h := Int.mul_nonneg (Int.tdiv_nonneg (Int.natCast_nonneg row.resettime)
            (Int.le_of_lt day_pos)) (Int.le_of_lt day_pos)
          have hd := diff_nonneg stores
          rw [Option.some_inj] at hr
          omega
        · exact hm.2 k r hr
      · exact hm
  revert hreset
  generalize resets.foldl (loadResetTime stores) m₀ = m₁
  rintro ⟨hq₁, hnn⟩
  -- the pairs
  have hpairs : ∀ (l : List (MapDifficultyKey × ℕ)) (m : InstanceSaveManager),
      (∀ q ∈ l, q ∈ stores.sMapDifficultyMap) → (l.map Prod.fst).Nodup →
      Loading stores m (l.map Prod.fst) → Loading stores (l.foldl (loadPair stores now rows) m) [] := by
    intro l
    induction l with
    | nil => exact fun m _ _ hm ↦ hm
    | cons q l ih =>
      intro m hl hnd hm
      rw [List.map_cons, List.nodup_cons] at hnd
      refine ih _ (fun q' hq' ↦ hl q' (List.mem_cons_of_mem _ hq')) hnd.2
        (hm.pair (Int.natCast_nonneg now) hrow ?_ hnd.1)
      rw [ResetStores.HasDelay, resetTime_of_mem (hl q List.mem_cons_self)]
  have hload := hpairs stores.sMapDifficultyMap m₁ (fun _ ↦ id) stores.nodup
    { sorted := by rw [hq₁]; exact hqueue.1
      global := fun x hx hx0 ↦ absurd (hqueue.2 x (hq₁ ▸ hx)).1 hx0
      single := fun x hx _ ↦ (hqueue.2 x (hq₁ ▸ hx)).2
      nonneg := hnn
      none := fun k _ hk ↦ List.filter_eq_nil_iff.mpr fun x hx hxk ↦
        (hqueue.2 x (hq₁ ▸ hx)).2 ((of_decide_eq_true hxk).2 ▸ hk)
      one := fun k hk hd ↦ absurd (mem_of_hasDelay hd) hk }
  refine ⟨hload.sorted, hload.global, hload.single, fun k hk ↦ ?_, fun k hk ↦ ?_⟩
  · obtain ⟨e, r, _, hr⟩ := hload.one k List.not_mem_nil hk
    exact ⟨r, hr, hload.nonneg k r hr⟩
  · obtain ⟨e, r, hf, hr⟩ := hload.one k List.not_mem_nil hk
    exact ⟨_, e, hf, .inl (by rw [getResetTimeFor_of_get hr])⟩

end InstanceSaveManager

/-! ## Runs -/

/-- The calls that work off and force the resets of all instances of a map. -/
inductive GlobalResetCall where
  | Update (now : ℕ) (extended : UInt32 → Bool) (rounds : ℕ)
  | ForceGlobalReset (now : ℕ) (extended : UInt32 → Bool) (k : MapDifficultyKey)

namespace InstanceSaveManager

/-- What a call does; a reset is forced for a pair that has one. -/
def next (stores : ResetStores) (m : InstanceSaveManager) : GlobalResetCall → Option InstanceSaveManager
  | .Update now extended rounds => Update stores now extended rounds m
  | .ForceGlobalReset now extended k =>
    if stores.HasDelay k then m.ForceGlobalReset stores now extended k else none

/-- A reset is forced only while a single event has the instance id 0. -/
def KeepsEvents (m : InstanceSaveManager) : GlobalResetCall → Prop
  | .Update _ _ _ => True
  | .ForceGlobalReset _ _ _ => (m.m_resetTimeQueue.filter hasIdZero).length = 1

instance (m : InstanceSaveManager) : (c : GlobalResetCall) → Decidable (m.KeepsEvents c)
  | .Update _ _ _ => isTrue trivial
  | .ForceGlobalReset _ _ _ => inferInstanceAs (Decidable (_ = _))

end InstanceSaveManager

/-- A manager that was loaded at the time `now`, and the calls that drive it from there. -/
def globalResetMachine (stores : ResetStores) (now : ℕ) (instances : List InstanceRow)
    (resets : List InstanceResetRow) : Machine InstanceSaveManager GlobalResetCall where
  start := InstanceSaveManager.LoadResetTimes stores now instances resets
  next := InstanceSaveManager.next stores

namespace InstanceSaveManager

variable {stores : ResetStores} {m m' : InstanceSaveManager} {now : ℕ} {instances : List InstanceRow}
  {resets : List InstanceResetRow}

theorem running_of_reaches (hinst : MapsInstanceable stores) (hrows : NoRowOfPair stores instances)
    (h : (globalResetMachine stores now instances resets).Reaches KeepsEvents m) :
    Running stores m fun _ ↦ False := by
  refine h.invariant (P := fun m ↦ Running stores m fun _ ↦ False)
    (running_loadResetTimes hrows resets) fun s a t hs ha hn ↦ ?_
  cases a with
  | Update now extended rounds => exact hs.update hinst hn
  | ForceGlobalReset now extended k =>
    have hn' : (if stores.HasDelay k then s.ForceGlobalReset stores now extended k else none) = some t := hn
    rw [Option.ite_none_right_eq_some] at hn'
    exact hs.forceGlobalReset hinst hn'.1 ha hn'.2

/-- **Every pair keeps its one event.**  The maps of the pairs have instances, and no stored instance of
a pair has a reset time of its own.  Then, in a run that forces a reset only while a single event has the
instance id 0, every pair has exactly one event after every call; an update that such a run comes to is
carried through, and a reset that it forces leaves the event and the reset time of every other pair as
they were. -/
theorem oneEvent_of_reaches (hinst : MapsInstanceable stores) (hrows : NoRowOfPair stores instances)
    (h : (globalResetMachine stores now instances resets).Reaches KeepsEvents m) :
    OneEvent stores m ∧
      (∀ n extended, ∃ rounds m', next stores m (.Update n extended rounds) = some m') ∧
      ∀ n extended k m', m.KeepsEvents (.ForceGlobalReset n extended k) →
        next stores m (.ForceGlobalReset n extended k) = some m' →
        ∀ k', k' ≠ k → stores.HasDelay k' →
          m'.m_resetTimeQueue.filter (isGlobalOf k') = m.m_resetTimeQueue.filter (isGlobalOf k') ∧
          m'.m_resetTimeByMapDifficulty k' = m.m_resetTimeByMapDifficulty k' := by
  have hrun := running_of_reaches hinst hrows h
  refine ⟨hrun.oneEvent, fun n extended ↦ exists_rounds hinst hrun n extended, ?_⟩
  intro n extended k m' honly hn k' hne hk'
  have hn' : (if stores.HasDelay k then m.ForceGlobalReset stores n extended k else none) =
      some m' := hn
  rw [Option.ite_none_right_eq_some] at hn'
  -- a single event is that of a single pair
  exact absurd (hrun.key_unique honly hk' hn'.1) hne

/-- One raid with two difficulties of a reset delay of a week and of a day. -/
def twoPairs : ResetStores where
  mapEntry := fun _ ↦ some ⟨true, true⟩
  sMapDifficultyMap := [(⟨1, 0⟩, 604800), (⟨1, 1⟩, 86400)]
  nodup := by decide
  scaled := id
  resetTimeHour := 4

/-- One raid with one difficulty. -/
def onePair : ResetStores where
  mapEntry := fun _ ↦ some ⟨true, true⟩
  sMapDifficultyMap := [(⟨1, 0⟩, 604800)]
  nodup := by decide
  scaled := id
  resetTimeHour := 4

theorem oneEvent_of_reaches_onePair :
    ∃ m, (globalResetMachine onePair 100 [⟨7, 2, 0, 500⟩] []).Reaches KeepsEvents m ∧
      m.m_resets.map (·.instanceId) = [7] ∧ OneEvent onePair m := by
  let run : List GlobalResetCall := [.ForceGlobalReset 200 (fun _ ↦ false) ⟨1, 0⟩,
    .Update 1000 (fun _ ↦ false) 2]
  obtain ⟨m, hm, hresets⟩ := (globalResetMachine onePair 100 [⟨7, 2, 0, 500⟩] []).exists_reaches KeepsEvents run
    (fun m ↦ m.m_resets.map (·.instanceId) = [7]) (by decide +kernel)
  refine ⟨m, hm, hresets, (oneEvent_of_reaches (fun k _ ↦ rfl) (fun row hrow _ ↦ ?_) hm).1⟩
  rw [List.mem_singleton.mp hrow]
  decide

/-- **A forced reset takes the event of another pair.**  With two pairs, the two events that are
cancelled are those of both. -/
theorem not_oneEvent : ¬ ∀ stores now instances resets m,
      (globalResetMachine stores now instances resets).Reachable m → OneEvent stores m := by
  intro h
  obtain ⟨m, hm, hnil⟩ := (globalResetMachine twoPairs 0 [] []).exists_reachable [.ForceGlobalReset 0 (fun _ ↦
    false) ⟨1, 0⟩]
    (fun m ↦ m.m_resetTimeQueue.filter (isGlobalOf ⟨1, 1⟩) = []) (by decide +kernel)
  obtain ⟨e, r, hf, _⟩ := h twoPairs 0 [] [] m hm ⟨1, 1⟩ (by decide)
  rw [hnil] at hf
  cases hf

end InstanceSaveManager

end Gundrak
