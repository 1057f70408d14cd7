import Gundrak.Battlegrounds.QueueUpdate

/-!
# Balancing the teams of a running battleground

`FillPlayersToBG` offers the groups of each team to its pool, and unless the invitation is unbalanced it then kicks
groups from the pools and offers them others until the teams have about as many slots left.  Every pass of that loop
kicks a group or takes one off a queue, so the loop ends: `BalanceEnds` is the loop without a bound on its passes.

**`FillPlayersToBG_balances`** says what the pools are like in the end.
-/

namespace Gundrak.BattlegroundQueue

variable {q q' : BattlegroundQueue} {team : Team} {free : Team → ℤ} {l left : List GroupId} {pool : SelectionPool}
variable {slots : ℤ} {s : Balance}

/-! ## One pool -/

/-- What a pool of a team is like while it is filled: `l` are the groups of the team, `left` those that have not been
offered yet. -/
structure PoolSound (q : BattlegroundQueue) (l : List GroupId) (slots : ℤ) (pool : SelectionPool)
    (left : List GroupId) : Prop where
  counted : pool.PlayerCount = (pool.SelectedGroups.map q.size).sum
  le_slots : (pool.PlayerCount : ℤ) ≤ slots
  sublist : (pool.SelectedGroups ++ left).Sublist l
  uninvited : ∀ g ∈ pool.SelectedGroups, q.isInvited g = false

/-- The work a pool can still make: each group that is left may be added and kicked. -/
def poolWork (pool : SelectionPool) (left : List GroupId) : ℕ := 2 * left.length + pool.SelectedGroups.length

@[simp]
theorem pool_setPool (q : BattlegroundQueue) (team : Team) (pool : SelectionPool) :
    (q.setPool team pool).m_SelectionPools team = pool := by
  simp [setPool]

@[simp]
theorem pool_setPool_other (q : BattlegroundQueue) (team : Team) (pool : SelectionPool) :
    (q.setPool team pool).m_SelectionPools team.other = q.m_SelectionPools team.other := by
  simp [setPool, Function.update_of_ne (other_ne team)]

theorem groupToKick_lt {n size : ℕ} {l : List GroupId} {i kick kickSize : ℕ} {found : Bool} (hkick : kick < n)
    (hi : i + l.length ≤ n) : q.groupToKick size l i kick kickSize found < n := by
  induction l generalizing i kick kickSize found with
  | nil => exact hkick
  | cons g l ih =>
    rw [List.length_cons] at hi
    rw [groupToKick]
    split_ifs
    · exact ih (by omega) (by omega)
    · exact ih (by omega) (by omega)
    · exact ih hkick (by omega)

theorem kickGroup_of_pos (size : ℕ) {kick : ℕ} (hpos : 0 < q.playerCount team)
    (hkick : q.groupToKick size (q.m_SelectionPools team).SelectedGroups 0 0
      ((q.m_SelectionPools team).SelectedGroups.head?.elim 0 q.size) false = kick)
    (hlt : kick < (q.m_SelectionPools team).SelectedGroups.length) :
    q.kickGroup team size = (q.setPool team ⟨(q.m_SelectionPools team).SelectedGroups.eraseIdx kick,
        (q.m_SelectionPools team).PlayerCount - q.size (q.m_SelectionPools team).SelectedGroups[kick]⟩,
        decide (size + 1 < q.size (q.m_SelectionPools team).SelectedGroups[kick])) := by
  obtain ⟨n, hn⟩ := Nat.exists_eq_succ_of_ne_zero hpos.ne'
  rw [playerCount] at hn
  rw [kickGroup, hkick, List.getElem?_eq_getElem hlt, hn]

theorem PoolSound.kickGroup (size : ℕ) (h : PoolSound q l slots (q.m_SelectionPools team) left)
    (hpos : 0 < q.playerCount team) : ∃ pool again, q.kickGroup team size = (q.setPool team pool, again) ∧
      PoolSound q l slots pool left ∧ poolWork pool left < poolWork (q.m_SelectionPools team) left := by
  have hne : 0 < (q.m_SelectionPools team).SelectedGroups.length := by
    refine List.length_pos_of_ne_nil fun hnil ↦ ?_
    have hcounted := h.counted
    rw [hnil] at hcounted
    exact absurd hcounted hpos.ne'
  have hlt : q.groupToKick size (q.m_SelectionPools team).SelectedGroups 0 0
      ((q.m_SelectionPools team).SelectedGroups.head?.elim 0 q.size) false <
        (q.m_SelectionPools team).SelectedGroups.length :=
    groupToKick_lt hne (by omega)
  have hsum := ((List.getElem_cons_eraseIdx_perm hlt).map q.size).sum_eq
  rw [List.map_cons, List.sum_cons, ← h.counted] at hsum
  have hle := h.le_slots
  refine ⟨_, _, kickGroup_of_pos size hpos rfl hlt, ⟨?_, ?_, ?_, ?_⟩, ?_⟩
  · dsimp only
    omega
  · dsimp only
    omega
  · exact ((List.eraseIdx_sublist _ _).append_right left).trans h.sublist
  · exact fun g hg ↦ h.uninvited g ((List.eraseIdx_sublist _ _).subset hg)
  · rw [poolWork, poolWork, List.length_eraseIdx_of_lt hlt]
    omega

theorem PoolSound.skip {g : GroupId} (h : PoolSound q l slots pool (g :: left)) : PoolSound q l slots pool left :=
  ⟨h.counted, h.le_slots, ((List.sublist_cons_self g left).append_left _).trans h.sublist, h.uninvited⟩

/-- `SelectionPool::AddGroup` in the loops of `FillPlayersToBG`: the group is added or passed over, and only a full
pool ends the loop. -/
theorem PoolSound.addToPool {g : GroupId} {desired : ℕ} (hdesired : (desired : ℤ) ≤ slots)
    (h : PoolSound q l slots (q.m_SelectionPools team) (g :: left)) :
    (∃ pool, q.addToPool team g desired = (q.setPool team pool, true) ∧ PoolSound q l slots pool left ∧
      poolWork pool left < poolWork (q.m_SelectionPools team) (g :: left)) ∨
    q.addToPool team g desired = (q, false) := by
  rw [BattlegroundQueue.addToPool]
  split_ifs with hfits
  · obtain ⟨huninvited, hle⟩ := hfits
    refine .inl ⟨_, rfl, ⟨?_, ?_, ?_, ?_⟩, ?_⟩
    · simp [h.counted]
    · dsimp only
      omega
    · simpa using h.sublist
    · intro x hx
      rcases List.mem_append.mp hx with hx | hx
      · exact h.uninvited x hx
      · rw [List.mem_singleton.mp hx]
        simpa using huninvited
    · simp only [poolWork, List.length_append, List.length_cons, List.length_nil]
      omega
  · by_cases hroom : (q.m_SelectionPools team).PlayerCount < desired
    · refine .inl ⟨q.m_SelectionPools team, ?_, h.skip, ?_⟩
      · rw [setPool_self, decide_eq_true hroom]
      · simp only [poolWork, List.length_cons]
        omega
    · exact .inr (by rw [decide_eq_false hroom])

theorem PoolSound.addWhile {desired : ℕ} (hdesired : (desired : ℤ) ≤ slots)
    (h : PoolSound q l slots (q.m_SelectionPools team) left) :
    ∃ pool left', addWhile team desired q left = (q.setPool team pool, left') ∧ PoolSound q l slots pool left' ∧
      (poolWork pool left' < poolWork (q.m_SelectionPools team) left ∨
        pool = q.m_SelectionPools team ∧ left' = left) := by
  induction left generalizing q with
  | nil => exact ⟨_, [], by rw [BattlegroundQueue.addWhile, setPool_self], h, .inr ⟨rfl, rfl⟩⟩
  | cons g left ih =>
    rw [BattlegroundQueue.addWhile]
    rcases h.addToPool hdesired with ⟨pool, hadd, hsound, hwork⟩ | hfull
    · rw [hadd]
      have hsound' : PoolSound (q.setPool team pool) l slots ((q.setPool team pool).m_SelectionPools team) left := by
        rw [pool_setPool]
        exact ⟨hsound.counted, hsound.le_slots, hsound.sublist, hsound.uninvited⟩
      obtain ⟨pool', left', hmore, hsound'', hwork'⟩ := ih hsound'
      rw [pool_setPool] at hwork'
      refine ⟨pool', left', by rw [← setPool_setPool q team pool pool']; exact hmore,
        ⟨hsound''.counted, hsound''.le_slots, hsound''.sublist, hsound''.uninvited⟩, .inl ?_⟩
      rcases hwork' with hwork' | ⟨rfl, rfl⟩
      · exact hwork'.trans hwork
      · exact hwork
    · rw [hfull]
      exact ⟨_, _, by rw [setPool_self], h, .inr ⟨rfl, rfl⟩⟩

/-! ## Both pools -/

/-- What the pools are like throughout `FillPlayersToBG`. -/
structure Selecting (q : BattlegroundQueue) (lists : Team → List GroupId) (free : Team → ℤ) (s : Balance) : Prop where
  frame : Frame q s.queue
  pools : ∀ team, PoolSound q (lists team) (free team) (s.queue.m_SelectionPools team) (s.rest team)

/-- The work both pools can still make. -/
def Balance.work (s : Balance) : ℕ := poolWork (s.queue.m_SelectionPools .alliance) (s.rest .alliance) +
    poolWork (s.queue.m_SelectionPools .horde) (s.rest .horde)

theorem Balance.work_eq (s : Balance) (team : Team) : s.work = poolWork (s.queue.m_SelectionPools team) (s.rest team) +
      poolWork (s.queue.m_SelectionPools team.other) (s.rest team.other) := by
  cases team
  · rfl
  · exact Nat.add_comm _ _

theorem PoolSound.of_frame (hframe : Frame q q') (h : PoolSound q l slots pool left) :
    PoolSound q' l slots pool left := by
  obtain ⟨p, rfl⟩ := hframe
  exact ⟨h.counted, h.le_slots, h.sublist, h.uninvited⟩

theorem Frame.symm (h : Frame q q') : Frame q' q := by
  obtain ⟨p, rfl⟩ := h
  exact ⟨q.m_SelectionPools, rfl⟩

theorem kickGroup_of_eq_zero (size : ℕ) (h : q.playerCount team = 0) : q.kickGroup team size = (q, true) := by
  rw [playerCount] at h
  rw [kickGroup, h]

/-- The pool and the rest of the queue after a pass has kicked a group and offered others. -/
def refill (q : BattlegroundQueue) (team : Team) (size desired : ℕ) (left : List GroupId) :
    BattlegroundQueue × List GroupId :=
  if (q.kickGroup team size).2 then addWhile team desired (q.kickGroup team size).1 left
  else ((q.kickGroup team size).1, left)

theorem PoolSound.refill (size : ℕ) {desired : ℕ} (hdesired : (desired : ℤ) ≤ slots)
    (h : PoolSound q l slots (q.m_SelectionPools team) left) :
    ∃ pool left', q.refill team size desired left = (q.setPool team pool, left') ∧ PoolSound q l slots pool left' ∧
      (poolWork pool left' < poolWork (q.m_SelectionPools team) left ∨
        q.playerCount team = 0 ∧ pool = q.m_SelectionPools team ∧ left' = left) := by
  rw [BattlegroundQueue.refill]
  by_cases hzero : q.playerCount team = 0
  · rw [kickGroup_of_eq_zero size hzero, if_pos rfl]
    obtain ⟨pool, left', hadd, hsound, hwork⟩ := h.addWhile hdesired
    exact ⟨pool, left', hadd, hsound, hwork.imp_right fun heq ↦ ⟨hzero, heq⟩⟩
  · obtain ⟨pool, again, hkick, hsound, hwork⟩ := h.kickGroup size (Nat.pos_of_ne_zero hzero)
    rw [hkick]
    cases again with
    | false => exact ⟨pool, left, by rw [if_neg (by simp)], hsound, .inl hwork⟩
    | true =>
      have hsound' : PoolSound (q.setPool team pool) l slots ((q.setPool team pool).m_SelectionPools team) left := by
        rw [pool_setPool]
        exact hsound.of_frame (.setPool q team pool)
      obtain ⟨pool', left', hadd, hsound'', hwork'⟩ := hsound'.addWhile hdesired
      rw [pool_setPool] at hwork'
      refine ⟨pool', left', ?_, hsound''.of_frame (Frame.symm (.setPool q team pool)), .inl ?_⟩
      · simp [hadd, setPool_setPool]
      · rcases hwork' with hwork' | ⟨rfl, rfl⟩
        · exact hwork'.trans hwork
        · exact hwork

/-- The number of players a pass lets the pool of the fuller team have. -/
def refillCount (free : Team → ℤ) (team : Team) (s : Balance) : ℕ :=
  (if s.diff free team.other ≤ free team then free team - s.diff free team.other else 0).toNat

theorem balanceStep_eq (free : Team → ℤ) (team : Team) (s : Balance) {pool : SelectionPool} {left : List GroupId}
    (h : s.queue.refill team (s.diff free team.other - s.diff free team).toNat (refillCount free team s)
      (s.rest team) = (s.queue.setPool team pool, left)) :
    balanceStep free team s =
      if pool.PlayerCount = 0 then
        if free team ≤ s.diff free team.other + 1 then
          (⟨s.queue.setPool team pool, Function.update s.rest team left⟩, false)
        else (⟨((s.queue.setPool team pool).kickGroup team.other
          (s.diff free team.other - s.diff free team).toNat).1, Function.update s.rest team left⟩, true)
      else (⟨s.queue.setPool team pool, Function.update s.rest team left⟩, true) := by
  rw [refill, refillCount] at h
  simp [balanceStep, h, playerCount_setPool]

variable {lists : Team → List GroupId}

theorem Selecting.setPool (h : Selecting q lists free s) (hpool : PoolSound q (lists team) (free team) pool left) :
    Selecting q lists free ⟨s.queue.setPool team pool, Function.update s.rest team left⟩ := by
  refine ⟨h.frame.trans (.setPool ..), fun t ↦ ?_⟩
  dsimp only
  by_cases ht : t = team
  · subst ht
    simpa [pool_setPool] using hpool
  · have hpools : (s.queue.setPool team pool).m_SelectionPools t = s.queue.m_SelectionPools t :=
      Function.update_of_ne ht _ _
    rw [hpools, Function.update_of_ne ht]
    exact h.pools t

theorem Balance.work_setPool (s : Balance) (team : Team) (pool : SelectionPool) (left : List GroupId) :
    Balance.work ⟨s.queue.setPool team pool, Function.update s.rest team left⟩ =
      poolWork pool left + poolWork (s.queue.m_SelectionPools team.other) (s.rest team.other) := by
  rw [Balance.work_eq _ team]
  simp [pool_setPool, pool_setPool_other, Function.update_self, Function.update_of_ne (other_ne team)]

section

variable (h : Selecting q lists free s) (team : Team)
include h

theorem Selecting.kickGroup (size : ℕ) : Selecting q lists free ⟨(s.queue.kickGroup team size).1, s.rest⟩ ∧
      Balance.work ⟨(s.queue.kickGroup team size).1, s.rest⟩ ≤ s.work ∧
      (0 < s.queue.playerCount team → Balance.work ⟨(s.queue.kickGroup team size).1, s.rest⟩ < s.work) := by
  rcases Nat.eq_zero_or_pos (s.queue.playerCount team) with hzero | hpos
  · rw [kickGroup_of_eq_zero size hzero]
    exact ⟨h, le_refl _, fun hpos ↦ absurd hzero hpos.ne'⟩
  · obtain ⟨pool, again, hkick, hsound, hwork⟩ := ((h.pools team).of_frame h.frame).kickGroup size hpos
    have hrest : s.rest = Function.update s.rest team (s.rest team) := (Function.update_eq_self _ _).symm
    have hless : Balance.work ⟨(s.queue.kickGroup team size).1, s.rest⟩ < s.work := by
      rw [hkick, hrest, Balance.work_setPool, s.work_eq team]
      omega
    refine ⟨?_, hless.le, fun _ ↦ hless⟩
    rw [hkick, hrest]
    exact h.setPool (hsound.of_frame h.frame.symm)

theorem Selecting.refillCount_le : (refillCount free team s : ℤ) ≤ free team := by
  have hteam := (h.pools team).le_slots
  have hother := (h.pools team.other).le_slots
  rw [refillCount, Balance.diff, playerCount]
  split_ifs <;> omega

/-- **One pass of the loop.**  It keeps the pools sound and does some work, unless it leaves the loop: then the pool
is empty, and its team has at most one slot more left than the other. -/
theorem Selecting.balanceStep (hpos : 0 < s.queue.playerCount team ∨ 0 < s.queue.playerCount team.other) :
    Selecting q lists free (balanceStep free team s).1 ∧ ((BattlegroundQueue.balanceStep free team s).2 = true →
        (BattlegroundQueue.balanceStep free team s).1.work < s.work) ∧
      ((BattlegroundQueue.balanceStep free team s).2 = false →
        (BattlegroundQueue.balanceStep free team s).1.queue.playerCount team = 0 ∧
          free team ≤ (BattlegroundQueue.balanceStep free team s).1.diff free team.other + 1) := by
  obtain ⟨pool, left', hrefill, hsound, hwork⟩ :=
    ((h.pools team).of_frame h.frame).refill (s.diff free team.other - s.diff free team).toNat (h.refillCount_le team)
  have hnext := h.setPool (hsound.of_frame h.frame.symm)
  have hnextWork := s.work_setPool team pool left'
  have hsWork := s.work_eq team
  rw [balanceStep_eq free team s hrefill]
  split_ifs with hempty hbreak
  · dsimp only
    refine ⟨hnext, fun hc ↦ (by cases hc), fun _ ↦ ⟨?_, ?_⟩⟩
    · rw [playerCount, pool_setPool, hempty]
    · have hdiff : Balance.diff ⟨s.queue.setPool team pool, Function.update s.rest team left'⟩ free team.other =
          s.diff free team.other := by
        simp [Balance.diff, playerCount, pool_setPool_other]
      rw [hdiff]
      exact hbreak
  · obtain ⟨hkicked, hle, hless⟩ := hnext.kickGroup team.other (s.diff free team.other - s.diff free team).toNat
    dsimp only at hkicked hle hless ⊢
    refine ⟨hkicked, fun _ ↦ ?_, fun hc ↦ (by cases hc)⟩
    rcases hwork with hwork | ⟨hzero, rfl, rfl⟩
    · omega
    · have hother : 0 < (s.queue.setPool team (s.queue.m_SelectionPools team)).playerCount team.other := by
        rw [setPool_self]
        omega
      have hless := hless hother
      omega
  · dsimp only
    refine ⟨hnext, fun _ ↦ ?_, fun hc ↦ (by cases hc)⟩
    rcases hwork with hwork | ⟨hzero, rfl, rfl⟩
    · omega
    · exact absurd hzero hempty

end

/-! ## The loop -/

/-- Whether the loop goes on. -/
def Balance.Uneven (free : Team → ℤ) (s : Balance) : Prop := 1 < (s.diff free .alliance - s.diff free .horde).natAbs ∧
    (0 < s.queue.playerCount .horde ∨ 0 < s.queue.playerCount .alliance)

/-- The team whose pool a pass is about. -/
def Balance.fuller (free : Team → ℤ) (s : Balance) : Team :=
  if s.diff free .alliance < s.diff free .horde then .alliance else .horde

/-- The balancing loop of `FillPlayersToBG`, with no bound on its passes: it ends with the given queue. -/
inductive BalanceEnds (free : Team → ℤ) : Balance → BattlegroundQueue → Prop where
  | done (s : Balance) (h : ¬ s.Uneven free) : BalanceEnds free s s.queue
  | break (s s' : Balance) (h : s.Uneven free) (hstep : balanceStep free (s.fuller free) s = (s', false)) :
    BalanceEnds free s s'.queue
  | next (s s' : Balance) (q : BattlegroundQueue) (h : s.Uneven free)
    (hstep : balanceStep free (s.fuller free) s = (s', true)) (hends : BalanceEnds free s' q) : BalanceEnds free s q

/-- How the pools may be left: the teams have about as many slots left, nobody is selected, or a team of which nobody
is selected has at most one slot more left than the other. -/
def Balanced (free : Team → ℤ) (q : BattlegroundQueue) : Prop :=
  (free .alliance - q.playerCount .alliance - (free .horde - q.playerCount .horde)).natAbs ≤ 1 ∨
  (q.playerCount .alliance = 0 ∧ q.playerCount .horde = 0) ∨
  ∃ team, q.playerCount team = 0 ∧ free team ≤ free team.other - q.playerCount team.other + 1

theorem Balanced.of_not_uneven (h : ¬ s.Uneven free) : Balanced free s.queue := by
  rw [Balance.Uneven, not_and_or, not_lt, not_or, Nat.pos_iff_ne_zero, Nat.pos_iff_ne_zero, not_not, not_not] at h
  exact h.imp id fun h ↦ .inl ⟨h.2, h.1⟩

theorem balanceLoop_of_not {fuel : ℕ} (h : ¬ s.Uneven free) : balanceLoop free (fuel + 1) s = s.queue := by
  rw [balanceLoop]
  exact if_neg h

theorem balanceLoop_of_uneven {fuel : ℕ} (h : s.Uneven free) {s' : Balance} {again : Bool}
    (hstep : BattlegroundQueue.balanceStep free (s.fuller free) s = (s', again)) :
    balanceLoop free (fuel + 1) s = if again then balanceLoop free fuel s' else s'.queue := by
  rw [Balance.Uneven] at h
  rw [Balance.fuller] at hstep
  rw [balanceLoop]
  rw [if_pos h, hstep]
  cases again <;> rfl

theorem Selecting.balanceLoop {fuel : ℕ} (h : Selecting q lists free s) (hfuel : s.work ≤ fuel) :
    BalanceEnds free s (balanceLoop free fuel s) ∧ Balanced free (BattlegroundQueue.balanceLoop free fuel s) ∧
      ∃ rest, Selecting q lists free ⟨BattlegroundQueue.balanceLoop free fuel s, rest⟩ := by
  induction fuel generalizing s with
  | zero =>
    -- no group is selected, so the loop is not entered
    have hzero : ∀ team, s.queue.playerCount team = 0 := fun team ↦ by
      have hwork := s.work_eq team
      rw [poolWork] at hwork
      have hnil : (s.queue.m_SelectionPools team).SelectedGroups = [] := List.eq_nil_of_length_eq_zero (by omega)
      rw [playerCount, (h.pools team).counted, hnil]
      rfl
    have hnot : ¬ s.Uneven free := fun huneven ↦ by
      have hpos := huneven.2
      rw [hzero, hzero] at hpos
      omega
    exact ⟨.done s hnot, Balanced.of_not_uneven hnot, s.rest, h⟩
  | succ fuel ih =>
    by_cases huneven : s.Uneven free
    · have hpos : 0 < s.queue.playerCount (s.fuller free) ∨ 0 < s.queue.playerCount (s.fuller free).other := by
        rw [Balance.fuller]
        split_ifs
        · exact huneven.2.symm
        · exact huneven.2
      obtain ⟨hsound, hwork, hbreak⟩ := h.balanceStep (s.fuller free) hpos
      cases hstep : BattlegroundQueue.balanceStep free (s.fuller free) s with
      | mk s' again =>
        rw [hstep] at hsound hwork hbreak
        rw [balanceLoop_of_uneven huneven hstep]
        cases again with
        | true =>
          have hless := hwork rfl
          obtain ⟨hends, hbalanced, hrest⟩ := ih hsound (by omega)
          exact ⟨.next s s' _ huneven hstep hends, hbalanced, hrest⟩
        | false => exact ⟨.break s s' huneven hstep, .inr (.inr ⟨_, hbreak rfl⟩), _, hsound⟩
    · rw [balanceLoop_of_not huneven]
      exact ⟨.done s huneven, Balanced.of_not_uneven huneven, s.rest, h⟩

/-! ## The whole function -/

theorem Selecting.addWhile (h : Selecting q lists free s) (team : Team) {desired : ℕ}
    (hdesired : (desired : ℤ) ≤ free team) : ∃ pool left',
      addWhile team desired s.queue (s.rest team) = (s.queue.setPool team pool, left') ∧
      Selecting q lists free ⟨s.queue.setPool team pool, Function.update s.rest team left'⟩ ∧
      Balance.work ⟨s.queue.setPool team pool, Function.update s.rest team left'⟩ ≤ s.work := by
  obtain ⟨pool, left', hadd, hsound, hwork⟩ := ((h.pools team).of_frame h.frame).addWhile hdesired
  refine ⟨pool, left', hadd, h.setPool (hsound.of_frame h.frame.symm), ?_⟩
  rw [Balance.work_setPool, s.work_eq team]
  rcases hwork with hwork | ⟨rfl, rfl⟩
  · omega
  · exact le_refl _

variable (q) (config : BattlegroundConfig) (bg : Battleground) (b : BracketId)

/-- `BattlegroundQueue::FillPlayersToBG` with no bound on its loop: it ends with the given queue. -/
def FillPlayersToBGEnds (q' : BattlegroundQueue) : Prop :=
  let lists := fun team ↦ q.m_QueuedGroups b (.normal team)
  let (q, filled) := if bg.isArena then (q, false) else q.FillXPlayersToBG config b bg false
  if filled then q' = q
  else
    let free := fillSlots config bg fun team ↦ (lists team).length
    let (q, leftAlliance) := addWhile .alliance (free .alliance).toNat q (lists .alliance)
    let (q, leftHorde) := addWhile .horde (free .horde).toNat q (lists .horde)
    if config.invitationType = .noBalance then q' = q
    else BalanceEnds free ⟨q, Team.choose leftAlliance leftHorde⟩ q'

/-- What the pools are like when a battleground has been filled up. -/
structure Filled (q' : BattlegroundQueue) : Prop where
  counted : ∀ team, q'.playerCount team = ((q'.m_SelectionPools team).SelectedGroups.map q.size).sum
  le_slots : ∀ team, q'.playerCount team ≤ bg.GetFreeSlotsForTeam team
  uninvited : ∀ team, ∀ g ∈ (q'.m_SelectionPools team).SelectedGroups, q.isInvited g = false
  /-- The groups are from the queue of the team, none of them more often than there. -/
  sublist : ∀ team, ((q'.m_SelectionPools team).SelectedGroups).Sublist (q.m_QueuedGroups b (.normal team))
  balanced : config.invitationType ≠ .noBalance → ((bg.GetFreeSlotsForTeam .alliance - q'.playerCount .alliance : ℤ) -
      (bg.GetFreeSlotsForTeam .horde - q'.playerCount .horde)).natAbs ≤ 1 ∨
    (∀ team, (q'.m_SelectionPools team).SelectedGroups = []) ∨
    ∃ team, (q'.m_SelectionPools team).SelectedGroups = [] ∧
      (bg.GetFreeSlotsForTeam team : ℤ) ≤ bg.GetFreeSlotsForTeam team.other - q'.playerCount team.other + 1

variable {q config bg b}

section

variable (config : BattlegroundConfig) (bg : Battleground) (count : Team → ℕ)

theorem fillSlots_nonneg (team : Team) : 0 ≤ fillSlots config bg count team := by
  rw [fillSlots]
  dsimp only
  split_ifs <;> omega

theorem fillSlots_le (team : Team) : fillSlots config bg count team ≤ bg.GetFreeSlotsForTeam team := by
  rw [fillSlots]
  dsimp only
  split_ifs <;> omega

/-- Even teams are given other slots only when both have one left. -/
theorem fillSlots_cases : (∀ team, bg.GetFreeSlotsForTeam team = 1) ∨
      ∀ team, fillSlots config bg count team = bg.GetFreeSlotsForTeam team := by
  by_cases h : config.invitationType = .even ∧ (bg.GetFreeSlotsForTeam .horde : ℤ) = 1 ∧
      (bg.GetFreeSlotsForTeam .alliance : ℤ) = 1 ∧ count .alliance ≠ count .horde
  · refine .inl fun team ↦ ?_
    cases team
    · exact_mod_cast h.2.2.1
    · exact_mod_cast h.2.1
  · refine .inr fun team ↦ ?_
    rw [fillSlots]
    exact if_neg h

end

/-- Without mixed factions, the groups of each team are offered to its pool first. -/
theorem FillPlayersToBG_of_off (hoff : config.crossfactionEnabled = false ∨ bg.isArena = true)
    {q₁ q₂ : BattlegroundQueue} {leftAlliance leftHorde : List GroupId}
    (hfree : free = fillSlots config bg fun team ↦ (q.m_QueuedGroups b (.normal team)).length)
    (halliance : addWhile .alliance (free .alliance).toNat q (q.m_QueuedGroups b (.normal .alliance)) =
      (q₁, leftAlliance))
    (hhorde : addWhile .horde (free .horde).toNat q₁ (q.m_QueuedGroups b (.normal .horde)) = (q₂, leftHorde)) :
    (q.FillPlayersToBG config bg b = if config.invitationType = .noBalance then q₂
      else BattlegroundQueue.balanceLoop free (2 * ((q.m_QueuedGroups b (.normal .alliance)).length +
        (q.m_QueuedGroups b (.normal .horde)).length)) ⟨q₂, Team.choose leftAlliance leftHorde⟩) ∧
    ∀ q', FillPlayersToBGEnds q config bg b q' ↔ if config.invitationType = .noBalance then q' = q₂
      else BalanceEnds free ⟨q₂, Team.choose leftAlliance leftHorde⟩ q' := by
  have hfilled : (if bg.isArena then (q, false) else q.FillXPlayersToBG config b bg false) = (q, false) := by
    split_ifs with harena
    · rfl
    · have hcross : config.crossfactionEnabled = false := hoff.resolve_right harena
      rw [FillXPlayersToBG, fillsX, hcross]
      rfl
  subst hfree
  constructor
  · simp [FillPlayersToBG, hfilled, halliance, hhorde]
  · intro q'
    simp [FillPlayersToBGEnds, hfilled, halliance, hhorde]

theorem selecting_init (q : BattlegroundQueue) (hfree : ∀ team, 0 ≤ free team) :
    Selecting q lists free ⟨(q.init .alliance).init .horde, lists⟩ := by
  refine ⟨(Frame.init q .alliance).trans (.init _ .horde), fun team ↦ ?_⟩
  have hpool : ((q.init .alliance).init .horde).m_SelectionPools team = ⟨[], 0⟩ := by
    cases team <;> rfl
  rw [hpool]
  exact ⟨rfl, hfree team, List.Sublist.refl _, by simp⟩

theorem Selecting.filled {rest : Team → List GroupId} (hfree : free = fillSlots config bg fun team ↦
      (q.m_QueuedGroups b (.normal team)).length)
    (h : Selecting q (fun team ↦ q.m_QueuedGroups b (.normal team)) free ⟨q', rest⟩)
    (hgroups : ∀ team, ∀ g ∈ q.m_QueuedGroups b (.normal team), 0 < q.size g)
    (hbalanced : config.invitationType ≠ .noBalance → Balanced free q') : Filled q config bg b q' := by
  have hslots : ∀ team, q'.playerCount team ≤ bg.GetFreeSlotsForTeam team := fun team ↦ by
    have hle := (h.pools team).le_slots
    have hfill := fillSlots_le config bg (fun team ↦ (q.m_QueuedGroups b (.normal team)).length) team
    rw [← hfree] at hfill
    exact_mod_cast hle.trans hfill
  have hsublist : ∀ team, (q'.m_SelectionPools team).SelectedGroups.Sublist (q.m_QueuedGroups b (.normal team)) :=
    fun team ↦ (List.sublist_append_left _ _).trans (h.pools team).sublist
  have hempty : ∀ team, q'.playerCount team = 0 → (q'.m_SelectionPools team).SelectedGroups = [] := by
    intro team hzero
    refine List.eq_nil_iff_forall_not_mem.mpr fun g hg ↦ ?_
    have hcounted : 0 = ((q'.m_SelectionPools team).SelectedGroups.map q.size).sum :=
      hzero.symm.trans (h.pools team).counted
    have hle := List.single_le_sum (fun _ _ ↦ Nat.zero_le _) _ (List.mem_map_of_mem (f := q.size) hg)
    have hpos := hgroups team g ((hsublist team).subset hg)
    omega
  refine ⟨fun team ↦ (h.pools team).counted, hslots, fun team ↦ (h.pools team).uninvited, hsublist, fun hb ↦ ?_⟩
  have halliance := hslots .alliance
  have hhorde := hslots .horde
  rcases fillSlots_cases config bg (fun team ↦ (q.m_QueuedGroups b (.normal team)).length) with hone | hsame
  · rw [hone] at halliance hhorde
    rw [hone, hone]
    exact .inl (by omega)
  · rw [← hfree] at hsame
    have hout := hbalanced hb
    rw [Balanced, hsame, hsame] at hout
    rcases hout with hnear | ⟨hali, hhorde⟩ | ⟨team, hzero, hle⟩
    · exact .inl hnear
    · refine .inr (.inl fun team ↦ hempty team ?_)
      cases team
      exacts [hali, hhorde]
    · rw [hsame, hsame] at hle
      exact .inr (.inr ⟨team, hempty team hzero, hle⟩)

/-- **The balancing loop ends, and leaves the pools filled and balanced as far as they can be.** -/
theorem FillPlayersToBG_balances (q : BattlegroundQueue) (config : BattlegroundConfig) (bg : Battleground)
    (b : BracketId) (hoff : config.crossfactionEnabled = false ∨ bg.isArena = true)
    (hgroups : ∀ team, ∀ g ∈ q.m_QueuedGroups b (.normal team), 0 < q.size g) :
    FillPlayersToBGEnds ((q.init .alliance).init .horde) config bg b
      (((q.init .alliance).init .horde).FillPlayersToBG config bg b) ∧
    Filled q config bg b (((q.init .alliance).init .horde).FillPlayersToBG config bg b) := by
  obtain ⟨free, hfree⟩ :
      ∃ free, free = fillSlots config bg fun team ↦ (q.m_QueuedGroups b (.normal team)).length := ⟨_, rfl⟩
  have hnonneg : ∀ team, 0 ≤ free team := fun team ↦ by
    rw [hfree]
    exact fillSlots_nonneg ..
  have hcast : ∀ team, ((free team).toNat : ℤ) ≤ free team := fun team ↦ (Int.toNat_of_nonneg (hnonneg team)).le
  have hstart : Selecting q (fun team ↦ q.m_QueuedGroups b (.normal team)) free
      ⟨(q.init .alliance).init .horde, fun team ↦ q.m_QueuedGroups b (.normal team)⟩ := selecting_init q hnonneg
  obtain ⟨poolA, leftA, hA, hselA, hworkA⟩ := hstart.addWhile .alliance (hcast .alliance)
  obtain ⟨poolH, leftH, hH, hselH, hworkH⟩ := hselA.addWhile .horde (hcast .horde)
  dsimp only at hA hH hselH hworkA hworkH
  have hrest : ∀ l : Team → List GroupId,
      Function.update (Function.update l .alliance leftA) .horde leftH = Team.choose leftA leftH := by
    intro l
    funext team
    cases team <;> rfl
  have hhorde : Function.update (fun team ↦ q.m_QueuedGroups b (.normal team)) .alliance leftA .horde =
      q.m_QueuedGroups b (.normal .horde) := rfl
  rw [hrest] at hselH hworkH
  rw [hhorde] at hH
  have hwork : Balance.work ⟨(q.init .alliance).init .horde, fun team ↦ q.m_QueuedGroups b (.normal team)⟩ =
      2 * ((q.m_QueuedGroups b (.normal .alliance)).length + (q.m_QueuedGroups b (.normal .horde)).length) := by
    rw [mul_add]
    rfl
  obtain ⟨heq, hends⟩ := FillPlayersToBG_of_off (q := (q.init .alliance).init .horde) hoff hfree hA hH
  rw [hends, heq]
  have hfuel := (hworkH.trans hworkA).trans hwork.le
  obtain ⟨hloop, hbalanced, rest, hsound⟩ := hselH.balanceLoop hfuel
  by_cases hmode : config.invitationType = .noBalance
  · rw [if_pos hmode, if_pos hmode]
    exact ⟨rfl, hselH.filled hfree hgroups fun hnot ↦ absurd hmode hnot⟩
  · rw [if_neg hmode, if_neg hmode]
    exact ⟨hloop, hsound.filled hfree hgroups fun _ ↦ hbalanced⟩

/-- A server that balances the teams. -/
def balancingConfig : BattlegroundConfig := { plainConfig with invitationType := .balanced }

/-- Friends who join a battleground together. -/
def friends (team : Team) (leader : ObjectGuid) (members : List ObjectGuid) : JoinRequest where
  leader := leader
  team := team
  grp := some members
  BgTypeId := 2
  bracketId := 0
  ArenaType := 0
  isRated := false
  isPremade := false
  ArenaRating := 0
  MatchmakerRating := 0
  arenateamid := 0
  CFSTeam := 0

/-- Three friends of the alliance and one player of the horde are waiting. -/
def threeAgainstOne : BattlegroundQueue :=
  (new.AddGroup balancingConfig (friends .alliance 1 [1, 2, 3])).AddGroup balancingConfig (friends .horde 4 [4])

/-- A running battleground with five free slots in each team. -/
def fiveSlots : Battleground := { arena 1 with isArena := false, GetFreeSlotsForTeam := fun _ ↦ 5 }

/-- The friends do not get in, and the horde has one slot less left then. -/
theorem FillPlayersToBG_balances_threeAgainstOne :
    FillPlayersToBGEnds ((threeAgainstOne.init .alliance).init .horde) balancingConfig fiveSlots 0
        (((threeAgainstOne.init .alliance).init .horde).FillPlayersToBG balancingConfig fiveSlots 0) ∧
      Filled threeAgainstOne balancingConfig fiveSlots 0
        (((threeAgainstOne.init .alliance).init .horde).FillPlayersToBG balancingConfig fiveSlots 0) :=
  FillPlayersToBG_balances threeAgainstOne balancingConfig fiveSlots 0 (.inl rfl) fun team g hg ↦ by
      have hall : ∀ team, (threeAgainstOne.m_QueuedGroups 0 (.normal team)).all fun g ↦
          decide (0 < threeAgainstOne.size g) := fun team ↦ by
        cases team <;> decide +kernel
      exact of_decide_eq_true (List.all_eq_true.mp (hall team) g hg)

end Gundrak.BattlegroundQueue
