import Gundrak.World.StatsBoost

/-!
# Rewards for killing players

`OnPVPKill` of the script gives ten points to a player who kills another one, unless it is the one he has
killed before.  What it does with the first victim of a player is the `else` of the inner `if`, so that
nothing is ever written to `mapLastKillPlayers`, and nobody is ever given anything.

* `IsFresh`: the kills that are to be rewarded.
* **`rewardsFreshKills_iff`**: the rewards are right only where nobody kills anybody else.
-/

open Std (ExtTreeMap)

namespace Gundrak.PvpKills

/-- A player has killed another one, or himself. -/
structure Kill where
  killer : ObjectGuid
  killed : ObjectGuid

/-- The script with its map, and the points it gives. -/
structure StatsBoostSystem where
  mapLastKillPlayers : ExtTreeMap ObjectGuid ObjectGuid
  boost : StatsBoost

/-- The victim is noted, and the killer is given his points. -/
def StatsBoostSystem.reward (s : StatsBoostSystem) (kill : Kill) : StatsBoostSystem :=
  { mapLastKillPlayers := s.mapLastKillPlayers.insert kill.killer kill.killed
    boost := s.boost.GiveStatsPointsToPlayer kill.killer 10 }

/-- `OnPVPKill`, and whether it gives the killer his points. -/
def OnPVPKill (s : StatsBoostSystem) (kill : Kill) : StatsBoostSystem × Bool :=
  if kill.killer = kill.killed then (s, false)
  else
    match s.mapLastKillPlayers[kill.killer]? with
    | none => (s, false)
    | some last =>
      -- the two branches do the same: the second one is meant for a killer that is not found
      if last ≠ kill.killed then (s.reward kill, true) else (s.reward kill, true)

/-- The kills since the server has been started, one after the other. -/
def afterKills (b : StatsBoost) (kills : List Kill) : StatsBoostSystem :=
  kills.foldl (fun s kill ↦ (OnPVPKill s kill).1) ⟨∅, b⟩

/-- Whom a player has killed last. -/
def lastVictim (kills : List Kill) (killer : ObjectGuid) : Option ObjectGuid :=
  (kills.filter fun k ↦ k.killer = killer ∧ k.killer ≠ k.killed).getLast?.map Kill.killed

/-- A player kills somebody else, and not the one he has killed last. -/
def IsFresh (kills : List Kill) (kill : Kill) : Prop :=
  kill.killer ≠ kill.killed ∧ lastVictim kills kill.killer ≠ some kill.killed

/-- Points are given for exactly the kills they are to be given for. -/
def RewardsFreshKills (b : StatsBoost) (kills : List Kill) : Prop := ∀ (n : ℕ) (kill : Kill), kills[n]? = some kill →
    ((OnPVPKill (afterKills b (kills.take n)) kill).2 = true ↔ IsFresh (kills.take n) kill)

theorem OnPVPKill_of_empty {s : StatsBoostSystem} (h : s.mapLastKillPlayers = ∅) (kill : Kill) :
    OnPVPKill s kill = (s, false) := by
  simp [OnPVPKill, h]

theorem afterKills_eq (b : StatsBoost) (kills : List Kill) : afterKills b kills = ⟨∅, b⟩ := by
  rw [afterKills]
  induction kills with
  | nil => rfl
  | cons kill kills ih => rwa [List.foldl_cons, OnPVPKill_of_empty rfl]

theorem lastVictim_eq_none {kills : List Kill} (h : ∀ k ∈ kills, k.killer = k.killed) (killer : ObjectGuid) :
    lastVictim kills killer = none := by
  have hnone : (kills.filter fun k ↦ k.killer = killer ∧ k.killer ≠ k.killed) = [] :=
    List.filter_eq_nil_iff.mpr fun k hk ↦ by simp [h k hk]
  rw [lastVictim, hnone]
  rfl

/-- **Only without a kill** are the rewards right. -/
theorem rewardsFreshKills_iff (b : StatsBoost) (kills : List Kill) :
    RewardsFreshKills b kills ↔ ∀ kill ∈ kills, kill.killer = kill.killed := by
  have hnever (n : ℕ) (kill : Kill) : (OnPVPKill (afterKills b (kills.take n)) kill).2 = false := by
    rw [afterKills_eq, OnPVPKill_of_empty rfl]
  constructor
  · intro h kill hkill
    obtain ⟨n, hn⟩ := List.mem_iff_getElem?.mp hkill
    -- all the kills before it are none, so that it is the first one
    induction n using Nat.strong_induction_on generalizing kill with
    | _ n ih =>
      have hbefore : ∀ k ∈ kills.take n, k.killer = k.killed := by
        intro k hk
        obtain ⟨m, hm⟩ := List.mem_iff_getElem?.mp hk
        rw [List.getElem?_take] at hm
        split at hm
        · exact ih m ‹_› k (List.mem_of_getElem? hm) hm
        · cases hm
      by_contra hne
      have hfresh : IsFresh (kills.take n) kill :=
        ⟨hne, by simp [lastVictim_eq_none hbefore]⟩
      exact Bool.false_ne_true ((hnever n kill).symm.trans ((h n kill hn).mpr hfresh))
  · intro h n kill hn
    rw [hnever]
    exact ⟨fun hfalse ↦ absurd hfalse Bool.false_ne_true,
      fun hfresh ↦ absurd (h kill (List.mem_of_getElem? hn)) hfresh.1⟩

/-- The first kill of a player. -/
theorem not_rewardsFreshKills : ¬ RewardsFreshKills ⟨∅, ∅, fun _ _ ↦ none⟩ [⟨1, 2⟩] := by
  intro h
  have hkill := (h 0 ⟨1, 2⟩ rfl).mpr ⟨by decide, by decide⟩
  rw [afterKills_eq, OnPVPKill_of_empty rfl] at hkill
  cases hkill

end Gundrak.PvpKills
