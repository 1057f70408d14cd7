import Gundrak.Util.Machine
import Gundrak.Util.ObjectGuid
import Gundrak.Util.TreeMap

/-!
# Knowledge points

A character has points of knowledge to spend (`MapTotalStatsPointsPlayer`) and a total of what it has
spent (`MapTotalUpgradePlayers`), which decides its rank and with it the price of the next upgrade.  Both
are read from the database at login, and then changed by `GiveStatsPointsToPlayer`, by `AddStatToPlayer`,
which buys an upgrade of a stat, and by `ResetStatsAllocation`, which takes all upgrades back.

What the upgrades do to the character (`UpdateStatsPlayer`) and the messages are left out.  The amounts in
the table `characters_stats_boost` are whole numbers below 999999, for which its `float` column is exact.
-/

open Std (ExtTreeMap)

namespace Gundrak

/-- The two maps of `StatsBoost`, and the table `characters_stats_boost` as a function of the columns
`guid` and `stat_type`. -/
structure StatsBoost where
  MapTotalUpgradePlayers : ExtTreeMap ObjectGuid UInt64
  MapTotalStatsPointsPlayer : ExtTreeMap ObjectGuid UInt64
  characters_stats_boost : ObjectGuid → UInt32 → Option UInt64

namespace StatsBoost

/-- `StatsBoost::MAX_UPDATE_STAT`: the stats that have a maximum of their own. -/
def MAX_UPDATE_STAT : List (UInt32 × UInt64) :=
  [(1, 250), (2, 250), (3, 300), (4, 250), (5, 250), (6, 300), (7, 250), (8, 250), (9, 250),
   (10, 250), (11, 250), (12, 300), (19, 250), (16, 300), (17, 250), (18, 250), (15, 250), (20, 250),
   (21, 250), (22, 250), (23, 250)]

/-- `StatsBoost::RanksRequiredUpgrade`: the ranks with a minimum and a maximum. -/
def RanksRequiredUpgrade : List (UInt32 × UInt32 × UInt32) :=
  [(1, 0, 500), (2, 500, 2000), (3, 1000, 1500), (4, 1500, 2000), (5, 1500, 2000), (6, 2000, 2500),
   (7, 2500, 6000), (8, 6000, 8000), (9, 8000, 10000), (10, 10000, 20000), (11, 20000, 21000),
   (12, 21000, 30000), (14, 30000, 60000), (15, 60000, 9999999)]

/-- The loop of `CalculateUpgrade`, with the values its two variables have before the next entry. -/
def calculateUpgrade (totalUpgrade : UInt64) :
    List (UInt32 × UInt32 × UInt32) → UInt32 × UInt32 → UInt32 × UInt32
  | [], required => required
  | (rank, min, max) :: ranks, required =>
    if min.toUInt64 ≥ totalUpgrade ∧ totalUpgrade ≤ max.toUInt64 then required
    else calculateUpgrade totalUpgrade ranks (rank, max)

/-- `StatsBoost::CalculateUpgrade`: the rank and the next upgrade.  `uninit` is what is in the two
variables, which the function declares without a value. -/
def CalculateUpgrade (uninit : UInt32 × UInt32) (totalUpgrade : UInt64) : UInt32 × UInt32 :=
  calculateUpgrade totalUpgrade RanksRequiredUpgrade uninit

/-- `StatsBoost::GetStatsPoints`. -/
def GetStatsPoints (b : StatsBoost) (guid : ObjectGuid) : UInt64 := (b.MapTotalStatsPointsPlayer[guid]?).getD 0

/-- `StatsBoost::GetTotalUpgradePlayer`. -/
def GetTotalUpgradePlayer (b : StatsBoost) (guid : ObjectGuid) : UInt64 := (b.MapTotalUpgradePlayers[guid]?).getD 0

/-- `StatsBoost::UpdateStatsPlayerOnLogin`, for a row of `characters` with these two values. -/
def UpdateStatsPlayerOnLogin (b : StatsBoost) (guid : ObjectGuid) (statsPoints totalUpgrade : UInt64) :
    StatsBoost :=
  { b with
    MapTotalUpgradePlayers := b.MapTotalUpgradePlayers.insert guid totalUpgrade
    MapTotalStatsPointsPlayer := b.MapTotalStatsPointsPlayer.insert guid statsPoints }

/-- `StatsBoost::RemoveStatsPointsToPlayer`. -/
def RemoveStatsPointsToPlayer (b : StatsBoost) (guid : ObjectGuid) (amount : UInt64) : StatsBoost :=
  { b with
    MapTotalUpgradePlayers := b.MapTotalUpgradePlayers.modify guid (· + amount)
    MapTotalStatsPointsPlayer := b.MapTotalStatsPointsPlayer.modify guid (· - amount) }

/-- `StatsBoost::GiveStatsPointsToPlayer`. -/
def GiveStatsPointsToPlayer (b : StatsBoost) (guid : ObjectGuid) (amount : UInt64) : StatsBoost :=
  { b with MapTotalStatsPointsPlayer := b.MapTotalStatsPointsPlayer.modify guid (· + amount) }

/-- `MAX_UPDATE` for a stat. -/
def maxUpdate (stat : UInt32) : UInt64 := (MAX_UPDATE_STAT.lookup stat).getD 999999

/-- `amountUpgrade`: what the table has for a stat of the player, and 1 without a row. -/
def amountUpgrade (b : StatsBoost) (guid : ObjectGuid) (stat : UInt32) : UInt64 :=
  (b.characters_stats_boost guid stat).getD 1

/-- `costToUpgradeStat`: an `int` times a `uint32`, in 32 bits. -/
def costToUpgradeStat (b : StatsBoost) (guid : ObjectGuid) (amount : UInt32) (uninit : UInt32 × UInt32) :
    UInt64 :=
  ((CalculateUpgrade uninit (b.GetTotalUpgradePlayer guid)).1 * amount).toUInt64

/-- The statement that adds an amount to the row of a stat, or makes the row. -/
def insertRow (rows : ObjectGuid → UInt32 → Option UInt64) (guid : ObjectGuid) (stat : UInt32)
    (amount : UInt64) : ObjectGuid → UInt32 → Option UInt64 :=
  fun g s ↦ if g = guid ∧ s = stat then some ((rows guid stat).getD 0 + amount) else rows g s

/-- `StatsBoost::AddStatToPlayer`. -/
def AddStatToPlayer (b : StatsBoost) (guid : ObjectGuid) (amount stat : UInt32)
    (uninit : UInt32 × UInt32) : StatsBoost :=
  if maxUpdate stat ≤ b.amountUpgrade guid stat + amount.toUInt64 then b
  else if b.GetStatsPoints guid < b.costToUpgradeStat guid amount uninit then b
  else
    RemoveStatsPointsToPlayer { b with
        characters_stats_boost := insertRow b.characters_stats_boost guid stat amount.toUInt64 }
      guid (b.costToUpgradeStat guid amount uninit)

/-- `StatsBoost::ResetStatsAllocation`. -/
def ResetStatsAllocation (b : StatsBoost) (guid : ObjectGuid) : StatsBoost :=
  let b' := match b.MapTotalUpgradePlayers[guid]? with
    | none => b
    | some totalUpgrade =>
      { b with
        MapTotalStatsPointsPlayer := b.MapTotalStatsPointsPlayer.modify guid (· + totalUpgrade - 1)
        MapTotalUpgradePlayers := b.MapTotalUpgradePlayers.insert guid 1 }
  { b' with
    characters_stats_boost := fun g s ↦ if g = guid then none else b'.characters_stats_boost g s }

/-- The calls that change the points of a player. -/
inductive Call where
  | UpdateStatsPlayerOnLogin (guid : ObjectGuid) (statsPoints totalUpgrade : UInt64)
  | GiveStatsPointsToPlayer (guid : ObjectGuid) (amount : UInt64)
  | AddStatToPlayer (guid : ObjectGuid) (amount stat : UInt32) (uninit : UInt32 × UInt32)
  | ResetStatsAllocation (guid : ObjectGuid)

/-- The player has logged in: it has an entry in both maps. -/
def LoggedIn (b : StatsBoost) (guid : ObjectGuid) : Prop :=
  guid ∈ b.MapTotalUpgradePlayers ∧ guid ∈ b.MapTotalStatsPointsPlayer

instance (b : StatsBoost) (guid : ObjectGuid) : Decidable (b.LoggedIn guid) := inferInstanceAs (Decidable (_ ∧ _))

/-- What a call does; all but the login are for players that have logged in. -/
def next (b : StatsBoost) : Call → Option StatsBoost
  | .UpdateStatsPlayerOnLogin guid statsPoints totalUpgrade =>
    some (b.UpdateStatsPlayerOnLogin guid statsPoints totalUpgrade)
  | .GiveStatsPointsToPlayer guid amount =>
    if b.LoggedIn guid then some (b.GiveStatsPointsToPlayer guid amount) else none
  | .AddStatToPlayer guid amount stat uninit =>
    if b.LoggedIn guid then some (b.AddStatToPlayer guid amount stat uninit) else none
  | .ResetStatsAllocation guid =>
    if b.LoggedIn guid then some (b.ResetStatsAllocation guid) else none

/-! ## The price of an upgrade -/

/-- The loop leaves its variables as they are, or with the values of one of the entries. -/
theorem calculateUpgrade_mem (totalUpgrade : UInt64) (ranks : List (UInt32 × UInt32 × UInt32))
    (required : UInt32 × UInt32) :
    (calculateUpgrade totalUpgrade ranks required).1 ∈ required.1 :: ranks.map Prod.fst := by
  induction ranks generalizing required with
  | nil => simp [calculateUpgrade]
  | cons entry ranks ih =>
    obtain ⟨rank, min, max⟩ := entry
    rw [calculateUpgrade]
    split
    · simp
    · exact List.mem_cons_of_mem _ (ih (rank, max))

section

variable {totalUpgrade : UInt64} (h : totalUpgrade ≠ 0) (uninit : UInt32 × UInt32)
include h

theorem calculateUpgrade_of_ne_zero : CalculateUpgrade uninit totalUpgrade =
      calculateUpgrade totalUpgrade RanksRequiredUpgrade.tail (1, 500) := by
  refine if_neg fun hle ↦ h ?_
  have h0 := UInt64.le_iff_toNat_le.mp hle.1
  rw [← UInt64.toNat_inj]
  exact Nat.le_zero.mp h0

theorem rank_le : (CalculateUpgrade uninit totalUpgrade).1.toNat ≤ 15 := by
  have hall : ∀ rank ∈ (1 : UInt32) :: RanksRequiredUpgrade.tail.map Prod.fst, rank.toNat ≤ 15 := by
    simp [RanksRequiredUpgrade]
  rw [calculateUpgrade_of_ne_zero h]
  exact hall _ (calculateUpgrade_mem _ _ _)

end

theorem maxUpdate_le (stat : UInt32) : (maxUpdate stat).toNat ≤ 999999 := by
  have hall : ∀ p ∈ MAX_UPDATE_STAT, p.2.toNat ≤ 999999 := by simp [MAX_UPDATE_STAT]
  rw [maxUpdate]
  cases h : MAX_UPDATE_STAT.lookup stat with
  | none => exact Nat.le_refl _
  | some max =>
    obtain ⟨l₁, l₂, hl, _⟩ := List.lookup_eq_some_iff.mp h
    exact hall _ (hl ▸ List.mem_append_right _ List.mem_cons_self)

end StatsBoost

end Gundrak
