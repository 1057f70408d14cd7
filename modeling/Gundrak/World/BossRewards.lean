import Gundrak.Groups.Group
import Gundrak.World.StatsBoost

/-!
# Points for a boss

When a boss is killed in a dungeon, the members of the killer's group that are online are given points of
knowledge, if they are not too far above the boss in level.  `RewardStatsPointsOnKillBoss` goes through the
member slots twice: first to find out whether the group is to be rewarded, and then to reward it.

In the first loop every member that is online assigns its own verdict to `canRewardGroup`, and the one that
stays is the verdict of the last of them (`canRewardGroup_eq`).  So the order of the slots matters: with one
member that is too high and one that is not, everyone gets points or no one does, according to which of the
two is the last.

**`sameForAllOrders_iff`** says that this is all there is: the outcome is the same for every order of the
slots just if there is nothing to give, or all members that are online have the same verdict.
-/

open Std (ExtTreeMap)

namespace Gundrak

open Grouping (MemberSlot)

/-- What is asked of a killed `Creature`. -/
structure KilledCreature where
  level : UInt8
  IsPet : Bool
  /-- of its template -/
  type_flags : UInt32
  /-- of its template -/
  flags_extra : UInt32

namespace KilledCreature

/-- `CREATURE_TYPE_FLAG_BOSS_MOB`. -/
def CREATURE_TYPE_FLAG_BOSS_MOB : UInt32 := 0x00000004

/-- `CREATURE_FLAG_EXTRA_DUNGEON_BOSS`. -/
def CREATURE_FLAG_EXTRA_DUNGEON_BOSS : UInt32 := 0x10000000

/-- `Creature::isWorldBoss`. -/
def isWorldBoss (killed : KilledCreature) : Bool :=
  if killed.IsPet then false else killed.type_flags &&& CREATURE_TYPE_FLAG_BOSS_MOB ≠ 0

/-- `Creature::IsDungeonBoss`. -/
def IsDungeonBoss (killed : KilledCreature) : Bool := killed.flags_extra &&& CREATURE_FLAG_EXTRA_DUNGEON_BOSS ≠ 0

end KilledCreature

namespace StatsBoost

variable {b : StatsBoost} {killed : KilledCreature} {maxPlayerLevel : UInt32}
  {FindPlayer : ObjectGuid → Option UInt8} {IsNonRaidDungeon : Bool} {group : Option (List MemberSlot)}
  {slots slots' : List MemberSlot}

/-- `StatsBoost::REWARD_ON_KILL_BOSS`. -/
def REWARD_ON_KILL_BOSS : UInt64 := 25

/-- What one member that is online does to `canRewardGroup`.  The levels are compared as `int`, except that
the configured one is a `uint32`. -/
def verdict (killed : KilledCreature) (maxPlayerLevel : UInt32) (level : UInt8) (canRewardGroup : Bool) : Bool :=
  if killed.isWorldBoss then level.toNat ≤ killed.level.toNat + 3
  else if killed.IsDungeonBoss then
    if level.toUInt32 = maxPlayerLevel then level.toNat ≤ killed.level.toNat + 3
    else level.toNat ≤ killed.level.toNat + 5
  else canRewardGroup

/-- The first loop of `RewardStatsPointsOnKillBoss`.  `FindPlayer` has the level of a player that is in the
world. -/
def canRewardGroup (killed : KilledCreature) (maxPlayerLevel : UInt32) (FindPlayer : ObjectGuid → Option UInt8)
    (slots : List MemberSlot) : Bool :=
  slots.foldl (fun canRewardGroup slot ↦ match FindPlayer slot.guid with
    | some level => verdict killed maxPlayerLevel level canRewardGroup
    | none => canRewardGroup) false

/-- What `GiveStatsPointsToPlayer` is called with in the second loop, for one slot. -/
def gift (killed : KilledCreature) (FindPlayer : ObjectGuid → Option UInt8) (canRewardGroup : Bool)
    (slot : MemberSlot) : Option (ObjectGuid × UInt64) :=
  if (FindPlayer slot.guid).isSome ∧ canRewardGroup then
    if killed.isWorldBoss then some (slot.guid, REWARD_ON_KILL_BOSS * 2)
    else if killed.IsDungeonBoss then some (slot.guid, REWARD_ON_KILL_BOSS)
    else none
  else none

/-- `StatsBoost::RewardStatsPointsOnKillBoss`, for a killer on a map that is a dungeon but no raid, or is
not, and with these slots in its group, if it has one.  The second value is whom it calls
`GiveStatsPointsToPlayer` for, and with how much. -/
def RewardStatsPointsOnKillBoss (b : StatsBoost) (maxPlayerLevel : UInt32)
    (FindPlayer : ObjectGuid → Option UInt8) (IsNonRaidDungeon : Bool) (group : Option (List MemberSlot))
    (killed : KilledCreature) : StatsBoost × List (ObjectGuid × UInt64) :=
  match IsNonRaidDungeon, group with
  | true, some slots =>
    let gifts := slots.filterMap
      (gift killed FindPlayer (canRewardGroup killed maxPlayerLevel FindPlayer slots))
    (gifts.foldl (fun b g ↦ b.GiveStatsPointsToPlayer g.1 g.2) b, gifts)
  | _, _ => (b, [])

/-- The slots of a group in another order. -/
def Reordered : Option (List MemberSlot) → Option (List MemberSlot) → Prop
  | some slots, some slots' => slots'.Perm slots
  | none, none => True
  | _, _ => False

/-- Two outcomes give the same points to the same players: the calls are the same but for their order, and
they leave every player with the same points. -/
def SameRewards (x y : StatsBoost × List (ObjectGuid × UInt64)) : Prop := x.1 = y.1 ∧ x.2.Perm y.2

/-- All orders of the slots have the same outcome. -/
def SameForAllOrders (b : StatsBoost) (maxPlayerLevel : UInt32) (FindPlayer : ObjectGuid → Option UInt8)
    (IsNonRaidDungeon : Bool) (group : Option (List MemberSlot)) (killed : KilledCreature) : Prop :=
  ∀ group', Reordered group group' →
    SameRewards (b.RewardStatsPointsOnKillBoss maxPlayerLevel FindPlayer IsNonRaidDungeon group' killed)
      (b.RewardStatsPointsOnKillBoss maxPlayerLevel FindPlayer IsNonRaidDungeon group killed)

/-- The levels of the members that are online. -/
def onlineLevels (FindPlayer : ObjectGuid → Option UInt8) (slots : List MemberSlot) : List UInt8 :=
  slots.filterMap fun slot ↦ FindPlayer slot.guid

/-- There is nothing to give for the kill, or all members of the group that are online have the same
verdict. -/
def OneVerdict (maxPlayerLevel : UInt32) (FindPlayer : ObjectGuid → Option UInt8) (IsNonRaidDungeon : Bool)
    (group : Option (List MemberSlot)) (killed : KilledCreature) : Prop :=
  IsNonRaidDungeon = true → killed.isWorldBoss = true ∨ killed.IsDungeonBoss = true →
    ∀ slots, group = some slots → ∀ level ∈ onlineLevels FindPlayer slots, ∀ level' ∈ onlineLevels FindPlayer slots,
        verdict killed maxPlayerLevel level false = verdict killed maxPlayerLevel level' false

/-! ## The first loop -/

/-- For a boss, the verdict of a member does not depend on the ones before it. -/
theorem verdict_eq (h : killed.isWorldBoss = true ∨ killed.IsDungeonBoss = true) (level : UInt8) (before : Bool) :
    verdict killed maxPlayerLevel level before = verdict killed maxPlayerLevel level false := by
  rw [verdict, verdict]
  rcases h with hworld | hdungeon
  · simp [hworld]
  · simp [hdungeon]

/-- The verdict of the group is that of the last member that is online. -/
theorem canRewardGroup_eq (h : killed.isWorldBoss = true ∨ killed.IsDungeonBoss = true) :
    canRewardGroup killed maxPlayerLevel FindPlayer slots = ((onlineLevels FindPlayer slots).getLast?.map
        fun level ↦ verdict killed maxPlayerLevel level false).getD false := by
  induction slots using List.reverseRecOn with
  | nil => rfl
  | append_singleton slots slot ih =>
    rw [canRewardGroup, List.foldl_append, ← canRewardGroup, onlineLevels, List.filterMap_append,
      ← onlineLevels, List.foldl_cons, List.foldl_nil]
    cases hlevel : FindPlayer slot.guid with
    | none =>
      have hnew : onlineLevels FindPlayer [slot] = [] := List.filterMap_cons_none hlevel
      rw [onlineLevels] at hnew
      simpa [hnew] using ih
    | some level =>
      have hnew : onlineLevels FindPlayer [slot] = [level] := List.filterMap_cons_some hlevel
      rw [onlineLevels] at hnew
      rw [hnew, List.getLast?_concat, Option.map_some, Option.getD_some]
      exact verdict_eq h level _

theorem exists_perm_canRewardGroup (maxPlayerLevel : UInt32)
    (h : killed.isWorldBoss = true ∨ killed.IsDungeonBoss = true) {level : UInt8}
    (hlevel : level ∈ onlineLevels FindPlayer slots) :
    ∃ slots' : List MemberSlot, slots'.Perm slots ∧
      canRewardGroup killed maxPlayerLevel FindPlayer slots' = verdict killed maxPlayerLevel level false := by
  obtain ⟨slot, hslot, hfind⟩ := List.mem_filterMap.mp hlevel
  refine ⟨slots.erase slot ++ [slot], (List.perm_append_singleton slot _).trans (List.perm_cons_erase hslot).symm, ?_⟩
  have hlast : onlineLevels FindPlayer (slots.erase slot ++ [slot]) =
      onlineLevels FindPlayer (slots.erase slot) ++ [level] := by
    rw [onlineLevels, List.filterMap_append]
    exact congrArg (onlineLevels FindPlayer (slots.erase slot) ++ ·) (List.filterMap_cons_some hfind)
  simp [canRewardGroup_eq h, hlast]

/-- With one verdict for all, the order of the slots does not matter to the first loop. -/
theorem canRewardGroup_perm (h : killed.isWorldBoss = true ∨ killed.IsDungeonBoss = true) (hperm : slots'.Perm slots)
    (hone : ∀ level ∈ onlineLevels FindPlayer slots, ∀ level' ∈ onlineLevels FindPlayer slots,
      verdict killed maxPlayerLevel level false = verdict killed maxPlayerLevel level' false) :
    canRewardGroup killed maxPlayerLevel FindPlayer slots' = canRewardGroup killed maxPlayerLevel FindPlayer slots := by
  have honline : (onlineLevels FindPlayer slots').Perm (onlineLevels FindPlayer slots) := hperm.filterMap _
  rw [canRewardGroup_eq h, canRewardGroup_eq h]
  cases hlast : (onlineLevels FindPlayer slots).getLast? with
  | none =>
    rw [List.getLast?_eq_none_iff] at hlast
    rw [hlast] at honline
    rw [honline.eq_nil]
    rfl
  | some level =>
    cases hlast' : (onlineLevels FindPlayer slots').getLast? with
    | none =>
      rw [List.getLast?_eq_none_iff] at hlast'
      rw [hlast'] at honline
      rw [honline.symm.eq_nil] at hlast
      exact absurd hlast (Option.some_ne_none level).symm
    | some level' =>
      exact hone level' (honline.mem_iff.mp (List.mem_of_getLast? hlast')) level (List.mem_of_getLast? hlast)

/-! ## The gifts -/

theorem gift_of_false (slot : MemberSlot) : gift killed FindPlayer false slot = none :=
  if_neg fun h ↦ Bool.false_ne_true h.2

theorem gift_of_not_boss (h : ¬ (killed.isWorldBoss = true ∨ killed.IsDungeonBoss = true)) (verdict : Bool)
    (slot : MemberSlot) : gift killed FindPlayer verdict slot = none := by
  obtain ⟨hworld, hdungeon⟩ := not_or.mp h
  simp [gift, hworld, hdungeon]

/-- Giving points to one player and to another can be done in either order. -/
theorem GiveStatsPointsToPlayer_comm (g g' : ObjectGuid × UInt64) :
    (b.GiveStatsPointsToPlayer g.1 g.2).GiveStatsPointsToPlayer g'.1 g'.2 =
      (b.GiveStatsPointsToPlayer g'.1 g'.2).GiveStatsPointsToPlayer g.1 g.2 := by
  rw [GiveStatsPointsToPlayer, GiveStatsPointsToPlayer, GiveStatsPointsToPlayer, GiveStatsPointsToPlayer,
    StatsBoost.mk.injEq]
  refine ⟨rfl, ExtTreeMap.ext_getElem? fun guid ↦ ?_, rfl⟩
  rw [TreeMap.get_modify, TreeMap.get_modify, TreeMap.get_modify, TreeMap.get_modify, TreeMap.get_modify,
    TreeMap.get_modify]
  by_cases hsame : g.1 = g'.1
  · rw [hsame, if_pos rfl, if_pos rfl, Option.map_map, Option.map_map]
    by_cases hguid : g'.1 = guid
    · rw [if_pos hguid, if_pos hguid]
      exact congrArg (Option.map · _) (funext fun points ↦ add_right_comm points g.2 g'.2)
    · simp [hguid]
  · rw [if_neg hsame, if_neg (Ne.symm hsame)]
    by_cases hguid : g'.1 = guid
    · rw [if_pos hguid, if_pos hguid, if_neg fun heq ↦ hsame (heq.trans hguid.symm)]
    · simp [hguid]

/-- The same gifts in another order leave every player with the same points. -/
theorem sameRewards_of_perm {gifts gifts' : List (ObjectGuid × UInt64)} (h : gifts.Perm gifts') :
    SameRewards (gifts.foldl (fun b g ↦ b.GiveStatsPointsToPlayer g.1 g.2) b, gifts)
      (gifts'.foldl (fun b g ↦ b.GiveStatsPointsToPlayer g.1 g.2) b, gifts') :=
  ⟨h.foldl_eq' (fun _ _ _ _ _ ↦ GiveStatsPointsToPlayer_comm _ _) b, h⟩

/-- With a member that is online, there are gifts for a boss just if the group is to be rewarded. -/
theorem gifts_eq_nil_iff (h : killed.isWorldBoss = true ∨ killed.IsDungeonBoss = true) {level : UInt8}
    (hlevel : level ∈ onlineLevels FindPlayer slots) (verdict : Bool) :
    slots.filterMap (gift killed FindPlayer verdict) = [] ↔ verdict = false := by
  rw [List.filterMap_eq_nil_iff]
  constructor
  · intro hnone
    obtain ⟨slot, hslot, hfind⟩ := List.mem_filterMap.mp hlevel
    by_contra hne
    have hgift := hnone slot hslot
    rw [gift, hfind, if_pos ⟨rfl, Bool.eq_true_of_not_eq_false hne⟩] at hgift
    rcases h with hworld | hdungeon
    · rw [if_pos hworld] at hgift
      exact Option.some_ne_none _ hgift
    · rw [if_pos hdungeon, ← apply_ite some] at hgift
      exact Option.some_ne_none _ hgift
  · rintro rfl slot _
    exact gift_of_false slot

/-- **The order of the slots does not matter** just if there is nothing to give for the kill, or all members
that are online have the same verdict. -/
theorem sameForAllOrders_iff (b : StatsBoost) (maxPlayerLevel : UInt32)
    (FindPlayer : ObjectGuid → Option UInt8) (IsNonRaidDungeon : Bool) (group : Option (List MemberSlot))
    (killed : KilledCreature) :
    SameForAllOrders b maxPlayerLevel FindPlayer IsNonRaidDungeon group killed ↔
      OneVerdict maxPlayerLevel FindPlayer IsNonRaidDungeon group killed := by
  constructor
  · rintro hsame rfl hboss slots rfl
    -- the verdict of every member is that of the group as it is
    have hgroup : ∀ level ∈ onlineLevels FindPlayer slots, verdict killed maxPlayerLevel level false =
        canRewardGroup killed maxPlayerLevel FindPlayer slots := fun level hlevel ↦ by
      obtain ⟨slots', hperm, hverdict⟩ := exists_perm_canRewardGroup maxPlayerLevel hboss hlevel
      have hgifts : (slots'.filterMap
            (gift killed FindPlayer (canRewardGroup killed maxPlayerLevel FindPlayer slots'))).Perm
          (slots.filterMap
            (gift killed FindPlayer (canRewardGroup killed maxPlayerLevel FindPlayer slots))) :=
        (hsame (some slots') hperm).2
      have hlevel' : level ∈ onlineLevels FindPlayer slots' := (hperm.filterMap _).mem_iff.mpr hlevel
      have hnil := gifts_eq_nil_iff hboss hlevel (canRewardGroup killed maxPlayerLevel FindPlayer slots)
      have hnil' := gifts_eq_nil_iff hboss hlevel' (canRewardGroup killed maxPlayerLevel FindPlayer slots')
      rw [← hverdict, Bool.eq_iff_iff, ← not_iff_not, Bool.not_eq_true, Bool.not_eq_true, ← hnil, ← hnil']
      exact ⟨fun heq ↦ List.nil_perm.mp (heq ▸ hgifts), fun heq ↦ List.perm_nil.mp (heq ▸ hgifts)⟩
    intro level hlevel level' hlevel'
    rw [hgroup level hlevel, hgroup level' hlevel']
  · intro hone group' hreordered
    cases IsNonRaidDungeon with
    | false => exact ⟨rfl, List.Perm.refl _⟩
    | true =>
      cases group with
      | none =>
        cases group' with
        | none => exact ⟨rfl, List.Perm.refl _⟩
        | some slots' => exact hreordered.elim
      | some slots =>
        cases group' with
        | none => exact hreordered.elim
        | some slots' =>
          have hperm : slots'.Perm slots := hreordered
          refine sameRewards_of_perm ?_
          by_cases hboss : killed.isWorldBoss = true ∨ killed.IsDungeonBoss = true
          · rw [canRewardGroup_perm hboss hperm (hone rfl hboss slots rfl)]
            exact hperm.filterMap _
          · simp [List.filterMap_eq_nil_iff.mpr fun slot _ ↦ gift_of_not_boss hboss _ slot]

/-! ## A group of mixed levels -/

/-- A boss of level 20 in a dungeon. -/
def dungeonBoss : KilledCreature := ⟨20, false, 0, 0x10000000⟩

/-- Two members, of levels 20 and 60, who are both online. -/
def mixedLevels : ObjectGuid → Option UInt8 := fun guid ↦ [(1, 20), (2, 60)].lookup guid

/-- With the member of level 60 in the last slot no one gets points, and in the other order both do. -/
theorem not_sameForAllOrders_mixed :
    ¬ SameForAllOrders ⟨∅, ∅, fun _ _ ↦ none⟩ 80 mixedLevels true (some [⟨1, 0⟩, ⟨2, 0⟩]) dungeonBoss := by
  intro h
  have hperm := (h (some [⟨2, 0⟩, ⟨1, 0⟩]) (List.Perm.swap _ _ [])).2
  exact absurd (List.perm_nil.mp hperm) (by decide)

end StatsBoost

end Gundrak
