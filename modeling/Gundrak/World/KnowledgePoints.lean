import Gundrak.World.StatsBoost

/-!
# Conservation of knowledge points

What a player has to spend and what it has spent should add up to what it had at login and has been
given since.  An upgrade moves points from one to the other, and a reset moves them back, all but one.

The sums are made in 64 bits, and `Keeps` is when they are what they should be: points that are given, or
that a reset moves back, do not carry over, and there is a point for the reset to leave.  An upgrade must
not be bought with nothing spent so far, since then the price is made with a rank that has no value.  For
a stored 0 and 0, which is what a new row has, a reset leaves the player with `2 ^ 64 - 1` points.

**`conserved_of_reaches`** says that the points are conserved along all runs that keep to `Keeps`, and
that a step conserves them only if it does.
-/

open Std (ExtTreeMap)

namespace Gundrak

namespace StatsBoost

variable {b b' : StatsBoost} {guid guid' : ObjectGuid} {amount stat : UInt32} {uninit : UInt32 × UInt32}

/-- What a player has to spend and has spent, together. -/
def points (b : StatsBoost) (guid : ObjectGuid) : ℕ :=
  (b.GetStatsPoints guid).toNat + (b.GetTotalUpgradePlayer guid).toNat

/-- `AddStatToPlayer` gets past both of its checks. -/
def Buys (b : StatsBoost) (guid : ObjectGuid) (amount stat : UInt32) (uninit : UInt32 × UInt32) :
    Prop :=
  b.amountUpgrade guid stat + amount.toUInt64 < maxUpdate stat ∧
    b.costToUpgradeStat guid amount uninit ≤ b.GetStatsPoints guid

instance : Decidable (b.Buys guid amount stat uninit) := inferInstanceAs (Decidable (_ ∧ _))

/-- The player has a rank, whatever is in the variable for it, and the points cover the rank times the
amount. -/
def Covers (b : StatsBoost) (guid : ObjectGuid) (amount : UInt32) : Prop :=
  ∃ rank : UInt32, (∀ uninit, (CalculateUpgrade uninit (b.GetTotalUpgradePlayer guid)).1 = rank) ∧
    rank.toNat * amount.toNat ≤ (b.GetStatsPoints guid).toNat

/-- A call that takes `b` to `b'` conserves the points: the sum changes by what is given, an upgrade is
bought only with points that cover it, and a reset makes all points but one available again, with no
subtraction from 0. -/
def Conserves (b : StatsBoost) : Call → StatsBoost → Prop
  | .UpdateStatsPlayerOnLogin _ _ _, _ => True
  | .GiveStatsPointsToPlayer guid amount, b' => b'.points guid = b.points guid + amount.toNat
  | .AddStatToPlayer guid amount stat uninit, b' => b'.points guid = b.points guid ∧
      (b.Buys guid amount stat uninit → b.Covers guid amount)
  | .ResetStatsAllocation guid, b' => b'.points guid = b.points guid ∧
      (b'.GetStatsPoints guid).toNat + 1 = b.points guid ∧
      0 < b.GetStatsPoints guid + b.GetTotalUpgradePlayer guid

/-- When a call conserves the points. -/
def Keeps (b : StatsBoost) : Call → Prop
  | .UpdateStatsPlayerOnLogin _ _ _ => True
  | .GiveStatsPointsToPlayer guid amount => (b.GetStatsPoints guid).toNat + amount.toNat < 2 ^ 64
  | .AddStatToPlayer guid amount stat uninit => b.Buys guid amount stat uninit →
      b.GetTotalUpgradePlayer guid ≠ 0 ∧ (b.GetTotalUpgradePlayer guid).toNat +
        (b.costToUpgradeStat guid amount uninit).toNat < 2 ^ 64
  | .ResetStatsAllocation guid => 0 < b.points guid ∧ b.points guid < 2 ^ 64

instance (b : StatsBoost) : (call : Call) → Decidable (b.Keeps call)
  | .UpdateStatsPlayerOnLogin _ _ _ => inferInstanceAs (Decidable True)
  | .GiveStatsPointsToPlayer _ _ => inferInstanceAs (Decidable (_ < _))
  | .AddStatToPlayer _ _ _ _ => inferInstanceAs (Decidable (_ → _))
  | .ResetStatsAllocation _ => inferInstanceAs (Decidable (_ ∧ _))

/-- What a row of `characters_stats_boost` has is below 999999. -/
def RowsBounded (b : StatsBoost) : Prop := ∀ guid stat n, b.characters_stats_boost guid stat = some n → n.toNat < 999999

/-! ## What the calls do to the two maps -/

section Maps

variable {m : ExtTreeMap ObjectGuid UInt64} {f : UInt64 → UInt64}

theorem getD_modify_self (h : guid ∈ m) : ((m.modify guid f)[guid]?).getD 0 = f ((m[guid]?).getD 0) := by
  obtain ⟨v, hv⟩ := (TreeMap.mem_iff m guid).mp h
  simp [hv]

theorem getD_modify_of_ne (h : guid ≠ guid') : ((m.modify guid f)[guid']?).getD 0 = (m[guid']?).getD 0 := by
  simp [TreeMap.get_modify, h]

end Maps

theorem addStatToPlayer_of_buys (hb : b.Buys guid amount stat uninit) :
    b.AddStatToPlayer guid amount stat uninit = RemoveStatsPointsToPlayer { b with
        characters_stats_boost := insertRow b.characters_stats_boost guid stat amount.toUInt64 }
      guid (b.costToUpgradeStat guid amount uninit) := by
  simp [AddStatToPlayer, (UInt64.not_le.mpr hb.1), (UInt64.not_lt.mpr hb.2)]

theorem addStatToPlayer_of_not_buys (hb : ¬ b.Buys guid amount stat uninit) :
    b.AddStatToPlayer guid amount stat uninit = b := by
  rw [AddStatToPlayer]
  split
  · rfl
  · rename_i hmax
    exact if_pos (UInt64.not_le.mp fun hle ↦ hb ⟨UInt64.not_le.mp hmax, hle⟩)

/-! ## Taking points -/

theorem getStatsPoints_remove (hl : b.LoggedIn guid) (cost : UInt64) :
    (b.RemoveStatsPointsToPlayer guid cost).GetStatsPoints guid = b.GetStatsPoints guid - cost :=
  getD_modify_self hl.2

theorem getTotalUpgradePlayer_remove (hl : b.LoggedIn guid) (cost : UInt64) :
    (b.RemoveStatsPointsToPlayer guid cost).GetTotalUpgradePlayer guid = b.GetTotalUpgradePlayer guid + cost :=
  getD_modify_self hl.1

theorem getStatsPoints_add (hl : b.LoggedIn guid) (hb : b.Buys guid amount stat uninit) :
    (b.AddStatToPlayer guid amount stat uninit).GetStatsPoints guid =
      b.GetStatsPoints guid - b.costToUpgradeStat guid amount uninit := by
  rw [addStatToPlayer_of_buys hb]
  exact getD_modify_self hl.2

theorem getTotalUpgradePlayer_add (hl : b.LoggedIn guid) (hb : b.Buys guid amount stat uninit) :
    (b.AddStatToPlayer guid amount stat uninit).GetTotalUpgradePlayer guid =
      b.GetTotalUpgradePlayer guid + b.costToUpgradeStat guid amount uninit := by
  rw [addStatToPlayer_of_buys hb]
  exact getD_modify_self hl.1

theorem toNat_add_eq_iff (x y : UInt64) : (x + y).toNat = x.toNat + y.toNat ↔ x.toNat + y.toNat < 2 ^ 64 := by
  simp

/-! ## Giving points -/

theorem points_give (hl : b.LoggedIn guid) (n : UInt64) :
    (b.GiveStatsPointsToPlayer guid n).points guid = b.points guid + n.toNat ↔
      b.Keeps (.GiveStatsPointsToPlayer guid n) := by
  have hsp : (b.GiveStatsPointsToPlayer guid n).GetStatsPoints guid = b.GetStatsPoints guid + n := getD_modify_self hl.2
  have htu : (b.GiveStatsPointsToPlayer guid n).GetTotalUpgradePlayer guid = b.GetTotalUpgradePlayer guid := rfl
  rw [points, points, hsp, htu, Keeps, ← toNat_add_eq_iff]
  omega

/-! ## Buying an upgrade -/

/-- The price is the rank times the amount, without a carry, for a player with a rank. -/
theorem toNat_costToUpgradeStat (hrows : b.RowsBounded) (hb : b.Buys guid amount stat uninit)
    (htu : b.GetTotalUpgradePlayer guid ≠ 0) :
    (b.costToUpgradeStat guid amount uninit).toNat =
      (CalculateUpgrade uninit (b.GetTotalUpgradePlayer guid)).1.toNat * amount.toNat := by
  have hrank := rank_le htu uninit
  have hmax := maxUpdate_le stat
  have hrow : (b.amountUpgrade guid stat).toNat < 999999 := by
    rw [amountUpgrade]
    cases hget : b.characters_stats_boost guid stat with
    | none => decide
    | some n => exact hrows guid stat n hget
  have hamount : amount.toNat < 999999 := by
    have h := UInt64.lt_iff_toNat_lt.mp hb.1
    have hlt := amount.toNat_lt
    rw [UInt64.toNat_add, UInt32.toNat_toUInt64, Nat.mod_eq_of_lt (by omega)] at h
    omega
  have hmul : (CalculateUpgrade uninit (b.GetTotalUpgradePlayer guid)).1.toNat * amount.toNat ≤
      15 * 999999 := Nat.mul_le_mul hrank hamount.le
  rw [costToUpgradeStat, UInt32.toNat_toUInt64, UInt32.toNat_mul, Nat.mod_eq_of_lt (by omega)]

theorem not_covers_of_eq_zero (htu : b.GetTotalUpgradePlayer guid = 0) : ¬ b.Covers guid amount := by
  rintro ⟨rank, hrank, _⟩
  rw [htu] at hrank
  have h0 : (0 : UInt32) = rank := hrank (0, 0)
  have h1 : (1 : UInt32) = rank := hrank (1, 0)
  exact absurd (h0.trans h1.symm) (by decide)

theorem covers_of_buys (hrows : b.RowsBounded) (hb : b.Buys guid amount stat uninit)
    (htu : b.GetTotalUpgradePlayer guid ≠ 0) : b.Covers guid amount := by
  refine ⟨(CalculateUpgrade uninit (b.GetTotalUpgradePlayer guid)).1, fun uninit' ↦ ?_, ?_⟩
  · simp [calculateUpgrade_of_ne_zero htu]
  · rw [← toNat_costToUpgradeStat hrows hb htu]
    exact UInt64.le_iff_toNat_le.mp hb.2

/-- An upgrade that is bought takes the price from one map and puts it into the other. -/
theorem points_add_iff (hl : b.LoggedIn guid) (hb : b.Buys guid amount stat uninit) :
    (b.AddStatToPlayer guid amount stat uninit).points guid = b.points guid ↔
      (b.GetTotalUpgradePlayer guid).toNat + (b.costToUpgradeStat guid amount uninit).toNat < 2 ^ 64 := by
  have hle := UInt64.le_iff_toNat_le.mp hb.2
  rw [points, points, getStatsPoints_add hl hb, getTotalUpgradePlayer_add hl hb,
    UInt64.toNat_sub_of_le _ _ hb.2, ← toNat_add_eq_iff]
  omega

theorem conserves_add (hl : b.LoggedIn guid) (hrows : b.RowsBounded) :
    b.Conserves (.AddStatToPlayer guid amount stat uninit) (b.AddStatToPlayer guid amount stat uninit) ↔
      b.Keeps (.AddStatToPlayer guid amount stat uninit) := by
  by_cases hb : b.Buys guid amount stat uninit
  · simp only [Conserves, Keeps, hb, forall_const, points_add_iff hl hb]
    constructor
    · rintro ⟨hsum, hcov⟩
      exact ⟨fun htu ↦ not_covers_of_eq_zero htu hcov, hsum⟩
    · rintro ⟨htu, hsum⟩
      exact ⟨hsum, covers_of_buys hrows hb htu⟩
  · simp [Conserves, Keeps, hb, addStatToPlayer_of_not_buys hb]

/-! ## The reset -/

theorem getStatsPoints_reset (hl : b.LoggedIn guid) : (b.ResetStatsAllocation guid).GetStatsPoints guid =
      b.GetStatsPoints guid + b.GetTotalUpgradePlayer guid - 1 := by
  obtain ⟨tu, htu⟩ := (TreeMap.mem_iff _ guid).mp hl.1
  rw [ResetStatsAllocation, GetTotalUpgradePlayer, htu]
  exact getD_modify_self hl.2

theorem getTotalUpgradePlayer_reset (hl : b.LoggedIn guid) :
    (b.ResetStatsAllocation guid).GetTotalUpgradePlayer guid = 1 := by
  obtain ⟨tu, htu⟩ := (TreeMap.mem_iff _ guid).mp hl.1
  rw [ResetStatsAllocation, htu]
  simp [GetTotalUpgradePlayer]

theorem conserves_reset (hl : b.LoggedIn guid) :
    b.Conserves (.ResetStatsAllocation guid) (b.ResetStatsAllocation guid) ↔ b.Keeps (.ResetStatsAllocation guid) := by
  have hsum : (b.GetStatsPoints guid + b.GetTotalUpgradePlayer guid).toNat =
      b.points guid % 2 ^ 64 := UInt64.toNat_add _ _
  have hpos : 0 < b.GetStatsPoints guid + b.GetTotalUpgradePlayer guid ↔ 0 < b.points guid % 2 ^ 64 := by
    rw [UInt64.lt_iff_toNat_lt, hsum]
    rfl
  have hafter : (b.ResetStatsAllocation guid).points guid =
      ((b.ResetStatsAllocation guid).GetStatsPoints guid).toNat + 1 := by
    rw [points, getTotalUpgradePlayer_reset hl]
    rfl
  have hsp : 0 < b.points guid % 2 ^ 64 →
      ((b.ResetStatsAllocation guid).GetStatsPoints guid).toNat = b.points guid % 2 ^ 64 - 1 := by
    intro h
    have hle : 1 ≤ b.GetStatsPoints guid + b.GetTotalUpgradePlayer guid := by
      rw [UInt64.le_iff_toNat_le, hsum]
      exact h
    rw [getStatsPoints_reset hl, UInt64.toNat_sub_of_le _ _ hle, hsum]
    rfl
  simp only [Conserves, Keeps, hafter, hpos]
  constructor
  · rintro ⟨h, _, h0⟩
    omega
  · rintro ⟨h0, hlt⟩
    have hmod : b.points guid % 2 ^ 64 = b.points guid := Nat.mod_eq_of_lt hlt
    have h := hsp (by rwa [hmod])
    omega

/-! ## Every call -/

/-- **A call conserves the points of its player exactly when it keeps to the condition.** -/
theorem conserves_iff_keeps (hrows : b.RowsBounded) {call : Call} (hn : b.next call = some b') :
    b.Conserves call b' ↔ b.Keeps call := by
  cases call with
  | UpdateStatsPlayerOnLogin guid sp tu => exact Iff.rfl
  | GiveStatsPointsToPlayer guid n =>
    obtain ⟨hl, h⟩ := Option.ite_none_right_eq_some.mp hn
    rw [← Option.some.inj h]
    exact points_give hl n
  | AddStatToPlayer guid amount stat uninit =>
    obtain ⟨hl, h⟩ := Option.ite_none_right_eq_some.mp hn
    rw [← Option.some.inj h]
    exact conserves_add hl hrows
  | ResetStatsAllocation guid =>
    obtain ⟨hl, h⟩ := Option.ite_none_right_eq_some.mp hn
    rw [← Option.some.inj h]
    exact conserves_reset hl

/-! ## Frames

A call changes the points and the rows of its own player only. -/

/-- The player whose points a call changes. -/
def Call.player : Call → ObjectGuid
  | .UpdateStatsPlayerOnLogin guid _ _ => guid
  | .GiveStatsPointsToPlayer guid _ => guid
  | .AddStatToPlayer guid _ _ _ => guid
  | .ResetStatsAllocation guid => guid

theorem loggedIn_modify {f g : UInt64 → UInt64} {rows : ObjectGuid → UInt32 → Option UInt64} :
    LoggedIn ⟨b.MapTotalUpgradePlayers.modify guid f, b.MapTotalStatsPointsPlayer.modify guid g,
      rows⟩ guid' ↔ b.LoggedIn guid' := by
  simp [LoggedIn, ExtTreeMap.mem_modify]

theorem loggedIn_add : (b.AddStatToPlayer guid amount stat uninit).LoggedIn guid' ↔ b.LoggedIn guid' := by
  by_cases hb : b.Buys guid amount stat uninit
  · rw [addStatToPlayer_of_buys hb]
    exact loggedIn_modify
  · rw [addStatToPlayer_of_not_buys hb]

theorem loggedIn_reset (hl : b.LoggedIn guid) : (b.ResetStatsAllocation guid).LoggedIn guid' ↔ b.LoggedIn guid' := by
  obtain ⟨tu, htu⟩ := (TreeMap.mem_iff _ guid).mp hl.1
  rw [ResetStatsAllocation, htu]
  simp only [LoggedIn, ExtTreeMap.mem_modify, ExtTreeMap.mem_insert, Std.LawfulEqCmp.compare_eq_iff_eq]
  refine and_congr_left fun _ ↦ or_iff_right_of_imp ?_
  rintro rfl
  exact hl.1

theorem loggedIn_next {call : Call} (hn : b.next call = some b') (hl : b'.LoggedIn guid') :
    b.LoggedIn guid' ∨ guid' = call.player := by
  cases call with
  | UpdateStatsPlayerOnLogin guid sp tu =>
    rw [← Option.some.inj hn] at hl
    by_cases hg : guid' = guid
    · exact .inr hg
    · exact .inl (by simpa [LoggedIn, UpdateStatsPlayerOnLogin, hg, Ne.symm hg] using hl)
  | GiveStatsPointsToPlayer guid n =>
    obtain ⟨_, h⟩ := Option.ite_none_right_eq_some.mp hn
    rw [← Option.some.inj h] at hl
    simp only [LoggedIn, GiveStatsPointsToPlayer, ExtTreeMap.mem_modify] at hl
    exact .inl hl
  | AddStatToPlayer guid amount stat uninit =>
    obtain ⟨_, h⟩ := Option.ite_none_right_eq_some.mp hn
    rw [← Option.some.inj h] at hl
    exact .inl (loggedIn_add.mp hl)
  | ResetStatsAllocation guid =>
    obtain ⟨hg, h⟩ := Option.ite_none_right_eq_some.mp hn
    rw [← Option.some.inj h] at hl
    exact .inl ((loggedIn_reset hg).mp hl)

/-- What another player has to spend and has spent stays as it is. -/
theorem remove_of_ne (h : guid ≠ guid') (cost : UInt64) :
    (b.RemoveStatsPointsToPlayer guid cost).GetStatsPoints guid' = b.GetStatsPoints guid' ∧
      (b.RemoveStatsPointsToPlayer guid cost).GetTotalUpgradePlayer guid' = b.GetTotalUpgradePlayer guid' :=
  ⟨getD_modify_of_ne h, getD_modify_of_ne h⟩

theorem next_of_ne {call : Call} (hn : b.next call = some b') (h : call.player ≠ guid') :
    b'.GetStatsPoints guid' = b.GetStatsPoints guid' ∧
      b'.GetTotalUpgradePlayer guid' = b.GetTotalUpgradePlayer guid' := by
  cases call with
  | UpdateStatsPlayerOnLogin guid sp tu =>
    rw [← Option.some.inj hn]
    have hne : guid ≠ guid' := h
    simp [GetStatsPoints, GetTotalUpgradePlayer, UpdateStatsPlayerOnLogin, TreeMap.get_insert, hne]
  | GiveStatsPointsToPlayer guid n =>
    obtain ⟨_, hb⟩ := Option.ite_none_right_eq_some.mp hn
    rw [← Option.some.inj hb]
    exact ⟨getD_modify_of_ne h, rfl⟩
  | AddStatToPlayer guid amount stat uninit =>
    obtain ⟨_, hb⟩ := Option.ite_none_right_eq_some.mp hn
    rw [← Option.some.inj hb]
    by_cases hbuys : b.Buys guid amount stat uninit
    · rw [addStatToPlayer_of_buys hbuys]
      exact remove_of_ne h _
    · rw [addStatToPlayer_of_not_buys hbuys]
      exact ⟨rfl, rfl⟩
  | ResetStatsAllocation guid =>
    obtain ⟨hl, hb⟩ := Option.ite_none_right_eq_some.mp hn
    obtain ⟨tu, htu⟩ := (TreeMap.mem_iff _ guid).mp hl.1
    have hne : guid ≠ guid' := h
    rw [← Option.some.inj hb, ResetStatsAllocation, htu]
    simp [GetStatsPoints, GetTotalUpgradePlayer, TreeMap.get_insert, TreeMap.get_modify, hne]

theorem points_next_of_ne {call : Call} (hn : b.next call = some b') (h : call.player ≠ guid') :
    b'.points guid' = b.points guid' := by
  obtain ⟨hsp, htu⟩ := next_of_ne hn h
  rw [points, points, hsp, htu]

theorem rowsBounded_add (hrows : b.RowsBounded) : (b.AddStatToPlayer guid amount stat uninit).RowsBounded := by
  by_cases hb : b.Buys guid amount stat uninit
  · rw [addStatToPlayer_of_buys hb]
    intro g s n hn
    have hn : insertRow b.characters_stats_boost guid stat amount.toUInt64 g s = some n := hn
    rw [insertRow] at hn
    split at hn
    · have hlt := UInt64.lt_iff_toNat_lt.mp hb.1
      have hmax := maxUpdate_le stat
      rw [← Option.some.inj hn]
      rw [amountUpgrade] at hlt
      cases hrow : b.characters_stats_boost guid stat with
      | none =>
        rw [hrow] at hlt
        have h := amount.toNat_lt
        simp only [Option.getD_none, UInt64.toNat_add, UInt32.toNat_toUInt64, UInt64.toNat_one,
          UInt64.toNat_zero] at hlt ⊢
        omega
      | some old =>
        rw [hrow] at hlt
        exact hlt.trans_le hmax
    · exact hrows g s n hn
  · rw [addStatToPlayer_of_not_buys hb]
    exact hrows

theorem rowsBounded_next {call : Call} (hrows : b.RowsBounded) (hn : b.next call = some b') : b'.RowsBounded := by
  cases call with
  | UpdateStatsPlayerOnLogin guid sp tu =>
    rw [← Option.some.inj hn]
    exact hrows
  | GiveStatsPointsToPlayer guid n =>
    obtain ⟨_, hb⟩ := Option.ite_none_right_eq_some.mp hn
    rw [← Option.some.inj hb]
    exact hrows
  | AddStatToPlayer guid amount stat uninit =>
    obtain ⟨_, hb⟩ := Option.ite_none_right_eq_some.mp hn
    rw [← Option.some.inj hb]
    exact rowsBounded_add hrows
  | ResetStatsAllocation guid =>
    obtain ⟨hl, hb⟩ := Option.ite_none_right_eq_some.mp hn
    obtain ⟨tu, htu⟩ := (TreeMap.mem_iff _ guid).mp hl.1
    rw [← Option.some.inj hb, ResetStatsAllocation, htu]
    intro g s n hrow
    exact hrows g s n (Option.ite_none_left_eq_some.mp hrow).2

/-! ## Runs -/

/-- The points, with what each player should have in all: what it had at its login and was given
since. -/
structure Ledger where
  boost : StatsBoost
  total : ObjectGuid → ℕ

/-- What a player should have in all after a call. -/
def totalAfter (total : ObjectGuid → ℕ) : Call → ObjectGuid → ℕ
  | .UpdateStatsPlayerOnLogin guid statsPoints totalUpgrade =>
    Function.update total guid (statsPoints.toNat + totalUpgrade.toNat)
  | .GiveStatsPointsToPlayer guid amount => Function.update total guid (total guid + amount.toNat)
  | .AddStatToPlayer _ _ _ _ | .ResetStatsAllocation _ => total

/-- The server from its start, with an empty table. -/
def ledgers : Machine Ledger Call where
  start := ⟨⟨∅, ∅, fun _ _ ↦ none⟩, fun _ ↦ 0⟩
  next l call := (l.boost.next call).map fun b ↦ ⟨b, totalAfter l.total call⟩

/-- Every logged-in player has, to spend and spent, what it should have in all. -/
def Balanced (l : Ledger) : Prop := ∀ guid, l.boost.LoggedIn guid → l.boost.points guid = l.total guid

/-- The points are balanced, and every next call conserves them. -/
def Conserved (l : Ledger) : Prop :=
  Balanced l ∧ ∀ call l', ledgers.next l call = some l' → l.boost.Conserves call l'.boost

/-- What a call that keeps to the condition leaves its player with. -/
theorem points_next (hrows : b.RowsBounded) {call : Call} (hn : b.next call = some b')
    (hk : b.Keeps call) (total : ObjectGuid → ℕ)
    (hbal : ∀ guid, b.LoggedIn guid → b.points guid = total guid) :
    b'.points call.player = totalAfter total call call.player := by
  have hc := (conserves_iff_keeps hrows hn).mpr hk
  cases call with
  | UpdateStatsPlayerOnLogin guid sp tu =>
    rw [← Option.some.inj hn]
    simp [points, GetStatsPoints, GetTotalUpgradePlayer, UpdateStatsPlayerOnLogin, totalAfter, Call.player]
  | GiveStatsPointsToPlayer guid n =>
    obtain ⟨hl, _⟩ := Option.ite_none_right_eq_some.mp hn
    rw [totalAfter, Call.player, Function.update_self, ← hbal guid hl]
    exact hc
  | AddStatToPlayer guid amount stat uninit =>
    obtain ⟨hl, _⟩ := Option.ite_none_right_eq_some.mp hn
    exact hc.1.trans (hbal guid hl)
  | ResetStatsAllocation guid =>
    obtain ⟨hl, _⟩ := Option.ite_none_right_eq_some.mp hn
    exact hc.1.trans (hbal guid hl)

theorem totalAfter_of_ne (total : ObjectGuid → ℕ) {call : Call} (h : call.player ≠ guid') :
    totalAfter total call guid' = total guid' := by
  cases call with
  | UpdateStatsPlayerOnLogin guid sp tu => exact Function.update_of_ne h.symm _ _
  | GiveStatsPointsToPlayer guid n => exact Function.update_of_ne h.symm _ _
  | AddStatToPlayer guid amount stat uninit => rfl
  | ResetStatsAllocation guid => rfl

theorem balanced_next {l l' : Ledger} {call : Call} (hrows : l.boost.RowsBounded)
    (hbal : Balanced l) (hk : l.boost.Keeps call) (hn : ledgers.next l call = some l') :
    Balanced l' := by
  obtain ⟨b, hb, rfl⟩ := Option.map_eq_some_iff.mp hn
  intro guid hl
  by_cases hg : call.player = guid
  · subst hg
    exact points_next hrows hb hk l.total hbal
  · have hold := (loggedIn_next hb hl).resolve_right (Ne.symm hg)
    show b.points guid = totalAfter l.total call guid
    rw [points_next_of_ne hb hg, totalAfter_of_ne _ hg]
    exact hbal guid hold

/-- **Knowledge points are conserved along the runs that keep to the condition**: every player that is
logged in has, to spend and spent, what it had at login and was given since, and the next call conserves
this exactly when it keeps to the condition. -/
theorem conserved_of_reaches {l : Ledger} (h : ledgers.Reaches (fun l call ↦ l.boost.Keeps call) l) :
    Balanced l ∧ ∀ call l', ledgers.next l call = some l' →
      (l.boost.Conserves call l'.boost ↔ l.boost.Keeps call) := by
  have hinv : l.boost.RowsBounded ∧ Balanced l := by
    refine h.invariant (P := fun l ↦ l.boost.RowsBounded ∧ Balanced l) ⟨?_, ?_⟩ ?_
    · intro guid stat n hn
      cases hn
    · intro guid hl
      exact absurd hl.1 ExtTreeMap.not_mem_empty
    · rintro l call l' ⟨hrows, hbal⟩ hk hn
      refine ⟨?_, balanced_next hrows hbal hk hn⟩
      obtain ⟨b, hb, rfl⟩ := Option.map_eq_some_iff.mp hn
      exact rowsBounded_next hrows hb
  refine ⟨hinv.2, fun call l' hn ↦ ?_⟩
  obtain ⟨b, hb, rfl⟩ := Option.map_eq_some_iff.mp hn
  exact conserves_iff_keeps hinv.1 hb

/-- A player with nothing stored, that is given 30 points, buys 3 of agility after a reset, and takes
them back. -/
def boughtAndReset : List Call :=
  [.UpdateStatsPlayerOnLogin 1 0 0, .GiveStatsPointsToPlayer 1 30, .ResetStatsAllocation 1,
   .AddStatToPlayer 1 3 2 (0, 0), .ResetStatsAllocation 1]

theorem conserved_of_reaches_boughtAndReset :
    ∃ l l', ledgers.next l (.AddStatToPlayer 1 3 2 (0, 0)) = some l' ∧ l.boost.points 1 = 30 ∧
      l.boost.Conserves (.AddStatToPlayer 1 3 2 (0, 0)) l'.boost := by
  obtain ⟨l, hl, hlog, htot, hk⟩ := ledgers.exists_reaches (fun l call ↦ l.boost.Keeps call) boughtAndReset
    (fun l ↦ l.boost.LoggedIn 1 ∧ l.total 1 = 30 ∧
      l.boost.Keeps (.AddStatToPlayer 1 3 2 (0, 0))) (by decide +kernel)
  obtain ⟨hbal, hall⟩ := conserved_of_reaches hl
  have hn : ledgers.next l (.AddStatToPlayer 1 3 2 (0, 0)) =
      some ⟨l.boost.AddStatToPlayer 1 3 2 (0, 0), l.total⟩ := congrArg (Option.map _) (if_pos hlog)
  exact ⟨l, _, hn, (hbal 1 hlog).trans htot, (hall _ _ hn).mpr hk⟩

/-- A player with nothing stored, in the state before its reset. -/
def newCharacter : List Call := [.UpdateStatsPlayerOnLogin 1 0 0]

/-- A reset takes the one base point from a player that has none. -/
theorem not_conserved : ¬ ∀ l, ledgers.Reachable l → Conserved l := by
  intro hall
  obtain ⟨l, hl, hlog, h0⟩ := ledgers.exists_reachable newCharacter
    (fun l ↦ l.boost.LoggedIn 1 ∧ l.boost.points 1 = 0) (by decide +kernel)
  have hc := (hall l hl).2 (.ResetStatsAllocation 1) _ (congrArg (Option.map _) (if_pos hlog))
  have hsum : _ = l.boost.points 1 := hc.2.1
  rw [h0] at hsum
  exact absurd hsum (Nat.succ_ne_zero _)

end StatsBoost

end Gundrak
