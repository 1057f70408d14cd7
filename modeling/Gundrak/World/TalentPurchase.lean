import Gundrak.World.KnowledgePoints

/-!
# Talents for knowledge points

The menu of the Grimoire sells a talent point for 100 points of knowledge, and takes the points with
`RemoveStatsPointsToPlayer`, as an upgrade of a stat does.  So the price goes into the same total, and a
reset, which moves that total back, pays for the talent as well and leaves it with the player.  The option
also asks for more than its price, and sets the free talents of the player to 1, however many there are.

A `Menu` keeps, beside the points, what the upgrades and the talents since the last reset have cost.
`Refunds` is what a choice should do, and `Keeps` is when it does.

**`refunds_of_reaches`** says that along the runs that keep to `Menu.Keeps` a choice does what it should
exactly when it keeps to the condition.
-/

namespace Gundrak

/-- The points of the players with their free talents, what was spent on upgrades since the last reset,
and how many talents were bought since then. -/
structure Menu where
  boost : StatsBoost
  PLAYER_CHARACTER_POINTS1 : ObjectGuid → UInt32
  spent : ObjectGuid → ℕ
  bought : ObjectGuid → ℕ

namespace Menu

open StatsBoost

/-- `Player::SetFreeTalentPoints`. -/
def SetFreeTalentPoints (m : Menu) (guid : ObjectGuid) (points : UInt32) : Menu :=
  { m with PLAYER_CHARACTER_POINTS1 := Function.update m.PLAYER_CHARACTER_POINTS1 guid points }

/-- The option `GOSSIP_ACTION_INFO_DEF + 10` of `sendMenuGossip`. -/
def buyTalent (m : Menu) (guid : ObjectGuid) : Menu :=
  if m.boost.GetStatsPoints guid ≤ 100 then m
  else
    let m' := m.SetFreeTalentPoints guid 1
    { m' with
      boost := m'.boost.RemoveStatsPointsToPlayer guid 100
      bought := Function.update m'.bought guid (m'.bought guid + 1) }

/-- What the upgrades have cost after a call. -/
def spentAfter (m : Menu) : Call → ObjectGuid → ℕ
  | .UpdateStatsPlayerOnLogin _ _ _ | .GiveStatsPointsToPlayer _ _ => m.spent
  | .AddStatToPlayer guid amount stat uninit =>
    if m.boost.Buys guid amount stat uninit then
      Function.update m.spent guid (m.spent guid + (m.boost.costToUpgradeStat guid amount uninit).toNat)
    else m.spent
  | .ResetStatsAllocation guid => Function.update m.spent guid 0

/-- How many talents have been bought since the last reset, after a call. -/
def boughtAfter (m : Menu) : Call → ObjectGuid → ℕ
  | .UpdateStatsPlayerOnLogin _ _ _ | .GiveStatsPointsToPlayer _ _ | .AddStatToPlayer _ _ _ _ => m.bought
  | .ResetStatsAllocation guid => Function.update m.bought guid 0

/-- What can happen: a call for the points, the purchase of a talent, and a change of the free talents
from outside, as when a talent is learned. -/
inductive Choice where
  | call (call : Call)
  | buyTalent (guid : ObjectGuid)
  | SetFreeTalentPoints (guid : ObjectGuid) (points : UInt32)

/-- The menu for the players that have logged in. -/
def menus : Machine Menu Choice where
  start := ⟨⟨∅, ∅, fun _ _ ↦ none⟩, fun _ ↦ 0, fun _ ↦ 0, fun _ ↦ 0⟩
  next m
    | .call call => (m.boost.next call).map fun b ↦
      { m with boost := b, spent := m.spentAfter call, bought := m.boughtAfter call }
    | .buyTalent guid => if m.boost.LoggedIn guid then some (m.buyTalent guid) else none
    | .SetFreeTalentPoints guid points => some (m.SetFreeTalentPoints guid points)

/-- What the total of a player should be: one base point, the upgrades and the talents. -/
def total (m : Menu) (guid : ObjectGuid) : ℕ := 1 + m.spent guid + 100 * m.bought guid

/-- What a choice should do.  At a login the total that was stored is the one the player has; an upgrade
adds its price to the total; a reset gives back what the upgrades have cost, and keeps the talents; and a
talent is sold to everyone who has its price, and is one more free talent. -/
def Refunds (m : Menu) : Choice → Menu → Prop
  | .call (.UpdateStatsPlayerOnLogin guid _ _), m' =>
    (m'.boost.GetTotalUpgradePlayer guid).toNat = m.total guid
  | .call (.GiveStatsPointsToPlayer _ _), _ => True
  | .call (.AddStatToPlayer guid amount stat uninit), m' =>
    m.boost.Buys guid amount stat uninit → (m'.boost.GetTotalUpgradePlayer guid).toNat =
      (m.boost.GetTotalUpgradePlayer guid).toNat + (m.boost.costToUpgradeStat guid amount uninit).toNat
  | .call (.ResetStatsAllocation guid), m' =>
    (m'.boost.GetStatsPoints guid).toNat = (m.boost.GetStatsPoints guid).toNat + m.spent guid ∧
      m'.PLAYER_CHARACTER_POINTS1 guid = m.PLAYER_CHARACTER_POINTS1 guid
  | .buyTalent guid, m' =>
    if 100 ≤ m.boost.GetStatsPoints guid then
      (m'.PLAYER_CHARACTER_POINTS1 guid).toNat = (m.PLAYER_CHARACTER_POINTS1 guid).toNat + 1 ∧
        (m'.boost.GetStatsPoints guid).toNat + 100 = (m.boost.GetStatsPoints guid).toNat ∧
        (m'.boost.GetTotalUpgradePlayer guid).toNat = (m.boost.GetTotalUpgradePlayer guid).toNat + 100
    else m' = m
  | .SetFreeTalentPoints _ _, _ => True

/-- When a choice does what it should. -/
def Keeps (m : Menu) : Choice → Prop
  | .call (.UpdateStatsPlayerOnLogin guid _ totalUpgrade) => totalUpgrade.toNat = m.total guid
  | .call (.GiveStatsPointsToPlayer _ _) => True
  | .call (.AddStatToPlayer guid amount stat uninit) => m.boost.Buys guid amount stat uninit →
      (m.boost.GetTotalUpgradePlayer guid).toNat + (m.boost.costToUpgradeStat guid amount uninit).toNat < 2 ^ 64
  | .call (.ResetStatsAllocation guid) => m.bought guid = 0 ∧
      (m.boost.GetStatsPoints guid).toNat + m.spent guid < 2 ^ 64
  | .buyTalent guid => 100 ≤ m.boost.GetStatsPoints guid → m.boost.GetStatsPoints guid ≠ 100 ∧
      m.PLAYER_CHARACTER_POINTS1 guid = 0 ∧ (m.boost.GetTotalUpgradePlayer guid).toNat + 100 < 2 ^ 64
  | .SetFreeTalentPoints _ _ => True

instance (m : Menu) : (choice : Choice) → Decidable (m.Keeps choice)
  | .call (.UpdateStatsPlayerOnLogin _ _ _) => inferInstanceAs (Decidable (_ = _))
  | .call (.GiveStatsPointsToPlayer _ _) => inferInstanceAs (Decidable True)
  | .call (.AddStatToPlayer _ _ _ _) => inferInstanceAs (Decidable (_ → _))
  | .call (.ResetStatsAllocation _) => inferInstanceAs (Decidable (_ ∧ _))
  | .buyTalent _ => inferInstanceAs (Decidable (_ → _))
  | .SetFreeTalentPoints _ _ => inferInstanceAs (Decidable True)

variable {m m' : Menu} {guid : ObjectGuid}

/-- Every logged-in player has the total it should have. -/
def Accounted (m : Menu) : Prop :=
  ∀ guid, m.boost.LoggedIn guid → (m.boost.GetTotalUpgradePlayer guid).toNat = m.total guid

/-! ## Each choice -/

theorem refunds_login (sp tu : UInt64) :
    ((m.boost.UpdateStatsPlayerOnLogin guid sp tu).GetTotalUpgradePlayer guid).toNat = m.total guid ↔
      tu.toNat = m.total guid := by
  simp [GetTotalUpgradePlayer, UpdateStatsPlayerOnLogin]

/-- What a reset gives back: all that was spent since the last one, for upgrades or for talents. -/
theorem toNat_getStatsPoints_reset (hl : m.boost.LoggedIn guid)
    (ht : (m.boost.GetTotalUpgradePlayer guid).toNat = m.total guid) :
    ((m.boost.ResetStatsAllocation guid).GetStatsPoints guid).toNat =
      ((m.boost.GetStatsPoints guid).toNat + (m.spent guid + 100 * m.bought guid)) % 2 ^ 64 := by
  have h1 : (1 : UInt64) ≤ m.boost.GetTotalUpgradePlayer guid := by
    rw [UInt64.le_iff_toNat_le, ht, total, Nat.add_assoc]
    exact Nat.le_add_right 1 _
  have hback : (m.boost.GetTotalUpgradePlayer guid - 1).toNat = m.spent guid + 100 * m.bought guid := by
    rw [UInt64.toNat_sub_of_le _ _ h1, ht, total, Nat.add_assoc]
    exact Nat.add_sub_cancel_left ..
  rw [getStatsPoints_reset hl, UInt64.sub_eq_add_neg, UInt64.add_assoc, ← UInt64.sub_eq_add_neg,
    UInt64.toNat_add, hback]

/-- A sum of 64 bits that has an amount too many is wrong also when it carries over. -/
theorem mod_eq_iff {x y z : ℕ} (hx : x < 2 ^ 64) (hy : y + z < 2 ^ 64) :
    (x + (y + z)) % 2 ^ 64 = x + y ↔ z = 0 ∧ x + y < 2 ^ 64 := by
  rcases Nat.lt_or_ge (x + (y + z)) (2 ^ 64) with hlt | hge <;> omega

theorem refunds_reset (hl : m.boost.LoggedIn guid) (ht : (m.boost.GetTotalUpgradePlayer guid).toNat = m.total guid) :
    ((m.boost.ResetStatsAllocation guid).GetStatsPoints guid).toNat =
        (m.boost.GetStatsPoints guid).toNat + m.spent guid ↔
      m.bought guid = 0 ∧ (m.boost.GetStatsPoints guid).toNat + m.spent guid < 2 ^ 64 := by
  have hsp := (m.boost.GetStatsPoints guid).toNat_lt
  have htu := (m.boost.GetTotalUpgradePlayer guid).toNat_lt
  rw [ht, total, Nat.add_assoc] at htu
  rw [toNat_getStatsPoints_reset hl ht, mod_eq_iff hsp (Nat.lt_of_add_left_lt htu), Nat.mul_eq_zero]
  simp

theorem buyTalent_of_le (h : m.boost.GetStatsPoints guid ≤ 100) : m.buyTalent guid = m := if_pos h

theorem buyTalent_of_lt (h : 100 < m.boost.GetStatsPoints guid) :
    m.buyTalent guid = ⟨m.boost.RemoveStatsPointsToPlayer guid 100,
      Function.update m.PLAYER_CHARACTER_POINTS1 guid 1, m.spent,
      Function.update m.bought guid (m.bought guid + 1)⟩ :=
  if_neg (UInt64.not_le.mpr h)

/-- The free talents of the player are set to 1, so one that had some does not gain any. -/
theorem refunds_buyTalent (hl : m.boost.LoggedIn guid) :
    m.Refunds (.buyTalent guid) (m.buyTalent guid) ↔ m.Keeps (.buyTalent guid) := by
  rw [Refunds, Keeps]
  by_cases hprice : 100 ≤ m.boost.GetStatsPoints guid
  · rw [if_pos hprice, forall_prop_of_true hprice]
    by_cases hlt : 100 < m.boost.GetStatsPoints guid
    · have hne : m.boost.GetStatsPoints guid ≠ 100 := fun h ↦ absurd (h ▸ hlt) (UInt64.lt_irrefl 100)
      have hpaid : (m.boost.GetStatsPoints guid - 100).toNat + 100 = (m.boost.GetStatsPoints guid).toNat := by
        rw [UInt64.toNat_sub_of_le _ _ hprice]
        exact Nat.sub_add_cancel (UInt64.le_iff_toNat_le.mp hprice)
      have hfree : (1 : UInt32).toNat = (m.PLAYER_CHARACTER_POINTS1 guid).toNat + 1 ↔
          m.PLAYER_CHARACTER_POINTS1 guid = 0 := by
        rw [← UInt32.toNat_inj]
        exact ⟨fun h ↦ (Nat.succ.inj h).symm, fun h ↦ congrArg Nat.succ h.symm⟩
      have hsum := toNat_add_eq_iff (m.boost.GetTotalUpgradePlayer guid) 100
      rw [buyTalent_of_lt hlt]
      simp only [Function.update_self, getStatsPoints_remove hl, getTotalUpgradePlayer_remove hl,
        hpaid, hfree, true_and, ne_eq, hne, not_false_eq_true]
      exact and_congr_right fun _ ↦ hsum
    · have heq : m.boost.GetStatsPoints guid = 100 := UInt64.le_antisymm (UInt64.not_lt.mp hlt) hprice
      simp [buyTalent_of_le (UInt64.not_lt.mp hlt), heq]
  · have hle : m.boost.GetStatsPoints guid ≤ 100 := UInt64.le_of_lt (UInt64.not_le.mp hprice)
    simp [hprice, buyTalent_of_le hle]

/-- **A choice does what it should exactly when it keeps to the condition**, for players with the total
they should have. -/
theorem refunds_iff_keeps (hacc : m.Accounted) {choice : Choice} (hn : menus.next m choice = some m') :
    m.Refunds choice m' ↔ m.Keeps choice := by
  cases choice with
  | call call =>
    obtain ⟨b, hb, rfl⟩ := Option.map_eq_some_iff.mp hn
    cases call with
    | UpdateStatsPlayerOnLogin guid sp tu =>
      rw [← Option.some.inj hb]
      exact refunds_login sp tu
    | GiveStatsPointsToPlayer guid n => exact Iff.rfl
    | AddStatToPlayer guid amount stat uninit =>
      obtain ⟨hl, h⟩ := Option.ite_none_right_eq_some.mp hb
      rw [← Option.some.inj h]
      refine forall_congr' fun hbuys ↦ ?_
      rw [getTotalUpgradePlayer_add hl hbuys]
      exact toNat_add_eq_iff _ _
    | ResetStatsAllocation guid =>
      obtain ⟨hl, h⟩ := Option.ite_none_right_eq_some.mp hb
      rw [← Option.some.inj h]
      exact (and_iff_left rfl).trans (refunds_reset hl (hacc guid hl))
  | buyTalent guid =>
    obtain ⟨hl, h⟩ := Option.ite_none_right_eq_some.mp hn
    rw [← Option.some.inj h]
    exact refunds_buyTalent hl
  | SetFreeTalentPoints guid points => exact Iff.rfl

/-! ## Runs -/

/-- The player of a choice. -/
def Choice.player : Choice → ObjectGuid
  | .call c => c.player
  | .buyTalent guid => guid
  | .SetFreeTalentPoints guid _ => guid

section

variable {choice : Choice} (hn : menus.next m choice = some m') (h : choice.player ≠ guid)
include hn h

theorem total_next_of_ne : m'.total guid = m.total guid := by
  cases choice with
  | call call =>
    obtain ⟨b, hb, rfl⟩ := Option.map_eq_some_iff.mp hn
    cases call with
    | UpdateStatsPlayerOnLogin guid' sp tu => rfl
    | GiveStatsPointsToPlayer guid' n => rfl
    | AddStatToPlayer guid' amount stat uninit =>
      have hspent : m.spentAfter (.AddStatToPlayer guid' amount stat uninit) guid = m.spent guid := by
        rw [spentAfter]
        split
        · exact Function.update_of_ne h.symm _ _
        · rfl
      simp only [total, hspent, boughtAfter]
    | ResetStatsAllocation guid' =>
      have hne : guid ≠ guid' := h.symm
      simp [total, spentAfter, boughtAfter, hne]
  | buyTalent guid' =>
    obtain ⟨_, hm⟩ := Option.ite_none_right_eq_some.mp hn
    have hne : guid ≠ guid' := h.symm
    rw [← Option.some.inj hm, buyTalent]
    split <;> simp [total, SetFreeTalentPoints, hne]
  | SetFreeTalentPoints guid' points =>
    rw [← Option.some.inj hn]
    rfl

/-- A choice leaves what another player has spent, and whether it is logged in, as they are. -/
theorem boost_next_of_ne (hl : m'.boost.LoggedIn guid) : m.boost.LoggedIn guid ∧
      m'.boost.GetTotalUpgradePlayer guid = m.boost.GetTotalUpgradePlayer guid := by
  cases choice with
  | call call =>
    obtain ⟨b, hb, rfl⟩ := Option.map_eq_some_iff.mp hn
    exact ⟨(loggedIn_next hb hl).resolve_right h.symm, (next_of_ne hb h).2⟩
  | buyTalent guid' =>
    obtain ⟨_, hm⟩ := Option.ite_none_right_eq_some.mp hn
    rw [← Option.some.inj hm, buyTalent] at hl ⊢
    split at hl
    · rename_i hle
      rw [if_pos hle]
      exact ⟨hl, rfl⟩
    · rename_i hle
      rw [if_neg hle]
      exact ⟨loggedIn_modify.mp hl, (remove_of_ne h 100).2⟩
  | SetFreeTalentPoints guid' points =>
    rw [← Option.some.inj hn] at hl ⊢
    exact ⟨hl, rfl⟩

end

/-- What a choice that does what it should leaves its player with. -/
theorem total_next_self (hacc : m.Accounted) {choice : Choice} (hn : menus.next m choice = some m')
    (hr : m.Refunds choice m') (hl : m'.boost.LoggedIn choice.player) :
    (m'.boost.GetTotalUpgradePlayer choice.player).toNat = m'.total choice.player := by
  cases choice with
  | call call =>
    obtain ⟨b, hb, rfl⟩ := Option.map_eq_some_iff.mp hn
    cases call with
    | UpdateStatsPlayerOnLogin guid sp tu => exact hr
    | GiveStatsPointsToPlayer guid n =>
      obtain ⟨hl, h⟩ := Option.ite_none_right_eq_some.mp hb
      rw [← Option.some.inj h]
      exact hacc guid hl
    | AddStatToPlayer guid amount stat uninit =>
      obtain ⟨hl, h⟩ := Option.ite_none_right_eq_some.mp hb
      have hold := hacc guid hl
      by_cases hbuys : m.boost.Buys guid amount stat uninit
      · refine (hr hbuys).trans ?_
        simp only [hold, total, spentAfter, boughtAfter, Choice.player, Call.player, if_pos hbuys, Function.update_self]
        omega
      · rw [← Option.some.inj h, addStatToPlayer_of_not_buys hbuys]
        simp only [total, spentAfter, boughtAfter, if_neg hbuys]
        exact hold
    | ResetStatsAllocation guid =>
      obtain ⟨hl, h⟩ := Option.ite_none_right_eq_some.mp hb
      rw [← Option.some.inj h]
      have hone : (m.boost.ResetStatsAllocation guid).GetTotalUpgradePlayer guid = 1 := getTotalUpgradePlayer_reset hl
      simp [Choice.player, Call.player, hone, total, spentAfter, boughtAfter]
  | buyTalent guid =>
    obtain ⟨hl, h⟩ := Option.ite_none_right_eq_some.mp hn
    have hold := hacc guid hl
    rw [← Option.some.inj h] at hr ⊢
    rw [Choice.player]
    rcases UInt64.lt_or_le 100 (m.boost.GetStatsPoints guid) with hlt | hle
    · rw [Refunds, if_pos (UInt64.le_of_lt hlt)] at hr
      rw [hr.2.2, hold, buyTalent_of_lt hlt]
      simp only [total, Function.update_self]
      omega
    · rw [buyTalent_of_le hle]
      exact hold
  | SetFreeTalentPoints guid points =>
    rw [← Option.some.inj hn] at hl ⊢
    exact hacc guid hl

theorem Accounted.next (hacc : m.Accounted) {choice : Choice} (hk : m.Keeps choice)
    (hn : menus.next m choice = some m') : m'.Accounted := by
  intro guid hl
  by_cases hg : choice.player = guid
  · subst hg
    exact total_next_self hacc hn ((refunds_iff_keeps hacc hn).mpr hk) hl
  · obtain ⟨hold, htu⟩ := boost_next_of_ne hn hg hl
    rw [htu, total_next_of_ne hn hg]
    exact hacc guid hold

/-- **A reset refunds the upgrades, and talents are sold for their price, along the runs that keep to the
condition**: there the next choice does what it should exactly when it keeps to the condition as well. -/
theorem refunds_of_reaches (h : menus.Reaches Keeps m) :
    ∀ choice m', menus.next m choice = some m' → (m.Refunds choice m' ↔ m.Keeps choice) := by
  have hacc : m.Accounted := by
    refine h.invariant ?_ fun m choice m' hacc hk hn ↦ hacc.next hk hn
    intro guid hl
    exact absurd hl.1 Std.ExtTreeMap.not_mem_empty
  exact fun choice m' hn ↦ refunds_iff_keeps hacc hn

/-- A player with the base point stored, that is given 200 points, buys 4 of stamina and then a talent. -/
def boughtBoth : List Choice := [.call (.UpdateStatsPlayerOnLogin 1 0 1), .call (.GiveStatsPointsToPlayer 1 200),
   .call (.AddStatToPlayer 1 4 3 (0, 0)), .buyTalent 1]

/-- Before the talent is bought, a reset gives back the 4 points of the upgrade. -/
theorem refunds_of_reaches_boughtBoth : ∃ m m', menus.next m (.call (.ResetStatsAllocation 1)) = some m' ∧
    m.spent 1 = 4 ∧ m.Refunds (.call (.ResetStatsAllocation 1)) m' := by
  obtain ⟨m, hm, hl, hspent, hk⟩ := menus.exists_reaches Keeps (boughtBoth.take 3)
    (fun m ↦ m.boost.LoggedIn 1 ∧ m.spent 1 = 4 ∧ m.Keeps (.call (.ResetStatsAllocation 1))) (by decide +kernel)
  have hn : menus.next m (.call (.ResetStatsAllocation 1)) = some
      ⟨m.boost.ResetStatsAllocation 1, m.PLAYER_CHARACTER_POINTS1, m.spentAfter (.ResetStatsAllocation 1),
        m.boughtAfter (.ResetStatsAllocation 1)⟩ := congrArg (Option.map _) (if_pos hl)
  exact ⟨m, _, hn, hspent, (refunds_of_reaches hm _ _ hn).mpr hk⟩

/-- After it, the reset gives back the price of the talent as well. -/
theorem not_refunds : ¬ ∀ m, menus.Reachable m →
    ∀ choice m', menus.next m choice = some m' → m.Refunds choice m' := by
  intro hall
  obtain ⟨m, hm, hl, hspent, hsp, hback⟩ := menus.exists_reachable boughtBoth
    (fun m ↦ m.boost.LoggedIn 1 ∧ m.spent 1 = 4 ∧ m.boost.GetStatsPoints 1 = 96 ∧
      (m.boost.ResetStatsAllocation 1).GetStatsPoints 1 = 200) (by decide +kernel)
  have hr := hall m hm (.call (.ResetStatsAllocation 1)) _ (congrArg (Option.map _) (if_pos hl))
  have hsum := hr.1
  simp [hback, hsp, hspent] at hsum

end Menu

end Gundrak
