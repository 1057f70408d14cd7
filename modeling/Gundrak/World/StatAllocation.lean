import Gundrak.Util.CheckedArithmetic
import Gundrak.Util.Int32
import Gundrak.World.KnowledgePoints

/-!
# What an upgrade of a stat does to the character

`StatsBoost` says what upgrades cost.  This file adds what `UpdateStatsPlayer` does with an upgrade that has
been bought, and with one that is taken back, to the values of the `Player` it goes into: the flat modifiers
of the stats and of the attack power, the ratings, the spell power and the spell penetration.

There are three mechanisms.  A flat modifier is read, changed and written back through a `uint32`.  A rating
is changed by `ApplyRatingMod`, in 16 bits; for the parry rating what is added is not the amount alone but
also the bonus that the rating gives at the moment.  And the spell power and the penetration have functions
of their own, of which the one for the spell power does not go below 0.

Flat modifiers are rationals.  What the updates of the other fields of the player do is left out, except for
the field of a rating, which the bonus is read from: it is written by `ApplyRatingMod`, and also when a stat
changes that an aura makes a rating from.
-/

namespace Gundrak

open Checked (truncate asInt32 asUInt32)

/-- `UnitMods`, those with a stat of their own. -/
inductive UnitMods where
  | STAT_STRENGTH
  | STAT_AGILITY
  | STAT_STAMINA
  | STAT_INTELLECT
  | STAT_SPIRIT
  | ATTACK_POWER
  | ATTACK_POWER_RANGED
deriving DecidableEq

/-- `CombatRating`, those with a stat of their own. -/
inductive CombatRating where
  | DODGE
  | PARRY
  | BLOCK
  | HIT_MELEE
  | HIT_RANGED
  | HIT_SPELL
  | CRIT_MELEE
  | CRIT_RANGED
  | CRIT_SPELL
  | HASTE_MELEE
  | HASTE_RANGED
  | HASTE_SPELL
  | EXPERTISE
  | ARMOR_PENETRATION
deriving DecidableEq

/-- What stays the same about a `Player` while upgrades are bought and taken back. -/
structure Character where
  CanModifyStats : Bool
  /-- of the class and the level -/
  GetRatingMultiplier : CombatRating → ℚ
  /-- the ratings that an aura of the type `SPELL_AURA_MOD_RATING_FROM_STAT` makes from this stat -/
  ratingsFromStat : UnitMods → List CombatRating
  /-- what those auras add to a rating, with these flat modifiers -/
  ratingFromStats : (UnitMods → ℚ) → CombatRating → ℤ

/-- The values of a `Player` that upgrades change. -/
structure Modifiers where
  /-- `m_auraFlatModifiersGroup[..][TOTAL_VALUE]` -/
  flat : UnitMods → ℚ
  m_baseRatingValue : CombatRating → Int16
  /-- `PLAYER_FIELD_COMBAT_RATING_1 + ..` -/
  ratingField : CombatRating → ℕ
  m_baseSpellPower : UInt32
  m_spellPenetrationItemMod : Int32

namespace Modifiers

variable (character : Character) (player : Modifiers)

/-! ## Ratings -/

/-- `Player::UpdateRating`. -/
def UpdateRating (cr : CombatRating) : Modifiers :=
  { player with
    ratingField := Function.update player.ratingField cr
      (max 0 ((player.m_baseRatingValue cr).toInt + character.ratingFromStats player.flat cr)).toNat }

/-- `Player::ApplyRatingMod`. -/
def ApplyRatingMod (cr : CombatRating) (value : ℤ) (apply : Bool) : Modifiers := UpdateRating character { player with
      m_baseRatingValue := Function.update player.m_baseRatingValue cr
        (player.m_baseRatingValue cr + Int16.ofInt (if apply then value else -value)) } cr

/-- `Player::GetRatingBonusValue`. -/
def GetRatingBonusValue (cr : CombatRating) : ℚ := player.ratingField cr * character.GetRatingMultiplier cr

/-! ## Flat modifiers -/

/-- `Unit::SetStatFlatModifier`, for `TOTAL_VALUE`. -/
def SetStatFlatModifier (unitMod : UnitMods) (val : ℚ) : Modifiers :=
  if player.flat unitMod = val then player
  else
    let player := { player with flat := Function.update player.flat unitMod val }
    if character.CanModifyStats then
      (character.ratingsFromStat unitMod).foldl (fun player cr ↦ player.ApplyRatingMod character cr 0 true) player
    else player

/-! ## Spell power and penetration -/

/-- `_ModifyUInt32`; what it leaves in the base value. -/
def modifyUInt32 (apply : Bool) (baseValue : UInt32) (amount : ℤ) : UInt32 :=
  let (apply, amount) := if amount < 0 then (!apply, -amount) else (apply, amount)
  if apply then baseValue + UInt32.ofInt amount
  else baseValue - UInt32.ofInt (if amount > int32 baseValue.toNat then int32 baseValue.toNat else amount)

/-- `Player::ApplySpellPowerBonus`. -/
def ApplySpellPowerBonus (amount : ℤ) (apply : Bool) : Modifiers :=
  { player with m_baseSpellPower := modifyUInt32 apply player.m_baseSpellPower amount }

/-- `Player::ApplySpellPenetrationBonus`. -/
def ApplySpellPenetrationBonus (amount : ℤ) (apply : Bool) : Option Modifiers :=
  (asInt32 (player.m_spellPenetrationItemMod.toInt + if apply then amount else -amount)).map fun mod ↦
    { player with m_spellPenetrationItemMod := Int32.ofInt mod }

end Modifiers

namespace StatsBoost

/-! ## `UpdateStatsPlayer` -/

/-- What a stat type is an upgrade of. -/
inductive Upgraded where
  | flat (unitMod : UnitMods)
  | rating (cr : CombatRating)
  | spellPower
  | spellPenetration
deriving DecidableEq

/-- The cases of the `switch` of `UpdateStatsPlayer`. -/
def upgraded (stat : UInt32) : Option Upgraded :=
  match stat.toNat with
  | 1 => some (.flat .STAT_SPIRIT)
  | 2 => some (.flat .STAT_STRENGTH)
  | 3 => some (.flat .STAT_STAMINA)
  | 4 => some (.flat .STAT_AGILITY)
  | 5 => some (.flat .STAT_INTELLECT)
  | 6 => some (.flat .ATTACK_POWER)
  | 7 => some (.rating .CRIT_MELEE)
  | 8 => some (.rating .HIT_MELEE)
  | 9 => some (.rating .EXPERTISE)
  | 10 => some (.rating .ARMOR_PENETRATION)
  | 11 => some (.rating .HASTE_MELEE)
  | 12 => some (.flat .ATTACK_POWER_RANGED)
  | 13 => some (.rating .CRIT_RANGED)
  | 14 => some (.rating .HIT_RANGED)
  | 15 => some (.rating .HASTE_RANGED)
  | 16 => some .spellPower
  | 17 => some (.rating .CRIT_SPELL)
  | 18 => some (.rating .HIT_SPELL)
  | 19 => some (.rating .HASTE_SPELL)
  | 20 => some .spellPenetration
  | 21 => some (.rating .DODGE)
  | 22 => some (.rating .PARRY)
  | 23 => some (.rating .BLOCK)
  | _ => none

/-- What one case of `UpdateStatsPlayer` does; the parry rating also adds the bonus that it gives. -/
def update (character : Character) (player : Modifiers) (c : Upgraded) (amount : ℚ) (increase : Bool) :
    Option Modifiers :=
  let amount := if increase then amount else -amount
  match c with
  | .flat unitMod => (asUInt32 (truncate (player.flat unitMod + amount))).map fun stats : ℕ ↦
      player.SetStatFlatModifier character unitMod stats
  | .rating cr =>
      let rating := if cr = .PARRY then player.GetRatingBonusValue character cr + amount else amount
      (asInt32 (truncate rating)).map fun value ↦ player.ApplyRatingMod character cr value true
  | .spellPower => (asInt32 (truncate amount)).map fun value ↦ player.ApplySpellPowerBonus value true
  | .spellPenetration =>
      (asInt32 (truncate amount)).bind fun value ↦ player.ApplySpellPenetrationBonus value true

/-- `StatsBoost::UpdateStatsPlayer`. -/
def UpdateStatsPlayer (character : Character) (player : Modifiers) (stat : UInt32) (amount : ℚ) (increase : Bool) :
    Option Modifiers :=
  match upgraded stat with
  | some c => update character player c amount increase
  | none => some player

/-! ## Buying and taking back -/

/-- A player with its points and its rows, and the values that upgrades change. -/
structure Allocation where
  boost : StatsBoost
  player : Modifiers

variable (character : Character) (guid : ObjectGuid)

/-- A purchase. -/
structure Purchase where
  amount : UInt32
  stat : UInt32
  /-- see `CalculateUpgrade` -/
  uninit : UInt32 × UInt32

/-- `StatsBoost::AddStatToPlayer`, with what it does to the player. -/
def Allocation.AddStatToPlayer (s : Allocation) (x : Purchase) : Option Allocation :=
  if s.boost.Buys guid x.amount x.stat x.uninit then
    (UpdateStatsPlayer character s.player x.stat x.amount.toNat true).map fun player ↦
      ⟨s.boost.AddStatToPlayer guid x.amount x.stat x.uninit, player⟩
  else some s

/-- The rows that the query of `ResetStatsAllocation` finds, in some order. -/
def SelectsRows (b : StatsBoost) (guid : ObjectGuid) (rows : List (UInt32 × UInt64)) : Prop :=
  (rows.map Prod.fst).Nodup ∧ ∀ stat amount, (stat, amount) ∈ rows ↔ b.characters_stats_boost guid stat = some amount

/-- The loop of `ResetStatsAllocation` over the rows. -/
def takeBack (player : Modifiers) (rows : List (UInt32 × UInt64)) : Option Modifiers :=
  rows.foldlM (fun player row ↦ UpdateStatsPlayer character player row.1 row.2.toNat false) player

/-- `StatsBoost::ResetStatsAllocation`, with what it does to the player. -/
def Allocation.ResetStatsAllocation (s : Allocation) (rows : List (UInt32 × UInt64)) : Option Allocation :=
  (takeBack character s.player rows).map fun player ↦ ⟨s.boost.ResetStatsAllocation guid, player⟩

/-- A player that buys upgrades. -/
def purchases (s₀ : Allocation) : Machine Allocation Purchase where
  start := s₀
  next s x := s.AddStatToPlayer character guid x

end StatsBoost

end Gundrak
