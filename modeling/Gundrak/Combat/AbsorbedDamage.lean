import Gundrak.Util.CheckedArithmetic
import Gundrak.Util.ListLoop

/-!
# Absorbing damage

Before damage is dealt, `Unit::CalcAbsorbResist` takes away what the victim resists and what its auras absorb.  A
`DamageInfo` is handed through four loops: over the auras that absorb damage of a school, over the mana shields, which
are paid for with mana, and over the auras that split damage with their casters, by an amount or by a percentage.  Part
of the damage may ignore the absorption; it is put aside during the first two loops.

An absorbing aura effect has an amount that goes down with what it absorbs, and its aura is removed when nothing is left;
a negative amount stands for an aura without a limit of its own.  The loops go through copies of the victim's lists and
pass over effects whose aura has been removed meanwhile.

Floating-point numbers are rationals here, and an evaluation that has no defined value is `none`.  The hooks of scripts
change no amounts, but they may prevent the default action.  What happens to the caster of a splitting aura is left out.
-/

namespace Gundrak.Absorption

open Checked

/-! ## The damage -/

/-- `PROC_HIT_NORMAL`. -/
def PROC_HIT_NORMAL : UInt32 := 0x1
/-- `PROC_HIT_CRITICAL`. -/
def PROC_HIT_CRITICAL : UInt32 := 0x2
/-- `PROC_HIT_FULL_RESIST`. -/
def PROC_HIT_FULL_RESIST : UInt32 := 0x8
/-- `PROC_HIT_ABSORB`. -/
def PROC_HIT_ABSORB : UInt32 := 0x400

/-- `DamageInfo`, with its `uint32` amounts. -/
structure DamageInfo where
  m_damage : ℕ
  m_absorb : ℕ
  m_resist : ℕ
  m_hitMask : UInt32
deriving DecidableEq

namespace DamageInfo

variable (info : DamageInfo)

/-- `DamageInfo::ModifyDamage`. -/
def ModifyDamage (amount : ℤ) : Option DamageInfo := do
  let damage ← asInt32 info.m_damage
  let m_damage ← asUInt32 (info.m_damage + max amount (-damage))
  return { info with m_damage }

/-- `DamageInfo::AbsorbDamage`. -/
def AbsorbDamage (amount : ℕ) : Option DamageInfo := do
  let amount := min amount info.m_damage
  let m_absorb ← asUInt32 (info.m_absorb + amount)
  return { info with
    m_absorb
    m_damage := info.m_damage - amount
    m_hitMask := info.m_hitMask ||| PROC_HIT_ABSORB }

/-- `DamageInfo::ResistDamage`. -/
def ResistDamage (amount : ℕ) : Option DamageInfo := do
  let amount := min amount info.m_damage
  let m_resist ← asUInt32 (info.m_resist + amount)
  return { info with
    m_resist
    m_damage := info.m_damage - amount
    m_hitMask :=
      if info.m_damage - amount = 0 then
        (info.m_hitMask ||| PROC_HIT_FULL_RESIST) &&& ~~~(PROC_HIT_NORMAL ||| PROC_HIT_CRITICAL)
      else info.m_hitMask }

end DamageInfo

/-- `CalculatePct` for a `uint32`. -/
def CalculatePct (base : ℕ) (pct : ℚ) : Option ℕ := asUInt32 (truncate (base * pct / 100))

/-- `RoundToInterval`. -/
def RoundToInterval {α : Type} [Min α] [Max α] (num floor ceil : α) : α := min (max num floor) ceil

/-! ## The victim -/

/-- An `AuraEffect` that absorbs damage.  Its amount can change and is kept with the victim. -/
structure AuraEffect where
  id : ℕ
  /-- `GetBase`, the aura it is an effect of -/
  base : ℕ
  miscValue : UInt32
  /-- `CalcValueMultiplier` -/
  manaMultiplier : ℚ
  /-- whether a script prevents the default action -/
  defaultPrevented : Bool
deriving DecidableEq

/-- The caster of an aura, as the loops over the splitting auras ask about it. -/
structure SplitCaster where
  isVictim : Bool
  IsInWorld : Bool
  IsAlive : Bool

/-- An `AuraEffect` that splits damage. -/
structure SplitEffect where
  base : ℕ
  miscValue : UInt32
  amount : Int32
  caster : Option SplitCaster

/-- The victim: the amounts of its absorbing effects, the auras that are applied to it, and its mana.  `SetPower` keeps
the mana within its maximum, and `SetStatInt32Value` keeps both within an `int32`. -/
structure Victim where
  amount : AuraEffect → Int32
  applied : ℕ → Bool
  mana : ℕ
  maxMana : ℕ
  mana_le : mana ≤ maxMana
  maxMana_lt : maxMana < 2 ^ 31

namespace Victim

variable (victim : Victim)

/-- `SetAmount`. -/
def SetAmount (e : AuraEffect) (amount : Int32) : Victim :=
  { victim with amount := Function.update victim.amount e amount }

/-- `Aura::Remove`. -/
def Remove (base : ℕ) : Victim := { victim with applied := Function.update victim.applied base false }

/-- What is left of an effect is set, and an aura that cannot absorb anything more is removed. -/
def reduce (e : AuraEffect) (left : ℤ) : Victim :=
  let victim := victim.SetAmount e (Int32.ofInt left)
  if left ≤ 0 then victim.Remove e.base else victim

/-- `SetPower`, for mana. -/
def SetPower (val : ℕ) : Victim :=
  { victim with
    mana := min val victim.maxMana
    mana_le := min_le_right val victim.maxMana }

/-- `Unit::ModifyPower`, for mana; the gain is returned as well. -/
def ModifyPower (dVal : ℤ) : Option (ℤ × Victim) :=
  if dVal = 0 then some (0, victim)
  else do
    let curPower : ℤ := victim.mana
    let maxPower : ℤ := victim.maxMana
    let val ← asInt32 (dVal + curPower)
    if val ≤ 0 then return (-curPower, victim.SetPower 0)
    else if val < maxPower then return (val - curPower, victim.SetPower val.toNat)
    else if curPower ≠ maxPower then return (maxPower - curPower, victim.SetPower victim.maxMana)
    else return (0, victim)

end Victim

/-! ## The loops -/

/-- What an effect absorbed in a turn of a loop, and the mana that was taken for it if it is a mana shield. -/
structure Absorbed where
  effect : AuraEffect
  amount : ℕ
  manaTaken : Option ℤ

/-- The state the loops change, with a list of what was absorbed. -/
structure State where
  info : DamageInfo
  victim : Victim
  log : List Absorbed

namespace State

variable (s : State) (schoolMask : UInt32)

/-- `damageInfo.GetDamage() > 0`. -/
def damageLeft : Bool := 0 < s.info.m_damage

/-- Whether a loop works on an effect: its aura is still applied and is about the school of the damage. -/
def concerns (base : ℕ) (miscValue : UInt32) : Bool := s.victim.applied base && miscValue &&& schoolMask != 0

/-- What an effect could absorb of the damage: an effect without a limit is left to the scripts. -/
def currentAbsorb (e : AuraEffect) : Option ℤ := do
  let damage ← asInt32 s.info.m_damage
  return RoundToInterval (max (s.victim.amount e).toInt 0) 0 damage

/-- The end of a turn: the damage is absorbed, the amount goes down, and an aura with nothing left is removed. -/
def absorb (e : AuraEffect) (currentAbsorb : ℤ) (manaTaken : Option ℤ) (victim : Victim) : Option State := do
  let amount ← asUInt32 currentAbsorb
  let info ← s.info.AbsorbDamage amount
  let log := s.log ++ [⟨e, info.m_absorb - s.info.m_absorb, manaTaken⟩]
  if 0 ≤ (victim.amount e).toInt then
    let left ← asInt32 ((victim.amount e).toInt - currentAbsorb)
    return ⟨info, victim.reduce e left, log⟩
  else return ⟨info, victim, log⟩

/-- A turn of the loop over the auras that absorb damage of a school. -/
def schoolAbsorb (e : AuraEffect) : Option State :=
  if !s.concerns schoolMask e.base e.miscValue || e.defaultPrevented then some s
  else do
    let currentAbsorb ← s.currentAbsorb e
    s.absorb e currentAbsorb none s.victim

/-- The mana that a mana shield with a multiplier is to take for absorbing damage. -/
def manaReduction (manaMultiplier : ℚ) (currentAbsorb : ℤ) : Option ℤ :=
  if manaMultiplier ≠ 0 then asInt32 (truncate (currentAbsorb * manaMultiplier)) else some currentAbsorb

/-- A turn of the loop over the mana shields. -/
def manaShield (e : AuraEffect) : Option State :=
  if !s.concerns schoolMask e.base e.miscValue || e.defaultPrevented then some s
  else do
    let currentAbsorb ← s.currentAbsorb e
    let manaReduction ← manaReduction e.manaMultiplier currentAbsorb
    let dVal ← asInt32 (-manaReduction)
    let (gain, victim) ← s.victim.ModifyPower dVal
    let manaTaken ← asInt32 (-gain)
    let currentAbsorb ←
      if currentAbsorb ≠ 0 then do
        let paid ← div manaTaken manaReduction
        asInt32 (truncate (currentAbsorb * paid))
      else some 0
    s.absorb e currentAbsorb (some manaTaken) victim

/-- Whether damage is split with the caster of an aura. -/
def splits (e : SplitEffect) : Bool := s.concerns schoolMask e.base e.miscValue && e.caster.any fun caster ↦
    !caster.isVictim && caster.IsInWorld && caster.IsAlive

/-- A turn of the loop over the auras that split damage by an amount. -/
def splitDamageFlat (e : SplitEffect) : Option State :=
  if !s.splits schoolMask e then some s
  else do
    let damage ← asInt32 s.info.m_damage
    let splitDamage ← asUInt32 (RoundToInterval e.amount.toInt 0 damage)
    let info ← s.info.AbsorbDamage splitDamage
    return { s with info }

/-- A turn of the loop over the auras that split damage by a percentage. -/
def splitDamagePct (e : SplitEffect) : Option State :=
  if !s.splits schoolMask e then some s
  else do
    let splitDamage ← CalculatePct s.info.m_damage e.amount.toInt
    let info ← s.info.AbsorbDamage (RoundToInterval splitDamage 0 s.info.m_damage)
    return { s with info }

end State

/-! ## The call -/

/-- What `Unit::CalcAbsorbResist` asks of the attacker and of the victim.  The auras that absorb damage of a school are in
the order they are sorted in. -/
structure Call where
  /-- whether there is a victim and it is alive -/
  victimIsAlive : Bool
  victimIsAttacker : Bool
  schoolMask : UInt32
  /-- `CalcSpellResistedDamage` -/
  resistedDamage : ℕ
  auraAbsorbMod : ℚ
  vSchoolAbsorbCopy : List AuraEffect
  vManaShieldCopy : List AuraEffect
  vSplitDamageFlatCopy : List SplitEffect
  vSplitDamagePctCopy : List SplitEffect

namespace Call

variable (c : Call)

/-- The part of the damage that ignores absorbing auras. -/
def absorbIgnoringDamage (info : DamageInfo) : Option ℤ := do
  let ignoring ← CalculatePct info.m_damage (RoundToInterval c.auraAbsorbMod 0 100)
  asInt32 ignoring

/-- The two loops over absorbing auras. -/
def absorbLoops (s : State) : Option State := do
  let s ← ListLoop.run State.damageLeft (fun e s ↦ s.schoolAbsorb c.schoolMask e) c.vSchoolAbsorbCopy s
  ListLoop.run State.damageLeft (fun e s ↦ s.manaShield c.schoolMask e) c.vManaShieldCopy s

/-- The two loops over splitting auras. -/
def splitLoops (s : State) : Option State :=
  if c.victimIsAttacker then some s
  else do
    let s ← ListLoop.run State.damageLeft (fun e s ↦ s.splitDamageFlat c.schoolMask e) c.vSplitDamageFlatCopy s
    ListLoop.run State.damageLeft (fun e s ↦ s.splitDamagePct c.schoolMask e) c.vSplitDamagePctCopy s

/-- `Unit::CalcAbsorbResist`. -/
def CalcAbsorbResist (victim : Victim) (damageInfo : DamageInfo) : Option State :=
  if !c.victimIsAlive || damageInfo.m_damage == 0 then some ⟨damageInfo, victim, []⟩
  else do
    let damageInfo ← damageInfo.ResistDamage c.resistedDamage
    let absorbIgnoringDamage ← c.absorbIgnoringDamage damageInfo
    let damageInfo ← damageInfo.ModifyDamage (-absorbIgnoringDamage)
    let s ← c.absorbLoops ⟨damageInfo, victim, []⟩
    let damageInfo ← s.info.ModifyDamage absorbIgnoringDamage
    c.splitLoops { s with info := damageInfo }

end Call

end Gundrak.Absorption
