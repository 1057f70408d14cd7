import Gundrak.Combat.AbsorbedDamage

/-!
# Absorption conserves damage

What `Unit::CalcAbsorbResist` takes from the damage it adds to what was absorbed or resisted; an effect loses from its
amount what it absorbed, its aura is removed when nothing is left, and a mana shield absorbs what the mana taken from
the victim pays for (`Conserved`).  All of this is a matter of one turn of a loop: `Ledger` is what the turns keep.

Two kinds of turns go wrong.  A mana shield divides by the mana it is to take, which is zero when little damage is
absorbed with a multiplier below one, and gives mana away when its multiplier is negative (`ManaFits`); and a percentage
of the damage may not be a `uint32` (`PercentageFits`).  `CalcAbsorbResist_iff` says that nothing else does.
-/

namespace Gundrak.Absorption

open Checked

/-! ## What should hold -/

/-- The mana that absorbing some damage costs; without a multiplier, one point for each point of damage. -/
def manaCost (manaMultiplier : ℚ) (damage : ℤ) : ℤ :=
  if manaMultiplier ≠ 0 then truncate (damage * manaMultiplier) else damage

/-- The mana that was taken, if any was needed, pays for what was absorbed. -/
def Absorbed.Paid (x : Absorbed) : Prop := ∀ manaTaken, x.manaTaken = some manaTaken →
    x.amount = 0 ∨ (0 < manaTaken ∧ manaCost x.effect.manaMultiplier x.amount ≤ manaTaken)

/-- What an effect has absorbed. -/
def absorbedBy (log : List Absorbed) (e : AuraEffect) : ℕ := ((log.filter (·.effect = e)).map (·.amount)).sum

/-- An aura is removed if it was, or if an effect of it has worked and has nothing left. -/
def RemovedRightly (victim : Victim) (s : State) : Prop :=
  ∀ base, s.victim.applied base = false ↔ victim.applied base = false ∨
      ∃ x ∈ s.log, x.effect.base = base ∧ 0 ≤ (victim.amount x.effect).toInt ∧ (s.victim.amount x.effect).toInt = 0

/-- What should hold after a call with a victim and some damage. -/
structure Conserved (victim : Victim) (info : DamageInfo) (s : State) : Prop where
  sum : s.info.m_damage + s.info.m_absorb + s.info.m_resist = info.m_damage + info.m_absorb + info.m_resist
  lost : ∀ e, 0 ≤ (victim.amount e).toInt → (s.victim.amount e).toInt = (victim.amount e).toInt - absorbedBy s.log e
  removed : RemovedRightly victim s
  paid : ∀ x ∈ s.log, x.Paid

/-! ## When it does -/

/-- What an effect could absorb of the damage. -/
def absorbable (e : AuraEffect) (s : State) : ℤ := min (max (s.victim.amount e).toInt 0) s.info.m_damage

/-- A mana shield that could absorb something takes a whole point of mana at least, in an `int32`, or gives the victim
mana and absorbs nothing. -/
def ManaFits (schoolMask : UInt32) (e : AuraEffect) (s : State) : Prop :=
  s.concerns schoolMask e.base e.miscValue = true → e.defaultPrevented = false → absorbable e s ≠ 0 →
    let cost := manaCost e.manaMultiplier (absorbable e s)
    cost ≠ 0 ∧ -2 ^ 31 < cost ∧ cost < 2 ^ 31 ∧ (cost < 0 → s.victim.mana - cost < 2 ^ 31 ∧
        absorbable e s * min (-cost) (s.victim.maxMana - s.victim.mana) < -cost)

/-- The percentage of the damage is a `uint32`. -/
def PercentageFits (schoolMask : UInt32) (e : SplitEffect) (s : State) : Prop := s.splits schoolMask e = true →
    -100 < s.info.m_damage * e.amount.toInt ∧ s.info.m_damage * e.amount.toInt < 100 * 2 ^ 32

/-! ## The amounts of the damage -/

namespace DamageInfo

variable {info info' : DamageInfo}

/-- All the damage there is. -/
def total (info : DamageInfo) : ℕ := info.m_damage + info.m_absorb + info.m_resist

theorem AbsorbDamage_spec (htotal : info.total < 2 ^ 32) (amount : ℕ) :
    ∃ info', info.AbsorbDamage amount = some info' ∧ info'.m_damage = info.m_damage - amount ∧
      info'.m_absorb = info.m_absorb + min amount info.m_damage ∧ info'.total = info.total := by
  have hle := min_le_right amount info.m_damage
  have hsum : asUInt32 (info.m_absorb + (min amount info.m_damage : ℕ) : ℤ) =
      some (info.m_absorb + min amount info.m_damage) := by
    rw [total] at htotal
    exact asUInt32_eq_some.mpr ⟨by omega, by push_cast; rfl⟩
  refine ⟨_, by rw [AbsorbDamage, hsum]; rfl, ?_, rfl, ?_⟩
  · dsimp only
    omega
  · simp only [total]
    omega

theorem ResistDamage_spec (htotal : info.total < 2 ^ 32) (amount : ℕ) :
    ∃ info', info.ResistDamage amount = some info' ∧ info'.m_damage ≤ info.m_damage ∧ info'.total = info.total := by
  have hle := min_le_right amount info.m_damage
  have hsum : asUInt32 (info.m_resist + (min amount info.m_damage : ℕ) : ℤ) =
      some (info.m_resist + min amount info.m_damage) := by
    rw [total] at htotal
    exact asUInt32_eq_some.mpr ⟨by omega, by push_cast; rfl⟩
  refine ⟨_, by rw [ResistDamage, hsum]; rfl, ?_, ?_⟩
  · dsimp only
    omega
  · simp only [total]
    omega

theorem ModifyDamage_spec (hdamage : info.m_damage < 2 ^ 31) {amount : ℤ} (hl : -info.m_damage ≤ amount)
    (hu : info.m_damage + amount < 2 ^ 31) :
    info.ModifyDamage amount = some { info with m_damage := (info.m_damage + amount).toNat } := by
  have hint : asInt32 (info.m_damage : ℤ) = some (info.m_damage : ℤ) := asInt32_eq_some.mpr ⟨by omega, rfl⟩
  have huint : asUInt32 (info.m_damage + amount) = some (info.m_damage + amount).toNat :=
    asUInt32_eq_some.mpr ⟨by omega, by omega⟩
  simp [ModifyDamage, hint, Option.bind_eq_bind, Option.bind_some, max_eq_left hl, huint]

end DamageInfo

/-! ## The amounts of the effects -/

namespace Victim

variable (victim : Victim) (e e' : AuraEffect) {left : ℤ}

theorem amount_reduce (hl : 0 ≤ left) (hu : left < 2 ^ 31) :
    ((victim.reduce e left).amount e').toInt = if e = e' then left else (victim.amount e').toInt := by
  have hamount : (victim.reduce e left).amount = Function.update victim.amount e (Int32.ofInt left) := by
    rw [reduce]
    split <;> rfl
  rw [hamount]
  by_cases heq : e = e'
  · subst heq
    simp [Int32.toInt_ofInt_of_le (by omega) hu]
  · rw [Function.update_of_ne (Ne.symm heq), if_neg heq]

theorem applied_reduce (base : ℕ) :
    (victim.reduce e left).applied base = false ↔ victim.applied base = false ∨ (left ≤ 0 ∧ e.base = base) := by
  rw [reduce]
  split
  next h =>
    by_cases heq : base = e.base
    · subst heq
      simp [Remove, h]
    · simp [Remove, SetAmount, Function.update_of_ne heq, Ne.symm heq]
  next h => simp [SetAmount, h]

end Victim

/-! ## What a turn keeps -/

/-- The accounts, in the middle of a loop: what a victim had at the start, the damage there is in all, and what may be
left of it. -/
structure Ledger (victim : Victim) (total bound : ℕ) (s : State) : Prop where
  total_eq : s.info.total = total
  total_lt : total < 2 ^ 32
  damage_le : s.info.m_damage ≤ bound
  bound_lt : bound < 2 ^ 31
  lost : ∀ e, (s.victim.amount e).toInt = (victim.amount e).toInt - absorbedBy s.log e
  sign : ∀ e, 0 ≤ (victim.amount e).toInt ↔ 0 ≤ (s.victim.amount e).toInt
  removed : RemovedRightly victim s

theorem absorbedBy_append (log : List Absorbed) (x : Absorbed) (e : AuraEffect) :
    absorbedBy (log ++ [x]) e = absorbedBy log e + if x.effect = e then x.amount else 0 := by
  rw [absorbedBy, List.filter_append, List.map_append, List.sum_append, absorbedBy]
  by_cases h : x.effect = e <;> simp [h]

namespace Ledger

variable {victim : Victim} {total bound : ℕ} {s : State} {e : AuraEffect}

theorem damage_lt (h : Ledger victim total bound s) : s.info.m_damage < 2 ^ 31 := lt_of_le_of_lt h.damage_le h.bound_lt

theorem absorbable_nonneg (e : AuraEffect) (s : State) : 0 ≤ absorbable e s :=
  le_min (le_max_right _ _) (Int.natCast_nonneg _)

theorem absorbable_le (e : AuraEffect) (s : State) : absorbable e s ≤ s.info.m_damage := min_le_right _ _

theorem currentAbsorb_eq (h : Ledger victim total bound s) (e : AuraEffect) :
    s.currentAbsorb e = some (absorbable e s) := by
  have hint : asInt32 (s.info.m_damage : ℤ) = some (s.info.m_damage : ℤ) :=
    asInt32_eq_some.mpr ⟨⟨by omega, by have := h.damage_lt; omega⟩, rfl⟩
  rw [State.currentAbsorb, hint]
  simp [RoundToInterval, absorbable]

/-- The amounts and the auras after a turn keep the accounts, for an effect that lost what it absorbed. -/
theorem settle (h : Ledger victim total bound s) {c : ℤ} (hl : 0 ≤ c) (hu : c ≤ absorbable e s) {t : State}
    {manaTaken : Option ℤ} (htotal : t.info.total = total) (hdamage : t.info.m_damage ≤ s.info.m_damage)
    (hlog : t.log = s.log ++ [⟨e, c.toNat, manaTaken⟩])
    (hamount : ∀ e', (t.victim.amount e').toInt = (s.victim.amount e').toInt - if e = e' then c else 0)
    (happlied : ∀ base, t.victim.applied base = false ↔ s.victim.applied base = false ∨
      (0 ≤ (s.victim.amount e).toInt ∧ (s.victim.amount e).toInt - c ≤ 0 ∧ e.base = base)) :
    Ledger victim total bound t := by
  -- an effect with a limit does not absorb more than is left of it, one without a limit absorbs nothing
  have hcap : 0 ≤ (s.victim.amount e).toInt → c ≤ (s.victim.amount e).toInt := by
    intro hpos
    have hmax : absorbable e s ≤ max (s.victim.amount e).toInt 0 := min_le_left _ _
    rw [max_eq_left hpos] at hmax
    exact hu.trans hmax
  have hnone : (s.victim.amount e).toInt < 0 → c = 0 := by
    intro hneg
    have hmax : absorbable e s ≤ max (s.victim.amount e).toInt 0 := min_le_left _ _
    omega
  refine ⟨htotal, h.total_lt, hdamage.trans h.damage_le, h.bound_lt, fun e' ↦ ?_, fun e' ↦ ?_, fun base ↦ ?_⟩
  · rw [hamount, h.lost, hlog, absorbedBy_append]
    split
    · push_cast
      rw [Int.toNat_of_nonneg hl]
      ring
    · simp
  · rw [h.sign, hamount]
    split
    next heq =>
      subst heq
      constructor
      · intro hpos
        have hle := hcap hpos
        omega
      · intro hpos
        omega
    next => simp
  · rw [happlied, h.removed base, hlog]
    simp only [List.mem_append, List.mem_singleton, or_and_right, exists_or, exists_eq_left]
    have hold : (∃ x ∈ s.log, x.effect.base = base ∧ 0 ≤ (victim.amount x.effect).toInt ∧
        (t.victim.amount x.effect).toInt = 0) →
        (∃ x ∈ s.log, x.effect.base = base ∧ 0 ≤ (victim.amount x.effect).toInt ∧
          (s.victim.amount x.effect).toInt = 0) ∨
        (0 ≤ (s.victim.amount e).toInt ∧ (s.victim.amount e).toInt - c ≤ 0 ∧ e.base = base) := by
      rintro ⟨x, hx, hbase, hpos, hzero⟩
      rw [hamount] at hzero
      by_cases heq : e = x.effect
      · subst heq
        rw [if_pos rfl] at hzero
        exact Or.inr ⟨(h.sign _).mp hpos, by omega, hbase⟩
      · rw [if_neg heq, sub_zero] at hzero
        exact Or.inl ⟨x, hx, hbase, hpos, hzero⟩
    have hkept : (∃ x ∈ s.log, x.effect.base = base ∧ 0 ≤ (victim.amount x.effect).toInt ∧
        (s.victim.amount x.effect).toInt = 0) →
        ∃ x ∈ s.log, x.effect.base = base ∧ 0 ≤ (victim.amount x.effect).toInt ∧
          (t.victim.amount x.effect).toInt = 0 := by
      rintro ⟨x, hx, hbase, hpos, hzero⟩
      refine ⟨x, hx, hbase, hpos, ?_⟩
      rw [hamount]
      by_cases heq : e = x.effect
      · subst heq
        have hle := hcap hzero.ge
        omega
      · simp [heq, hzero]
    have hnew : (e.base = base ∧ 0 ≤ (victim.amount e).toInt ∧ (t.victim.amount e).toInt = 0) ↔
        (0 ≤ (s.victim.amount e).toInt ∧ (s.victim.amount e).toInt - c ≤ 0 ∧ e.base = base) := by
      rw [h.sign, hamount, if_pos rfl]
      constructor
      · rintro ⟨hbase, hpos, hzero⟩
        exact ⟨hpos, hzero.le, hbase⟩
      · rintro ⟨hpos, hzero, hbase⟩
        have hle := hcap hpos
        exact ⟨hbase, hpos, by omega⟩
    rw [hnew]
    constructor
    · rintro ((hgone | hwas) | hnow)
      · exact Or.inl hgone
      · exact Or.inr (Or.inl (hkept hwas))
      · exact Or.inr (Or.inr hnow)
    · rintro (hgone | hwas | hnow)
      · exact Or.inl (Or.inl hgone)
      · rcases hold hwas with hwas' | hnow
        · exact Or.inl (Or.inr hwas')
        · exact Or.inr hnow
      · exact Or.inr hnow

theorem absorb_eq {c : ℤ} {n : ℕ} {info : DamageInfo} (hc : asUInt32 c = some n)
    (hinfo : s.info.AbsorbDamage n = some info)
    (manaTaken : Option ℤ) (victim' : Victim) :
    s.absorb e c manaTaken victim' =
      if 0 ≤ (victim'.amount e).toInt then
        (asInt32 ((victim'.amount e).toInt - c)).map fun left ↦
          ⟨info, victim'.reduce e left, s.log ++ [⟨e, info.m_absorb - s.info.m_absorb, manaTaken⟩]⟩
      else some ⟨info, victim', s.log ++ [⟨e, info.m_absorb - s.info.m_absorb, manaTaken⟩]⟩ := by
  rw [State.absorb, hc]
  rw [Option.bind_eq_bind, Option.bind_some, hinfo, Option.bind_eq_bind, Option.bind_some]
  split
  · cases asInt32 ((victim'.amount e).toInt - c) with
    | none => rfl
    | some left => rfl
  · rfl

/-- The end of a turn keeps the accounts, whatever mana the victim has afterwards. -/
theorem absorb (h : Ledger victim total bound s) {c : ℤ} (hl : 0 ≤ c) (hu : c ≤ absorbable e s) (manaTaken : Option ℤ)
    {victim' : Victim} (hamount : victim'.amount = s.victim.amount) (happlied : victim'.applied = s.victim.applied) :
    ∃ t, s.absorb e c manaTaken victim' = some t ∧ Ledger victim total bound t ∧
      t.log = s.log ++ [⟨e, c.toNat, manaTaken⟩] := by
  have hcd : c ≤ s.info.m_damage := hu.trans (absorbable_le e s)
  have hdamage := h.damage_lt
  have huint : asUInt32 c = some c.toNat := asUInt32_eq_some.mpr ⟨by omega, by omega⟩
  obtain ⟨info', hinfo, hd', ha', htotal'⟩ := DamageInfo.AbsorbDamage_spec (h.total_eq ▸ h.total_lt) c.toNat
  have hlog : info'.m_absorb - s.info.m_absorb = c.toNat := by omega
  have hdle : info'.m_damage ≤ s.info.m_damage := by omega
  rw [absorb_eq huint hinfo, hlog, hamount]
  by_cases hpos : 0 ≤ (s.victim.amount e).toInt
  · have hca : c ≤ (s.victim.amount e).toInt := by
      have hmax : absorbable e s ≤ max (s.victim.amount e).toInt 0 := min_le_left _ _
      rw [max_eq_left hpos] at hmax
      exact hu.trans hmax
    have hlt := (s.victim.amount e).toInt_lt
    have hint : asInt32 ((s.victim.amount e).toInt - c) = some ((s.victim.amount e).toInt - c) :=
      asInt32_eq_some.mpr ⟨by omega, rfl⟩
    rw [if_pos hpos, hint, Option.map_some]
    refine ⟨_, rfl, h.settle hl hu (htotal'.trans h.total_eq) hdle rfl (fun e' ↦ ?_) (fun base ↦ ?_), rfl⟩
    · show ((victim'.reduce e _).amount e').toInt = _
      rw [Victim.amount_reduce _ _ _ (by omega) (by omega), hamount]
      split
      next heq => rw [heq]
      next => rw [sub_zero]
    · simp [Victim.applied_reduce, happlied, hpos]
  · rw [if_neg hpos]
    refine ⟨_, rfl, h.settle hl hu (htotal'.trans h.total_eq) hdle rfl (fun e' ↦ ?_) (fun base ↦ ?_), rfl⟩
    · show (victim'.amount e').toInt = _
      have hc : c = 0 := by
        have hmax : absorbable e s ≤ max (s.victim.amount e).toInt 0 := min_le_left _ _
        omega
      simp [hamount, hc]
    · simp [happlied, hpos]

/-! ## A turn of the loop over the auras of a school -/

theorem schoolAbsorb (h : Ledger victim total bound s) (schoolMask : UInt32) (e : AuraEffect) :
    ∃ t, s.schoolAbsorb schoolMask e = some t ∧ Ledger victim total bound t ∧
      ((∀ x ∈ s.log, x.Paid) → ∀ x ∈ t.log, x.Paid) := by
  rw [State.schoolAbsorb]
  split
  · exact ⟨s, rfl, h, id⟩
  · obtain ⟨t, ht, hledger, hlog⟩ :=
      h.absorb (absorbable_nonneg e s) le_rfl (e := e) none (rfl : s.victim.amount = _) (rfl : s.victim.applied = _)
    rw [h.currentAbsorb_eq, Option.bind_eq_bind, Option.bind_some]
    refine ⟨t, ht, hledger, fun hpaid x hx ↦ ?_⟩
    rw [hlog, List.mem_append, List.mem_singleton] at hx
    rcases hx with hx | rfl
    · exact hpaid x hx
    · intro manaTaken hmana
      cases hmana

end Ledger

/-! ## Mana -/

namespace Victim

variable (victim : Victim)

theorem ModifyPower_of_neg {r : ℤ} (hpos : 0 < r) (hlt : r < 2 ^ 31) :
    ∃ victim', victim.ModifyPower (-r) = some (-min r victim.mana, victim') ∧ victim'.amount = victim.amount ∧
      victim'.applied = victim.applied := by
  have hmana := victim.mana_le
  have hmax := victim.maxMana_lt
  have hint : asInt32 (-r + victim.mana) = some (-r + victim.mana) := asInt32_eq_some.mpr ⟨by omega, rfl⟩
  rw [ModifyPower, if_neg (by omega)]
  dsimp only
  rw [hint, Option.bind_eq_bind, Option.bind_some]
  by_cases hval : -r + (victim.mana : ℤ) ≤ 0
  · rw [if_pos hval, min_eq_right (by omega)]
    exact ⟨_, rfl, rfl, rfl⟩
  · rw [if_neg hval, if_pos (by omega), min_eq_left (by omega)]
    rw [show -r + (victim.mana : ℤ) - victim.mana = -r by ring]
    exact ⟨_, rfl, rfl, rfl⟩

/-- Mana is given, up to the maximum, if the sum is an `int32`. -/
theorem ModifyPower_of_pos {g : ℤ} (hpos : 0 < g) (hsum : victim.mana + g < 2 ^ 31) :
    ∃ victim', victim.ModifyPower g = some (min g (victim.maxMana - victim.mana), victim') ∧
      victim'.amount = victim.amount ∧ victim'.applied = victim.applied := by
  have hmana := victim.mana_le
  have hint : asInt32 (g + victim.mana) = some (g + victim.mana) := asInt32_eq_some.mpr ⟨by omega, rfl⟩
  rw [ModifyPower, if_neg (by omega)]
  dsimp only
  rw [hint, Option.bind_eq_bind, Option.bind_some, if_neg (by omega)]
  by_cases hval : g + (victim.mana : ℤ) < victim.maxMana
  · rw [if_pos hval, min_eq_left (by omega)]
    rw [show g + (victim.mana : ℤ) - victim.mana = g by ring]
    exact ⟨_, rfl, rfl, rfl⟩
  · rw [if_neg hval, min_eq_right (by omega)]
    by_cases hfull : (victim.mana : ℤ) ≠ victim.maxMana
    · rw [if_pos hfull]
      exact ⟨_, rfl, rfl, rfl⟩
    · rw [if_neg hfull]
      exact ⟨victim, by rw [show (victim.maxMana : ℤ) - victim.mana = 0 by omega]; rfl, rfl, rfl⟩

theorem ModifyPower_eq_none {g : ℤ} (hpos : 0 < g) (hsum : ¬ victim.mana + g < 2 ^ 31) :
    victim.ModifyPower g = none := by
  have hint : asInt32 (g + victim.mana) = none := by
    rw [asInt32, if_neg]
    omega
  rw [ModifyPower, if_neg (by omega)]
  simp [hint]

end Victim

/-! ## What is paid for -/

theorem truncate_mul_bounds {c : ℤ} {q : ℚ} (hc : 0 ≤ c) (hq : 0 ≤ q) (hq1 : q ≤ 1) :
    0 ≤ truncate (c * q) ∧ truncate (c * q) ≤ c := by
  have hcq : (0 : ℚ) ≤ c * q := mul_nonneg (by exact_mod_cast hc) hq
  refine ⟨truncate_nonneg hcq, truncate_le_of_le hcq ?_⟩
  have hle : (c : ℚ) * q ≤ c := mul_le_of_le_one_right (by exact_mod_cast hc) hq1
  linarith

theorem paid_of_taken {m : ℚ} {c t : ℤ} (hc : 0 < c) (hr : 0 < manaCost m c) (ht : 0 ≤ t) (htr : t ≤ manaCost m c) :
    manaCost m (truncate (c * (t / manaCost m c : ℚ))) ≤ t := by
  by_cases hm : m = 0
  · have hcost : ∀ k, manaCost m k = k := fun k ↦ if_neg (not_not.mpr hm)
    have hne : (c : ℚ) ≠ 0 := by exact_mod_cast hc.ne'
    rw [hcost, hcost, mul_div_cancel₀ _ hne, truncate_intCast]
  · have hcost : ∀ k : ℤ, manaCost m k = truncate (k * m) := fun k ↦ if_pos hm
    rw [hcost c] at hr htr ⊢
    rw [hcost]
    have hcm : (0 : ℚ) < c * m := by
      by_contra hneg
      exact absurd (truncate_nonpos (not_lt.mp hneg)) (not_le.mpr hr)
    have hmpos : 0 < m := pos_of_mul_pos_right hcm (by exact_mod_cast hc.le)
    have hup := lt_truncate_add_one hcm.le
    generalize truncate (c * m) = r at *
    rcases ht.lt_or_eq with htpos | rfl
    · have hrq : (0 : ℚ) < r := by exact_mod_cast hr
      have htq : (0 : ℚ) < t := by exact_mod_cast htpos
      have htrq : (t : ℚ) ≤ r := by exact_mod_cast htr
      have hpart : (0 : ℚ) ≤ c * (t / r) := mul_nonneg (by exact_mod_cast hc.le) (div_nonneg htq.le hrq.le)
      have hk := truncate_le hpart
      have hk0 : (0 : ℚ) ≤ truncate (c * (t / r)) := by exact_mod_cast truncate_nonneg hpart
      refine truncate_le_of_le (mul_nonneg hk0 hmpos.le) ?_
      -- the cost of the part is below the part of `c * m + 1`
      calc (truncate (c * (t / r)) : ℚ) * m ≤ c * (t / r) * m := mul_le_mul_of_nonneg_right hk hmpos.le
        _ = c * m * (t / r) := by ring
        _ < (r + 1) * (t / r) := mul_lt_mul_of_pos_right hup (div_pos htq hrq)
        _ = t + t / r := by field_simp
        _ ≤ t + 1 := by
          have hone : (t : ℚ) / r ≤ 1 := (div_le_one hrq).mpr htrq
          linarith
    · simp

/-! ## A turn of the loop over the mana shields -/

/-- What is absorbed, when `cost` mana is to be taken and `manaTaken` is. -/
def absorbedFor (c manaTaken cost : ℤ) : ℤ := truncate (c * (manaTaken / cost : ℚ))

/-- The mana that is taken, or given if that is negative. -/
def manaTaken (victim : Victim) (cost : ℤ) : ℤ :=
  if 0 < cost then min cost victim.mana else -min (-cost) (victim.maxMana - victim.mana)

theorem manaTaken_div_bounds (victim : Victim) {cost : ℤ} (hcost : cost ≠ 0) :
    (0 : ℚ) ≤ manaTaken victim cost / cost ∧ (manaTaken victim cost / cost : ℚ) ≤ 1 := by
  have hmana := victim.mana_le
  rw [manaTaken]
  split
  next hpos =>
    have hposq : (0 : ℚ) < cost := by exact_mod_cast hpos
    have hle : min cost (victim.mana : ℤ) ≤ cost := min_le_left _ _
    have hnonneg : 0 ≤ min cost (victim.mana : ℤ) := le_min hpos.le (Int.natCast_nonneg _)
    exact ⟨div_nonneg (by exact_mod_cast hnonneg) hposq.le, (div_le_one hposq).mpr (by exact_mod_cast hle)⟩
  next hneg =>
    have hposq : (0 : ℚ) < -cost := by exact_mod_cast (by omega : (0 : ℤ) < -cost)
    have hle : min (-cost) ((victim.maxMana : ℤ) - victim.mana) ≤ -cost := min_le_left _ _
    have hnonneg : 0 ≤ min (-cost) ((victim.maxMana : ℤ) - victim.mana) := le_min (by omega) (by omega)
    rw [Int.cast_neg, ← neg_div_neg_eq, neg_neg]
    exact ⟨div_nonneg (by exact_mod_cast hnonneg) hposq.le, (div_le_one hposq).mpr (by exact_mod_cast hle)⟩

theorem absorbedFor_bounds (victim : Victim) {c cost : ℤ} (hc : 0 ≤ c) (hcost : cost ≠ 0) :
    0 ≤ absorbedFor c (manaTaken victim cost) cost ∧ absorbedFor c (manaTaken victim cost) cost ≤ c :=
  truncate_mul_bounds hc (manaTaken_div_bounds victim hcost).1 (manaTaken_div_bounds victim hcost).2

/-- The cost can be taken: it is not zero, and no value leaves its type. -/
def CostDefined (victim : Victim) (cost : ℤ) : Prop :=
  cost ≠ 0 ∧ -2 ^ 31 < cost ∧ cost < 2 ^ 31 ∧ (cost < 0 → victim.mana - cost < 2 ^ 31)

theorem manaReduction_eq {m : ℚ} {c : ℤ} (hc : 0 ≤ c) (hlt : c < 2 ^ 31) :
    State.manaReduction m c = asInt32 (manaCost m c) := by
  rw [State.manaReduction, manaCost]
  split
  · rfl
  · exact (asInt32_eq_some.mpr ⟨⟨by omega, hlt⟩, rfl⟩).symm

theorem ModifyPower_of_costDefined {victim : Victim} {cost : ℤ} (h : CostDefined victim cost) :
    ∃ victim', victim.ModifyPower (-cost) = some (-manaTaken victim cost, victim') ∧
      victim'.amount = victim.amount ∧ victim'.applied = victim.applied := by
  obtain ⟨hne, hl, hu, hgain⟩ := h
  rw [manaTaken]
  split
  next hpos => exact victim.ModifyPower_of_neg hpos hu
  next hneg =>
    have hsum := hgain (by omega)
    rw [neg_neg]
    exact victim.ModifyPower_of_pos (by omega) (by omega)

theorem manaTaken_nonneg {victim : Victim} {cost : ℤ} (hpos : 0 < cost) : 0 ≤ manaTaken victim cost := by
  rw [manaTaken, if_pos hpos]
  exact le_min hpos.le (Int.natCast_nonneg _)

/-- When mana is given, something is absorbed if it amounts to a whole point. -/
theorem absorbedFor_eq_zero_iff {victim : Victim} {c cost : ℤ} (hc : 0 ≤ c) (hneg : cost < 0) :
    absorbedFor c (manaTaken victim cost) cost = 0 ↔ c * min (-cost) (victim.maxMana - victim.mana) < -cost := by
  have hposq : (0 : ℚ) < -cost := by exact_mod_cast (by omega : (0 : ℤ) < -cost)
  have hmana := victim.mana_le
  have hnonneg : 0 ≤ min (-cost) ((victim.maxMana : ℤ) - victim.mana) := le_min (by omega) (by omega)
  have hquot : (manaTaken victim cost / cost : ℚ) =
      (min (-cost) ((victim.maxMana : ℤ) - victim.mana) : ℤ) / (-cost : ℚ) := by
    rw [manaTaken, if_neg (by omega), Int.cast_neg, ← neg_div_neg_eq, neg_neg]
  rw [absorbedFor, hquot, truncate_of_nonneg (mul_nonneg (by exact_mod_cast hc)
    (div_nonneg (by exact_mod_cast hnonneg) hposq.le)), Int.floor_eq_zero_iff, Set.mem_Ico, ← mul_div_assoc,
    div_lt_one hposq]
  constructor
  · rintro ⟨-, hlt⟩
    exact_mod_cast hlt
  · intro hlt
    exact ⟨div_nonneg (mul_nonneg (by exact_mod_cast hc) (by exact_mod_cast hnonneg)) hposq.le, by exact_mod_cast hlt⟩

/-- What a mana shield absorbs is paid for, unless it is absorbed for mana that is given. -/
theorem paid_iff {victim : Victim} {e : AuraEffect} {c : ℤ} (hc : 0 < c) (hne : manaCost e.manaMultiplier c ≠ 0) :
    (⟨e, (absorbedFor c (manaTaken victim (manaCost e.manaMultiplier c)) (manaCost e.manaMultiplier c)).toNat,
      some (manaTaken victim (manaCost e.manaMultiplier c))⟩ : Absorbed).Paid ↔
      (manaCost e.manaMultiplier c < 0 →
        c * min (-manaCost e.manaMultiplier c) (victim.maxMana - victim.mana) < -manaCost e.manaMultiplier c) := by
  have hbounds := absorbedFor_bounds victim hc.le hne
  have hzero : (absorbedFor c (manaTaken victim (manaCost e.manaMultiplier c)) (manaCost e.manaMultiplier c)).toNat = 0 ↔
      absorbedFor c (manaTaken victim (manaCost e.manaMultiplier c)) (manaCost e.manaMultiplier c) = 0 := by
    omega
  rcases lt_or_gt_of_ne hne with hneg | hpos
  · have hgiven : manaTaken victim (manaCost e.manaMultiplier c) ≤ 0 := by
      have hmana := victim.mana_le
      have hroom : 0 ≤ min (-manaCost e.manaMultiplier c) ((victim.maxMana : ℤ) - victim.mana) :=
        le_min (by omega) (by omega)
      rw [manaTaken, if_neg (by omega)]
      omega
    rw [← absorbedFor_eq_zero_iff hc.le hneg, ← hzero]
    constructor
    · intro hpaid _
      rcases hpaid _ rfl with hnone | ⟨htaken, -⟩
      · exact hnone
      · exact absurd htaken (not_lt.mpr hgiven)
    · intro hnone _ _
      exact Or.inl (hnone hneg)
  · refine ⟨fun _ hneg ↦ absurd hneg (not_lt.mpr hpos.le), fun _ taken htaken ↦ ?_⟩
    cases htaken
    have hnonneg : 0 ≤ manaTaken victim (manaCost e.manaMultiplier c) := manaTaken_nonneg hpos
    rcases hnonneg.lt_or_eq with htaken | htaken
    · refine Or.inr ⟨htaken, ?_⟩
      rw [Int.toNat_of_nonneg hbounds.1]
      refine paid_of_taken hc hpos hnonneg ?_
      rw [manaTaken, if_pos hpos]
      exact min_le_left _ _
    · refine Or.inl ?_
      rw [hzero, ← htaken, absorbedFor]
      simp

namespace Ledger

variable {victim : Victim} {total bound : ℕ} {s : State} {e : AuraEffect} {schoolMask : UInt32}

section Turn

variable (h : Ledger victim total bound s) (hconcerns : s.concerns schoolMask e.base e.miscValue = true)
  (hscript : e.defaultPrevented = false)

include h hconcerns hscript

theorem manaShield_of_nothing (hnone : absorbable e s = 0) :
    s.manaShield schoolMask e = s.absorb e 0 (some 0) s.victim := by
  have hzero : manaCost e.manaMultiplier 0 = 0 := by
    rw [manaCost]
    split
    · simp
    · rfl
  have hint : asInt32 0 = some 0 := asInt32_eq_some.mpr ⟨by omega, rfl⟩
  rw [State.manaShield, if_neg (by simp [hconcerns, hscript]), h.currentAbsorb_eq, hnone, Option.bind_eq_bind,
    Option.bind_some, manaReduction_eq le_rfl (by omega), hzero, hint, Option.bind_eq_bind, Option.bind_some, neg_zero,
    hint, Option.bind_some, Victim.ModifyPower, if_pos rfl, Option.bind_some]
  dsimp only
  rw [neg_zero, hint, Option.bind_some, if_neg (by simp), Option.bind_some]

/-- A mana shield whose cost can be taken absorbs for the mana that is taken. -/
theorem manaShield_of_costDefined (hsome : absorbable e s ≠ 0)
    (hcost : CostDefined s.victim (manaCost e.manaMultiplier (absorbable e s))) :
    ∃ victim', victim'.amount = s.victim.amount ∧ victim'.applied = s.victim.applied ∧ s.manaShield schoolMask e =
        s.absorb e (absorbedFor (absorbable e s) (manaTaken s.victim (manaCost e.manaMultiplier (absorbable e s)))
          (manaCost e.manaMultiplier (absorbable e s)))
          (some (manaTaken s.victim (manaCost e.manaMultiplier (absorbable e s)))) victim' := by
  have hnonneg := absorbable_nonneg e s
  have hle := absorbable_le e s
  have hdamage := h.damage_lt
  have hmax := s.victim.maxMana_lt
  have hmana := s.victim.mana_le
  obtain ⟨victim', hpower, hamount, happlied⟩ := ModifyPower_of_costDefined hcost
  have hbounds := absorbedFor_bounds s.victim hnonneg hcost.1
  have hreduction := manaReduction_eq (m := e.manaMultiplier) hnonneg (by omega)
  generalize manaCost e.manaMultiplier (absorbable e s) = cost at *
  obtain ⟨hne, hl, hu, hgain⟩ := hcost
  have htaken : -2 ^ 31 ≤ manaTaken s.victim cost ∧ manaTaken s.victim cost < 2 ^ 31 := by
    rw [manaTaken]
    split <;> omega
  have hdiv : div (manaTaken s.victim cost) cost = some (manaTaken s.victim cost / cost : ℚ) :=
    div_eq_some.mpr ⟨by exact_mod_cast hne, rfl⟩
  have habsorbed : asInt32 (truncate (absorbable e s * (manaTaken s.victim cost / cost : ℚ))) =
      some (absorbedFor (absorbable e s) (manaTaken s.victim cost) cost) :=
    asInt32_eq_some.mpr ⟨⟨by have hlow := hbounds.1; rw [absorbedFor] at hlow; omega,
      by have hup := hbounds.2; rw [absorbedFor] at hup; omega⟩, rfl⟩
  refine ⟨victim', hamount, happlied, ?_⟩
  rw [State.manaShield, if_neg (by simp [hconcerns, hscript]), h.currentAbsorb_eq, Option.bind_eq_bind,
    Option.bind_some, hreduction, asInt32_eq_some.mpr ⟨⟨hl.le, hu⟩, rfl⟩, Option.bind_eq_bind, Option.bind_some,
    asInt32_eq_some.mpr ⟨⟨by omega, by omega⟩, rfl⟩, Option.bind_some, hpower, Option.bind_some]
  simp [neg_neg, asInt32_eq_some.mpr ⟨htaken, rfl⟩, hsome, hdiv, habsorbed]

theorem manaShield_eq_none (hsome : absorbable e s ≠ 0)
    (hcost : ¬ CostDefined s.victim (manaCost e.manaMultiplier (absorbable e s))) :
    s.manaShield schoolMask e = none := by
  have hnonneg := absorbable_nonneg e s
  have hle := absorbable_le e s
  have hdamage := h.damage_lt
  have hreduction := manaReduction_eq (m := e.manaMultiplier) hnonneg (by omega)
  generalize manaCost e.manaMultiplier (absorbable e s) = cost at *
  rw [State.manaShield, if_neg (by simp [hconcerns, hscript]), h.currentAbsorb_eq, Option.bind_eq_bind,
    Option.bind_some, hreduction]
  by_cases hrange : -2 ^ 31 ≤ cost ∧ cost < 2 ^ 31
  · rw [asInt32_eq_some.mpr ⟨hrange, rfl⟩, Option.bind_eq_bind, Option.bind_some]
    by_cases hlow : cost = -2 ^ 31
    · have hneg : asInt32 (-cost) = none := if_neg (by omega)
      rw [hneg, Option.bind_eq_bind, Option.bind_none]
    · rw [asInt32_eq_some.mpr ⟨⟨by omega, by omega⟩, rfl⟩, Option.bind_eq_bind, Option.bind_some]
      by_cases hzero : cost = 0
      · -- the quotient of two zeros
        have hint : asInt32 0 = some 0 := asInt32_eq_some.mpr ⟨by omega, rfl⟩
        have hdiv : div (0 : ℤ) (0 : ℤ) = none := if_pos (by simp)
        rw [hzero, neg_zero, Victim.ModifyPower, if_pos rfl, Option.bind_some]
        dsimp only
        rw [neg_zero, hint, Option.bind_some, if_pos hsome, hdiv, Option.bind_none]
      · have hgain : 0 < -cost ∧ ¬ (s.victim.mana : ℤ) + -cost < 2 ^ 31 := by
          by_contra hno
          exact hcost ⟨hzero, by omega, hrange.2, by omega⟩
        rw [s.victim.ModifyPower_eq_none hgain.1 hgain.2, Option.bind_none]
  · have hnone : asInt32 cost = none := if_neg hrange
    rw [hnone, Option.bind_eq_bind, Option.bind_none]

end Turn

/-- A turn of the loop over the mana shields keeps the accounts, and what it absorbs is paid for exactly if the mana
shield fits. -/
theorem manaShield (h : Ledger victim total bound s) :
    (∀ t, s.manaShield schoolMask e = some t → Ledger victim total bound t ∧
      ((∀ x ∈ t.log, x.Paid) → (∀ x ∈ s.log, x.Paid) ∧ ManaFits schoolMask e s)) ∧
    (ManaFits schoolMask e s → ∃ t, s.manaShield schoolMask e = some t ∧
      ((∀ x ∈ s.log, x.Paid) → ∀ x ∈ t.log, x.Paid)) := by
  by_cases hworks : s.concerns schoolMask e.base e.miscValue = true ∧ e.defaultPrevented = false
  · obtain ⟨hconcerns, hscript⟩ := hworks
    by_cases hsome : absorbable e s = 0
    · obtain ⟨t, ht, hledger, hlog⟩ := h.absorb le_rfl (absorbable_nonneg e s) (some 0) (rfl : s.victim.amount = _)
        (rfl : s.victim.applied = _)
      have hpaid : (∀ x ∈ s.log, x.Paid) ↔ ∀ x ∈ t.log, x.Paid := by
        rw [hlog]
        simp only [List.mem_append, List.mem_singleton, or_imp, forall_and, forall_eq]
        exact ⟨fun hpaid ↦ ⟨hpaid, fun _ _ ↦ Or.inl rfl⟩, fun hpaid ↦ hpaid.1⟩
      rw [h.manaShield_of_nothing hconcerns hscript hsome, ht]
      refine ⟨fun t' ht' ↦ ?_, fun _ ↦ ⟨t, rfl, hpaid.mp⟩⟩
      cases ht'
      exact ⟨hledger, fun hall ↦ ⟨hpaid.mpr hall, fun _ _ hne ↦ absurd hsome hne⟩⟩
    · have hc : 0 < absorbable e s := lt_of_le_of_ne (absorbable_nonneg e s) (Ne.symm hsome)
      by_cases hcost : CostDefined s.victim (manaCost e.manaMultiplier (absorbable e s))
      · obtain ⟨victim', hamount, happlied, heq⟩ := h.manaShield_of_costDefined hconcerns hscript hsome hcost
        have hbounds := absorbedFor_bounds s.victim hc.le hcost.1
        obtain ⟨t, ht, hledger, hlog⟩ := h.absorb hbounds.1 hbounds.2
          (some (manaTaken s.victim (manaCost e.manaMultiplier (absorbable e s)))) hamount happlied
        have hpaid : (∀ x ∈ t.log, x.Paid) ↔ (∀ x ∈ s.log, x.Paid) ∧ ManaFits schoolMask e s := by
          rw [hlog]
          simp only [List.mem_append, List.mem_singleton, or_imp, forall_and, forall_eq]
          refine and_congr Iff.rfl ((paid_iff hc hcost.1).trans ⟨fun hgain _ _ _ ↦ ?_, fun hfits hneg ↦ ?_⟩)
          · exact ⟨hcost.1, hcost.2.1, hcost.2.2.1, fun hneg ↦ ⟨hcost.2.2.2 hneg, hgain hneg⟩⟩
          · exact ((hfits hconcerns hscript hsome).2.2.2 hneg).2
        rw [heq, ht]
        refine ⟨fun t' ht' ↦ ?_, fun hfits ↦ ⟨t, rfl, fun hall ↦ hpaid.mpr ⟨hall, hfits⟩⟩⟩
        cases ht'
        exact ⟨hledger, hpaid.mp⟩
      · rw [h.manaShield_eq_none hconcerns hscript hsome hcost]
        refine ⟨fun t ht ↦ (by cases ht), fun hfits ↦ absurd ?_ hcost⟩
        obtain ⟨hne, hl, hu, hgain⟩ := hfits hconcerns hscript hsome
        exact ⟨hne, hl, hu, fun hneg ↦ (hgain hneg).1⟩
  · have hskip : s.manaShield schoolMask e = some s := by
      rw [State.manaShield, if_pos]
      cases hconcerns : s.concerns schoolMask e.base e.miscValue <;> cases hscript : e.defaultPrevented <;> simp_all
    rw [hskip]
    refine ⟨fun t ht ↦ ?_, fun _ ↦ ⟨s, rfl, id⟩⟩
    cases ht
    exact ⟨h, fun hall ↦ ⟨hall, fun hconcerns hscript _ ↦ absurd ⟨hconcerns, hscript⟩ hworks⟩⟩

/-! ## The loops over the splitting auras -/

/-- Splitting damage, or adding back what was put aside, leaves the amounts and the auras alone. -/
theorem of_info (h : Ledger victim total bound s) {info : DamageInfo} {total' bound' : ℕ} (htotal : info.total = total')
    (hlt : total' < 2 ^ 32) (hdamage : info.m_damage ≤ bound') (hbound : bound' < 2 ^ 31) :
    Ledger victim total' bound' { s with info } :=
  ⟨htotal, hlt, hdamage, hbound, h.lost, h.sign, h.removed⟩

theorem split (h : Ledger victim total bound s) (amount : ℕ) :
    ∃ info, s.info.AbsorbDamage amount = some info ∧ Ledger victim total bound { s with info } := by
  obtain ⟨info, hinfo, hd, -, htotal⟩ := DamageInfo.AbsorbDamage_spec (h.total_eq.trans_lt h.total_lt) amount
  have hdamage := h.damage_le
  exact ⟨info, hinfo, h.of_info (htotal.trans h.total_eq) h.total_lt (by omega) h.bound_lt⟩

theorem splitDamageFlat (h : Ledger victim total bound s) (schoolMask : UInt32) (e : SplitEffect) :
    ∃ t, s.splitDamageFlat schoolMask e = some t ∧ Ledger victim total bound t ∧ t.log = s.log := by
  rw [State.splitDamageFlat]
  split
  · exact ⟨s, rfl, h, rfl⟩
  · have hlt := h.damage_lt
    have hint : asInt32 (s.info.m_damage : ℤ) = some (s.info.m_damage : ℤ) := asInt32_eq_some.mpr ⟨by omega, rfl⟩
    have hle : RoundToInterval e.amount.toInt 0 (s.info.m_damage : ℤ) ≤ s.info.m_damage := min_le_right _ _
    have hnonneg : 0 ≤ RoundToInterval e.amount.toInt 0 (s.info.m_damage : ℤ) :=
      le_min (le_max_right _ _) (Int.natCast_nonneg _)
    have huint : asUInt32 (RoundToInterval e.amount.toInt 0 (s.info.m_damage : ℤ)) =
        some (RoundToInterval e.amount.toInt 0 (s.info.m_damage : ℤ)).toNat :=
      asUInt32_eq_some.mpr ⟨by omega, by omega⟩
    obtain ⟨info, hinfo, hledger⟩ := h.split (RoundToInterval e.amount.toInt 0 (s.info.m_damage : ℤ)).toNat
    rw [hint, Option.bind_eq_bind, Option.bind_some, huint, Option.bind_eq_bind, Option.bind_some, hinfo,
      Option.bind_eq_bind, Option.bind_some]
    exact ⟨_, rfl, hledger, rfl⟩

theorem calculatePct_isSome_iff (base : ℕ) (pct : ℤ) :
    (∃ n, CalculatePct base pct = some n) ↔ -100 < base * pct ∧ base * pct < 100 * 2 ^ 32 := by
  have hbounds : (0 ≤ truncate ((base : ℚ) * pct / 100) ∧ truncate ((base : ℚ) * pct / 100) < 2 ^ 32) ↔
      -100 < base * pct ∧ base * pct < 100 * 2 ^ 32 := by
    rw [truncate_nonneg_iff, truncate_lt_iff (by norm_num), lt_div_iff₀ (by norm_num), div_lt_iff₀ (by norm_num)]
    constructor
    · rintro ⟨hl, hu⟩
      have hl' : ((-100 : ℤ) : ℚ) < ((base * pct : ℤ) : ℚ) := by
        push_cast
        linarith
      have hu' : ((base * pct : ℤ) : ℚ) < ((100 * 2 ^ 32 : ℤ) : ℚ) := by
        push_cast at hu ⊢
        linarith
      exact ⟨by exact_mod_cast hl', by exact_mod_cast hu'⟩
    · rintro ⟨hl, hu⟩
      have hl' : ((-100 : ℤ) : ℚ) < ((base * pct : ℤ) : ℚ) := by exact_mod_cast hl
      have hu' : ((base * pct : ℤ) : ℚ) < ((100 * 2 ^ 32 : ℤ) : ℚ) := by exact_mod_cast hu
      push_cast at hl' hu' ⊢
      exact ⟨by linarith, by linarith⟩
  rw [CalculatePct, ← hbounds]
  constructor
  · rintro ⟨n, hn⟩
    exact (asUInt32_eq_some.mp hn).1
  · intro hb
    exact ⟨_, asUInt32_eq_some.mpr ⟨hb, (Int.toNat_of_nonneg hb.1).symm⟩⟩

theorem splitDamagePct (h : Ledger victim total bound s) (schoolMask : UInt32) (e : SplitEffect) :
    (∀ t, s.splitDamagePct schoolMask e = some t →
      Ledger victim total bound t ∧ t.log = s.log ∧ PercentageFits schoolMask e s) ∧
    (PercentageFits schoolMask e s → ∃ t, s.splitDamagePct schoolMask e = some t) := by
  have hpct := calculatePct_isSome_iff s.info.m_damage e.amount.toInt
  rw [State.splitDamagePct]
  split
  next hskip =>
    refine ⟨fun t ht ↦ ?_, fun _ ↦ ⟨s, rfl⟩⟩
    cases ht
    refine ⟨h, rfl, fun hsplits ↦ ?_⟩
    simp [hsplits] at hskip
  next hsplit =>
    have hsplits : s.splits schoolMask e = true := by simpa using hsplit
    cases hn : CalculatePct s.info.m_damage e.amount.toInt with
    | none =>
      refine ⟨fun t ht ↦ (by cases ht), fun hfits ↦ ?_⟩
      obtain ⟨n, hn'⟩ := hpct.mpr (hfits hsplits)
      simp [hn] at hn'
    | some n =>
      obtain ⟨info, hinfo, hledger⟩ := h.split (RoundToInterval n 0 s.info.m_damage)
      rw [Option.bind_eq_bind, Option.bind_some, hinfo, Option.bind_eq_bind, Option.bind_some]
      refine ⟨fun t ht ↦ ?_, fun _ ↦ ⟨_, rfl⟩⟩
      cases ht
      exact ⟨hledger, rfl, fun _ ↦ hpct.mp ⟨n, hn⟩⟩

/-! ## The loops -/

open ListLoop

theorem start (victim : Victim) {info : DamageInfo} (htotal : info.total < 2 ^ 32) (hdamage : info.m_damage < 2 ^ 31) :
    Ledger victim info.total info.m_damage ⟨info, victim, []⟩ where
  total_eq := rfl
  total_lt := htotal
  damage_le := le_rfl
  bound_lt := hdamage
  lost e := by simp [absorbedBy]
  sign _ := Iff.rfl
  removed base := by simp

section

variable (h : Ledger victim total bound s) (hpaid : ∀ x ∈ s.log, x.Paid) (schoolMask : UInt32)
  (es : List AuraEffect)
include h hpaid

theorem schoolLoop : ∃ t, run State.damageLeft (fun e s ↦ s.schoolAbsorb schoolMask e) es s = some t ∧
      Ledger victim total bound t ∧ ∀ x ∈ t.log, x.Paid := by
  refine exists_run (I := fun s ↦ Ledger victim total bound s ∧ ∀ x ∈ s.log, x.Paid) (P := fun _ _ ↦ True)
    (fun e s hs _ _ ↦ ?_) ⟨h, hpaid⟩ (eachTurn_of_forall (fun _ _ ↦ trivial) es s)
  obtain ⟨t, ht, hledger, hkept⟩ := hs.1.schoolAbsorb schoolMask e
  exact ⟨t, ht, hledger, hkept hs.2⟩

/-- The loop over the mana shields ends with everything paid for exactly if the mana shields it reaches fit. -/
theorem manaLoop :
    (∀ t, run State.damageLeft (fun e s ↦ s.manaShield schoolMask e) es s = some t → Ledger victim total bound t ∧
      ((∀ x ∈ t.log, x.Paid) →
        EachTurn State.damageLeft (fun e s ↦ s.manaShield schoolMask e) (ManaFits schoolMask) es s)) ∧
    (EachTurn State.damageLeft (fun e s ↦ s.manaShield schoolMask e) (ManaFits schoolMask) es s →
      ∃ t, run State.damageLeft (fun e s ↦ s.manaShield schoolMask e) es s = some t ∧
        Ledger victim total bound t ∧ ∀ x ∈ t.log, x.Paid) := by
  have hstep : ∀ (e : AuraEffect) (s t : State), Ledger victim total bound s → s.damageLeft = true →
      s.manaShield schoolMask e = some t → Ledger victim total bound t :=
    fun e s t hs _ ht ↦ (hs.manaShield.1 t ht).1
  refine ⟨fun t ht ↦ ⟨run_invariant hstep h ht, fun hall ↦ ?_⟩, fun hfits ↦ ?_⟩
  · have hback : ∀ (e : AuraEffect) (s t : State), Ledger victim total bound s → s.damageLeft = true →
        s.manaShield schoolMask e = some t → (∀ x ∈ t.log, x.Paid) →
        (∀ x ∈ s.log, x.Paid) ∧ ManaFits schoolMask e s :=
      fun e s t hs _ ht ↦ (hs.manaShield.1 t ht).2
    exact (eachTurn_of_run hstep hback h ht hall).1
  · refine exists_run (I := fun s ↦ Ledger victim total bound s ∧ ∀ x ∈ s.log, x.Paid) (fun e s hs _ hP ↦ ?_)
      ⟨h, hpaid⟩ hfits
    obtain ⟨t, ht, hkept⟩ := hs.1.manaShield.2 hP
    exact ⟨t, ht, (hs.1.manaShield.1 t ht).1, hkept hs.2⟩

end

section

variable (h : Ledger victim total bound s) (schoolMask : UInt32) (es : List SplitEffect)
include h

theorem flatLoop : ∃ t, run State.damageLeft (fun e s ↦ s.splitDamageFlat schoolMask e) es s = some t ∧
      Ledger victim total bound t ∧ t.log = s.log := by
  refine exists_run (I := fun t ↦ Ledger victim total bound t ∧ t.log = s.log) (P := fun _ _ ↦ True)
    (fun e t ht _ _ ↦ ?_) ⟨h, rfl⟩ (eachTurn_of_forall (fun _ _ ↦ trivial) es s)
  obtain ⟨t', ht', hledger, hlog⟩ := ht.1.splitDamageFlat schoolMask e
  exact ⟨t', ht', hledger, hlog.trans ht.2⟩

/-- The loop over the percentages ends exactly if the percentages it reaches fit. -/
theorem pctLoop : (∀ t, run State.damageLeft (fun e s ↦ s.splitDamagePct schoolMask e) es s = some t →
      (Ledger victim total bound t ∧ t.log = s.log) ∧
        EachTurn State.damageLeft (fun e s ↦ s.splitDamagePct schoolMask e) (PercentageFits schoolMask) es s) ∧
    (EachTurn State.damageLeft (fun e s ↦ s.splitDamagePct schoolMask e) (PercentageFits schoolMask) es s →
      ∃ t, run State.damageLeft (fun e s ↦ s.splitDamagePct schoolMask e) es s = some t) := by
  have hstep : ∀ (e : SplitEffect) (s' t : State), (Ledger victim total bound s' ∧ s'.log = s.log) →
      s'.damageLeft = true → s'.splitDamagePct schoolMask e = some t → Ledger victim total bound t ∧ t.log = s.log := by
    intro e s' t hs' _ ht
    obtain ⟨hledger, hlog, -⟩ := (hs'.1.splitDamagePct schoolMask e).1 t ht
    exact ⟨hledger, hlog.trans hs'.2⟩
  refine ⟨fun t ht ↦ ⟨?_, ?_⟩, fun hfits ↦ ?_⟩
  · exact run_invariant (I := fun t ↦ Ledger victim total bound t ∧ t.log = s.log) hstep ⟨h, rfl⟩ ht
  · have hback : ∀ (e : SplitEffect) (s' t : State), (Ledger victim total bound s' ∧ s'.log = s.log) →
        s'.damageLeft = true → s'.splitDamagePct schoolMask e = some t → True → True ∧ PercentageFits schoolMask e s' :=
      fun e s' t hs' _ ht _ ↦ ⟨trivial, ((hs'.1.splitDamagePct schoolMask e).1 t ht).2.2⟩
    exact (eachTurn_of_run (Q := fun _ ↦ True) hstep hback ⟨h, rfl⟩ ht trivial).1
  · have hrun : ∃ t, run State.damageLeft (fun e s ↦ s.splitDamagePct schoolMask e) es s = some t ∧
        Ledger victim total bound t := by
      refine exists_run (fun e s hs _ hP ↦ ?_) h hfits
      obtain ⟨t, ht⟩ := (hs.splitDamagePct schoolMask e).2 hP
      exact ⟨t, ht, ((hs.splitDamagePct schoolMask e).1 t ht).1⟩
    obtain ⟨t, ht, -⟩ := hrun
    exact ⟨t, ht⟩

end

theorem conserved {info : DamageInfo} (h : Ledger victim info.total bound s) (hpaid : ∀ x ∈ s.log, x.Paid) :
    Conserved victim info s where
  sum := h.total_eq
  lost e _ := h.lost e
  removed := h.removed
  paid := hpaid

end Ledger

/-! ## The call -/

namespace Call

variable (c : Call)

/-- The damage that absorbing auras may absorb, and the part that ignores them. -/
def putAside (info : DamageInfo) : Option (DamageInfo × ℤ) := do
  let info ← info.ResistDamage c.resistedDamage
  let absorbIgnoringDamage ← c.absorbIgnoringDamage info
  let info ← info.ModifyDamage (-absorbIgnoringDamage)
  return (info, absorbIgnoringDamage)

/-- The state before the loop over the mana shields. -/
def beforeManaShields (victim : Victim) (info : DamageInfo) : Option State := do
  let (info, _) ← c.putAside info
  ListLoop.run State.damageLeft (fun e s ↦ s.schoolAbsorb c.schoolMask e) c.vSchoolAbsorbCopy ⟨info, victim, []⟩

/-- The state before the loops over the splitting auras. -/
def beforeSplits (victim : Victim) (info : DamageInfo) : Option State := do
  let (info, absorbIgnoringDamage) ← c.putAside info
  let s ← c.absorbLoops ⟨info, victim, []⟩
  let info ← s.info.ModifyDamage absorbIgnoringDamage
  return { s with info }

/-- Every mana shield that the loop from a state reaches fits. -/
def ManaShieldsFit (s : State) : Prop :=
  ListLoop.EachTurn State.damageLeft (fun e s ↦ s.manaShield c.schoolMask e) (ManaFits c.schoolMask) c.vManaShieldCopy s

/-- Every percentage that the last loop reaches fits. -/
def PercentagesFit (s : State) : Prop := c.victimIsAttacker = false → ∀ t,
    ListLoop.run State.damageLeft (fun e s ↦ s.splitDamageFlat c.schoolMask e) c.vSplitDamageFlatCopy s = some t →
    ListLoop.EachTurn State.damageLeft (fun e s ↦ s.splitDamagePct c.schoolMask e) (PercentageFits c.schoolMask)
      c.vSplitDamagePctCopy t

/-- In a call that does not return at once, every mana shield and every percentage that its loop reaches fits. -/
def Fits (victim : Victim) (info : DamageInfo) : Prop := c.victimIsAlive = true → info.m_damage ≠ 0 →
    (∀ s, c.beforeManaShields victim info = some s → c.ManaShieldsFit s) ∧
    (∀ s, c.beforeSplits victim info = some s → c.PercentagesFit s)

variable {c} {victim : Victim} {info : DamageInfo}

/-- The damage that ignores absorbing auras is a part of the damage. -/
theorem absorbIgnoringDamage_spec (hdamage : info.m_damage < 2 ^ 31) :
    ∃ g, c.absorbIgnoringDamage info = some g ∧ 0 ≤ g ∧ g ≤ info.m_damage := by
  have hpct0 : 0 ≤ RoundToInterval c.auraAbsorbMod 0 100 := le_min (le_max_right _ _) (by norm_num)
  have hpct1 : RoundToInterval c.auraAbsorbMod 0 100 ≤ 100 := min_le_right _ _
  obtain ⟨hl, hu⟩ := truncate_mul_bounds (c := info.m_damage) (q := RoundToInterval c.auraAbsorbMod 0 100 / 100)
    (Int.natCast_nonneg _) (by linarith) (by linarith)
  have hpart : CalculatePct info.m_damage (RoundToInterval c.auraAbsorbMod 0 100) =
      some (truncate ((info.m_damage : ℤ) * (RoundToInterval c.auraAbsorbMod 0 100 / 100))).toNat := by
    rw [CalculatePct, mul_div_assoc]
    exact asUInt32_eq_some.mpr ⟨⟨hl, by push_cast at hu ⊢; omega⟩, (Int.toNat_of_nonneg hl).symm⟩
  refine ⟨_, ?_, hl, hu⟩
  rw [absorbIgnoringDamage, hpart, Option.bind_eq_bind, Option.bind_some, Int.toNat_of_nonneg hl]
  exact asInt32_eq_some.mpr ⟨by omega, rfl⟩

theorem putAside_spec (htotal : info.total < 2 ^ 32) (hdamage : info.m_damage < 2 ^ 31) :
    ∃ info' g, c.putAside info = some (info', g) ∧ 0 ≤ g ∧ info'.m_damage + g ≤ info.m_damage ∧
      info'.total + g = info.total := by
  obtain ⟨info₁, hresist, hd₁, ht₁⟩ := DamageInfo.ResistDamage_spec htotal c.resistedDamage
  obtain ⟨g, hg, hnonneg, hle⟩ := absorbIgnoringDamage_spec (c := c) (lt_of_le_of_lt hd₁ hdamage)
  have hmodify := DamageInfo.ModifyDamage_spec (lt_of_le_of_lt hd₁ hdamage) (neg_le_neg hle) (by omega)
  refine ⟨{ info₁ with m_damage := (info₁.m_damage + -g).toNat }, g, ?_, hnonneg, ?_, ?_⟩
  · rw [putAside, hresist, Option.bind_eq_bind, Option.bind_some, hg, Option.bind_eq_bind, Option.bind_some, hmodify,
      Option.bind_some]
    rfl
  · dsimp only
    omega
  · simp only [DamageInfo.total] at ht₁ ⊢
    omega

theorem CalcAbsorbResist_eq (halive : c.victimIsAlive = true) (hsome : info.m_damage ≠ 0) :
    c.CalcAbsorbResist victim info = (c.beforeSplits victim info).bind c.splitLoops := by
  rw [CalcAbsorbResist, if_neg (by simp [halive, hsome]), beforeSplits, putAside]
  simp only [Option.bind_eq_bind, Option.bind_assoc, Option.pure_def, Option.bind_some]

theorem beforeManaShields_spec (c : Call) (victim : Victim) (hdamage : info.m_damage < 2 ^ 31)
    (htotal : info.total < 2 ^ 32) :
    ∃ info₁ g s, c.putAside info = some (info₁, g) ∧ 0 ≤ g ∧ info₁.m_damage + g ≤ info.m_damage ∧
      info₁.total + g = info.total ∧ c.beforeManaShields victim info = some s ∧
      Ledger victim info₁.total info₁.m_damage s ∧ ∀ x ∈ s.log, x.Paid := by
  obtain ⟨info₁, g, haside, hg, hd₁, ht₁⟩ := putAside_spec (c := c) htotal hdamage
  have hstart : Ledger victim info₁.total info₁.m_damage ⟨info₁, victim, []⟩ :=
    Ledger.start victim (by omega) (by omega)
  have hnil : ∀ x ∈ (⟨info₁, victim, []⟩ : State).log, x.Paid := fun x hx ↦ absurd hx List.not_mem_nil
  obtain ⟨s, hs, hledger, hpaid⟩ := hstart.schoolLoop hnil c.schoolMask c.vSchoolAbsorbCopy
  refine ⟨info₁, g, s, haside, hg, hd₁, ht₁, ?_, hledger, hpaid⟩
  simpa [beforeManaShields, haside] using hs

theorem beforeSplits_eq {info₁ : DamageInfo} {g : ℤ} {s : State} (haside : c.putAside info = some (info₁, g))
    (hs : c.beforeManaShields victim info = some s) :
    c.beforeSplits victim info =
      (ListLoop.run State.damageLeft (fun e s ↦ s.manaShield c.schoolMask e) c.vManaShieldCopy s).bind fun t ↦
        (t.info.ModifyDamage g).map fun info ↦ { t with info } := by
  rw [beforeManaShields, haside, Option.bind_eq_bind, Option.bind_some] at hs
  dsimp only at hs
  rw [beforeSplits, haside, Option.bind_eq_bind, Option.bind_some]
  dsimp only
  rw [absorbLoops, hs, Option.bind_eq_bind, Option.bind_some]
  refine congrArg (Option.bind _) (funext fun t ↦ ?_)
  cases t.info.ModifyDamage g with
  | none => rfl
  | some info => rfl

/-- Before the loops over the splitting auras everything is paid for exactly if the mana shields fit. -/
theorem beforeSplits_spec (c : Call) (victim : Victim) (hdamage : info.m_damage < 2 ^ 31)
    (htotal : info.total < 2 ^ 32) :
    (∀ t, c.beforeSplits victim info = some t → Ledger victim info.total info.m_damage t ∧
      ((∀ x ∈ t.log, x.Paid) → ∀ s, c.beforeManaShields victim info = some s → c.ManaShieldsFit s)) ∧
    ((∀ s, c.beforeManaShields victim info = some s → c.ManaShieldsFit s) →
      ∃ t, c.beforeSplits victim info = some t ∧ ∀ x ∈ t.log, x.Paid) := by
  obtain ⟨info₁, g, s, haside, hg, hd₁, ht₁, hs, hledger, hpaid⟩ := beforeManaShields_spec c victim hdamage htotal
  obtain ⟨hends, hfits⟩ := hledger.manaLoop hpaid c.schoolMask c.vManaShieldCopy
  -- the damage that was put aside is added back
  have hback : ∀ t : State, Ledger victim info₁.total info₁.m_damage t → ∃ info₂,
      t.info.ModifyDamage g = some info₂ ∧ Ledger victim info.total info.m_damage { t with info := info₂ } := by
    intro t ht
    have hle := ht.damage_le
    have heq := ht.total_eq
    refine ⟨_, DamageInfo.ModifyDamage_spec ht.damage_lt (by omega) (by omega), ?_⟩
    refine ht.of_info ?_ htotal ?_ hdamage
    · simp only [DamageInfo.total] at heq ht₁ ⊢
      omega
    · dsimp only
      omega
  rw [beforeSplits_eq haside hs]
  constructor
  · intro t ht
    rw [Option.bind_eq_some_iff] at ht
    obtain ⟨t', ht', ht⟩ := ht
    obtain ⟨hledger', hturns⟩ := hends t' ht'
    obtain ⟨info₂, hinfo₂, hledger₂⟩ := hback t' hledger'
    rw [hinfo₂, Option.map_some, Option.some_inj] at ht
    subst ht
    refine ⟨hledger₂, fun hall s' hs' ↦ ?_⟩
    rw [hs, Option.some_inj] at hs'
    exact hs' ▸ hturns hall
  · intro hturns
    obtain ⟨t', ht', hledger', hpaid'⟩ := hfits (hturns s hs)
    obtain ⟨info₂, hinfo₂, -⟩ := hback t' hledger'
    exact ⟨{ t' with info := info₂ }, by rw [ht', Option.bind_some, hinfo₂, Option.map_some], hpaid'⟩

/-- The loops over the splitting auras end exactly if the percentages they reach fit. -/
theorem splitLoops_spec {total bound : ℕ} {s : State} (h : Ledger victim total bound s) :
    (∀ t, c.splitLoops s = some t → (Ledger victim total bound t ∧ t.log = s.log) ∧ c.PercentagesFit s) ∧
    (c.PercentagesFit s → ∃ t, c.splitLoops s = some t) := by
  cases hself : c.victimIsAttacker with
  | true =>
    rw [splitLoops, hself, if_pos rfl]
    refine ⟨fun t ht ↦ ?_, fun _ ↦ ⟨s, rfl⟩⟩
    cases ht
    refine ⟨⟨h, rfl⟩, fun hfalse ↦ ?_⟩
    simp [hself] at hfalse
  | false =>
    obtain ⟨s₁, hs₁, hledger, hlog⟩ := h.flatLoop c.schoolMask c.vSplitDamageFlatCopy
    obtain ⟨hends, hfits⟩ := hledger.pctLoop c.schoolMask c.vSplitDamagePctCopy
    rw [splitLoops, hself, if_neg Bool.false_ne_true, hs₁, Option.bind_eq_bind, Option.bind_some]
    refine ⟨fun t ht ↦ ?_, fun hall ↦ hfits (hall hself s₁ hs₁)⟩
    obtain ⟨⟨hl, hlog'⟩, hturns⟩ := hends t ht
    refine ⟨⟨hl, hlog'.trans hlog⟩, fun _ s' hs' ↦ ?_⟩
    rw [hs₁, Option.some_inj] at hs'
    exact hs' ▸ hturns

/-! ## Auras that always fit -/

/-- A mana shield without a multiplier, or with one of at least one, fits. -/
theorem manaFits_of_one_le {total bound : ℕ} {s : State} {e : AuraEffect} {schoolMask : UInt32}
    (h : Ledger victim total bound s)
    (he : e.manaMultiplier = 0 ∨ 1 ≤ e.manaMultiplier ∧ bound * e.manaMultiplier < 2 ^ 31) :
    ManaFits schoolMask e s := by
  intro _ _ hsome
  have hc : 0 < absorbable e s := lt_of_le_of_ne (Ledger.absorbable_nonneg e s) (Ne.symm hsome)
  have hle : absorbable e s ≤ bound := (Ledger.absorbable_le e s).trans (by exact_mod_cast h.damage_le)
  have hbound := h.bound_lt
  have hcost : 0 < manaCost e.manaMultiplier (absorbable e s) ∧
      manaCost e.manaMultiplier (absorbable e s) < 2 ^ 31 := by
    rw [manaCost]
    split
    next hne =>
      obtain ⟨hone, hsmall⟩ := he.resolve_left hne
      have hcq : (1 : ℚ) ≤ absorbable e s := by exact_mod_cast hc
      have hleq : (absorbable e s : ℚ) ≤ bound := by exact_mod_cast hle
      have hlow : (1 : ℚ) ≤ absorbable e s * e.manaMultiplier := one_le_mul_of_one_le_of_one_le hcq hone
      refine ⟨?_, (truncate_lt_iff (by norm_num)).mpr ?_⟩
      · rw [truncate_of_nonneg (by linarith)]
        exact Int.floor_pos.mpr hlow
      · push_cast
        exact (mul_le_mul_of_nonneg_right hleq (by linarith)).trans_lt hsmall
    next => omega
  exact ⟨hcost.1.ne', by omega, hcost.2, fun hneg ↦ absurd hneg (not_lt.mpr hcost.1.le)⟩

theorem percentageFits_of_le {total bound : ℕ} {s : State} {e : SplitEffect} {schoolMask : UInt32}
    (h : Ledger victim total bound s) (hl : 0 ≤ e.amount.toInt) (hu : e.amount.toInt ≤ 200) :
    PercentageFits schoolMask e s := by
  intro _
  have hdamage := h.damage_lt
  have hlow : 0 ≤ s.info.m_damage * e.amount.toInt := mul_nonneg (Int.natCast_nonneg _) hl
  have hup : s.info.m_damage * e.amount.toInt ≤ s.info.m_damage * 200 :=
    mul_le_mul_of_nonneg_left hu (Int.natCast_nonneg _)
  exact ⟨by omega, by omega⟩

/-- Auras with such multipliers and percentages fit, in whatever order they are worked on. -/
theorem fits_of_modest (hdamage : info.m_damage < 2 ^ 31) (htotal : info.total < 2 ^ 32)
    (hmana : ∀ e ∈ c.vManaShieldCopy,
      e.manaMultiplier = 0 ∨ 1 ≤ e.manaMultiplier ∧ info.m_damage * e.manaMultiplier < 2 ^ 31)
    (hpct : ∀ e ∈ c.vSplitDamagePctCopy, 0 ≤ e.amount.toInt ∧ e.amount.toInt ≤ 200) : c.Fits victim info := by
  intro _ _
  constructor
  · intro s hs
    obtain ⟨info₁, g, s', -, hg, hd₁, -, hs', hledger, -⟩ := beforeManaShields_spec c victim hdamage htotal
    rw [hs, Option.some_inj] at hs'
    subst hs'
    have hsmall : (info₁.m_damage : ℚ) ≤ info.m_damage := by
      have hle : info₁.m_damage ≤ info.m_damage := by omega
      exact_mod_cast hle
    refine ListLoop.eachTurn_of_invariant (fun e s t hs _ ht ↦ (hs.manaShield.1 t ht).1) (fun e he s hs ↦ ?_) hledger
    refine manaFits_of_one_le hs ((hmana e he).imp_right fun hm ↦ ⟨hm.1, ?_⟩)
    exact (mul_le_mul_of_nonneg_right hsmall (by linarith [hm.1])).trans_lt hm.2
  · intro s hs _ t ht
    obtain ⟨hledger, -⟩ := (beforeSplits_spec c victim hdamage htotal).1 s hs
    obtain ⟨t', ht', hledger', -⟩ := hledger.flatLoop c.schoolMask c.vSplitDamageFlatCopy
    rw [ht, Option.some_inj] at ht'
    subst ht'
    refine ListLoop.eachTurn_of_invariant (fun e s t hs _ ht ↦ ((hs.splitDamagePct c.schoolMask e).1 t ht).1)
      (fun e he s hs ↦ ?_) hledger'
    exact percentageFits_of_le hs (hpct e he).1 (hpct e he).2

/-! ## The result -/

/-- **Damage is conserved by absorption exactly if the mana shields and the percentages fit.** -/
theorem CalcAbsorbResist_iff (c : Call) (victim : Victim) (info : DamageInfo) (hdamage : info.m_damage < 2 ^ 31)
    (htotal : info.total < 2 ^ 32) :
    (∃ s, c.CalcAbsorbResist victim info = some s ∧ Conserved victim info s) ↔ c.Fits victim info := by
  by_cases hskip : c.victimIsAlive = true ∧ info.m_damage ≠ 0
  · obtain ⟨halive, hsome⟩ := hskip
    obtain ⟨hends, hexists⟩ := beforeSplits_spec c victim hdamage htotal
    rw [CalcAbsorbResist_eq halive hsome]
    constructor
    · rintro ⟨s, hs, hconserved⟩ - -
      rw [Option.bind_eq_some_iff] at hs
      obtain ⟨t, ht, hs⟩ := hs
      obtain ⟨hledger, hmana⟩ := hends t ht
      obtain ⟨⟨-, hlog⟩, hpct⟩ := (splitLoops_spec hledger).1 s hs
      refine ⟨hmana (fun x hx ↦ hconserved.paid x (hlog ▸ hx)), fun t' ht' ↦ ?_⟩
      rw [ht, Option.some_inj] at ht'
      exact ht' ▸ hpct
    · intro hfits
      obtain ⟨hmana, hpct⟩ := hfits halive hsome
      obtain ⟨t, ht, hpaid⟩ := hexists hmana
      obtain ⟨hsplits, hrun⟩ := splitLoops_spec (c := c) (hends t ht).1
      obtain ⟨s, hs⟩ := hrun (hpct t ht)
      obtain ⟨⟨hledger, hlog⟩, -⟩ := hsplits s hs
      refine ⟨s, by rw [ht, Option.bind_some, hs], hledger.conserved (fun x hx ↦ hpaid x ?_)⟩
      rwa [← hlog]
  · have hreturn : c.CalcAbsorbResist victim info = some ⟨info, victim, []⟩ := by
      rw [CalcAbsorbResist, if_pos]
      cases halive : c.victimIsAlive <;> simp_all
    rw [hreturn]
    refine ⟨fun _ halive hsome ↦ absurd ⟨halive, hsome⟩ hskip, fun _ ↦ ⟨_, rfl, ?_⟩⟩
    exact (Ledger.start victim htotal hdamage).conserved (fun x hx ↦ absurd hx List.not_mem_nil)

/-- A mana shield. -/
def manaShieldEffect (manaMultiplier : ℚ) : AuraEffect := ⟨1, 1, 0x7F, manaMultiplier, false⟩

/-- A hit on a victim with a mana shield, whose caster takes half of what is left. -/
def onManaShield (manaMultiplier : ℚ) : Call where
  victimIsAlive := true
  victimIsAttacker := false
  schoolMask := 0x1
  resistedDamage := 0
  auraAbsorbMod := 0
  vSchoolAbsorbCopy := []
  vManaShieldCopy := [manaShieldEffect manaMultiplier]
  vSplitDamageFlatCopy := []
  vSplitDamagePctCopy := [⟨2, 0x7F, 50, some ⟨false, true, true⟩⟩]

/-- A victim whose auras have an amount each. -/
def manaVictim (amount : Int32) : Victim where
  amount _ := amount
  applied _ := true
  mana := 90
  maxMana := 100
  mana_le := Nat.le_of_ble_eq_true rfl
  maxMana_lt := Nat.le_of_ble_eq_true rfl

/-- All of the mana pays for 60 points of the damage, and 20 of the other 40 are split. -/
theorem CalcAbsorbResist_manaShield :
    ((onManaShield (3 / 2)).CalcAbsorbResist (manaVictim 80) ⟨100, 0, 0, PROC_HIT_NORMAL⟩).map
        (fun s ↦ (s.info.m_damage, s.info.m_absorb, s.victim.mana)) = some (20, 80, 0) ∧
      ∃ s, (onManaShield (3 / 2)).CalcAbsorbResist (manaVictim 80) ⟨100, 0, 0, PROC_HIT_NORMAL⟩ = some s ∧
        Conserved (manaVictim 80) ⟨100, 0, 0, PROC_HIT_NORMAL⟩ s := by
  refine ⟨by decide +kernel, ?_⟩
  have hdamage : (⟨100, 0, 0, PROC_HIT_NORMAL⟩ : DamageInfo).m_damage < 2 ^ 31 := by decide
  have htotal : (⟨100, 0, 0, PROC_HIT_NORMAL⟩ : DamageInfo).total < 2 ^ 32 := by decide
  refine (CalcAbsorbResist_iff _ _ _ hdamage htotal).mpr (fits_of_modest hdamage htotal (fun e he ↦ ?_) (fun e he ↦ ?_))
  · obtain rfl := List.mem_singleton.mp he
    right
    dsimp only [manaShieldEffect]
    norm_num
  · obtain rfl := List.mem_singleton.mp he
    decide

/-- **One point of damage, absorbed for half a point of mana, is a division by zero.** -/
theorem CalcAbsorbResist_freeManaShield :
    ¬ ∀ (c : Call) (victim : Victim) (info : DamageInfo), info.m_damage < 2 ^ 31 → info.total < 2 ^ 32 →
      ∃ s, c.CalcAbsorbResist victim info = some s ∧ Conserved victim info s := by
  intro h
  obtain ⟨s, hs, -⟩ := h (onManaShield (1 / 2)) (manaVictim 80) ⟨1, 0, 0, PROC_HIT_NORMAL⟩ (by decide) (by decide)
  have hnone : ((onManaShield (1 / 2)).CalcAbsorbResist (manaVictim 80) ⟨1, 0, 0, PROC_HIT_NORMAL⟩).isNone = true := by
    decide +kernel
  rw [hs] at hnone
  cases hnone

end Call

end Gundrak.Absorption
