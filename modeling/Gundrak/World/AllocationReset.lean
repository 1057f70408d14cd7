import Gundrak.World.StatAllocation

/-!
# Taking upgrades back

`ResetStatsAllocation` calls `UpdateStatsPlayer` for every row of the player, to take back what the rows say
has been bought.  It should leave the values that upgrades change as they were before the first purchase.

A purchase adds its amount to one value, and taking back a row subtracts the sum of the amounts bought
(`RaisedBy`), under conditions that the code does not check:

* a flat modifier goes through a `uint32`, so it has to be a natural number that stays below `2 ^ 32`; a
  fraction is lost, and a negative modifier does not survive the conversion;
* the spell power must stay below `2 ^ 31`, above which it is taken for a negative number and reset to 0;
* the spell penetration must not leave the range of its type;
* the parry rating is raised by the amount *and* the bonus that the rating gives already, and then lowered by
  the amount minus the bonus: it does not come back.

**`resetUndoes_of_reaches`** says that after purchases that keep to these conditions the reset is defined and
brings every value back.  The proof keeps track of what has been bought: `Bought` relates the values to what
they were and to the rows, and holds after every purchase (`Bought.add`); and then the rows are taken back one
after the other (`takeBack_spec`).
-/

namespace Gundrak

open Std (ExtTreeMap)
open Checked (truncate asInt32 asUInt32)

namespace Modifiers

variable {character : Character} {player player' : Modifiers}

/-- The values that upgrades are for. -/
def values (player : Modifiers) : (UnitMods → ℚ) × (CombatRating → Int16) × UInt32 × Int32 :=
  (player.flat, player.m_baseRatingValue, player.m_baseSpellPower, player.m_spellPenetrationItemMod)

theorem values_ApplyRatingMod_zero (cr : CombatRating) :
    (player.ApplyRatingMod character cr 0 true).values = player.values := by
  have hsame : Function.update player.m_baseRatingValue cr (player.m_baseRatingValue cr + Int16.ofInt 0) =
      player.m_baseRatingValue := by
    simp [show Int16.ofInt 0 = 0 from rfl, Int16.add_zero]
  rw [ApplyRatingMod, if_pos rfl, hsame]
  rfl

theorem values_SetStatFlatModifier (character : Character) (player : Modifiers) (unitMod : UnitMods) (val : ℚ) :
    (player.SetStatFlatModifier character unitMod val).values =
      (Function.update player.flat unitMod val, player.values.2) := by
  have hfold : ∀ (ratings : List CombatRating) (player : Modifiers),
      (ratings.foldl (fun player cr ↦ player.ApplyRatingMod character cr 0 true) player).values =
        player.values := fun ratings ↦ by
    induction ratings with
    | nil => exact fun _ ↦ rfl
    | cons cr ratings ih => exact fun player ↦ (ih _).trans (values_ApplyRatingMod_zero cr)
  rw [SetStatFlatModifier]
  by_cases hsame : player.flat unitMod = val
  · rw [if_pos hsame, ← hsame, Function.update_eq_self]
    rfl
  · rw [if_neg hsame]
    by_cases hmodify : character.CanModifyStats = true
    · rw [if_pos hmodify, hfold]
      rfl
    · rw [if_neg hmodify]
      rfl

end Modifiers

namespace StatsBoost

open Modifiers

variable {character : Character} {guid : ObjectGuid} {player player' player₀ : Modifiers} {c : Upgraded}
  {z : ℤ} {n : ℕ}

/-! ## What the values are raised by -/

/-- The values of `player'` are those of `player` with something added to each of them. -/
structure RaisedBy (player : Modifiers) (amounts : Upgraded → ℤ) (player' : Modifiers) : Prop where
  flat : ∀ unitMod, player'.flat unitMod = player.flat unitMod + amounts (.flat unitMod)
  rating : ∀ cr, player'.m_baseRatingValue cr = player.m_baseRatingValue cr + Int16.ofInt (amounts (.rating cr))
  spellPower : player'.m_baseSpellPower = player.m_baseSpellPower + UInt32.ofInt (amounts .spellPower)
  spellPenetration : player'.m_spellPenetrationItemMod.toInt =
    player.m_spellPenetrationItemMod.toInt + amounts .spellPenetration

theorem RaisedBy.zero (player : Modifiers) : RaisedBy player 0 player where
  flat _ := (add_zero _).symm
  rating _ := (Int16.add_zero _).symm
  spellPower := (UInt32.add_zero _).symm
  spellPenetration := (add_zero _).symm

/-- One value of `player'` is that of `player` with something added to it. -/
def RaisedAt (player : Modifiers) (z : ℤ) (player' : Modifiers) : Upgraded → Prop
  | .flat unitMod => player'.flat unitMod = player.flat unitMod + z
  | .rating cr => player'.m_baseRatingValue cr = player.m_baseRatingValue cr + Int16.ofInt z
  | .spellPower => player'.m_baseSpellPower = player.m_baseSpellPower + UInt32.ofInt z
  | .spellPenetration => player'.m_spellPenetrationItemMod.toInt = player.m_spellPenetrationItemMod.toInt + z

theorem RaisedBy.of_forall {amounts : Upgraded → ℤ} (h : ∀ c, RaisedAt player (amounts c) player' c) :
    RaisedBy player amounts player' :=
  ⟨fun unitMod ↦ h (.flat unitMod), fun cr ↦ h (.rating cr), h .spellPower, h .spellPenetration⟩

theorem RaisedBy.single (hself : RaisedAt player z player' c) (hother : ∀ c', c' ≠ c → RaisedAt player 0 player' c') :
    RaisedBy player (Pi.single c z) player' := by
  refine RaisedBy.of_forall fun c' ↦ ?_
  by_cases hc : c' = c
  · rw [hc, Pi.single_eq_same]
    exact hself
  · rw [Pi.single_eq_of_ne hc]
    exact hother c' hc

theorem RaisedBy.add {amounts amounts' : Upgraded → ℤ} {player'' : Modifiers} (h : RaisedBy player amounts player')
    (h' : RaisedBy player' amounts' player'') : RaisedBy player (amounts + amounts') player'' where
  flat unitMod := by rw [h'.flat, h.flat, Pi.add_apply, Int.cast_add, add_assoc]
  rating cr := by rw [h'.rating, h.rating, Pi.add_apply, Int16.ofInt_add, Int16.add_assoc]
  spellPower := by rw [h'.spellPower, h.spellPower, Pi.add_apply, UInt32.ofInt_add, UInt32.add_assoc]
  spellPenetration := by rw [h'.spellPenetration, h.spellPenetration, Pi.add_apply, add_assoc]

theorem RaisedBy.values_eq (h : RaisedBy player 0 player') : player'.values = player.values := by
  have hflat : player'.flat = player.flat := funext fun unitMod ↦ (h.flat unitMod).trans (add_zero _)
  have hrating : player'.m_baseRatingValue = player.m_baseRatingValue :=
    funext fun cr ↦ (h.rating cr).trans (Int16.add_zero _)
  have hpower : player'.m_baseSpellPower = player.m_baseSpellPower := h.spellPower.trans (UInt32.add_zero _)
  have hpenetration : player'.m_spellPenetrationItemMod = player.m_spellPenetrationItemMod :=
    Int32.toInt_inj.mp (h.spellPenetration.trans (add_zero _))
  rw [values, values, hflat, hrating, hpower, hpenetration]

/-! ## One case of `UpdateStatsPlayer` -/

/-- The values have room for a change of one of them. -/
def Fits (player : Modifiers) (z : ℤ) : Upgraded → Prop
  | .flat unitMod => ∃ k : ℤ, player.flat unitMod = k ∧ 0 ≤ k + z ∧ k + z < 2 ^ 32
  | .rating cr => cr ≠ .PARRY ∧ -2 ^ 31 ≤ z ∧ z < 2 ^ 31
  | .spellPower => -2 ^ 31 ≤ z ∧ z < 2 ^ 31 ∧
      (z < 0 → -z ≤ player.m_baseSpellPower.toNat ∧ player.m_baseSpellPower.toNat < 2 ^ 31)
  | .spellPenetration => -2 ^ 31 ≤ z ∧ z < 2 ^ 31 ∧ -2 ^ 31 ≤ player.m_spellPenetrationItemMod.toInt + z ∧
      player.m_spellPenetrationItemMod.toInt + z < 2 ^ 31

theorem modifyUInt32_eq {baseValue : UInt32} (h : z < 0 → -z ≤ baseValue.toNat ∧ baseValue.toNat < 2 ^ 31) :
    modifyUInt32 true baseValue z = baseValue + UInt32.ofInt z := by
  rw [modifyUInt32]
  by_cases hneg : z < 0
  · obtain ⟨hle, hlt⟩ := h hneg
    have hint : int32 baseValue.toNat = baseValue.toNat := int32_of_mem (by omega) (by omega)
    have hstop : ¬ -z > int32 baseValue.toNat := by omega
    simp [hneg, hstop]
  · simp [hneg]

theorem truncate_asUInt32 {k : ℤ} (hnonneg : 0 ≤ k) (hlt : k < 2 ^ 32) :
    asUInt32 (truncate (k : ℚ)) = some k.toNat := by
  rw [Checked.truncate_intCast]
  exact if_pos ⟨hnonneg, hlt⟩

theorem truncate_asInt32 (hl : -2 ^ 31 ≤ z) (hu : z < 2 ^ 31) : asInt32 (truncate (z : ℚ)) = some z := by
  rw [Checked.truncate_intCast]
  exact if_pos ⟨hl, hu⟩

/-- What one case of `UpdateStatsPlayer` does, when the values have room for it. -/
theorem update_spec (character : Character) (amount : ℚ) (increase : Bool)
    (hz : (if increase then amount else -amount) = z) (h : Fits player z c) :
    ∃ player', update character player c amount increase = some player' ∧ RaisedBy player (Pi.single c z) player' := by
  cases c with
  | flat unitMod =>
    obtain ⟨k, hk, hnonneg, hlt⟩ := h
    have hsum : player.flat unitMod + z = ((k + z : ℤ) : ℚ) := by rw [hk, Int.cast_add]
    refine ⟨player.SetStatFlatModifier character unitMod ((k + z).toNat : ℕ), ?_, ?_⟩
    · simp only [update, hz, hsum, truncate_asUInt32 hnonneg hlt, Option.map_some]
    · have hval : (((k + z).toNat : ℕ) : ℚ) = player.flat unitMod + z := by
        rw [hsum, ← Int.cast_natCast, Int.toNat_of_nonneg hnonneg]
      have hvalues := values_SetStatFlatModifier character player unitMod (((k + z).toNat : ℕ) : ℚ)
      rw [hval] at hvalues ⊢
      obtain ⟨hflat, hrest⟩ := Prod.ext_iff.mp hvalues
      obtain ⟨hrating, hrest⟩ := Prod.ext_iff.mp hrest
      obtain ⟨hpower, hpenetration⟩ := Prod.ext_iff.mp hrest
      refine RaisedBy.single ((congrFun hflat unitMod).trans (Function.update_self _ _ _)) fun c' hc ↦ ?_
      cases c' with
      | flat other =>
        have hother : other ≠ unitMod := fun heq ↦ hc (heq ▸ rfl)
        have hsame := (congrFun hflat other).trans (Function.update_of_ne hother _ _)
        exact hsame.trans ((RaisedBy.zero player).flat other)
      | rating cr => exact (congrFun hrating cr).trans ((RaisedBy.zero player).rating cr)
      | spellPower => exact hpower.trans (RaisedBy.zero player).spellPower
      | spellPenetration =>
        exact (congrArg Int32.toInt hpenetration).trans (RaisedBy.zero player).spellPenetration
  | rating cr =>
    obtain ⟨hparry, hl, hu⟩ := h
    refine ⟨player.ApplyRatingMod character cr z true, ?_, ?_⟩
    · simp only [update, hz, if_neg hparry, truncate_asInt32 hl hu, Option.map_some]
    · refine RaisedBy.single (Function.update_self _ _ _) fun c' hc ↦ ?_
      cases c' with
      | flat unitMod => exact (RaisedBy.zero player).flat unitMod
      | rating other =>
        have hother : other ≠ cr := fun heq ↦ hc (heq ▸ rfl)
        exact (Function.update_of_ne hother _ _).trans ((RaisedBy.zero player).rating other)
      | spellPower => exact (RaisedBy.zero player).spellPower
      | spellPenetration => exact (RaisedBy.zero player).spellPenetration
  | spellPower =>
    obtain ⟨hl, hu, hstop⟩ := h
    refine ⟨player.ApplySpellPowerBonus z true, ?_, ?_⟩
    · simp only [update, hz, truncate_asInt32 hl hu, Option.map_some]
    · refine RaisedBy.single (modifyUInt32_eq hstop) fun c' hc ↦ ?_
      cases c' with
      | flat unitMod => exact (RaisedBy.zero player).flat unitMod
      | rating cr => exact (RaisedBy.zero player).rating cr
      | spellPower => exact absurd rfl hc
      | spellPenetration => exact (RaisedBy.zero player).spellPenetration
  | spellPenetration =>
    obtain ⟨hl, hu, hl', hu'⟩ := h
    have hmod : asInt32 (player.m_spellPenetrationItemMod.toInt + z) =
        some (player.m_spellPenetrationItemMod.toInt + z) := if_pos ⟨hl', hu'⟩
    refine ⟨{ player with m_spellPenetrationItemMod := Int32.ofInt (player.m_spellPenetrationItemMod.toInt + z) },
      ?_, ?_⟩
    · simp only [update, hz, truncate_asInt32 hl hu, Option.bind_some, ApplySpellPenetrationBonus, if_true, hmod,
        Option.map_some]
    · refine RaisedBy.single (Int32.toInt_ofInt_of_le hl' hu') fun c' hc ↦ ?_
      cases c' with
      | flat unitMod => exact (RaisedBy.zero player).flat unitMod
      | rating cr => exact (RaisedBy.zero player).rating cr
      | spellPower => exact (RaisedBy.zero player).spellPower
      | spellPenetration => exact absurd rfl hc

/-! ## The rows -/

/-- The stat type of an upgrade. -/
def statOf : Upgraded → UInt32
  | .flat .STAT_SPIRIT => 1
  | .flat .STAT_STRENGTH => 2
  | .flat .STAT_STAMINA => 3
  | .flat .STAT_AGILITY => 4
  | .flat .STAT_INTELLECT => 5
  | .flat .ATTACK_POWER => 6
  | .flat .ATTACK_POWER_RANGED => 12
  | .rating .CRIT_MELEE => 7
  | .rating .HIT_MELEE => 8
  | .rating .EXPERTISE => 9
  | .rating .ARMOR_PENETRATION => 10
  | .rating .HASTE_MELEE => 11
  | .rating .CRIT_RANGED => 13
  | .rating .HIT_RANGED => 14
  | .rating .HASTE_RANGED => 15
  | .rating .CRIT_SPELL => 17
  | .rating .HIT_SPELL => 18
  | .rating .HASTE_SPELL => 19
  | .rating .DODGE => 21
  | .rating .PARRY => 22
  | .rating .BLOCK => 23
  | .spellPower => 16
  | .spellPenetration => 20

theorem upgraded_eq_some_iff {stat : UInt32} : upgraded stat = some c ↔ stat = statOf c := by
  constructor
  · intro h
    rw [← UInt32.toNat_inj]
    unfold upgraded at h
    split at h <;> cases h <;> assumption
  · rintro rfl
    cases c with
    | flat unitMod => cases unitMod <;> rfl
    | rating cr => cases cr <;> rfl
    | spellPower => rfl
    | spellPenetration => rfl

/-- What a row raises the values by. -/
def amountOf (row : UInt32 × UInt64) : Upgraded → ℤ :=
  match upgraded row.1 with
  | some c => Pi.single c (row.2.toNat : ℤ)
  | none => 0

/-- What all rows of a list raise the values by. -/
def amountsOf (rows : List (UInt32 × UInt64)) : Upgraded → ℤ := (rows.map amountOf).sum

theorem amountOf_nonneg (row : UInt32 × UInt64) : 0 ≤ amountOf row := by
  rw [amountOf]
  cases upgraded row.1 with
  | none => exact le_rfl
  | some c => exact Pi.single_nonneg.mpr (Int.natCast_nonneg _)

theorem amountsOf_nonneg (rows : List (UInt32 × UInt64)) : 0 ≤ amountsOf rows := by
  refine List.sum_nonneg fun amounts hamounts ↦ ?_
  obtain ⟨row, _, rfl⟩ := List.mem_map.mp hamounts
  exact amountOf_nonneg row

theorem amountOf_apply (row : UInt32 × UInt64) (c : Upgraded) :
    amountOf row c = if row.1 = statOf c then (row.2.toNat : ℤ) else 0 := by
  rw [amountOf]
  cases hup : upgraded row.1 with
  | none =>
    rw [if_neg fun heq ↦ ?_]
    · rfl
    · rw [← upgraded_eq_some_iff, hup] at heq
      exact absurd heq.symm (Option.some_ne_none c)
  | some c' =>
    by_cases hc : c' = c
    · rw [if_pos (upgraded_eq_some_iff.mp (hc ▸ hup)), hc]
      exact Pi.single_eq_same _ _
    · rw [if_neg fun heq ↦ hc (Option.some_inj.mp (hup.symm.trans (upgraded_eq_some_iff.mpr heq)))]
      exact Pi.single_eq_of_ne (Ne.symm hc) _

/-- What has been bought according to the table. -/
def boughtOf (b : StatsBoost) (guid : ObjectGuid) (c : Upgraded) : ℤ :=
  (((b.characters_stats_boost guid (statOf c)).getD 0).toNat : ℤ)

theorem amountsOf_eq {b : StatsBoost} {rows : List (UInt32 × UInt64)} (h : SelectsRows b guid rows) :
    amountsOf rows = boughtOf b guid := by
  obtain ⟨hnodup, hrows⟩ := h
  funext c
  -- of the rows only the one of the stat of `c` counts
  have hfilter : amountsOf rows c = ((rows.filter fun row ↦ row.1 = statOf c).map fun row ↦ (row.2.toNat : ℤ)).sum := by
    rw [amountsOf]
    clear hnodup hrows
    induction rows with
    | nil => rfl
    | cons row rows ih =>
      rw [List.map_cons, List.sum_cons, Pi.add_apply, amountOf_apply, ih, List.filter_cons]
      by_cases hstat : row.1 = statOf c
      · simp [hstat]
      · rw [if_neg hstat, if_neg (by rwa [decide_eq_true_iff]), zero_add]
  rw [hfilter, boughtOf]
  cases hrow : b.characters_stats_boost guid (statOf c) with
  | none =>
    have hempty : (rows.filter fun row ↦ row.1 = statOf c) = [] := by
      refine List.filter_eq_nil_iff.mpr fun row hmem hstat ↦ ?_
      have hget := (hrows row.1 row.2).mp hmem
      rw [of_decide_eq_true hstat, hrow] at hget
      exact absurd hget.symm (Option.some_ne_none _)
    rw [hempty]
    rfl
  | some amount =>
    have hall : ∀ row ∈ rows.filter fun row ↦ row.1 = statOf c, row = (statOf c, amount) := fun row hmem ↦ by
      obtain ⟨hmem, hstat⟩ := List.mem_filter.mp hmem
      have hget := (hrows row.1 row.2).mp hmem
      rw [of_decide_eq_true hstat, hrow, Option.some_inj] at hget
      exact Prod.ext (of_decide_eq_true hstat) hget.symm
    have hone : rows.filter (fun row ↦ row.1 = statOf c) = [(statOf c, amount)] := by
      have hmem : (statOf c, amount) ∈ rows.filter fun row ↦ row.1 = statOf c :=
        List.mem_filter.mpr ⟨(hrows _ _).mpr hrow, decide_eq_true rfl⟩
      exact List.perm_singleton.mp
        ((List.perm_ext_iff_of_nodup ((List.Nodup.of_map _ hnodup).filter _) (List.nodup_singleton _)).mpr fun row ↦
          ⟨fun h ↦ List.mem_singleton.mpr (hall row h), fun h ↦ List.mem_singleton.mp h ▸ hmem⟩)
    simp [hone]

/-- What `UpdateStatsPlayer` does for a row, when the values have room for it. -/
theorem UpdateStatsPlayer_spec (character : Character) (player : Modifiers) (stat : UInt32) (amount : UInt64)
    (increase : Bool)
    (hfits : ∀ c, upgraded stat = some c → Fits player (if increase then amount.toNat else -amount.toNat) c) :
    ∃ player', UpdateStatsPlayer character player stat amount.toNat increase = some player' ∧
      RaisedBy player (if increase then amountOf (stat, amount) else -amountOf (stat, amount)) player' := by
  rw [UpdateStatsPlayer, amountOf]
  cases hup : upgraded stat with
  | none =>
    refine ⟨player, rfl, ?_⟩
    rw [neg_zero, ite_self]
    exact RaisedBy.zero player
  | some c =>
    cases increase with
    | true => exact update_spec character _ true (by rfl) (hfits c hup)
    | false =>
      obtain ⟨player', hupdate, hraised⟩ := update_spec character (amount.toNat : ℚ) false (by simp)
        (hfits c hup)
      have hneg : (Pi.single c (-(amount.toNat : ℤ)) : Upgraded → ℤ) = -Pi.single c (amount.toNat : ℤ) :=
        Pi.single_neg c _
      exact ⟨player', hupdate, hneg ▸ hraised⟩

/-! ## Taking rows back -/

/-- A value has room for all that has been bought of it. -/
def Room (player : Modifiers) (amounts : Upgraded → ℤ) : Upgraded → Prop
  | .flat unitMod => ∃ k : ℤ, player.flat unitMod = k ∧ 0 ≤ k ∧ k + amounts (.flat unitMod) < 2 ^ 32
  | .rating cr => cr ≠ .PARRY
  | .spellPower => amounts .spellPower = 0 ∨ player.m_baseSpellPower.toNat + amounts .spellPower < 2 ^ 31
  | .spellPenetration => player.m_spellPenetrationItemMod.toInt + amounts .spellPenetration < 2 ^ 31

theorem Room.mono {amounts amounts' : Upgraded → ℤ} (h : Room player amounts c) (hnonneg : 0 ≤ amounts' c)
    (hle : amounts' c ≤ amounts c) : Room player amounts' c := by
  cases c with
  | flat unitMod =>
    obtain ⟨k, hk, hnat, hlt⟩ := h
    exact ⟨k, hk, hnat, by omega⟩
  | rating cr => exact h
  | spellPower =>
    rcases h with hzero | hlt
    · exact Or.inl (by omega)
    · exact Or.inr (by omega)
  | spellPenetration =>
    rw [Room] at h ⊢
    omega

theorem toNat_add_ofInt {x : UInt32} (hnonneg : 0 ≤ z) (hlt : x.toNat + z < 2 ^ 32) :
    ((x + UInt32.ofInt z).toNat : ℤ) = x.toNat + z := by
  have hz : (UInt32.ofInt z).toNat = z.toNat := by
    rw [UInt32.ofInt, UInt32.toNat_ofNat']
    omega
  rw [UInt32.toNat_add, hz]
  omega

theorem Room.fits {amounts : Upgraded → ℤ} (hroom : Room player₀ amounts c) (h : RaisedBy player₀ amounts player)
    (hn : n < 2 ^ 31) (hle : n ≤ amounts c) : Fits player (-n) c := by
  cases c with
  | flat unitMod =>
    obtain ⟨k, hk, hnat, hlt⟩ := hroom
    refine ⟨k + amounts (.flat unitMod), ?_, by omega, by omega⟩
    simp [h.flat, hk]
  | rating cr => exact ⟨hroom, by omega, by omega⟩
  | spellPower =>
    refine ⟨by omega, by omega, fun hneg ↦ ?_⟩
    have hlt := hroom.resolve_left (by omega)
    have htoNat := toNat_add_ofInt (x := player₀.m_baseSpellPower) (z := amounts .spellPower) (by omega) (by omega)
    rw [← h.spellPower] at htoNat
    omega
  | spellPenetration =>
    rw [Room] at hroom
    have hle₀ := player₀.m_spellPenetrationItemMod.le_toInt
    have hval := h.spellPenetration
    exact ⟨by omega, by omega, by omega, by omega⟩

/-- Taking all rows back leaves the values as they were before anything was bought. -/
theorem takeBack_spec (character : Character) {rows : List (UInt32 × UInt64)} (hsmall : ∀ row ∈ rows, row.2.toNat < 2 ^ 31)
    (hroom : ∀ row ∈ rows, ∀ c, upgraded row.1 = some c → Room player₀ (amountsOf rows) c)
    (h : RaisedBy player₀ (amountsOf rows) player) :
    ∃ player', takeBack character player rows = some player' ∧ RaisedBy player₀ 0 player' := by
  induction rows generalizing player with
  | nil => exact ⟨player, rfl, h⟩
  | cons row rows ih =>
    have hsum : amountsOf (row :: rows) = amountOf row + amountsOf rows := List.sum_cons
    have hfits : ∀ c, upgraded row.1 = some c → Fits player (-(row.2.toNat : ℤ)) c := fun c hup ↦ by
      have hrest : 0 ≤ amountsOf rows c := amountsOf_nonneg rows c
      have hle : (row.2.toNat : ℤ) ≤ amountsOf (row :: rows) c := by
        rw [hsum, Pi.add_apply, amountOf_apply, if_pos (upgraded_eq_some_iff.mp hup)]
        omega
      exact (hroom row List.mem_cons_self c hup).fits h (hsmall row List.mem_cons_self) hle
    obtain ⟨player', hupdate, hraised⟩ := UpdateStatsPlayer_spec character player row.1 row.2 false hfits
    have hrest : amountsOf (row :: rows) + -amountOf row = amountsOf rows := by rw [hsum, add_neg_cancel_comm]
    have hle : amountsOf rows ≤ amountsOf (row :: rows) := hsum ▸ le_add_of_nonneg_left (amountOf_nonneg row)
    obtain ⟨player'', htake, hzero⟩ := ih (fun r hr ↦ hsmall r (List.mem_cons_of_mem _ hr))
      (fun r hr c hc ↦ (hroom r (List.mem_cons_of_mem _ hr) c hc).mono (amountsOf_nonneg rows c) (hle c))
      (hrest ▸ h.add hraised)
    refine ⟨player'', ?_, hzero⟩
    simpa [takeBack, hupdate] using htake

/-! ## Purchases -/

/-- A value leaves room for taking back an upgrade by `n`. -/
def CanUndo (player : Modifiers) (n : ℕ) : Upgraded → Prop
  | .flat unitMod => ∃ k : ℕ, player.flat unitMod = k ∧ k + n < 2 ^ 32
  | .rating cr => cr ≠ .PARRY
  | .spellPower => n = 0 ∨ player.m_baseSpellPower.toNat + n < 2 ^ 31
  | .spellPenetration => player.m_spellPenetrationItemMod.toInt + n < 2 ^ 31

/-- A purchase leaves room for taking it back. -/
def Undoable (guid : ObjectGuid) (s : Allocation) (x : Purchase) : Prop := s.boost.Buys guid x.amount x.stat x.uninit →
    ∀ c, upgraded x.stat = some c → CanUndo s.player x.amount.toNat c

theorem CanUndo.fits (h : CanUndo player n c) (hn : n < 2 ^ 31) : Fits player n c := by
  cases c with
  | flat unitMod =>
    obtain ⟨k, hk, hlt⟩ := h
    exact ⟨k, by rw [hk, Int.cast_natCast], by omega, by omega⟩
  | rating cr => exact ⟨h, by omega, by omega⟩
  | spellPower => exact ⟨by omega, by omega, fun hneg ↦ absurd hneg (by omega)⟩
  | spellPenetration =>
    rw [CanUndo] at h
    have hle := player.m_spellPenetrationItemMod.le_toInt
    exact ⟨by omega, by omega, by omega, by omega⟩

theorem CanUndo.room {amounts amounts' : Upgraded → ℤ} (h : CanUndo player n c)
    (hraised : RaisedBy player₀ amounts player) (hroom : amounts c = 0 ∨ Room player₀ amounts c)
    (hnonneg : 0 ≤ amounts c) (hsum : amounts' c = amounts c + n) : Room player₀ amounts' c := by
  cases c with
  | flat unitMod =>
    obtain ⟨k, hk, hlt⟩ := h
    rw [hraised.flat] at hk
    rcases hroom with hzero | ⟨k₀, hk₀, hnat, -⟩
    · rw [hzero, Int.cast_zero, add_zero] at hk
      exact ⟨k, by rw [hk, Int.cast_natCast], by omega, by omega⟩
    · rw [hk₀] at hk
      have hk' : k₀ + amounts (.flat unitMod) = k := by exact_mod_cast hk
      exact ⟨k₀, hk₀, hnat, by omega⟩
  | rating cr => exact h
  | spellPower =>
    have hbefore : amounts .spellPower = 0 ∨
        player₀.m_baseSpellPower.toNat + amounts .spellPower < 2 ^ 31 := hroom.elim Or.inl id
    rcases h with hzero | hlt
    · exact hbefore.imp (fun h0 ↦ by omega) fun hlt ↦ by omega
    · have htoNat : (player.m_baseSpellPower.toNat : ℤ) = player₀.m_baseSpellPower.toNat + amounts .spellPower := by
        have hlt₀ := player₀.m_baseSpellPower.toNat_lt
        rw [hraised.spellPower]
        exact toNat_add_ofInt hnonneg (by omega)
      exact Or.inr (by omega)
  | spellPenetration =>
    have hval := hraised.spellPenetration
    rw [CanUndo] at h
    rw [Room]
    omega

/-- How a player that has bought upgrades since `s₀` relates to what it was. -/
structure Bought (guid : ObjectGuid) (s₀ s : Allocation) : Prop where
  raised : RaisedBy s₀.player (boughtOf s.boost guid) s.player
  room : ∀ c amount, s.boost.characters_stats_boost guid (statOf c) = some amount →
    Room s₀.player (boughtOf s.boost guid) c
  small : ∀ stat amount, s.boost.characters_stats_boost guid stat = some amount → amount.toNat < 999999

variable {s₀ s s' : Allocation} {x : Purchase}

theorem Bought.start (h : ∀ stat, s₀.boost.characters_stats_boost guid stat = none) : Bought guid s₀ s₀ := by
  have hnone : boughtOf s₀.boost guid = 0 := by
    funext c
    rw [boughtOf, h]
    rfl
  refine ⟨hnone ▸ RaisedBy.zero _, fun c amount hrow ↦ ?_, fun stat amount hrow ↦ ?_⟩
  · rw [h] at hrow
    exact absurd hrow.symm (Option.some_ne_none _)
  · rw [h] at hrow
    exact absurd hrow.symm (Option.some_ne_none _)

theorem rows_add (hb : s.boost.Buys guid x.amount x.stat x.uninit) (stat : UInt32) :
    (s.boost.AddStatToPlayer guid x.amount x.stat x.uninit).characters_stats_boost guid stat =
      if stat = x.stat then
        some (((s.boost.characters_stats_boost guid x.stat).getD 0) + x.amount.toUInt64)
      else s.boost.characters_stats_boost guid stat := by
  rw [addStatToPlayer_of_buys hb]
  by_cases hstat : stat = x.stat
  · rw [if_pos hstat]
    exact if_pos ⟨rfl, hstat⟩
  · rw [if_neg hstat]
    exact if_neg fun h ↦ hstat h.2

section

variable (hsmall : ∀ amount, s.boost.characters_stats_boost guid x.stat = some amount → amount.toNat < 999999)
  (hb : s.boost.Buys guid x.amount x.stat x.uninit)
include hsmall hb

theorem toNat_row_add : (((s.boost.characters_stats_boost guid x.stat).getD 0) + x.amount.toUInt64).toNat =
      ((s.boost.characters_stats_boost guid x.stat).getD 0).toNat + x.amount.toNat ∧
    ((s.boost.characters_stats_boost guid x.stat).getD 0).toNat + x.amount.toNat < 999999 := by
  have hmax := maxUpdate_le x.stat
  have hamount := x.amount.toNat_lt
  have hlt := UInt64.lt_iff_toNat_lt.mp hb.1
  rw [UInt64.toNat_add, UInt32.toNat_toUInt64, amountUpgrade] at hlt
  rw [UInt64.toNat_add, UInt32.toNat_toUInt64]
  cases hrow : s.boost.characters_stats_boost guid x.stat with
  | none =>
    rw [hrow, Option.getD_none] at hlt
    have hone : (1 : UInt64).toNat = 1 := rfl
    have hzero : (0 : UInt64).toNat = 0 := rfl
    rw [Option.getD_none, hzero]
    omega
  | some amount =>
    have hless := hsmall amount hrow
    rw [hrow, Option.getD_some] at hlt
    rw [Option.getD_some]
    omega

theorem boughtOf_add : boughtOf (s.boost.AddStatToPlayer guid x.amount x.stat x.uninit) guid =
      boughtOf s.boost guid + amountOf (x.stat, x.amount.toUInt64) := by
  funext c
  rw [Pi.add_apply, boughtOf, boughtOf, rows_add hb, amountOf_apply]
  by_cases hstat : statOf c = x.stat
  · rw [if_pos hstat, if_pos hstat.symm, Option.getD_some, (toNat_row_add hsmall hb).1, hstat,
      UInt32.toNat_toUInt64, Nat.cast_add]
  · simp [hstat, (Ne.symm hstat)]

end

theorem boughtOf_nonneg (b : StatsBoost) (guid : ObjectGuid) (c : Upgraded) : 0 ≤ boughtOf b guid c :=
  Int.natCast_nonneg _

theorem Bought.add (h : Bought guid s₀ s) (hok : Undoable guid s x)
    (hadd : s.AddStatToPlayer character guid x = some s') : Bought guid s₀ s' := by
  rw [Allocation.AddStatToPlayer] at hadd
  by_cases hb : s.boost.Buys guid x.amount x.stat x.uninit
  · have hsmall := toNat_row_add (fun amount hrow ↦ h.small x.stat amount hrow) hb
    have hbought := boughtOf_add (fun amount hrow ↦ h.small x.stat amount hrow) hb
    obtain ⟨player', hupdate, hraised⟩ := UpdateStatsPlayer_spec character s.player x.stat
      x.amount.toUInt64 true fun c hup ↦ by
        rw [if_pos rfl, UInt32.toNat_toUInt64]
        exact (hok hb c hup).fits (by omega)
    rw [UInt32.toNat_toUInt64] at hupdate
    rw [if_pos hb, hupdate, Option.map_some, Option.some_inj] at hadd
    subst hadd
    refine ⟨hbought ▸ h.raised.add hraised, fun c amount hrow ↦ ?_, fun stat amount hrow ↦ ?_⟩
    · have hc : boughtOf (s.boost.AddStatToPlayer guid x.amount x.stat x.uninit) guid c =
          boughtOf s.boost guid c + amountOf (x.stat, x.amount.toUInt64) c := congrFun hbought c
      rw [amountOf_apply] at hc
      rw [rows_add hb] at hrow
      by_cases hstat : statOf c = x.stat
      · rw [if_pos hstat.symm, UInt32.toNat_toUInt64] at hc
        refine (hok hb c (upgraded_eq_some_iff.mpr hstat.symm)).room h.raised ?_ (boughtOf_nonneg _ _ _) hc
        cases hbefore : s.boost.characters_stats_boost guid (statOf c) with
        | none => exact Or.inl (by rw [boughtOf, hbefore]; rfl)
        | some before => exact Or.inr (h.room c before hbefore)
      · rw [if_neg (Ne.symm hstat), add_zero] at hc
        rw [if_neg hstat] at hrow
        exact (h.room c amount hrow).mono (boughtOf_nonneg _ _ _) hc.le
    · rw [rows_add hb] at hrow
      by_cases hstat : stat = x.stat
      · rw [if_pos hstat, Option.some_inj] at hrow
        rw [← hrow, hsmall.1]
        exact hsmall.2
      · rw [if_neg hstat] at hrow
        exact h.small stat amount hrow
  · rw [if_neg hb, Option.some_inj] at hadd
    exact hadd ▸ h

/-- **A reset takes back all that has been bought**, when every purchase left room for that. -/
theorem resetUndoes_of_reaches (character : Character) (guid : ObjectGuid) (s₀ : Allocation)
    (hnew : ∀ stat, s₀.boost.characters_stats_boost guid stat = none) {s : Allocation}
    (h : (purchases character guid s₀).Reaches (Undoable guid) s) {rows : List (UInt32 × UInt64)}
    (hrows : SelectsRows s.boost guid rows) :
    ∃ s', s.ResetStatsAllocation character guid rows = some s' ∧ s'.player.values = s₀.player.values := by
  have hbought : Bought guid s₀ s := by
    refine h.invariant (P := Bought guid s₀) (Bought.start hnew) fun s x s' hs hok hadd ↦ ?_
    exact hs.add hok hadd
  have hamounts : amountsOf rows = boughtOf s.boost guid := amountsOf_eq hrows
  obtain ⟨player', htake, hraised⟩ := takeBack_spec character
    (fun row hrow ↦ lt_trans (hbought.small row.1 row.2 ((hrows.2 _ _).mp hrow)) (by decide))
    (fun row hrow c hup ↦ by
      rw [hamounts]
      refine hbought.room c row.2 ?_
      rw [← upgraded_eq_some_iff.mp hup]
      exact (hrows.2 _ _).mp hrow)
    (hamounts ▸ hbought.raised)
  refine ⟨⟨s.boost.ResetStatsAllocation guid, player'⟩, ?_, hraised.values_eq⟩
  rw [Allocation.ResetStatsAllocation, htake]
  rfl

/-! ## One purchase -/

theorem selectsRows_first (hnew : ∀ stat, s₀.boost.characters_stats_boost guid stat = none)
    (hb : s₀.boost.Buys guid x.amount x.stat x.uninit) (hadd : s₀.AddStatToPlayer character guid x = some s) :
    SelectsRows s.boost guid [(x.stat, x.amount.toUInt64)] := by
  rw [Allocation.AddStatToPlayer, if_pos hb, Option.map_eq_some_iff] at hadd
  obtain ⟨player, -, rfl⟩ := hadd
  refine ⟨List.nodup_singleton _, fun stat amount ↦ ?_⟩
  rw [rows_add hb, hnew, hnew, Option.getD_none, UInt64.zero_add, List.mem_singleton, Prod.mk.injEq]
  by_cases hstat : stat = x.stat
  · rw [if_pos hstat, Option.some_inj]
    exact ⟨fun h ↦ h.2.symm, fun h ↦ ⟨hstat, h.symm⟩⟩
  · rw [if_neg hstat]
    exact iff_of_false (fun h ↦ hstat h.1) (Option.some_ne_none _).symm

/-- Half a percent of parry for a point of the rating. -/
def fencer : Character := ⟨false, fun _ ↦ 1 / 2, fun _ ↦ [], fun _ _ ↦ 0⟩

/-- A player with points to spend, and a rating of 10 in everything. -/
def unbought : Allocation :=
  ⟨⟨(∅ : ExtTreeMap ObjectGuid UInt64).insert 1 1, (∅ : ExtTreeMap ObjectGuid UInt64).insert 1 100,
    fun _ _ ↦ none⟩, ⟨fun _ ↦ 0, fun _ ↦ 10, fun _ ↦ 10, 0, 0⟩⟩

theorem resetUndoes_of_reaches_agility :
    ∃ s s', (purchases fencer 1 unbought).Reaches (Undoable 1) s ∧ s.player.flat .STAT_AGILITY = 5 ∧
      s.ResetStatsAllocation fencer 1 [(4, 5)] = some s' ∧ s'.player.values = unbought.player.values := by
  have hbuys : unbought.boost.Buys 1 5 4 (0, 0) := by decide
  have hrun : (unbought.AddStatToPlayer fencer 1 ⟨5, 4, (0, 0)⟩).any
      (fun s ↦ s.player.flat .STAT_AGILITY = 5) = true := by
    decide +kernel
  obtain ⟨s, hs, hw⟩ := (Option.any_eq_true _ _).mp hrun
  have hok : Undoable 1 unbought ⟨5, 4, (0, 0)⟩ := fun _ c hc ↦ by
    obtain rfl : Upgraded.flat .STAT_AGILITY = c := Option.some_inj.mp hc
    exact ⟨0, Nat.cast_zero.symm, by decide⟩
  have hreaches : (purchases fencer 1 unbought).Reaches (Undoable 1) s := .step .start hok hs
  obtain ⟨s', hreset, hvalues⟩ := resetUndoes_of_reaches fencer 1 unbought (fun _ ↦ rfl) hreaches
    (selectsRows_first (x := ⟨5, 4, (0, 0)⟩) (fun _ ↦ rfl) hbuys hs)
  exact ⟨s, s', hreaches, of_decide_eq_true hw, hreset, hvalues⟩

/-- Five points of parry are bought for the fencer and taken back: the rating of 10 is raised by 5 and its
bonus, 5, and of the 20 there are then 5 are not taken back but added, since the bonus is 10. -/
theorem not_resetUndoes_parry :
    ∃ s s', (purchases fencer 1 unbought).Reachable s ∧ SelectsRows s.boost 1 [(22, 5)] ∧
      s.ResetStatsAllocation fencer 1 [(22, 5)] = some s' ∧ s'.player.values ≠ unbought.player.values := by
  have hbuys : unbought.boost.Buys 1 5 22 (0, 0) := by decide
  have hrun : (unbought.AddStatToPlayer fencer 1 ⟨5, 22, (0, 0)⟩).any (fun s ↦
      (s.ResetStatsAllocation fencer 1 [(22, 5)]).any
        fun s' ↦ s'.player.m_baseRatingValue .PARRY = 25) = true := by
    decide +kernel
  obtain ⟨s, hs, hw⟩ := (Option.any_eq_true _ _).mp hrun
  obtain ⟨s', hreset, hrating⟩ := (Option.any_eq_true _ _).mp hw
  have hreachable : (purchases fencer 1 unbought).Reachable s :=
    Machine.Reaches.step (a := ⟨5, 22, (0, 0)⟩) .start trivial hs
  refine ⟨s, s', hreachable,
    selectsRows_first (x := ⟨5, 22, (0, 0)⟩) (fun _ ↦ rfl) hbuys hs, hreset, fun hvalues ↦ ?_⟩
  have hsame : s'.player.m_baseRatingValue .PARRY = 10 := congrFun (congrArg (fun v ↦ v.2.1) hvalues) _
  simp [of_decide_eq_true hrating] at hsame

end StatsBoost

end Gundrak
