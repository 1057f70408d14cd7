import Gundrak.Items.Reforging

/-!
# What a reforged item adds

The loop of `_ApplyItemBonuses` over the stats of an item, as sums: `total_stats` says what an entry takes and gives.
The amount of the entry is taken from the first stat of the kind that is decreased, wherever it came from, so for the
modifiers it is as good as any (`contributes_stats`).  An item that scales with the level adds the same with an entry
and without.
-/

namespace Gundrak.Items

/-! ## Stats -/

/-- How often a stat is added to a modifier. -/
def weight (statType : ℕ) (m : Modifier) : ℤ := (modifiers statType).count m

/-- What stats add to a modifier. -/
def total (stats : List (ℕ × ℤ)) (m : Modifier) : ℤ := (stats.map fun stat ↦ stat.2 * weight stat.1 m).sum

@[simp] theorem total_nil (m : Modifier) : total [] m = 0 := rfl

@[simp] theorem total_cons (stat : ℕ × ℤ) (stats : List (ℕ × ℤ)) (m : Modifier) :
    total (stat :: stats) m = stat.2 * weight stat.1 m + total stats m := rfl

theorem foldl_update (c : ℤ) (ms : List Modifier) (mods : Modifier → ℤ) (m : Modifier) :
    ms.foldl (fun mods m ↦ Function.update mods m (mods m + c)) mods m = mods m + c * ms.count m := by
  induction ms generalizing mods with
  | nil => simp
  | cons m' ms ih =>
    rw [List.foldl_cons, ih]
    by_cases hm : m' = m
    · subst hm
      rw [Function.update_self, List.count_cons_self]
      push_cast
      ring
    · rw [Function.update_of_ne (Ne.symm hm), List.count_cons_of_ne hm]

theorem applyStat_eq (apply : Bool) (mods : Modifier → ℤ) (stat : ℕ × ℤ) (m : Modifier) :
    applyStat apply mods stat m = mods m + (if apply then 1 else -1) * (stat.2 * weight stat.1 m) := by
  rw [applyStat]
  split
  · rename_i hzero
    rw [hzero]
    ring
  · rw [foldl_update, weight]
    split <;> ring

/-- **What `_ApplyItemBonuses` adds it takes away**, as long as the stats are the same. -/
theorem foldl_applyStat (apply : Bool) (stats : List (ℕ × ℤ)) (mods : Modifier → ℤ) (m : Modifier) :
    stats.foldl (applyStat apply) mods m = mods m + (if apply then 1 else -1) * total stats m := by
  induction stats generalizing mods with
  | nil => simp
  | cons stat stats ih =>
    rw [List.foldl_cons, ih, applyStat_eq, total_cons]
    ring

namespace ItemTemplate

variable {proto : ItemTemplate} {level : ℕ}

variable (proto level) in
/-- The stats of the template. -/
def ownStats : List (ℕ × ℤ) :=
  match proto.scalingStats level with
  | some stats => stats
  | none => proto.statPositions.map fun i ↦ ((proto.ItemStat i).ItemStatType, (proto.ItemStat i).ItemStatValue)

theorem reforgedStats_none (l : List (Fin MAX_ITEM_PROTO_STATS)) (decreased : Bool) :
    proto.reforgedStats proto.StatsCount none l decreased = (l.filter (·.val < proto.StatsCount)).map fun i ↦
        ((proto.ItemStat i).ItemStatType, (proto.ItemStat i).ItemStatValue) := by
  induction l generalizing decreased with
  | nil => rfl
  | cons i l ih =>
    rw [reforgedStats, List.filter_cons]
    by_cases hi : i.val < proto.StatsCount
    · simp [(Nat.not_le.mpr hi), (decide_eq_true hi), ih]
    · rw [if_pos (Nat.not_lt.mp hi), if_neg (by simpa using hi), ih]

theorem stats_none : proto.stats level none = proto.ownStats level := by
  rw [stats, ownStats]
  cases proto.scalingStats level with
  | some stats => rfl
  | none =>
    rw [ite_self]
    exact reforgedStats_none positions false

/-- What an entry takes from the stats at some positions, and what it gives. -/
theorem total_reforgedStats (data : ReforgeData) (l : List (Fin MAX_ITEM_PROTO_STATS)) (decreased : Bool)
    (m : Modifier) :
    total (proto.reforgedStats (proto.StatsCount + 1) (some data) l decreased) m =
      total ((l.filter (·.val < proto.StatsCount)).map fun i ↦
        ((proto.ItemStat i).ItemStatType, (proto.ItemStat i).ItemStatValue)) m +
      (l.filter (·.val = proto.StatsCount)).length * (data.stat_value * weight data.increase m) -
      if decreased = false ∧ ∃ i ∈ l, i.val < proto.StatsCount ∧ (proto.ItemStat i).ItemStatType = data.decrease then
        data.stat_value * weight data.decrease m
      else 0 := by
  induction l generalizing decreased with
  | nil => simp [reforgedStats]
  | cons i l ih =>
    rw [reforgedStats]
    rcases Nat.lt_trichotomy i.val proto.StatsCount with hi | hi | hi
    · -- a stat of the template
      have hfilter : (i :: l).filter (·.val < proto.StatsCount) = i :: l.filter (·.val < proto.StatsCount) :=
        List.filter_cons_of_pos (decide_eq_true hi)
      have hlast : (i :: l).filter (·.val = proto.StatsCount) = l.filter (·.val = proto.StatsCount) :=
        List.filter_cons_of_neg (by simpa using Nat.ne_of_lt hi)
      rw [if_neg (by omega), if_neg (by omega), hfilter, hlast, List.map_cons, total_cons]
      by_cases hdecrease : decreased = false ∧ data.decrease = (proto.ItemStat i).ItemStatType
      · obtain ⟨rfl, hdecrease⟩ := hdecrease
        have hhere : false = false ∧ ∃ j ∈ i :: l, j.val < proto.StatsCount ∧
            (proto.ItemStat j).ItemStatType = data.decrease :=
          ⟨rfl, i, List.mem_cons_self, hi, hdecrease.symm⟩
        rw [if_pos hhere, if_pos (by simpa using hdecrease), total_cons, ih, if_neg (by simp), hdecrease]
        ring
      · have hrest : (decreased = false ∧ ∃ j ∈ i :: l, j.val < proto.StatsCount ∧
            (proto.ItemStat j).ItemStatType = data.decrease) ↔
            decreased = false ∧ ∃ j ∈ l, j.val < proto.StatsCount ∧
              (proto.ItemStat j).ItemStatType = data.decrease := by
          refine and_congr_right fun hfalse ↦ ?_
          rw [List.exists_mem_cons_iff]
          exact or_iff_right fun h ↦ hdecrease ⟨hfalse, h.2.symm⟩
        rw [if_neg (by simpa using hdecrease), total_cons, ih]
        simp only [hrest]
        ring
    · -- the stat that is increased
      have hfilter : (i :: l).filter (·.val < proto.StatsCount) = l.filter (·.val < proto.StatsCount) :=
        List.filter_cons_of_neg (by simpa using hi.ge)
      have hlast : (i :: l).filter (·.val = proto.StatsCount) = i :: l.filter (·.val = proto.StatsCount) :=
        List.filter_cons_of_pos (decide_eq_true hi)
      have hrest : (∃ j ∈ i :: l, j.val < proto.StatsCount ∧ (proto.ItemStat j).ItemStatType = data.decrease) ↔
          ∃ j ∈ l, j.val < proto.StatsCount ∧ (proto.ItemStat j).ItemStatType = data.decrease := by
        rw [List.exists_mem_cons_iff]
        exact or_iff_right fun h ↦ absurd h.1 hi.not_lt
      rw [if_neg (by omega), if_pos (by omega), hfilter, hlast, total_cons, ih, List.length_cons]
      simp only [hrest]
      push_cast
      ring
    · -- there is nothing
      have hfilter : (i :: l).filter (·.val < proto.StatsCount) = l.filter (·.val < proto.StatsCount) :=
        List.filter_cons_of_neg (by simpa using hi.le)
      have hlast : (i :: l).filter (·.val = proto.StatsCount) = l.filter (·.val = proto.StatsCount) :=
        List.filter_cons_of_neg (by simpa using hi.ne')
      have hrest : (∃ j ∈ i :: l, j.val < proto.StatsCount ∧ (proto.ItemStat j).ItemStatType = data.decrease) ↔
          ∃ j ∈ l, j.val < proto.StatsCount ∧ (proto.ItemStat j).ItemStatType = data.decrease := by
        rw [List.exists_mem_cons_iff]
        exact or_iff_right fun h ↦ absurd h.1 (Nat.lt_asymm hi)
      rw [if_pos (by omega), hfilter, hlast, ih]
      simp only [hrest]

variable (proto level) in
/-- What an item with an entry, or without, is to add to the modifiers: the stats of the template, of which two fifths of
one stat that the entry names are added to the other one. -/
def Contributes (entry : Option ReforgeData) (f : Modifier → ℤ) : Prop :=
  match entry with
  | none => ∀ m, f m = total (proto.ownStats level) m
  | some data =>
    ∃ i ∈ proto.statPositions, (proto.ItemStat i).ItemStatType = data.decrease ∧
      ∀ m, f m = total (proto.ownStats level) m - twoFifths (proto.ItemStat i).ItemStatValue * weight data.decrease m +
        twoFifths (proto.ItemStat i).ItemStatValue * weight data.increase m

variable (proto level) in
/-- An entry that tells two fifths of a stat of an item, which does not scale. -/
structure Fits (data : ReforgeData) : Prop where
  fixed : proto.scalingStats level = none
  room : proto.StatsCount < MAX_ITEM_PROTO_STATS
  decrease : ∃ i ∈ proto.statPositions, (proto.ItemStat i).ItemStatType = data.decrease ∧
    data.stat_value = twoFifths (proto.ItemStat i).ItemStatValue

theorem mem_statPositions {i : Fin MAX_ITEM_PROTO_STATS} : i ∈ proto.statPositions ↔ i.val < proto.StatsCount := by
  rw [statPositions, List.mem_filter, decide_eq_true_iff]
  exact and_iff_right (List.mem_finRange i)

theorem length_last (h : proto.StatsCount < MAX_ITEM_PROTO_STATS) :
    (positions.filter (·.val = proto.StatsCount)).length = 1 := by
  have hall : ∀ k : Fin MAX_ITEM_PROTO_STATS, (positions.filter (·.val = k.val)).length = 1 := by decide
  exact hall ⟨proto.StatsCount, h⟩

theorem total_stats {data : ReforgeData} (h : proto.Fits level data) (m : Modifier) :
    total (proto.stats level (some data)) m = total (proto.ownStats level) m -
      data.stat_value * weight data.decrease m + data.stat_value * weight data.increase m := by
  obtain ⟨i, hi, htype, _⟩ := h.decrease
  have hstats : proto.stats level (some data) =
      proto.reforgedStats (proto.StatsCount + 1) (some data) positions false := by
    simp [stats, h.fixed, h.room]
  have hown : proto.ownStats level =
      proto.statPositions.map fun i ↦ ((proto.ItemStat i).ItemStatType, (proto.ItemStat i).ItemStatValue) := by
    rw [ownStats, h.fixed]
  have hhere : false = false ∧ ∃ i ∈ positions, i.val < proto.StatsCount ∧
      (proto.ItemStat i).ItemStatType = data.decrease :=
    ⟨rfl, i, List.mem_finRange i, mem_statPositions.mp hi, htype⟩
  rw [hstats, hown, total_reforgedStats, if_pos hhere, length_last h.room, statPositions]
  push_cast
  ring

/-- **What `_ApplyItemBonuses` adds for an item** is what it is to add. -/
theorem contributes_stats {entry : Option ReforgeData} (h : ∀ data, entry = some data → proto.Fits level data) :
    proto.Contributes level entry (total (proto.stats level entry)) := by
  cases entry with
  | none => exact fun m ↦ by rw [stats_none]
  | some data =>
    have hfits := h data rfl
    obtain ⟨i, hi, htype, hvalue⟩ := hfits.decrease
    exact ⟨i, hi, htype, fun m ↦ by rw [total_stats hfits, hvalue]⟩

end ItemTemplate

end Gundrak.Items
