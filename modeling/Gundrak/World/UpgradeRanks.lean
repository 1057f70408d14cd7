import Gundrak.World.StatsBoost

/-!
# The rank of a total of upgrades

`CalculateUpgrade` goes through `RanksRequiredUpgrade` and stops at the first rank whose minimum is not
below the total.  What it returns are the rank before that one and its maximum, which players are shown as
the total at which the next rank begins, and the rank is the price of the next upgrade.

So the rank is the last one whose minimum is below the total (`calculateUpgrade_eq`): a higher total passes
the same ranks and perhaps more (`passed_append`), and as the ranks are listed in order it has a higher rank
just if it passes another one (`rank_lt_iff`).  The next rank begins right after *its* minimum, and the
maximum of the rank before is no such number: the intervals of the table overlap, and where they do not, the
minimum itself still belongs to the rank before.  With a total of 0 no rank is passed at all.

**`exactRank_iff`** says that the answer is right only for a total above 60000, which has the last rank.
-/

namespace Gundrak

namespace StatsBoost

variable {totalUpgrade totalUpgrade' : UInt64} {ranks : List (UInt32 × UInt32 × UInt32)}
  {required uninit uninit' : UInt32 × UInt32}

/-- The maximum of the last rank. -/
def lastThreshold : UInt64 := 9999999

/-- What `CalculateUpgrade` should say of a total: values that it has assigned, a rank that no higher total
falls below, and the total from which on the rank is a higher one. -/
structure ExactRank (totalUpgrade : UInt64) : Prop where
  assigned : ∃ required, ∀ uninit, CalculateUpgrade uninit totalUpgrade = required
  mono : ∀ uninit uninit' totalUpgrade', totalUpgrade ≤ totalUpgrade' →
    (CalculateUpgrade uninit totalUpgrade).1 ≤ (CalculateUpgrade uninit' totalUpgrade').1
  next : ∀ uninit uninit' totalUpgrade', totalUpgrade ≤ totalUpgrade' → totalUpgrade' < lastThreshold →
    ((CalculateUpgrade uninit totalUpgrade).1 < (CalculateUpgrade uninit' totalUpgrade').1 ↔
      (CalculateUpgrade uninit totalUpgrade).2.toUInt64 ≤ totalUpgrade')

/-! ## The ranks that are passed -/

/-- The loop goes on after an entry. -/
def Passes (totalUpgrade : UInt64) (entry : UInt32 × UInt32 × UInt32) : Bool := entry.2.1.toUInt64 < totalUpgrade

/-- The entries that the loop goes through without stopping. -/
def passed (totalUpgrade : UInt64) (ranks : List (UInt32 × UInt32 × UInt32)) :
    List (UInt32 × UInt32 × UInt32) :=
  ranks.takeWhile (Passes totalUpgrade)

theorem Passes.trans {entry : UInt32 × UInt32 × UInt32} (h : Passes totalUpgrade entry = true)
    (hle : totalUpgrade ≤ totalUpgrade') : Passes totalUpgrade' entry = true := by
  rw [Passes, decide_eq_true_iff] at h ⊢
  exact UInt64.lt_of_lt_of_le h hle

/-- The loop stops at an entry just if it does not pass it: a minimum that is not below the total is enough
for both halves of its condition. -/
theorem stops_iff (totalUpgrade : UInt64) {entry : UInt32 × UInt32 × UInt32} (h : entry.2.1 ≤ entry.2.2) :
    entry.2.1.toUInt64 ≥ totalUpgrade ∧ totalUpgrade ≤ entry.2.2.toUInt64 ↔ Passes totalUpgrade entry = false := by
  rw [Passes, decide_eq_false_iff_not, UInt64.not_lt]
  refine ⟨fun hstop ↦ hstop.1, fun hmin ↦ ⟨hmin, ?_⟩⟩
  have hmax : entry.2.1.toUInt64 ≤ entry.2.2.toUInt64 := by
    rw [UInt64.le_iff_toNat_le, UInt32.toNat_toUInt64, UInt32.toNat_toUInt64]
    exact UInt32.le_iff_toNat_le.mp h
  exact UInt64.le_trans hmin hmax

/-- The variables have the values of the last entry that is passed. -/
theorem calculateUpgrade_eq (h : ∀ entry ∈ ranks, entry.2.1 ≤ entry.2.2) :
    calculateUpgrade totalUpgrade ranks required =
      ((passed totalUpgrade ranks).getLast?.map fun entry ↦ (entry.1, entry.2.2)).getD required := by
  induction ranks generalizing required with
  | nil => rfl
  | cons entry ranks ih =>
    have hstop := stops_iff totalUpgrade (h entry List.mem_cons_self)
    rw [passed, List.takeWhile_cons]
    cases hpass : Passes totalUpgrade entry with
    | false => exact if_pos (hstop.mpr hpass)
    | true =>
      have hgo := mt hstop.mp (by rw [hpass]; exact Bool.noConfusion)
      rw [calculateUpgrade, if_neg hgo, ih fun e he ↦ h e (List.mem_cons_of_mem _ he), if_pos rfl,
        List.getLast?_cons, Option.map_some, Option.getD_some]
      cases hlast : (passed totalUpgrade ranks).getLast? with
      | none => rw [passed] at hlast; rw [hlast]; rfl
      | some last => rw [passed] at hlast; rw [hlast]; rfl

/-- A higher total passes the same entries, and then what it passes of the others. -/
theorem passed_append (hle : totalUpgrade ≤ totalUpgrade') : passed totalUpgrade' ranks =
      passed totalUpgrade ranks ++ passed totalUpgrade' (ranks.dropWhile (Passes totalUpgrade)) := by
  induction ranks with
  | nil => rfl
  | cons entry ranks ih =>
    rw [passed, passed, List.takeWhile_cons, List.takeWhile_cons, List.dropWhile_cons]
    cases hpass : Passes totalUpgrade entry with
    | false =>
      simp [List.nil_append, passed, List.takeWhile_cons]
    | true =>
      rw [if_pos rfl, if_pos (Passes.trans hpass hle), if_pos rfl, List.cons_append]
      exact congrArg (entry :: ·) ih

theorem minimum_le_maximum : ∀ entry ∈ RanksRequiredUpgrade, entry.2.1 ≤ entry.2.2 := by
  simp [RanksRequiredUpgrade]

theorem ranks_ascending : RanksRequiredUpgrade.Pairwise fun entry entry' ↦ entry.1 < entry'.1 := by
  decide +kernel

/-! ## The table -/

/-- The entries after the ones that a total passes. -/
def ahead (totalUpgrade : UInt64) : List (UInt32 × UInt32 × UInt32) :=
  RanksRequiredUpgrade.dropWhile (Passes totalUpgrade)

theorem passed_append_ahead : passed totalUpgrade RanksRequiredUpgrade ++ ahead totalUpgrade = RanksRequiredUpgrade :=
  List.takeWhile_append_dropWhile

/-- With something spent, a rank is passed, and the answer is what the table has for the last one. -/
theorem exists_passed (h : totalUpgrade ≠ 0) :
    ∃ before entry, passed totalUpgrade RanksRequiredUpgrade = before ++ [entry] ∧
      ∀ uninit, CalculateUpgrade uninit totalUpgrade = (entry.1, entry.2.2) := by
  have hpos : (0 : UInt64) < totalUpgrade := UInt64.pos_iff_ne_zero.mpr h
  have hne : passed totalUpgrade RanksRequiredUpgrade ≠ [] := by
    have hfirst : Passes totalUpgrade (1, 0, 500) = true := decide_eq_true hpos
    rw [passed, RanksRequiredUpgrade, List.takeWhile_cons, if_pos hfirst]
    exact List.cons_ne_nil _ _
  refine ⟨_, _, (List.dropLast_append_getLast hne).symm, fun uninit ↦ ?_⟩
  rw [CalculateUpgrade, calculateUpgrade_eq minimum_le_maximum, List.getLast?_eq_some_getLast hne,
    Option.map_some, Option.getD_some]

/-- A higher total has a higher rank just if it passes an entry that is still ahead. -/
theorem rank_lt_iff (h : totalUpgrade ≠ 0) (hle : totalUpgrade ≤ totalUpgrade') :
    ((CalculateUpgrade uninit totalUpgrade).1 < (CalculateUpgrade uninit' totalUpgrade').1 ↔
      passed totalUpgrade' (ahead totalUpgrade) ≠ []) ∧
    (CalculateUpgrade uninit totalUpgrade).1 ≤ (CalculateUpgrade uninit' totalUpgrade').1 := by
  have h' : totalUpgrade' ≠ 0 := UInt64.pos_iff_ne_zero.mp
    (UInt64.lt_of_lt_of_le (UInt64.pos_iff_ne_zero.mpr h) hle)
  obtain ⟨before, entry, hpassed, heq⟩ := exists_passed h
  obtain ⟨before', entry', hpassed', heq'⟩ := exists_passed h'
  rw [heq, heq']
  have happend : before' ++ [entry'] = before ++ [entry] ++ passed totalUpgrade' (ahead totalUpgrade) := by
    rw [← hpassed, ← hpassed']
    exact passed_append hle
  cases hnew : passed totalUpgrade' (ahead totalUpgrade) using List.reverseRecOn with
  | nil =>
    rw [hnew, List.append_nil] at happend
    have hsame : entry' = entry := List.singleton_inj.mp (List.append_inj' happend rfl).2
    rw [hsame]
    exact ⟨iff_of_false (UInt32.lt_irrefl _) (absurd rfl), UInt32.le_refl _⟩
  | append_singleton new last =>
    rw [hnew, ← List.append_assoc] at happend
    have hlast : entry' = last := List.singleton_inj.mp (List.append_inj' happend rfl).2
    have hascending : (before ++ [entry] ++ new ++ [last]).Pairwise
        fun entry entry' ↦ entry.1 < entry'.1 := by
      rw [← happend, ← hpassed']
      exact ranks_ascending.sublist (List.takeWhile_sublist _)
    have hlt : entry.1 < last.1 := (List.pairwise_append.mp hascending).2.2 entry
      (List.mem_append_left _ (List.mem_append_right _ List.mem_cons_self)) last List.mem_cons_self
    rw [hlast]
    exact ⟨iff_of_true hlt (List.append_ne_nil_of_right_ne_nil _ (List.cons_ne_nil _ _)), UInt32.le_of_lt hlt⟩

/-- The next rank begins after the minimum of the first entry that is ahead. -/
theorem rank_lt_iff_of_ahead {entry : UInt32 × UInt32 × UInt32} {rest : List (UInt32 × UInt32 × UInt32)}
    (h : totalUpgrade ≠ 0) (hahead : ahead totalUpgrade = entry :: rest)
    (hle : totalUpgrade ≤ totalUpgrade') :
    (CalculateUpgrade uninit totalUpgrade).1 < (CalculateUpgrade uninit' totalUpgrade').1 ↔
      entry.2.1.toUInt64 < totalUpgrade' := by
  rw [(rank_lt_iff h hle).1, hahead, passed, List.takeWhile_cons]
  cases hpass : Passes totalUpgrade' entry with
  | false =>
    exact iff_of_false (fun hne ↦ hne rfl) (of_decide_eq_false hpass)
  | true =>
    exact iff_of_true (List.cons_ne_nil _ _) (of_decide_eq_true hpass)

/-- No maximum of the table is the first total of the rank after it. -/
theorem maximum_ne : RanksRequiredUpgrade.IsChain fun entry entry' ↦
    entry'.2.1.toUInt64 < lastThreshold - 1 ∧ entry.2.2.toUInt64 ≠ entry'.2.1.toUInt64 + 1 := by
  decide +kernel

theorem lt_add_one_of_lt {x y : UInt64} (h : x < y) : x < x + 1 ∧ x + 1 ≤ y := by
  have hy := y.toNat_lt
  have hone : (1 : UInt64).toNat = 1 := rfl
  rw [UInt64.lt_iff_toNat_lt] at h
  rw [UInt64.lt_iff_toNat_lt, UInt64.le_iff_toNat_le, UInt64.toNat_add, hone]
  omega

theorem not_exactRank_of_ahead {entry : UInt32 × UInt32 × UInt32} {rest : List (UInt32 × UInt32 × UInt32)}
    (h : totalUpgrade ≠ 0) (hahead : ahead totalUpgrade = entry :: rest) : ¬ ExactRank totalUpgrade := by
  intro hexact
  obtain ⟨before, last, hpassed, heq⟩ := exists_passed h
  have hchain := maximum_ne
  rw [← passed_append_ahead, hpassed, hahead, List.isChain_append] at hchain
  obtain ⟨hmin, hmax⟩ := hchain.2.2 last List.getLast?_concat entry rfl
  have hstop : totalUpgrade ≤ entry.2.1.toUInt64 := by
    have hhead := List.head?_dropWhile_not (Passes totalUpgrade) RanksRequiredUpgrade
    rw [← ahead, hahead] at hhead
    exact UInt64.not_lt.mp (of_decide_eq_false hhead)
  have hsucc : entry.2.1.toUInt64 < entry.2.1.toUInt64 + 1 := (lt_add_one_of_lt hmin).1
  have hlast : entry.2.1.toUInt64 + 1 < lastThreshold := UInt64.lt_of_le_of_lt (lt_add_one_of_lt hmin).2 (by decide)
  -- the rank does not change at the minimum, and does right after it
  have hat : ¬ last.2.2.toUInt64 ≤ entry.2.1.toUInt64 := fun hle ↦ by
    have hlt := (hexact.next (0, 0) (0, 0) _ hstop (UInt64.lt_trans hsucc hlast)).mpr (by rwa [heq])
    exact UInt64.lt_irrefl _ ((rank_lt_iff_of_ahead h hahead hstop).mp hlt)
  have hafter : last.2.2.toUInt64 ≤ entry.2.1.toUInt64 + 1 := by
    have hle := UInt64.le_trans hstop (UInt64.le_of_lt hsucc)
    have hnext := (hexact.next (0, 0) (0, 0) _ hle hlast).mp ((rank_lt_iff_of_ahead h hahead hle).mpr hsucc)
    rwa [heq] at hnext
  exact hmax (UInt64.le_antisymm hafter (lt_add_one_of_lt (UInt64.not_le.mp hat)).2)

/-- Only a total above the minimum of the last rank has no rank ahead. -/
theorem ahead_eq_nil_iff : ahead totalUpgrade = [] ↔ 60000 < totalUpgrade := by
  rw [ahead, List.dropWhile_eq_nil_iff]
  constructor
  · intro hall
    have hlast : (15, 60000, 9999999) ∈ RanksRequiredUpgrade := by simp [RanksRequiredUpgrade]
    exact of_decide_eq_true (hall _ hlast)
  · intro hlast entry hentry
    have hmin : ∀ entry ∈ RanksRequiredUpgrade, entry.2.1.toUInt64 ≤ 60000 := by
      simp [RanksRequiredUpgrade]
    exact decide_eq_true (UInt64.lt_of_le_of_lt (hmin entry hentry) hlast)

/-- **The answer is exact** for a total that has the last rank, and for no other. -/
theorem exactRank_iff (totalUpgrade : UInt64) : ExactRank totalUpgrade ↔ 60000 < totalUpgrade := by
  constructor
  · intro hexact
    have h : totalUpgrade ≠ 0 := by
      rintro rfl
      obtain ⟨required, hrequired⟩ := hexact.assigned
      have hsame : ((0, 0) : UInt32 × UInt32) = (1, 0) := (hrequired (0, 0)).trans (hrequired (1, 0)).symm
      exact absurd hsame (by decide)
    cases hahead : ahead totalUpgrade with
    | nil => exact ahead_eq_nil_iff.mp hahead
    | cons entry rest => exact absurd hexact (not_exactRank_of_ahead h hahead)
  · intro hlast
    have h : totalUpgrade ≠ 0 := by
      rintro rfl
      exact absurd hlast (by decide)
    have hahead : ahead totalUpgrade = [] := ahead_eq_nil_iff.mpr hlast
    obtain ⟨before, last, hpassed, heq⟩ := exists_passed h
    have hfull : before ++ [last] = RanksRequiredUpgrade := by
      rw [← hpassed, ← List.append_nil (passed _ _), ← hahead, passed_append_ahead]
    have hentry : last = (15, 60000, 9999999) := by
      have hget := congrArg List.getLast? hfull
      rw [List.getLast?_concat] at hget
      exact Option.some_inj.mp hget
    refine ⟨⟨_, heq⟩, fun uninit uninit' t' hle ↦ (rank_lt_iff h hle).2, fun uninit uninit' t' hle ht' ↦ ?_⟩
    rw [(rank_lt_iff h hle).1, hahead, heq, hentry]
    exact iff_of_false (fun hne ↦ hne rfl) (UInt64.not_le.mpr ht')

/-- A total of 500 has the first rank, and the answer for it is that 500 is enough for the next one. -/
theorem not_exactRank_500 : ¬ ExactRank 500 := fun h ↦
  absurd ((h.next (0, 0) (0, 0) 500 (by decide) (by decide)).mpr (by decide)) (by decide)

end StatsBoost

end Gundrak
