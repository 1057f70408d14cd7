import Gundrak.Spells.CategoryIndex

/-!
# The cooldowns of whole categories

A cooldown that is added for a category is meant to hold back every spell of the category until its
`CategoryEnd`.  What `HasCooldown` looks at is whether the index has anything for the category at all,
so adding a cooldown never cuts another one short; `Update` is what may.  It takes a category out of
the index when the entry the index points to is past its `CategoryEnd`, though another cooldown of the
category may still run, and again with every entry of this category that is past its own
`CooldownEnd`, which may be long before.

`mem_categoryCooldowns_update_iff` says exactly which categories an `Update` leaves in the index.
`KeepsCategories` asks that it takes out none that has a cooldown running, and with it
**`categoriesKept_of_reaches`** no cooldown of a category is cut short in any run.
`not_categoriesKept` is the shortest run in which one is.
-/

open Std (ExtTreeMap)

namespace Gundrak

namespace SpellHistory

variable {h h' : SpellHistory} {now : ℤ} {c : UInt32}

/-! ## What an update leaves in the index -/

/-- The loop over the entries takes out of the index the categories of the entries it erases. -/
theorem mem_categoryCooldowns_foldl (ks : List UInt32) (h : SpellHistory) :
    c ∈ (ks.foldl (eraseIfExpired now) h)._categoryCooldowns ↔ c ∈ h._categoryCooldowns ∧
        ∀ k ∈ ks, ∀ n, h._spellCooldowns[k]? = some n → n.entry.CategoryId = c → now ≤ n.entry.CooldownEnd := by
  induction ks generalizing h with
  | nil => exact ⟨fun hc ↦ ⟨hc, nofun⟩, And.left⟩
  | cons k ks ih =>
    rw [List.foldl_cons, ih, eraseIfExpired]
    cases hn : h._spellCooldowns[k]? with
    | none =>
      dsimp only
      refine and_congr_right fun _ ↦ ⟨fun hh a ha n han hc ↦ ?_, fun hh a ha ↦
        hh a (List.mem_cons_of_mem _ ha)⟩
      rcases List.mem_cons.mp ha with rfl | ha
      · simp [hn] at han
      · exact hh a ha n han hc
    | some n =>
      dsimp only
      by_cases hexp : n.entry.CooldownEnd < now
      · rw [if_pos hexp, eraseCooldown_of_get hn]
        dsimp only
        rw [ExtTreeMap.mem_erase]
        constructor
        · rintro ⟨⟨hne, hc⟩, hh⟩
          refine ⟨hc, fun a ha n' han hcat ↦ ?_⟩
          by_cases hak : k = a
          · subst hak
            rw [hn, Option.some_inj] at han
            subst han
            exact absurd (Std.LawfulEqCmp.compare_eq_iff_eq.mpr hcat) hne
          · refine hh a ?_ n' ?_ hcat
            · exact (List.mem_cons.mp ha).resolve_left fun e ↦ hak e.symm
            · rw [TreeMap.get_erase, if_neg hak, han]
        · rintro ⟨hc, hh⟩
          refine ⟨⟨fun he ↦ ?_, hc⟩, fun a ha n' han hcat ↦ ?_⟩
          · have := hh k List.mem_cons_self n hn (Std.LawfulEqCmp.compare_eq_iff_eq.mp he)
            omega
          · rw [TreeMap.get_erase, Option.ite_none_left_eq_some] at han
            exact hh a (List.mem_cons_of_mem _ ha) n' han.2 hcat
      · rw [if_neg hexp]
        refine and_congr_right fun _ ↦ ⟨fun hh a ha n' han hc ↦ ?_, fun hh a ha ↦
          hh a (List.mem_cons_of_mem _ ha)⟩
        rcases List.mem_cons.mp ha with rfl | ha
        · rw [hn, Option.some_inj] at han
          subst han
          omega
        · exact hh a ha n' han hc

/-- **What an update keeps.**  A category stays in the index if and only if it was there, the entry the
index points to is not past its `CategoryEnd`, and no entry of the category is past its
`CooldownEnd`. -/
theorem mem_categoryCooldowns_update_iff (hu : h.Update now = some h') : c ∈ h'._categoryCooldowns ↔
      (∃ p e, h._categoryCooldowns[c]? = some p ∧ h.deref p = some e ∧ now ≤ e.CategoryEnd) ∧
        ∀ (k : UInt32) (n : CooldownNode), h._spellCooldowns[k]? = some n →
          n.entry.CategoryId = c → now ≤ n.entry.CooldownEnd := by
  rw [Update, Option.ite_none_right_eq_some, Option.some_inj] at hu
  rw [← hu.2, eraseExpired, mem_categoryCooldowns_foldl]
  refine and_congr ?_ ?_
  · rw [TreeMap.mem_iff]
    simp only [ExtTreeMap.getElem?_filter', Option.filter_eq_some_iff]
    constructor
    · rintro ⟨p, hp, hany⟩
      obtain ⟨e, he, hend⟩ := (Option.any_eq_true _ _).mp hany
      rw [Bool.not_eq_true', decide_eq_false_iff_not, Int.not_lt] at hend
      exact ⟨p, e, hp, he, hend⟩
    · rintro ⟨p, e, hp, he, hend⟩
      refine ⟨p, hp, ?_⟩
      simpa [he] using hend
  · refine forall_congr' fun k ↦ ⟨fun hh n hn ↦ ?_, fun hh _ ↦ hh⟩
    exact hh (ExtTreeMap.mem_keys.mpr ((TreeMap.mem_iff _ _).mpr ⟨n, hn⟩)) n hn

theorem hasCooldown_of_mem {stores : SpellStores} {spellInfo : SpellInfo} {itemId : UInt32}
    (hcat : (GetCooldownDurations stores spellInfo itemId).categoryId = c) (hc : c ≠ 0)
    (hmem : c ∈ h._categoryCooldowns) : h.HasCooldown stores spellInfo itemId false = true := by
  rw [HasCooldown]
  by_cases hid : spellInfo.Id ∈ h._spellCooldowns
  · rw [if_pos hid]
  · simp [hid, hcat, hc, decide_eq_true hmem]

theorem mem_categoryCooldowns_addCooldown {spellId itemId categoryId : UInt32}
    {cooldownEnd categoryEnd : ℤ} {onHold : Bool}
    (hc : c ∈ h._categoryCooldowns ∨ categoryId = c ∧ c ≠ 0) :
    c ∈ (h.AddCooldown spellId itemId cooldownEnd categoryId categoryEnd onHold)._categoryCooldowns := by
  rw [TreeMap.mem_iff]
  by_cases hcat : categoryId ≠ 0 ∧ categoryId = c
  · exact ⟨_, by rw [categoryCooldowns_addCooldown, if_pos hcat]⟩
  · rw [categoryCooldowns_addCooldown, if_neg hcat]
    rcases hc with hc | ⟨rfl, hc⟩
    · exact (TreeMap.mem_iff _ _).mp hc
    · exact absurd ⟨hc, rfl⟩ hcat

end SpellHistory

/-! ## Runs -/

/-- The calls a history is driven by, without school locks and duels. -/
inductive CooldownCall where
  | StartCooldown (owner : CooldownOwner) (spellInfo : SpellInfo) (itemId : UInt32) (onHold : Bool)
  | AddCooldown (spellId itemId : UInt32) (cooldownEnd : ℤ) (categoryId : UInt32) (categoryEnd : ℤ)
    (onHold : Bool)
  | Update
  | ResetCooldown (spellId : UInt32)
  | ResetAllCooldowns

/-- A history, the time of its last call, and what it cannot say itself: the categories and ends of all
cooldowns that were added since the last reset. -/
structure CooldownWorld where
  history : SpellHistory := {}
  now : ℤ
  added : List (UInt32 × ℤ) := []

namespace CooldownWorld

open SpellHistory

variable (stores : SpellStores)

/-- Make a call at a time that is not before the last one. -/
def next (w : CooldownWorld) (c : ℤ × CooldownCall) : Option CooldownWorld :=
  if w.now ≤ c.1 then
    match c.2 with
    | .StartCooldown owner spellInfo itemId onHold =>
      some ⟨w.history.StartCooldown stores owner c.1 spellInfo itemId onHold, c.1,
        match cooldownTimes stores owner c.1 spellInfo itemId onHold with
        | some times => times.2 :: w.added
        | none => w.added⟩
    | .AddCooldown spellId itemId cooldownEnd categoryId categoryEnd onHold =>
      some ⟨w.history.AddCooldown spellId itemId cooldownEnd categoryId categoryEnd onHold, c.1,
        (categoryId, categoryEnd) :: w.added⟩
    | .Update => (w.history.Update c.1).map fun h ↦ ⟨h, c.1, w.added⟩
    | .ResetCooldown spellId => some ⟨w.history.ResetCooldown spellId, c.1, []⟩
    | .ResetAllCooldowns => some ⟨w.history.ResetAllCooldowns, c.1, []⟩
  else none

/-- As long as a cooldown that was added for a category runs, all spells of the category have one. -/
def CategoriesKept (w : CooldownWorld) : Prop :=
  ∀ c end_, (c, end_) ∈ w.added → c ≠ 0 → ∀ now, w.now ≤ now → now < end_ →
    ∀ spellInfo itemId, (GetCooldownDurations stores spellInfo itemId).categoryId = c →
      w.history.HasCooldown stores spellInfo itemId false = true

/-- An update finds every category with a running cooldown in a state in which it does not take it out
of the index. -/
def KeepsCategories (w : CooldownWorld) (c : ℤ × CooldownCall) : Prop :=
  match c.2 with
  | .Update => ∀ q ∈ w.added, q.1 ≠ 0 → c.1 < q.2 → (∀ p, w.history._categoryCooldowns[q.1]? = some p →
        ∀ e, w.history.deref p = some e → c.1 ≤ e.CategoryEnd) ∧
      ∀ (k : UInt32) (n : CooldownNode), w.history._spellCooldowns[k]? = some n →
        n.entry.CategoryId = q.1 → c.1 ≤ n.entry.CooldownEnd
  | _ => True

instance (w : CooldownWorld) : (c : ℤ × CooldownCall) → Decidable (w.KeepsCategories c)
  | (now, .Update) =>
    decidable_of_iff (∀ q ∈ w.added, q.1 ≠ 0 → now < q.2 →
        (∀ p ∈ w.history._categoryCooldowns[q.1]?, ∀ e ∈ w.history.deref p, now ≤ e.CategoryEnd) ∧
        ∀ r ∈ w.history._spellCooldowns.toList, r.2.entry.CategoryId = q.1 → now ≤ r.2.entry.CooldownEnd) <| by
      refine forall_congr' fun q ↦ forall_congr' fun _ ↦ forall_congr' fun _ ↦
        forall_congr' fun _ ↦ and_congr Iff.rfl ?_
      exact (TreeMap.forall_get_iff w.history._spellCooldowns fun _ n ↦
        n.entry.CategoryId = q.1 → now ≤ n.entry.CooldownEnd).symm
  | (_, .StartCooldown _ _ _ _) | (_, .AddCooldown _ _ _ _ _ _) | (_, .ResetCooldown _)
  | (_, .ResetAllCooldowns) => isTrue trivial

end CooldownWorld

/-- A new history and the calls that drive it, from the time `now` on. -/
def cooldownMachine (stores : SpellStores) (now : ℤ) : Machine CooldownWorld (ℤ × CooldownCall) where
  start := { now := now }
  next := CooldownWorld.next stores

namespace CooldownWorld

open SpellHistory

variable {stores : SpellStores} {now : ℤ} {w t : CooldownWorld} {c : ℤ × CooldownCall}

/-- The index has every category with a running cooldown. -/
def RunningIndexed (w : CooldownWorld) : Prop :=
  ∀ q ∈ w.added, q.1 ≠ 0 → w.now < q.2 → q.1 ∈ w.history._categoryCooldowns

theorem RunningIndexed.categoriesKept (hw : w.RunningIndexed) : w.CategoriesKept stores := by
  intro c end_ hmem hc now hnow hend spellInfo itemId hcat
  exact hasCooldown_of_mem hcat hc (hw _ hmem hc (by omega))

theorem RunningIndexed.addCooldown (hw : w.RunningIndexed) (hnow : w.now ≤ now)
    {spellId itemId categoryId : UInt32} {cooldownEnd categoryEnd : ℤ} {onHold : Bool} :
    RunningIndexed ⟨w.history.AddCooldown spellId itemId cooldownEnd categoryId categoryEnd onHold,
      now, (categoryId, categoryEnd) :: w.added⟩ := by
  intro q hq hc hend
  refine mem_categoryCooldowns_addCooldown ?_
  rcases List.mem_cons.mp hq with rfl | hq
  · exact .inr ⟨rfl, hc⟩
  · exact .inl (hw q hq hc (Int.lt_of_le_of_lt hnow hend))

theorem runningIndexed_next (hw : w.RunningIndexed) (hk : w.KeepsCategories c)
    (hn : w.next stores c = some t) : t.RunningIndexed := by
  obtain ⟨now, c⟩ := c
  rw [next, Option.ite_none_right_eq_some] at hn
  obtain ⟨hnow, hn⟩ := hn
  have hlater : RunningIndexed ⟨w.history, now, w.added⟩ := fun q hq hc hend ↦ hw q hq hc (Int.lt_of_le_of_lt hnow hend)
  cases c with
  | StartCooldown owner spellInfo itemId onHold =>
    rw [Option.some_inj] at hn
    rw [← hn, SpellHistory.StartCooldown]
    cases cooldownTimes stores owner now spellInfo itemId onHold with
    | some times => exact hw.addCooldown hnow
    | none => exact hlater
  | AddCooldown =>
    rw [Option.some_inj] at hn
    rw [← hn]
    exact hw.addCooldown hnow
  | Update =>
    rw [Option.map_eq_some_iff] at hn
    obtain ⟨h', hu, rfl⟩ := hn
    intro q hq hc hend
    have hdef := hu
    rw [Update, Option.ite_none_right_eq_some] at hdef
    obtain ⟨p, hp⟩ := (TreeMap.mem_iff _ _).mp (hlater q hq hc hend)
    -- the update is defined, so the pointer of the category can be followed
    obtain ⟨e, he⟩ := Option.isSome_iff_exists.mp
      (hdef.1 (q.1, p) (ExtTreeMap.mem_toList_iff_getElem?_eq_some.mpr hp))
    obtain ⟨hptr, hent⟩ := hk q hq hc hend
    exact (mem_categoryCooldowns_update_iff hu).mpr ⟨⟨p, e, hp, he, hptr p hp e he⟩, hent⟩
  | ResetCooldown =>
    rw [Option.some_inj] at hn
    rw [← hn]
    exact fun q hq ↦ absurd hq List.not_mem_nil
  | ResetAllCooldowns =>
    rw [Option.some_inj] at hn
    rw [← hn]
    exact fun q hq ↦ absurd hq List.not_mem_nil

/-- **No cooldown of a category is cut short** in a run whose updates all find every category with a
running cooldown pointed to by an entry that is not past its `CategoryEnd`, and without an entry that
is past its `CooldownEnd`. -/
theorem categoriesKept_of_reaches (h : (cooldownMachine stores now).Reaches KeepsCategories w) :
    w.CategoriesKept stores := by
  refine RunningIndexed.categoriesKept (h.invariant (P := RunningIndexed) ?_ ?_)
  · exact fun q hq ↦ absurd hq List.not_mem_nil
  · exact fun s a t hs ha hn ↦ runningIndexed_next hs ha hn

/-- Two cooldowns of one category, the second one added later and longer, and an update while both
run. -/
def overlappingRun : List (ℤ × CooldownCall) :=
  [(0, .AddCooldown 1 0 10 5 10 false), (3, .AddCooldown 2 0 20 5 20 false), (7, .Update)]

theorem categoriesKept_of_reaches_overlappingRun :
    ∃ w, (cooldownMachine HistoryWorld.sampleStores 0).Reaches KeepsCategories w ∧
      w.added = [(5, 20), (5, 10)] ∧ w.CategoriesKept HistoryWorld.sampleStores := by
  obtain ⟨w, hw, hadded⟩ := (cooldownMachine HistoryWorld.sampleStores 0).exists_reaches KeepsCategories
    overlappingRun
    (fun w ↦ w.added = [(5, 20), (5, 10)]) (by decide +kernel)
  exact ⟨w, hw, hadded, categoriesKept_of_reaches hw⟩

/-- A cooldown of ten with a category cooldown of a hundred, and an update in between. -/
def shortRun : List (ℤ × CooldownCall) := [(0, .AddCooldown 2 0 10 5 100 false), (11, .Update)]

/-- **A category cooldown that is cut short.**  When the cooldown of the spell itself is over, its
category is taken out of the index too, and another spell of the category is ready. -/
theorem not_categoriesKept :
    ¬ ∀ stores now w, (cooldownMachine stores now).Reachable w → w.CategoriesKept stores := by
  intro h
  obtain ⟨w, hw, hmem, hnow, hready⟩ := (cooldownMachine HistoryWorld.sampleStores 0).exists_reachable shortRun
    (fun w ↦ (5, 100) ∈ w.added ∧ w.now = 11 ∧
      w.history.HasCooldown HistoryWorld.sampleStores HistoryWorld.sampleSpell 0 false = false) (by decide +kernel)
  have hkept := h HistoryWorld.sampleStores 0 w hw 5 100 hmem
    (by decide) 11 (by omega) (by decide) HistoryWorld.sampleSpell 0 (by decide +kernel)
  simp [hready] at hkept

end CooldownWorld

end Gundrak
