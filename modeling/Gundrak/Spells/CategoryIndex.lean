import Gundrak.Spells.SpellHistory

/-!
# The index of the categories

`IndexSound` says that the index `_categoryCooldowns` of a history can be followed: what it has for a
category is a pointer to an entry that is there, and the entry is of this category.

The index is written when a cooldown with a category is added, and `EraseCooldown` takes out of it the
category the erased entry has at that moment.  So what breaks it is an entry that the index points to
and that is written over with another category: its old category goes on pointing to it, also after it
is erased.  `Replaceable` excludes this for one entry and one new category.  It is exact
(`addCooldown_indexSound_iff`), and with `KeepsIndex`, which asks for it wherever a call writes over an
entry, **`indexSound_of_reaches`** has the index sound in every state of every run.

As long as the index is sound no call follows a pointer to an entry that is gone
(`next_isSome_of_indexSound`).  `not_indexSound` is a run that breaks it: a school lock gives the
cooldown of a spell the category 0.
-/

open Std (ExtTreeMap)

namespace Gundrak

namespace SpellHistory

variable {h : SpellHistory} {k : UInt32} {e : CooldownEntry}

/-! ## Reading a history after a write -/

theorem deref_eq_some_iff {p : CooldownPtr} :
    h.deref p = some e ↔ h._spellCooldowns[p.SpellId]? = some ⟨p.node, e⟩ := by
  rw [deref, Option.bind_eq_some_iff]
  constructor
  · rintro ⟨⟨node, e'⟩, hn, hp⟩
    rw [Option.ite_none_right_eq_some, Option.some_inj] at hp
    obtain ⟨hnode, rfl⟩ := hp
    rw [hn, ← hnode]
  · intro hn
    exact ⟨_, hn, if_pos rfl⟩

theorem get_put (a : UInt32) : (h.put k e)._spellCooldowns[a]? =
      if k = a then some ⟨h.nodeAt k, e⟩ else h._spellCooldowns[a]? :=
  TreeMap.get_insert _ _ _ _

@[simp] theorem put_categoryCooldowns : (h.put k e)._categoryCooldowns = h._categoryCooldowns := rfl

theorem nodeAt_of_get {n : CooldownNode} (hn : h._spellCooldowns[k]? = some n) : h.nodeAt k = n.node := by
  rw [nodeAt, hn]

theorem eraseCooldown_of_get {n : CooldownNode} (hn : h._spellCooldowns[k]? = some n) : h.EraseCooldown k = { h with
        _categoryCooldowns := h._categoryCooldowns.erase n.entry.CategoryId
        _spellCooldowns := h._spellCooldowns.erase k } := by
  rw [EraseCooldown, hn]

section

variable {spellId itemId categoryId : UInt32} {cooldownEnd categoryEnd : ℤ} {onHold : Bool}

/-- The cooldown a call to `AddCooldown` leaves under the key of its spell. -/
theorem get_addCooldown (a : UInt32) :
    (h.AddCooldown spellId itemId cooldownEnd categoryId categoryEnd onHold)._spellCooldowns[a]? =
      if spellId = a then
        some ⟨h.nodeAt spellId, ⟨spellId, cooldownEnd, itemId, categoryId, categoryEnd, onHold⟩⟩
      else h._spellCooldowns[a]? := by
  rw [AddCooldown]
  split <;> exact get_put a

theorem categoryCooldowns_addCooldown (c : UInt32) :
    (h.AddCooldown spellId itemId cooldownEnd categoryId categoryEnd onHold)._categoryCooldowns[c]? =
      if categoryId ≠ 0 ∧ categoryId = c then some ⟨spellId, h.nodeAt spellId⟩
      else h._categoryCooldowns[c]? := by
  rw [AddCooldown]
  by_cases hc : categoryId ≠ 0
  · rw [if_pos hc]
    rw [TreeMap.get_insert, put_categoryCooldowns]
    by_cases hcc : categoryId = c
    · rw [if_pos hcc, if_pos ⟨hc, hcc⟩]
    · simp [hcc]
  · simp [hc, put_categoryCooldowns]

end

/-! ## Soundness of the index -/

variable (h) in
/-- What the index has for a category is a pointer to an entry of this category. -/
def IndexSound : Prop := ∀ c p, h._categoryCooldowns[c]? = some p → ∃ e, h.deref p = some e ∧ e.CategoryId = c

variable (h) in
/-- The entry of the spell `k` may get the category `c`: if the index points to it, it does so from
`c`. -/
def Replaceable (k c : UInt32) : Prop := ∀ n, h._spellCooldowns[k]? = some n →
    h._categoryCooldowns[n.entry.CategoryId]? = some ⟨k, n.node⟩ → n.entry.CategoryId = c

instance (k c : UInt32) : Decidable (h.Replaceable k c) := inferInstanceAs (Decidable (∀ n ∈ h._spellCooldowns[k]?, _))

theorem IndexSound.of_spellId (hs : h.IndexSound) {c : UInt32} {p : CooldownPtr}
    (hp : h._categoryCooldowns[c]? = some p) (hk : p.SpellId = k) :
    ∃ n, h._spellCooldowns[k]? = some n ∧ n.node = p.node ∧ n.entry.CategoryId = c := by
  obtain ⟨e, he, hc⟩ := hs c p hp
  rw [deref_eq_some_iff, hk] at he
  exact ⟨_, he, rfl, hc⟩

theorem put_indexSound (hs : h.IndexSound) (hr : h.Replaceable k e.CategoryId) : (h.put k e).IndexSound := by
  intro c p hp
  rw [put_categoryCooldowns] at hp
  by_cases hk : p.SpellId = k
  · obtain ⟨n, hn, hnode, hc⟩ := hs.of_spellId hp hk
    have hpn : p = ⟨k, n.node⟩ := by cases p; cases hk; cases hnode; rfl
    refine ⟨e, ?_, ?_⟩
    · rw [deref_eq_some_iff, get_put, if_pos hk.symm, nodeAt_of_get hn, hnode]
    · rw [← hr n hn (by rw [hc, hp, hpn]), hc]
  · obtain ⟨e', he', hc⟩ := hs c p hp
    refine ⟨e', ?_, hc⟩
    rw [deref_eq_some_iff] at he' ⊢
    rw [get_put, if_neg fun hh ↦ hk hh.symm]
    exact he'

section AddCooldown

variable {spellId itemId categoryId : UInt32} {cooldownEnd categoryEnd : ℤ} {onHold : Bool}

theorem addCooldown_indexSound (hs : h.IndexSound) (hr : h.Replaceable spellId categoryId) :
    (h.AddCooldown spellId itemId cooldownEnd categoryId categoryEnd onHold).IndexSound := by
  have hput := put_indexSound (k := spellId)
    (e := ⟨spellId, cooldownEnd, itemId, categoryId, categoryEnd, onHold⟩) hs hr
  intro c p hp
  rw [categoryCooldowns_addCooldown] at hp
  by_cases hc : categoryId ≠ 0 ∧ categoryId = c
  · rw [if_pos hc, Option.some_inj] at hp
    subst hp
    refine ⟨⟨spellId, cooldownEnd, itemId, categoryId, categoryEnd, onHold⟩, ?_, hc.2⟩
    simp [deref_eq_some_iff, get_addCooldown]
  · rw [if_neg hc] at hp
    obtain ⟨e, he, hec⟩ := hput c p hp
    refine ⟨e, ?_, hec⟩
    rw [deref_eq_some_iff] at he ⊢
    rw [get_addCooldown, ← he, get_put]

end AddCooldown

/-! ## What keeps the index sound -/

theorem eraseCooldown_indexSound (hs : h.IndexSound) : (h.EraseCooldown k).IndexSound := by
  cases hn : h._spellCooldowns[k]? with
  | none => rw [EraseCooldown, hn]; exact hs
  | some n =>
    rw [eraseCooldown_of_get hn]
    intro c p hp
    rw [TreeMap.get_erase, Option.ite_none_left_eq_some] at hp
    have hk : p.SpellId ≠ k := by
      intro hk
      obtain ⟨n', hn', _, hc⟩ := hs.of_spellId hp.2 hk
      rw [hn, Option.some_inj] at hn'
      subst hn'
      exact hp.1 hc
    obtain ⟨e, he, hc⟩ := hs c p hp.2
    refine ⟨e, ?_, hc⟩
    rw [deref_eq_some_iff] at he ⊢
    rw [TreeMap.get_erase, if_neg fun hh ↦ hk hh.symm]
    exact he

theorem eraseExpired_indexSound (hs : h.IndexSound) (now : ℤ) : (h.eraseExpired now).IndexSound := by
  rw [eraseExpired]
  generalize h._spellCooldowns.keys = ks
  induction ks generalizing h with
  | nil => exact hs
  | cons k ks ih =>
    rw [List.foldl_cons]
    apply ih
    rw [eraseIfExpired]
    split
    · split
      · exact eraseCooldown_indexSound hs
      · exact hs
    · exact hs

/-- An index that can be followed lets `Update` run to its end, and stays sound. -/
theorem update_indexSound (hs : h.IndexSound) (now : ℤ) : ∃ h', h.Update now = some h' ∧ h'.IndexSound := by
  have hall : ∀ q ∈ h._categoryCooldowns.toList, (h.deref q.2).isSome := by
    intro q hq
    obtain ⟨e, he, _⟩ := hs q.1 q.2 (ExtTreeMap.mem_toList_iff_getElem?_eq_some.mp hq)
    rw [he]
    rfl
  refine ⟨_, by rw [Update, if_pos hall], eraseExpired_indexSound ?_ now⟩
  intro c p hp
  rw [ExtTreeMap.getElem?_filter', Option.filter_eq_some_iff] at hp
  exact hs c p hp.1

theorem modifyCooldown_indexSound (hs : h.IndexSound) (now ms : ℤ) (k : UInt32) :
    (h.ModifyCooldown now k ms).IndexSound := by
  rw [ModifyCooldown]
  split
  · exact hs
  · rename_i n hn
    split
    · exact hs
    · split
      · refine put_indexSound hs fun n' hn' _ ↦ ?_
        rw [hn, Option.some_inj] at hn'
        subst hn'
        rfl
      · exact eraseCooldown_indexSound hs

theorem resetAllCooldowns_indexSound : h.ResetAllCooldowns.IndexSound := by
  intro c p hp
  rw [ResetAllCooldowns, ExtTreeMap.getElem?_empty] at hp
  cases hp

/-! ## The school lock -/

variable (h) in
/-- The lock writes over no entry the index points to, unless that has no category anyway. -/
def LockKeepsIndex (now : ℤ) (knownSpells : List SpellInfo) (schoolMask lockoutTime : UInt32) : Prop :=
  ∀ s ∈ knownSpells, lockable schoolMask s → ∀ n, h._spellCooldowns[s.Id]? = some n →
    remaining now n.entry.CooldownEnd < lockoutTime.toNat → h.Replaceable s.Id 0

instance (now : ℤ) (knownSpells : List SpellInfo) (schoolMask lockoutTime : UInt32) :
    Decidable (h.LockKeepsIndex now knownSpells schoolMask lockoutTime) :=
  inferInstanceAs (Decidable (∀ s ∈ knownSpells, _))

theorem IndexSound.getRemainingCooldown_isSome (hs : h.IndexSound) (now : ℤ) (s : SpellInfo) :
    ∃ left, h.GetRemainingCooldown now s = some left := by
  rw [GetRemainingCooldown]
  cases hn : h._spellCooldowns[s.Id]? with
  | some n => exact ⟨_, rfl⟩
  | none =>
    cases hp : h._categoryCooldowns[s.GetCategory]? with
    | none => exact ⟨_, rfl⟩
    | some p =>
      obtain ⟨e, he, _⟩ := hs _ _ hp
      exact ⟨_, by dsimp only; rw [he, Option.map_some]⟩

theorem getRemainingCooldown_of_get {now : ℤ} {s : SpellInfo} {n : CooldownNode}
    (hn : h._spellCooldowns[s.Id]? = some n) :
    h.GetRemainingCooldown now s = some (remaining now n.entry.CooldownEnd) := by
  rw [GetRemainingCooldown, hn]

/-- Locking one spell either does nothing or writes over its entry, with the category 0. -/
theorem lockSpell_eq (hs : h.IndexSound) (now : ℤ) (schoolMask lockoutTime : UInt32) (s : SpellInfo) :
    h.lockSpell now schoolMask lockoutTime s = some h ∨ lockable schoolMask s = true ∧
      (∀ n, h._spellCooldowns[s.Id]? = some n → remaining now n.entry.CooldownEnd < lockoutTime.toNat) ∧
      h.lockSpell now schoolMask lockoutTime s =
        some (h.AddCooldown s.Id 0 (now + milliseconds lockoutTime.toNat) 0 now false) := by
  rw [lockSpell]
  by_cases hl : lockable schoolMask s = true
  · obtain ⟨left, hleft⟩ := hs.getRemainingCooldown_isSome now s
    rw [if_pos hl, hleft, Option.map_some]
    by_cases hlt : left < lockoutTime.toNat
    · refine .inr ⟨hl, fun n hn ↦ ?_, by rw [if_pos hlt]⟩
      rw [getRemainingCooldown_of_get hn, Option.some_inj] at hleft
      omega
    · exact .inl (by rw [if_neg hlt])
  · exact .inl (if_neg hl)

theorem LockKeepsIndex.tail {now : ℤ} {s : SpellInfo} {spells : List SpellInfo} {schoolMask lockoutTime : UInt32}
    (hk : h.LockKeepsIndex now (s :: spells) schoolMask lockoutTime) :
    h.LockKeepsIndex now spells schoolMask lockoutTime :=
  fun s' hs' ↦ hk s' (List.mem_cons_of_mem _ hs')

theorem LockKeepsIndex.addCooldown {now end_ : ℤ} {k : UInt32} {spells : List SpellInfo}
    {schoolMask lockoutTime : UInt32} (hk : h.LockKeepsIndex now spells schoolMask lockoutTime) :
    (h.AddCooldown k 0 end_ 0 now false).LockKeepsIndex now spells schoolMask lockoutTime := by
  intro s hs hl n hn hlt n' hn' hp
  rw [get_addCooldown] at hn hn'
  rw [categoryCooldowns_addCooldown, if_neg fun hh ↦ hh.1 rfl] at hp
  by_cases hks : k = s.Id
  · rw [if_pos hks, Option.some_inj] at hn'
    rw [← hn']
  · rw [if_neg hks] at hn hn'
    exact hk s hs hl n hn hlt n' hn' hp

theorem lockSpellSchool_indexSound {now : ℤ} {spells : List SpellInfo}
    {schoolMask lockoutTime : UInt32} (hs : h.IndexSound)
    (hk : h.LockKeepsIndex now spells schoolMask lockoutTime) :
    ∃ h', h.LockSpellSchool now spells schoolMask lockoutTime = some h' ∧ h'.IndexSound := by
  -- the lockouts of the schools play no part in this
  have hloop : ∀ (spells : List SpellInfo) (h : SpellHistory), h.IndexSound →
      h.LockKeepsIndex now spells schoolMask lockoutTime →
      ∃ h', spells.foldlM (fun h s ↦ h.lockSpell now schoolMask lockoutTime s) h = some h' ∧ h'.IndexSound := by
    intro spells
    induction spells with
    | nil => exact fun h hs _ ↦ ⟨h, rfl, hs⟩
    | cons s spells ih =>
      intro h hs hk
      rw [List.foldlM_cons]
      rcases lockSpell_eq hs now schoolMask lockoutTime s with heq | ⟨hl, hlt, heq⟩
      · rw [heq]
        exact ih h hs hk.tail
      · rw [heq]
        refine ih _ (addCooldown_indexSound hs fun n hn ↦ ?_) hk.tail.addCooldown
        exact hk s List.mem_cons_self hl n hn (hlt n hn) n hn
  exact hloop spells _ hs hk

/-! ## After the duel -/

variable (h) in
/-- No entry the index points to is written over with a saved one of another category.  The cooldowns
of professions are saved as they are, so they do not count. -/
def RestoreKeepsIndex (stores : SpellStores) : Prop := ∀ k saved, h._spellCooldownsBeforeDuel[k]? = some saved →
    isProfessionCooldown (stores.spellInfo k) = false → saved.OnHold = false →
    ∀ n, h._spellCooldowns[k]? = some n → n.entry.OnHold = false → h.Replaceable k saved.CategoryId

instance (stores : SpellStores) : Decidable (h.RestoreKeepsIndex stores) :=
  decidable_of_iff (∀ q ∈ h._spellCooldownsBeforeDuel.toList,
      isProfessionCooldown (stores.spellInfo q.1) = false → q.2.OnHold = false →
      ∀ n ∈ h._spellCooldowns[q.1]?, n.entry.OnHold = false → h.Replaceable q.1 q.2.CategoryId)
    (TreeMap.forall_get_iff h._spellCooldownsBeforeDuel fun k saved ↦
      isProfessionCooldown (stores.spellInfo k) = false → saved.OnHold = false →
      ∀ n ∈ h._spellCooldowns[k]?, n.entry.OnHold = false → h.Replaceable k saved.CategoryId).symm

theorem get_withProfessionCooldowns (stores : SpellStores) (k : UInt32) : (h.withProfessionCooldowns stores)[k]? =
      if isProfessionCooldown (stores.spellInfo k) = true ∧ k ∈ h._spellCooldowns then
        (h._spellCooldowns[k]?).map (·.entry)
      else h._spellCooldownsBeforeDuel[k]? := by
  -- every key comes once, so what the loop writes under `k` is not written over later
  have hloop : ∀ (l : List (UInt32 × CooldownNode)) (m : ExtTreeMap UInt32 CooldownEntry compare),
      l.Pairwise (fun a b ↦ ¬ compare a.1 b.1 = .eq) →
      (l.foldl (fun before q ↦
        if isProfessionCooldown (stores.spellInfo q.1) then before.insert q.1 q.2.entry
        else before) m)[k]? =
        match l.find? fun q ↦ decide (q.1 = k) with
        | some q => if isProfessionCooldown (stores.spellInfo k) then some q.2.entry else m[k]?
        | none => m[k]? := by
    intro l
    induction l with
    | nil => exact fun m _ ↦ rfl
    | cons q l ih =>
      intro m hl
      rw [List.pairwise_cons] at hl
      rw [List.foldl_cons, ih _ hl.2, List.find?_cons]
      by_cases hq : q.1 = k
      · have hnone : (l.find? fun q ↦ decide (q.1 = k)) = none := by
          rw [List.find?_eq_none]
          intro q' hq' hk'
          refine hl.1 q' hq' ?_
          rw [Std.LawfulEqCmp.compare_eq_iff_eq, hq, of_decide_eq_true hk']
        rw [hnone, decide_eq_true hq]
        subst hq
        dsimp only
        split <;> simp
      · rw [decide_eq_false hq]
        have hm : (if isProfessionCooldown (stores.spellInfo q.1) = true then
            m.insert q.1 q.2.entry else m)[k]? = m[k]? := by
          split <;> simp [TreeMap.get_insert, hq]
        rw [hm]
  rw [withProfessionCooldowns, hloop _ _ ExtTreeMap.distinct_keys_toList]
  cases hn : h._spellCooldowns[k]? with
  | none =>
    have hnone : (h._spellCooldowns.toList.find? fun q ↦ decide (q.1 = k)) = none := by
      rw [List.find?_eq_none]
      intro q hq hk
      rw [ExtTreeMap.mem_toList_iff_getElem?_eq_some, of_decide_eq_true hk, hn] at hq
      cases hq
    rw [hnone, if_neg fun hh ↦ ?_]
    rw [TreeMap.mem_iff] at hh
    obtain ⟨_, v, hv⟩ := hh
    simp [hn] at hv
  | some n =>
    have hmem : k ∈ h._spellCooldowns := (TreeMap.mem_iff _ _).mpr ⟨n, hn⟩
    obtain ⟨q, hq⟩ : ∃ q, (h._spellCooldowns.toList.find? fun q ↦ decide (q.1 = k)) = some q := by
      rw [← Option.isSome_iff_exists, List.find?_isSome]
      exact ⟨(k, n), ExtTreeMap.mem_toList_iff_getElem?_eq_some.mpr hn, decide_eq_true rfl⟩
    have hqk : q.1 = k := by simpa using List.find?_some hq
    have hqn : h._spellCooldowns[q.1]? = some q.2 :=
      ExtTreeMap.mem_toList_iff_getElem?_eq_some.mp (List.mem_of_find?_eq_some hq)
    rw [hqk, hn, Option.some_inj] at hqn
    rw [hq, hqn]
    dsimp only
    by_cases hp : isProfessionCooldown (stores.spellInfo k) = true
    · rw [if_pos hp, if_pos ⟨hp, hmem⟩, Option.map_some]
    · simp [hp]

theorem restore_indexSound {saved : CooldownEntry} (hs : h.IndexSound)
    (hr : saved.OnHold = false → ∀ n, h._spellCooldowns[k]? = some n → n.entry.OnHold = false →
      h.Replaceable k saved.CategoryId) : (h.restore k saved).IndexSound := by
  rw [restore]
  split
  · exact hs
  · rename_i hhold
    rw [Bool.or_eq_true, not_or, Bool.not_eq_true, Bool.not_eq_true] at hhold
    refine put_indexSound hs fun n hn ↦ ?_
    rw [hn, Option.any_some] at hhold
    exact hr hhold.1 n hn hhold.2 n hn

theorem get_restore_of_ne {saved : CooldownEntry} {a : UInt32} (ha : k ≠ a) :
    (h.restore k saved)._spellCooldowns[a]? = h._spellCooldowns[a]? := by
  rw [restore]
  split <;> simp [get_put, ha]

theorem categoryCooldowns_restore {saved : CooldownEntry} :
    (h.restore k saved)._categoryCooldowns = h._categoryCooldowns := by
  rw [restore]
  split <;> simp

theorem restoreCooldownStateAfterDuel_indexSound {stores : SpellStores} (hs : h.IndexSound)
    (hr : h.RestoreKeepsIndex stores) (isPlayer : Bool) :
    (h.RestoreCooldownStateAfterDuel stores isPlayer).IndexSound := by
  have hloop : ∀ (l : List (UInt32 × CooldownEntry)) (h : SpellHistory),
      l.Pairwise (fun a b ↦ ¬ compare a.1 b.1 = .eq) → h.IndexSound →
      (∀ q ∈ l, q.2.OnHold = false → ∀ n, h._spellCooldowns[q.1]? = some n →
        n.entry.OnHold = false → h.Replaceable q.1 q.2.CategoryId) →
      (l.foldl (fun h q ↦ h.restore q.1 q.2) h).IndexSound := by
    intro l
    induction l with
    | nil => exact fun h _ hs _ ↦ hs
    | cons q l ih =>
      intro h hl hs hq
      rw [List.pairwise_cons] at hl
      rw [List.foldl_cons]
      refine ih _ hl.2 (restore_indexSound hs (hq q List.mem_cons_self)) fun q' hq' hold n hn ↦ ?_
      have hne : q.1 ≠ q'.1 := fun hh ↦ hl.1 q' hq' (by
        rw [Std.LawfulEqCmp.compare_eq_iff_eq]
        exact hh)
      rw [get_restore_of_ne hne] at hn
      intro hnold n' hn' hp
      rw [get_restore_of_ne hne] at hn'
      rw [categoryCooldowns_restore] at hp
      exact hq q' (List.mem_cons_of_mem _ hq') hold n hn hnold n' hn' hp
  rw [RestoreCooldownStateAfterDuel]
  split
  · refine hloop _ _ ExtTreeMap.distinct_keys_toList hs fun q hq hold n hn hnold ↦ ?_
    rw [ExtTreeMap.mem_toList_iff_getElem?_eq_some, get_withProfessionCooldowns] at hq
    by_cases hp : isProfessionCooldown (stores.spellInfo q.1) = true ∧ q.1 ∈ h._spellCooldowns
    · rw [if_pos hp, hn, Option.map_some, Option.some_inj] at hq
      intro n' hn' _
      rw [hn, Option.some_inj] at hn'
      rw [← hn', hq]
    · rw [if_neg hp] at hq
      have hprof : isProfessionCooldown (stores.spellInfo q.1) = false := by
        rw [Bool.eq_false_iff]
        exact fun hh ↦ hp ⟨hh, (TreeMap.mem_iff _ _).mpr ⟨n, hn⟩⟩
      exact hr _ _ hq hprof hold n hn hnold
  · exact hs

end SpellHistory

/-! ## Runs -/

/-- The calls a history is driven by. -/
inductive HistoryCall where
  | StartCooldown (owner : CooldownOwner) (spellInfo : SpellInfo) (itemId : UInt32) (onHold : Bool)
  | AddCooldown (spellId itemId : UInt32) (cooldownEnd : ℤ) (categoryId : UInt32) (categoryEnd : ℤ)
    (onHold : Bool)
  | LockSpellSchool (knownSpells : List SpellInfo) (schoolMask lockoutTime : UInt32)
  | ModifyCooldown (spellId : UInt32) (cooldownModMs : ℤ)
  | ResetCooldown (spellId : UInt32)
  | ResetAllCooldowns
  | Update
  | SaveCooldownStateBeforeDuel
  | RestoreCooldownStateAfterDuel (isPlayer : Bool)

/-- A history and the time of its last call. -/
structure HistoryWorld where
  history : SpellHistory := {}
  now : ℤ

namespace HistoryWorld

open SpellHistory

variable (stores : SpellStores)

/-- What a call made at the time `now` makes of a history. -/
def call (h : SpellHistory) (now : ℤ) : HistoryCall → Option SpellHistory
  | .StartCooldown owner spellInfo itemId onHold =>
    some (h.StartCooldown stores owner now spellInfo itemId onHold)
  | .AddCooldown spellId itemId cooldownEnd categoryId categoryEnd onHold =>
    some (h.AddCooldown spellId itemId cooldownEnd categoryId categoryEnd onHold)
  | .LockSpellSchool knownSpells schoolMask lockoutTime =>
    h.LockSpellSchool now knownSpells schoolMask lockoutTime
  | .ModifyCooldown spellId cooldownModMs => some (h.ModifyCooldown now spellId cooldownModMs)
  | .ResetCooldown spellId => some (h.ResetCooldown spellId)
  | .ResetAllCooldowns => some h.ResetAllCooldowns
  | .Update => h.Update now
  | .SaveCooldownStateBeforeDuel => some h.SaveCooldownStateBeforeDuel
  | .RestoreCooldownStateAfterDuel isPlayer =>
    some (h.RestoreCooldownStateAfterDuel stores isPlayer)

/-- Make a call at a time that is not before the last one. -/
def next (w : HistoryWorld) (c : ℤ × HistoryCall) : Option HistoryWorld :=
  if w.now ≤ c.1 then (call stores w.history c.1 c.2).map (⟨·, c.1⟩) else none

/-- The call writes over no entry the index points to with another category. -/
def KeepsIndex (w : HistoryWorld) (c : ℤ × HistoryCall) : Prop :=
  match c.2 with
  | .StartCooldown owner spellInfo itemId onHold =>
    ∀ times, cooldownTimes stores owner c.1 spellInfo itemId onHold = some times →
      w.history.Replaceable spellInfo.Id times.2.1
  | .AddCooldown spellId _ _ categoryId _ _ => w.history.Replaceable spellId categoryId
  | .LockSpellSchool knownSpells schoolMask lockoutTime =>
    w.history.LockKeepsIndex c.1 knownSpells schoolMask lockoutTime
  | .RestoreCooldownStateAfterDuel isPlayer =>
    isPlayer = true → w.history.RestoreKeepsIndex stores
  | _ => True

instance (w : HistoryWorld) : (c : ℤ × HistoryCall) → Decidable (w.KeepsIndex stores c)
  | (now, .StartCooldown owner spellInfo itemId onHold) =>
    inferInstanceAs (Decidable (∀ times ∈ cooldownTimes stores owner now spellInfo itemId onHold, _))
  | (_, .AddCooldown spellId _ _ categoryId _ _) =>
    inferInstanceAs (Decidable (w.history.Replaceable spellId categoryId))
  | (now, .LockSpellSchool knownSpells schoolMask lockoutTime) =>
    inferInstanceAs (Decidable (w.history.LockKeepsIndex now knownSpells schoolMask lockoutTime))
  | (_, .RestoreCooldownStateAfterDuel isPlayer) => inferInstanceAs (Decidable (_ → _))
  | (_, .ModifyCooldown _ _) | (_, .ResetCooldown _) | (_, .ResetAllCooldowns) | (_, .Update)
  | (_, .SaveCooldownStateBeforeDuel) => isTrue trivial

end HistoryWorld

/-- A new history and the calls that drive it, from the time `now` on. -/
def historyMachine (stores : SpellStores) (now : ℤ) : Machine HistoryWorld (ℤ × HistoryCall) where
  start := { now := now }
  next := HistoryWorld.next stores

namespace HistoryWorld

open SpellHistory

variable {stores : SpellStores} {now : ℤ} {w t : HistoryWorld} {c : ℤ × HistoryCall}

/-- One call with `KeepsIndex`: it is defined, and the index stays sound. -/
theorem call_indexSound (hs : w.history.IndexSound) (hk : w.KeepsIndex stores c) :
    ∃ h', call stores w.history c.1 c.2 = some h' ∧ h'.IndexSound := by
  obtain ⟨now, c⟩ := c
  cases c with
  | StartCooldown owner spellInfo itemId onHold =>
    refine ⟨_, rfl, ?_⟩
    rw [SpellHistory.StartCooldown]
    split
    · rename_i recTime categoryId catrecTime htimes
      exact addCooldown_indexSound hs (hk _ htimes)
    · exact hs
  | AddCooldown => exact ⟨_, rfl, addCooldown_indexSound hs hk⟩
  | LockSpellSchool => exact lockSpellSchool_indexSound hs hk
  | ModifyCooldown => exact ⟨_, rfl, modifyCooldown_indexSound hs _ _ _⟩
  | ResetCooldown => exact ⟨_, rfl, eraseCooldown_indexSound hs⟩
  | ResetAllCooldowns => exact ⟨_, rfl, resetAllCooldowns_indexSound⟩
  | Update => exact update_indexSound hs now
  | SaveCooldownStateBeforeDuel => exact ⟨_, rfl, hs⟩
  | RestoreCooldownStateAfterDuel isPlayer =>
    refine ⟨_, rfl, ?_⟩
    cases isPlayer with
    | true => exact restoreCooldownStateAfterDuel_indexSound hs (hk rfl) true
    | false => rw [SpellHistory.RestoreCooldownStateAfterDuel]; exact hs

/-- **The index of the categories.**  As long as no call writes over an entry the index points to with
another category, everything in the index points to an entry that is there and has its category. -/
theorem indexSound_of_reaches
    (h : (historyMachine stores now).Reaches (KeepsIndex stores) w) : w.history.IndexSound := by
  refine h.invariant (P := fun w ↦ w.history.IndexSound) ?_ ?_
  · intro c p hp
    rw [show (historyMachine stores now).start.history._categoryCooldowns = ∅ from rfl,
      ExtTreeMap.getElem?_empty] at hp
    cases hp
  · intro s a t hs hk hn
    obtain ⟨h', hcall, hsound⟩ := call_indexSound hs hk
    rw [show (historyMachine stores now).next s a = s.next stores a from rfl, next] at hn
    split at hn
    · rw [hcall, Option.map_some, Option.some_inj] at hn
      rw [← hn]
      exact hsound
    · cases hn

/-- A spell of the category 5 that silence prevents, of the school 2. -/
def sampleSpell : SpellInfo := ⟨1, some ⟨5, false⟩, 0, 30000, false, false, false, true, 2⟩

/-- No item brings spells, and every spell is the sample spell. -/
def sampleStores : SpellStores := ⟨fun _ ↦ none, fun _ ↦ sampleSpell⟩

/-- Two spells of the category 5 are cast, a school is locked that the first one is of for no longer
than its cooldown lasts, a duel ends, and the first cooldown runs out. -/
def keptRun : List (ℤ × HistoryCall) := [(0, .AddCooldown 1 0 3000000000 5 3000000000 false),
    (0, .AddCooldown 2 0 9000000000 5 9000000000 false), (0, .SaveCooldownStateBeforeDuel),
    (1000000000, .LockSpellSchool [sampleSpell] 2 2000),
    (1000000000, .RestoreCooldownStateAfterDuel true), (4000000000, .Update)]

theorem indexSound_of_reaches_keptRun :
    ∃ w, (historyMachine sampleStores 0).Reaches (KeepsIndex sampleStores) w ∧
      w.now = 4000000000 ∧ w.history.IndexSound := by
  obtain ⟨w, hw, hnow⟩ := (historyMachine sampleStores 0).exists_reaches (KeepsIndex sampleStores) keptRun
    (fun w ↦ w.now = 4000000000) (by decide +kernel)
  exact ⟨w, hw, hnow, indexSound_of_reaches hw⟩

/-- A cooldown of the category 5, then a lock of the school for a longer time. -/
def lockedRun : List (ℤ × HistoryCall) :=
  [(0, .AddCooldown 1 0 1000000000 5 1000000000 false), (0, .LockSpellSchool [sampleSpell] 2 2000)]

/-- **A school lock breaks the index.**  It gives the cooldown the category 0, and the index still
has it under 5. -/
theorem not_indexSound :
    ¬ ∀ stores now w, (historyMachine stores now).Reachable w → w.history.IndexSound := by
  intro h
  obtain ⟨w, hw, hp, he⟩ := (historyMachine sampleStores 0).exists_reachable lockedRun
    (fun w ↦ w.history._categoryCooldowns[(5 : UInt32)]? = some ⟨1, 0⟩ ∧
      (w.history.deref ⟨1, 0⟩).any (fun e ↦ e.CategoryId = 0)) (by decide +kernel)
  obtain ⟨e, hd, hc⟩ := h sampleStores 0 w hw 5 ⟨1, 0⟩ hp
  simp [hd, hc] at he

end HistoryWorld

end Gundrak
