import Gundrak.Combat.ThreatManager

/-!
# The bookkeeping of hostile references

Every reference a threat manager has created and not deleted is in exactly one of its two lists, in
the online one exactly when its own flag says so; no two references are about the same unit; and
the current victim is one of the online references.  `ThreatManager.Consistent` says the first two
and `ThreatManager.VictimOnline` the last.

A reference only changes list by changing its flag first and then firing an event, so the two facts
are broken between the two.  `setOnlineOfflineState_true` and `setOnlineOfflineState_false` say
what the whole of it comes to (`bringOnline`, `takeOffline`), and everything else is a composition
of these two with changes that no list depends on.
-/

open Std (ExtTreeMap)

namespace Gundrak

namespace ThreatManager

variable {m m' : ThreatManager} {w : ThreatWorld} {r s : RefId} {h k : HostileReference}
variable {b : Bool} {u : ObjectGuid}

/-! ## Reading the heap after a write -/

@[simp]
theorem modifyRef_refs (m : ThreatManager) (r s : RefId) (f : HostileReference → HostileReference) :
    (m.modifyRef r f).refs[s]? = if r = s then (m.refs[r]?).map f else m.refs[s]? := by
  simp [modifyRef, ExtTreeMap.getElem?_modify]

theorem modifyRef_fixed {f : HostileReference → HostileReference}
    (hf : ∀ k, m.refs[r]? = some k → f k = k) : m.modifyRef r f = m := by
  have hrefs : m.refs.modify r f = m.refs := by
    refine ExtTreeMap.ext_getElem? fun s ↦ ?_
    rw [ExtTreeMap.getElem?_modify]
    split
    · next hrs =>
      rw [compare_eq_iff_eq] at hrs
      subst hrs
      cases hr : m.refs[r]? with
      | none => rfl
      | some k => rw [Option.map_some, hf k hr]
    · rfl
  rw [modifyRef, hrefs]

theorem modifyRef_modifyRef (m : ThreatManager) (r : RefId) (f g : HostileReference → HostileReference) :
    (m.modifyRef r f).modifyRef r g = m.modifyRef r (g ∘ f) := by
  simp only [modifyRef, ThreatManager.mk.injEq, true_and, and_true]
  refine ExtTreeMap.ext_getElem? fun s ↦ ?_
  by_cases hrs : r = s
  · subst hrs
    simp
  · simp [ExtTreeMap.getElem?_modify, hrs]

/-- The flag of a live reference. -/
def flagOf (m : ThreatManager) (r : RefId) : Option Bool := (m.refs[r]?).map (·.iOnline)

/-- The unit of a live reference. -/
def unitOf (m : ThreatManager) (r : RefId) : Option ObjectGuid := (m.refs[r]?).map (·.iUnitGuid)

section

variable (m : ThreatManager) (r : RefId)

theorem flagOf_isSome : (m.flagOf r).isSome ↔ r ∈ m.refs := by
  rw [flagOf, Option.isSome_map, ExtTreeMap.mem_iff_isSome_getElem?]

theorem mem_refs_iff : r ∈ m.refs ↔ ∃ b, m.flagOf r = some b := by
  rw [← flagOf_isSome, Option.isSome_iff_exists]

theorem isOnline_eq : m.isOnline r = (m.flagOf r).getD false := by
  rw [isOnline, flagOf]
  cases m.refs[r]? <;> rfl

end

theorem flagOf_of_isOnline (h : m.isOnline r = true) : m.flagOf r = some true := by
  rw [isOnline_eq] at h
  cases hf : m.flagOf r with
  | none => simp [hf] at h
  | some c => rw [hf, Option.getD_some] at h; rw [h]

theorem unitGuid_eq (h : m.unitOf r = some u) : m.unitGuid r = u := by
  rw [unitOf, Option.map_eq_some_iff] at h
  obtain ⟨k, hk, rfl⟩ := h
  simp [unitGuid, hk]

section

variable (m : ThreatManager) (r s : RefId) (f : HostileReference → HostileReference)

theorem flagOf_modifyRef (hf : ∀ h, (f h).iOnline = h.iOnline) : (m.modifyRef r f).flagOf s = m.flagOf s := by
  rw [flagOf, flagOf, modifyRef_refs]
  split
  · next hrs => subst hrs; simp [Function.comp_def, hf]
  · rfl

theorem unitOf_modifyRef (hf : ∀ h, (f h).iUnitGuid = h.iUnitGuid) : (m.modifyRef r f).unitOf s = m.unitOf s := by
  rw [unitOf, unitOf, modifyRef_refs]
  split
  · next hrs => subst hrs; simp [Function.comp_def, hf]
  · rfl

/-- Writes that leave the two threat fields alone do not change what a pointer's threat is. -/
theorem getThreat_modifyRef (hf : ∀ h, (f h).getThreat = h.getThreat) :
    (m.modifyRef r f).getThreat s = m.getThreat s := by
  rw [getThreat, getThreat, modifyRef_refs]
  split
  · next hrs => subst hrs; cases m.refs[r]? <;> simp [hf]
  · rfl

end

/-! ## The invariant -/

/-- Each live reference is in the list its flag names, once, and its unit is its own. -/
structure Consistent (m : ThreatManager) : Prop where
  /-- The online list holds the live references that are online. -/
  online : ∀ r, r ∈ m.iThreatContainer.iThreatList ↔ m.flagOf r = some true
  /-- The offline list holds the live references that are not. -/
  offline : ∀ r, r ∈ m.iThreatOfflineContainer.iThreatList ↔ m.flagOf r = some false
  online_nodup : m.iThreatContainer.iThreatList.Nodup
  offline_nodup : m.iThreatOfflineContainer.iThreatList.Nodup
  /-- No two references are about the same unit. -/
  unit_inj : ∀ r s u, m.unitOf r = some u → m.unitOf s = some u → r = s
  /-- Addresses are not used twice. -/
  lt_next : ∀ r u, m.unitOf r = some u → r < m.nextRef

/-- The current victim is null or online. -/
def VictimOnline (m : ThreatManager) : Prop := ∀ v, m.iCurrentVictim = some v → v ∈ m.iThreatContainer.iThreatList

theorem Consistent.new (owner : ObjectGuid) : (ThreatManager.new owner).Consistent := by
  constructor <;> simp [ThreatManager.new, flagOf, unitOf]

theorem Consistent.congr (hm : m.Consistent) (hflag : ∀ r, m'.flagOf r = m.flagOf r)
    (hunit : ∀ r, m'.unitOf r = m.unitOf r) (hnext : m'.nextRef = m.nextRef)
    (hon : ∀ r, r ∈ m'.iThreatContainer.iThreatList ↔ r ∈ m.iThreatContainer.iThreatList)
    (hnd : m'.iThreatContainer.iThreatList.Nodup)
    (hoff : m'.iThreatOfflineContainer.iThreatList = m.iThreatOfflineContainer.iThreatList) :
    m'.Consistent where
  online r := by rw [hon, hflag, hm.online]
  offline r := by rw [hoff, hflag, hm.offline]
  online_nodup := hnd
  offline_nodup := hoff ▸ hm.offline_nodup
  unit_inj r s u hr hs := hm.unit_inj r s u (hunit r ▸ hr) (hunit s ▸ hs)
  lt_next r u hr := hnext ▸ hm.lt_next r u (hunit r ▸ hr)

theorem Consistent.modifyRef (hm : m.Consistent) (r : RefId)
    {f : HostileReference → HostileReference} (hflag : ∀ h, (f h).iOnline = h.iOnline)
    (hunit : ∀ h, (f h).iUnitGuid = h.iUnitGuid) : (m.modifyRef r f).Consistent :=
  hm.congr (fun s ↦ flagOf_modifyRef m r s f hflag) (fun s ↦ unitOf_modifyRef m r s f hunit) rfl
    (fun _ ↦ Iff.rfl) hm.online_nodup rfl

/-! ## Changing list -/

/-- The reference `r` is so far above the current victim that its arrival dirties the list. -/
def outweighsVictim (m : ThreatManager) (r : RefId) : Bool :=
  m.iCurrentVictim.any fun v ↦ decide (11 / 10 * m.getThreat v < m.getThreat r)

/-- What bringing the offline reference `r` online comes to. -/
def bringOnline (m : ThreatManager) (r : RefId) : ThreatManager :=
  { m with
    refs := m.refs.modify r fun h ↦ { h with iOnline := true }
    iThreatContainer := ⟨m.iThreatContainer.iThreatList ++ [r], m.iThreatContainer.iDirty || m.outweighsVictim r⟩
    iThreatOfflineContainer := m.iThreatOfflineContainer.remove r }

/-- What taking the online reference `r` offline comes to. -/
def takeOffline (m : ThreatManager) (r : RefId) : ThreatManager :=
  { m with
    refs := m.refs.modify r fun h ↦ { h with iOnline := false, iAccessible := false }
    iCurrentVictim := if m.iCurrentVictim = some r then none else m.iCurrentVictim
    iThreatContainer := ⟨m.iThreatContainer.iThreatList.filter (· ≠ r),
        m.iThreatContainer.iDirty || decide (m.iCurrentVictim = some r)⟩
    iThreatOfflineContainer := m.iThreatOfflineContainer.addReference r }

theorem dropVictim_eq (m : ThreatManager) (r : RefId) : m.dropVictim r = { m with
      iCurrentVictim := if m.iCurrentVictim = some r then none else m.iCurrentVictim
      iThreatContainer := { m.iThreatContainer with
        iDirty := m.iThreatContainer.iDirty || decide (m.iCurrentVictim = some r) } } := by
  rw [dropVictim]
  split
  · next h => simp [h, setCurrentVictim, setDirty]
  · next h => simp [h]

/-- Closing the access of a reference leaves everything but its own access alone. -/
theorem setAccessibleState_eq (m : ThreatManager) (r : RefId) :
    HostileReference.setAccessibleState m r b = m.modifyRef r fun h ↦ { h with iAccessible := b } := by
  rw [HostileReference.setAccessibleState]
  split
  · rfl
  · next hacc =>
    refine (modifyRef_fixed fun k hk ↦ ?_).symm
    have hacc' : k.iAccessible = b := by simpa [hk] using hacc
    rw [← hacc']

theorem setOnlineOfflineState_same (h : m.flagOf r = some b) : HostileReference.setOnlineOfflineState m r b = m := by
  simp [HostileReference.setOnlineOfflineState, isOnline_eq, h]

theorem setOnlineOfflineState_true (h : m.flagOf r = some false) :
    HostileReference.setOnlineOfflineState m r true = m.bringOnline r := by
  have hon : (m.modifyRef r fun h ↦ { h with iOnline := true }).isOnline r = true := by
    rw [flagOf, Option.map_eq_some_iff] at h
    obtain ⟨k, hk, -⟩ := h
    simp [isOnline, hk]
  have hthreat : ∀ s, (m.modifyRef r fun h ↦ { h with iOnline := true }).getThreat s =
      m.getThreat s := fun s ↦ getThreat_modifyRef m r s _ fun _ ↦ rfl
  rw [HostileReference.setOnlineOfflineState, if_pos (by simp [isOnline_eq, h])]
  simp only [processThreatEvent, hon, hthreat, Bool.true_eq_false, if_false]
  cases hv : m.iCurrentVictim with
  | none => simp [modifyRef, hv, bringOnline, outweighsVictim, ThreatContainer.addReference]
  | some v =>
    simp only [modifyRef, hv, bringOnline, outweighsVictim, ThreatContainer.addReference, Option.any_some]
    split
    · next hlt => simp [hlt, setDirty]
    · next hlt => simp [hlt]

theorem setOnlineOfflineState_false (h : m.flagOf r = some true) :
    HostileReference.setOnlineOfflineState m r false = m.takeOffline r := by
  have hoff : (m.modifyRef r fun h ↦ { h with iOnline := false, iAccessible := false }).isOnline r = false := by
    cases hr : m.refs[r]? <;> simp [isOnline, hr]
  rw [HostileReference.setOnlineOfflineState, if_pos (by simp [isOnline_eq, h])]
  simp only [if_true, setAccessibleState_eq, modifyRef_modifyRef, Function.comp_def,
    processThreatEvent, hoff, dropVictim_eq]
  rfl

theorem flagOf_bringOnline (h : m.flagOf r = some false) (s : RefId) :
    (m.bringOnline r).flagOf s = if r = s then some true else m.flagOf s := by
  show (m.modifyRef r fun h ↦ { h with iOnline := true }).flagOf s = _
  rw [flagOf, modifyRef_refs]
  rw [flagOf, Option.map_eq_some_iff] at h
  obtain ⟨k, hk, -⟩ := h
  split
  · simp [hk]
  · rfl

theorem flagOf_takeOffline (h : m.flagOf r = some true) (s : RefId) :
    (m.takeOffline r).flagOf s = if r = s then some false else m.flagOf s := by
  show (m.modifyRef r fun h ↦ { h with iOnline := false, iAccessible := false }).flagOf s = _
  rw [flagOf, modifyRef_refs]
  rw [flagOf, Option.map_eq_some_iff] at h
  obtain ⟨k, hk, -⟩ := h
  split
  · simp [hk]
  · rfl

theorem unitOf_bringOnline (m : ThreatManager) (r s : RefId) : (m.bringOnline r).unitOf s = m.unitOf s :=
  unitOf_modifyRef m r s (fun h ↦ { h with iOnline := true }) fun _ ↦ rfl

theorem unitOf_takeOffline (m : ThreatManager) (r s : RefId) : (m.takeOffline r).unitOf s = m.unitOf s :=
  unitOf_modifyRef m r s (fun h ↦ { h with iOnline := false, iAccessible := false }) fun _ ↦ rfl

theorem nodup_append_singleton {l : List RefId} (hl : l.Nodup) (hr : r ∉ l) : (l ++ [r]).Nodup :=
  List.nodup_append.mpr ⟨hl, List.nodup_singleton r, fun a ha b hb hab ↦
    hr (by rw [List.mem_singleton] at hb; exact hb ▸ hab ▸ ha)⟩

theorem Consistent.bringOnline (hm : m.Consistent) (h : m.flagOf r = some false) : (m.bringOnline r).Consistent where
  online s := by
    show s ∈ m.iThreatContainer.iThreatList ++ [r] ↔ _
    rw [flagOf_bringOnline h, List.mem_append, List.mem_singleton, hm.online]
    by_cases hrs : r = s
    · simp [hrs]
    · simp [hrs, Ne.symm hrs]
  offline s := by
    show s ∈ m.iThreatOfflineContainer.iThreatList.filter (· ≠ r) ↔ _
    rw [flagOf_bringOnline h, List.mem_filter, hm.offline]
    by_cases hrs : r = s
    · simp [hrs]
    · simp [hrs, Ne.symm hrs]
  online_nodup := nodup_append_singleton hm.online_nodup (by simp [hm.online, h])
  offline_nodup := hm.offline_nodup.filter _
  unit_inj := by simpa only [unitOf_bringOnline] using hm.unit_inj
  lt_next s u hs := hm.lt_next s u (by rwa [unitOf_bringOnline] at hs)

theorem Consistent.takeOffline (hm : m.Consistent) (h : m.flagOf r = some true) : (m.takeOffline r).Consistent where
  online s := by
    show s ∈ m.iThreatContainer.iThreatList.filter (· ≠ r) ↔ _
    rw [flagOf_takeOffline h, List.mem_filter, hm.online]
    by_cases hrs : r = s
    · simp [hrs]
    · simp [hrs, Ne.symm hrs]
  offline s := by
    show s ∈ m.iThreatOfflineContainer.iThreatList ++ [r] ↔ _
    rw [flagOf_takeOffline h, List.mem_append, List.mem_singleton, hm.offline]
    by_cases hrs : r = s
    · simp [hrs]
    · simp [hrs, Ne.symm hrs]
  online_nodup := hm.online_nodup.filter _
  offline_nodup := nodup_append_singleton hm.offline_nodup (by simp [hm.offline, h])
  unit_inj := by simpa only [unitOf_takeOffline] using hm.unit_inj
  lt_next s u hs := hm.lt_next s u (by rwa [unitOf_takeOffline] at hs)

theorem VictimOnline.bringOnline (hv : m.VictimOnline) : (m.bringOnline r).VictimOnline :=
  fun v h ↦ List.mem_append_left _ (hv v h)

theorem VictimOnline.takeOffline (hv : m.VictimOnline) : (m.takeOffline r).VictimOnline := by
  intro v h
  change (if m.iCurrentVictim = some r then none else m.iCurrentVictim) = some v at h
  split at h
  · exact absurd h (by simp)
  · next hr =>
    refine List.mem_filter.mpr ⟨hv v h, ?_⟩
    have hvr : v ≠ r := by rintro rfl; exact hr h
    simpa using hvr

/-! ## The functions of a reference -/

/-- `setOnlineOfflineState` is one of the three things it can come to. -/
theorem setOnlineOfflineState_cases (hr : r ∈ m.refs) (b : Bool) :
    (m.flagOf r = some b ∧ HostileReference.setOnlineOfflineState m r b = m) ∨
    (m.flagOf r = some false ∧ HostileReference.setOnlineOfflineState m r b = m.bringOnline r) ∨
    (m.flagOf r = some true ∧ HostileReference.setOnlineOfflineState m r b = m.takeOffline r) := by
  obtain ⟨c, hc⟩ := (mem_refs_iff m r).mp hr
  by_cases hcb : c = b
  · exact .inl ⟨hcb ▸ hc, setOnlineOfflineState_same (hcb ▸ hc)⟩
  · cases c <;> cases b <;> simp only [not_true, reduceCtorEq] at hcb
    · exact .inr (.inl ⟨hc, setOnlineOfflineState_true hc⟩)
    · exact .inr (.inr ⟨hc, setOnlineOfflineState_false hc⟩)

theorem Consistent.setOnlineOfflineState (hm : m.Consistent) (hr : r ∈ m.refs) (b : Bool) :
    (HostileReference.setOnlineOfflineState m r b).Consistent := by
  rcases setOnlineOfflineState_cases hr b with ⟨-, h⟩ | ⟨hf, h⟩ | ⟨hf, h⟩
  · rw [h]; exact hm
  · rw [h]; exact hm.bringOnline hf
  · rw [h]; exact hm.takeOffline hf

theorem VictimOnline.setOnlineOfflineState (hv : m.VictimOnline) (hr : r ∈ m.refs) (b : Bool) :
    (HostileReference.setOnlineOfflineState m r b).VictimOnline := by
  rcases setOnlineOfflineState_cases hr b with ⟨-, h⟩ | ⟨-, h⟩ | ⟨-, h⟩
  · rw [h]; exact hv
  · rw [h]; exact hv.bringOnline
  · rw [h]; exact hv.takeOffline

theorem mem_modifyRef (m : ThreatManager) (r s : RefId)
    (f : HostileReference → HostileReference) : s ∈ (m.modifyRef r f).refs ↔ s ∈ m.refs := by
  simp only [ExtTreeMap.mem_iff_isSome_getElem?, modifyRef_refs]
  split
  · next h => rw [Option.isSome_map, h]
  · rfl

/-- `updateOnlineStatus` finds that the reference is online. -/
def foundOnline (w : ThreatWorld) (m : ThreatManager) (r : RefId) : Bool :=
  (HostileReference.onlineStatus w (m.unitGuid r)
    ((m.refs[r]?).elim false fun h ↦ h.isValid || w.getUnit h.iUnitGuid)).1

/-- `updateOnlineStatus` writes to its reference's link and access, and sets its flag to what it
finds. -/
theorem updateOnlineStatus_eq (w : ThreatWorld) (m : ThreatManager) (r : RefId) :
    ∃ f : HostileReference → HostileReference, (∀ h, (f h).iOnline = h.iOnline) ∧
      (∀ h, (f h).iUnitGuid = h.iUnitGuid) ∧ (∀ h, (f h).getThreat = h.getThreat) ∧
      HostileReference.updateOnlineStatus w m r =
        HostileReference.setOnlineOfflineState (m.modifyRef r f) r (m.foundOnline w r) := by
  have hfound : (HostileReference.onlineStatus w
      ((m.modifyRef r fun h ↦ { h with isValid := h.isValid || w.getUnit h.iUnitGuid }).unitGuid r)
      (((m.modifyRef r fun h ↦
        { h with isValid := h.isValid || w.getUnit h.iUnitGuid }).refs[r]?).elim false
          (·.isValid))).1 = m.foundOnline w r := by
    rw [foundOnline, unitGuid, unitGuid, modifyRef_refs, if_pos rfl]
    cases m.refs[r]? <;> rfl
  simp only [HostileReference.updateOnlineStatus, setAccessibleState_eq, hfound, modifyRef_modifyRef]
  refine ⟨_, ?_, ?_, ?_, rfl⟩ <;> exact fun _ ↦ rfl

theorem Consistent.updateOnlineStatus (hm : m.Consistent) (hr : r ∈ m.refs) :
    (HostileReference.updateOnlineStatus w m r).Consistent := by
  obtain ⟨f, hflag, hunit, -, h⟩ := updateOnlineStatus_eq w m r
  rw [h]
  exact (hm.modifyRef r hflag hunit).setOnlineOfflineState ((mem_modifyRef ..).mpr hr) _

theorem VictimOnline.updateOnlineStatus (hv : m.VictimOnline) (hr : r ∈ m.refs) :
    (HostileReference.updateOnlineStatus w m r).VictimOnline := by
  obtain ⟨f, -, -, -, h⟩ := updateOnlineStatus_eq w m r
  rw [h]
  refine VictimOnline.setOnlineOfflineState ?_ ((mem_modifyRef ..).mpr hr) _
  exact hv

/-! ## Adding threat -/

theorem unitOf_findReference (hm : m.Consistent) (h : m.findReference u = none) (s : RefId) : m.unitOf s ≠ some u := by
  intro hs
  rw [findReference, Option.or_eq_none_iff, getReferenceByTarget, getReferenceByTarget,
    List.find?_eq_none, List.find?_eq_none] at h
  have hlive : s ∈ m.refs := by
    rw [ExtTreeMap.mem_iff_isSome_getElem?, ← Option.isSome_map (f := (·.iUnitGuid))]
    exact Option.isSome_iff_exists.mpr ⟨u, hs⟩
  obtain ⟨c, hc⟩ := (mem_refs_iff m s).mp hlive
  cases c with
  | true => exact h.1 s ((hm.online s).mpr hc) (by simp [unitGuid_eq hs])
  | false => exact h.2 s ((hm.offline s).mpr hc) (by simp [unitGuid_eq hs])

theorem findReference_mem (hm : m.Consistent) (h : m.findReference u = some r) : r ∈ m.refs := by
  rw [findReference, Option.or_eq_some_iff] at h
  rcases h with h | ⟨-, h⟩
  · exact (mem_refs_iff m r).mpr ⟨true, (hm.online r).mp (List.mem_of_find?_eq_some h)⟩
  · exact (mem_refs_iff m r).mpr ⟨false, (hm.offline r).mp (List.mem_of_find?_eq_some h)⟩

theorem flagOf_newReference (m : ThreatManager) (u : ObjectGuid) (s : RefId) :
    (m.newReference u).flagOf s = if m.nextRef = s then some true else m.flagOf s := by
  simp only [flagOf, newReference, ExtTreeMap.getElem?_insert, compare_eq_iff_eq]
  split <;> simp

theorem unitOf_newReference (m : ThreatManager) (u : ObjectGuid) (s : RefId) :
    (m.newReference u).unitOf s = if m.nextRef = s then some u else m.unitOf s := by
  simp only [unitOf, newReference, ExtTreeMap.getElem?_insert, compare_eq_iff_eq]
  split <;> simp

theorem Consistent.flagOf_nextRef (hm : m.Consistent) : m.flagOf m.nextRef = none := by
  rw [flagOf, Option.map_eq_none_iff]
  cases h : m.refs[m.nextRef]? with
  | none => rfl
  | some k =>
    exact absurd (hm.lt_next m.nextRef k.iUnitGuid (by rw [unitOf, h, Option.map_some])) (lt_irrefl _)

theorem Consistent.newReference (hm : m.Consistent) (h : m.findReference u = none) : (m.newReference u).Consistent where
  online s := by
    show s ∈ m.iThreatContainer.iThreatList ++ [m.nextRef] ↔ _
    rw [flagOf_newReference, List.mem_append, List.mem_singleton, hm.online]
    by_cases hs : m.nextRef = s
    · simp [hs]
    · simp [hs, Ne.symm hs]
  offline s := by
    show s ∈ m.iThreatOfflineContainer.iThreatList ↔ _
    rw [flagOf_newReference, hm.offline]
    split
    · next hs => subst hs; simp [hm.flagOf_nextRef]
    · rfl
  online_nodup := nodup_append_singleton hm.online_nodup (by simp [hm.online, hm.flagOf_nextRef])
  offline_nodup := hm.offline_nodup
  unit_inj a b v ha hb := by
    rw [unitOf_newReference] at ha hb
    split at ha <;> split at hb
    · next h₁ h₂ => exact h₁.symm.trans h₂
    · rw [← Option.some_inj.mp ha] at hb
      exact absurd hb (unitOf_findReference hm h b)
    · rw [← Option.some_inj.mp hb] at ha
      exact absurd ha (unitOf_findReference hm h a)
    · exact hm.unit_inj a b v ha hb
  lt_next a v ha := by
    rw [unitOf_newReference] at ha
    split at ha
    · next hs => exact hs ▸ Nat.lt_succ_self _
    · exact Nat.lt_succ_of_lt (hm.lt_next a v ha)

theorem VictimOnline.newReference (hv : m.VictimOnline) : (m.newReference u).VictimOnline :=
  fun v h ↦ List.mem_append_left _ (hv v h)

theorem Consistent.enlist (hm : m.Consistent) (hr : r ∈ m.refs) (isFirst : Bool) :
    (m.enlist w r u isFirst).Consistent := by
  rw [ThreatManager.enlist]
  split
  · exact hm.setOnlineOfflineState hr false
  · split
    · exact hm.congr (fun _ ↦ rfl) (fun _ ↦ rfl) rfl (fun _ ↦ Iff.rfl) hm.online_nodup rfl
    · exact hm

theorem VictimOnline.enlist (hv : m.VictimOnline) (hm : m.Consistent)
    (hr : m.flagOf r = some true) (isFirst : Bool) : (m.enlist w r u isFirst).VictimOnline := by
  rw [ThreatManager.enlist]
  split
  · exact hv.setOnlineOfflineState ((mem_refs_iff m r).mpr ⟨true, hr⟩) false
  · split
    · intro v h
      obtain rfl : r = v := Option.some_inj.mp h
      exact (hm.online r).mpr hr
    · exact hv

theorem mem_setOnlineOfflineState (hr : r ∈ m.refs) (b : Bool) (s : RefId) :
    s ∈ (HostileReference.setOnlineOfflineState m r b).refs ↔ s ∈ m.refs := by
  rcases setOnlineOfflineState_cases hr b with ⟨-, h⟩ | ⟨-, h⟩ | ⟨-, h⟩
  · rw [h]
  · rw [h]; exact mem_modifyRef m r s fun h ↦ { h with iOnline := true }
  · rw [h]; exact mem_modifyRef m r s fun h ↦ { h with iOnline := false, iAccessible := false }

theorem mem_updateOnlineStatus (hr : r ∈ m.refs) (s : RefId) :
    s ∈ (HostileReference.updateOnlineStatus w m r).refs ↔ s ∈ m.refs := by
  obtain ⟨f, -, -, -, h⟩ := updateOnlineStatus_eq w m r
  rw [h, mem_setOnlineOfflineState ((mem_modifyRef ..).mpr hr), mem_modifyRef]

theorem mem_newReference (m : ThreatManager) (u : ObjectGuid) (s : RefId) :
    s ∈ (m.newReference u).refs ↔ m.nextRef = s ∨ s ∈ m.refs := by
  simp [newReference]

/-- A reference that exists keeps its flag while another is put on the list. -/
theorem flagOf_enlist (hr : r ∈ m.refs) (hrs : r ≠ s) (isFirst : Bool) :
    (m.enlist w r u isFirst).flagOf s = m.flagOf s := by
  rw [enlist]
  split
  · rcases setOnlineOfflineState_cases hr false with ⟨-, h⟩ | ⟨hf, h⟩ | ⟨hf, h⟩
    · rw [h]
    · rw [h, flagOf_bringOnline hf, if_neg hrs]
    · rw [h, flagOf_takeOffline hf, if_neg hrs]
  · split <;> rfl

theorem Consistent.nextRef_ne (hm : m.Consistent) (hs : s ∈ m.refs) : m.nextRef ≠ s := by
  rintro rfl
  obtain ⟨c, hc⟩ := (mem_refs_iff m _).mp hs
  simp [hm.flagOf_nextRef] at hc

theorem Consistent.addNoThreat (hm : m.Consistent) (w : ThreatWorld) (u : ObjectGuid) :
    (m.addNoThreat w u).Consistent := by
  rw [ThreatManager.addNoThreat]
  split
  · exact hm
  · next h => exact (hm.newReference h).enlist ((mem_newReference ..).mpr (.inl rfl)) _

theorem VictimOnline.addNoThreat (hv : m.VictimOnline) (hm : m.Consistent) (w : ThreatWorld)
    (u : ObjectGuid) : (m.addNoThreat w u).VictimOnline := by
  rw [ThreatManager.addNoThreat]
  split
  · exact hv
  · next h =>
    exact hv.newReference.enlist (hm.newReference h) (by rw [flagOf_newReference, if_pos rfl]) _

theorem flagOf_addNoThreat (hm : m.Consistent) (hs : s ∈ m.refs) (w : ThreatWorld)
    (u : ObjectGuid) : (m.addNoThreat w u).flagOf s = m.flagOf s := by
  rw [ThreatManager.addNoThreat]
  split
  · rfl
  · rw [flagOf_enlist ((mem_newReference ..).mpr (.inl rfl)) (hm.nextRef_ne hs),
      flagOf_newReference, if_neg (hm.nextRef_ne hs)]

theorem threatChange_eq (m : ThreatManager) (r : RefId) (v : ℚ) : ∃ b, m.processThreatEvent r (.threatChange v) =
      { m with iThreatContainer := { m.iThreatContainer with iDirty := b } } := by
  rw [processThreatEvent]
  split
  · exact ⟨true, rfl⟩
  · exact ⟨m.iThreatContainer.iDirty, rfl⟩

theorem Consistent.threatChange (hm : m.Consistent) (r : RefId) (v : ℚ) :
    (m.processThreatEvent r (.threatChange v)).Consistent := by
  obtain ⟨b, h⟩ := threatChange_eq m r v
  rw [h]
  exact hm.congr (fun _ ↦ rfl) (fun _ ↦ rfl) rfl (fun _ ↦ Iff.rfl) hm.online_nodup rfl

theorem VictimOnline.threatChange (hv : m.VictimOnline) (r : RefId) (v : ℚ) :
    (m.processThreatEvent r (.threatChange v)).VictimOnline := by
  obtain ⟨b, h⟩ := threatChange_eq m r v
  rw [h]
  exact hv

theorem flagOf_threatChange (m : ThreatManager) (r s : RefId) (v : ℚ) :
    (m.processThreatEvent r (.threatChange v)).flagOf s = m.flagOf s := by
  obtain ⟨b, h⟩ := threatChange_eq m r v
  rw [h]
  rfl

theorem addThreatToOwner_rule {P : ThreatManager → Prop} (hm : P m)
    (howner : ∀ u, P (m.addNoThreat w u)) : P (m.addThreatToOwner w r) := by
  rw [addThreatToOwner]
  split
  · split
    · exact howner _
    · exact hm
  · exact hm

/-- **The rule for `HostileReference::addThreat`.**  A property of the manager that survives each of
the four things the function does survives the function. -/
theorem addThreat_rule {P : ThreatManager → Prop} (hm : P m)
    (hwrite : ∀ m v, P m → P (m.modifyRef r fun h ↦ { h with iThreat := h.iThreat + v }))
    (hstatus : ∀ m, P m → m.isOnline r = false → P (HostileReference.updateOnlineStatus w m r))
    (hevent : ∀ m v, P m → P (m.processThreatEvent r (.threatChange v)))
    (howner : ∀ m u, P m → P (m.addNoThreat w u)) (v : ℚ) :
    P (HostileReference.addThreat w m r v) := by
  rw [HostileReference.addThreat]
  split
  · exact hm
  · have hwritten := hwrite m v hm
    generalize m.modifyRef r (fun h ↦ { h with iThreat := h.iThreat + v }) = m₁ at hwritten
    have hchecked : P (if m₁.isOnline r = false then HostileReference.updateOnlineStatus w m₁ r
        else m₁) := by
      split
      · next hoff => exact hstatus _ hwritten hoff
      · exact hwritten
    have hfired := hevent _ v hchecked
    dsimp only
    generalize ThreatManager.processThreatEvent _ r (.threatChange v) = m₂ at hfired ⊢
    split
    · exact addThreatToOwner_rule hfired fun u ↦ howner m₂ u hfired
    · exact hfired

theorem Consistent.addThreat (hm : m.Consistent) (hr : r ∈ m.refs) (w : ThreatWorld) (v : ℚ) :
    (HostileReference.addThreat w m r v).Consistent ∧ ∀ s ∈ m.refs, s ∈ (HostileReference.addThreat w m r v).refs := by
  refine addThreat_rule (P := fun m' ↦ m'.Consistent ∧ ∀ s ∈ m.refs, s ∈ m'.refs)
    ⟨hm, fun _ hs ↦ hs⟩ ?_ ?_ ?_ ?_ v
  · rintro m' v ⟨hm, hmem⟩
    exact ⟨hm.modifyRef r (fun _ ↦ rfl) fun _ ↦ rfl, fun s hs ↦ (mem_modifyRef ..).mpr (hmem s hs)⟩
  · rintro m' ⟨hm, hmem⟩ -
    have hr' := hmem r hr
    exact ⟨hm.updateOnlineStatus hr', fun s hs ↦ (mem_updateOnlineStatus hr' s).mpr (hmem s hs)⟩
  · rintro m' v ⟨hm, hmem⟩
    refine ⟨hm.threatChange r v, fun s hs ↦ ?_⟩
    rw [mem_refs_iff, flagOf_threatChange, ← mem_refs_iff]
    exact hmem s hs
  · rintro m' u ⟨hm, hmem⟩
    refine ⟨hm.addNoThreat w u, fun s hs ↦ ?_⟩
    rw [mem_refs_iff, flagOf_addNoThreat hm (hmem s hs), ← mem_refs_iff]
    exact hmem s hs

theorem VictimOnline.addThreat (hv : m.VictimOnline) (hm : m.Consistent) (hr : r ∈ m.refs)
    (w : ThreatWorld) (v : ℚ) : (HostileReference.addThreat w m r v).VictimOnline := by
  refine (addThreat_rule (P := fun m ↦ m.VictimOnline ∧ m.Consistent ∧ r ∈ m.refs)
    ⟨hv, hm, hr⟩ ?_ ?_ ?_ ?_ v).1
  · rintro m v ⟨hv, hm, hr⟩
    exact ⟨hv, hm.modifyRef r (fun _ ↦ rfl) fun _ ↦ rfl, (mem_modifyRef ..).mpr hr⟩
  · rintro m ⟨hv, hm, hr⟩ -
    exact ⟨hv.updateOnlineStatus hr, hm.updateOnlineStatus hr, (mem_updateOnlineStatus hr r).mpr hr⟩
  · rintro m v ⟨hv, hm, hr⟩
    refine ⟨hv.threatChange r v, hm.threatChange r v, ?_⟩
    rwa [mem_refs_iff, flagOf_threatChange, ← mem_refs_iff]
  · rintro m u ⟨hv, hm, hr⟩
    refine ⟨hv.addNoThreat hm w u, hm.addNoThreat w u, ?_⟩
    rwa [mem_refs_iff, flagOf_addNoThreat hm hr, ← mem_refs_iff]

/-- Adding threat to an online reference does not change any flag. -/
theorem flagOf_addThreat (hm : m.Consistent) (hr : m.flagOf r = some true) (w : ThreatWorld)
    (v : ℚ) : (HostileReference.addThreat w m r v).flagOf r = some true := by
  refine (addThreat_rule (P := fun m ↦ m.Consistent ∧ m.flagOf r = some true) ⟨hm, hr⟩ ?_ ?_ ?_ ?_ v).2
  · rintro m v ⟨hm, hr⟩
    refine ⟨hm.modifyRef r (fun _ ↦ rfl) fun _ ↦ rfl, ?_⟩
    exact (flagOf_modifyRef m r r (fun h ↦ { h with iThreat := h.iThreat + v }) fun _ ↦ rfl).trans hr
  · rintro m ⟨-, hr⟩ hoff
    simp [isOnline_eq, hr] at hoff
  · rintro m v ⟨hm, hr⟩
    exact ⟨hm.threatChange r v, by rwa [flagOf_threatChange]⟩
  · rintro m u ⟨hm, hr⟩
    exact ⟨hm.addNoThreat w u, by rwa [flagOf_addNoThreat hm ((mem_refs_iff m r).mpr ⟨true, hr⟩)]⟩

theorem Consistent._addThreat (hm : m.Consistent) (w : ThreatWorld) (u : ObjectGuid) (v : ℚ) :
    (m._addThreat w u v).Consistent := by
  rw [ThreatManager._addThreat]
  split
  · next r h => exact (hm.addThreat (findReference_mem hm h) w v).1
  · next h =>
    have hnew : m.nextRef ∈ (m.newReference u).refs := (mem_newReference ..).mpr (.inl rfl)
    have hadd := (hm.newReference h).addThreat hnew w v
    exact hadd.1.enlist (hadd.2 _ hnew) _

theorem VictimOnline._addThreat (hv : m.VictimOnline) (hm : m.Consistent) (w : ThreatWorld)
    (u : ObjectGuid) (v : ℚ) : (m._addThreat w u v).VictimOnline := by
  rw [ThreatManager._addThreat]
  split
  · next r h => exact hv.addThreat hm (findReference_mem hm h) w v
  · next h =>
    have hnew : m.nextRef ∈ (m.newReference u).refs := (mem_newReference ..).mpr (.inl rfl)
    have hflag : (m.newReference u).flagOf m.nextRef = some true := by
      simp [flagOf_newReference]
    have hadd := (hm.newReference h).addThreat hnew w v
    refine VictimOnline.enlist ?_ hadd.1 (flagOf_addThreat (hm.newReference h) hflag w v) _
    exact hv.newReference.addThreat (hm.newReference h) hnew w v

theorem Consistent.addTempThreat (hm : m.Consistent) (r : RefId) (v : ℚ) :
    (HostileReference.addTempThreat m r v).Consistent := by
  rw [HostileReference.addTempThreat]
  split
  · exact hm
  · refine Consistent.threatChange ?_ r v
    exact hm.modifyRef r (fun _ ↦ rfl) fun _ ↦ rfl

theorem VictimOnline.addTempThreat (hv : m.VictimOnline) (r : RefId) (v : ℚ) :
    (HostileReference.addTempThreat m r v).VictimOnline := by
  rw [HostileReference.addTempThreat]
  split
  · exact hv
  · refine VictimOnline.threatChange ?_ r v
    exact hv

/-! ## Removing references -/

/-- What deleting `r` comes to: it was taken offline first if need be, and is on no list after. -/
structure Deleted (m : ThreatManager) (r : RefId) (m' : ThreatManager) : Prop where
  online : m'.iThreatContainer.iThreatList = m.iThreatContainer.iThreatList.filter (· ≠ r)
  offline : m'.iThreatOfflineContainer.iThreatList = m.iThreatOfflineContainer.iThreatList.filter (· ≠ r)
  refs : ∀ s, m'.refs[s]? = if r = s then none else m.refs[s]?
  next : m'.nextRef = m.nextRef
  victim : m'.iCurrentVictim = if m.iCurrentVictim = some r then none else m.iCurrentVictim
  dirty : m'.iThreatContainer.iDirty = (m.iThreatContainer.iDirty || decide (m.iCurrentVictim = some r))

theorem deleteReference_offline (hm : m.Consistent) (hr : m.flagOf r = some false) :
    Deleted m r (m.deleteReference r) := by
  have hoff : (m.modifyRef r fun h ↦ { h with isValid := false }).isOnline r = false := by
    simp [isOnline_eq, flagOf_modifyRef m r r (fun h ↦ { h with isValid := false }) fun _ ↦ rfl, hr]
  have hnot : r ∉ m.iThreatContainer.iThreatList := by simp [hm.online, hr]
  have hlist : m.iThreatContainer.iThreatList.filter (· ≠ r) = m.iThreatContainer.iThreatList :=
    List.filter_eq_self.mpr fun s hs ↦ by simpa using ne_of_mem_of_not_mem hs hnot
  have hoff' : ((m.modifyRef r fun h ↦ { h with isValid := false }).dropVictim r).isOnline r = false := by
    rw [dropVictim_eq]
    exact hoff
  simp only [deleteReference, HostileReference.removeReference, setOnlineOfflineState_same hr,
    processThreatEvent, hoff', Bool.false_eq_true, if_false]
  rw [dropVictim_eq]
  refine ⟨hlist.symm, rfl, fun s ↦ ?_, rfl, rfl, rfl⟩
  by_cases hrs : r = s <;> simp [modifyRef, hrs, ExtTreeMap.getElem?_erase, ExtTreeMap.getElem?_modify]

theorem Deleted.of_takeOffline (hm : m.Consistent) (hr : m.flagOf r = some true)
    (h : Deleted (m.takeOffline r) r m') : Deleted m r m' where
  online := by
    simp [h.online, takeOffline]
  offline := by
    have hnot : r ∉ m.iThreatOfflineContainer.iThreatList := by simp [hm.offline, hr]
    simp [h.offline, takeOffline, ThreatContainer.addReference]
  refs s := by
    rw [h.refs]
    split
    · rfl
    · next hrs => simp [takeOffline, ExtTreeMap.getElem?_modify, hrs]
  next := h.next
  victim := by
    simp [h.victim, takeOffline]
  dirty := by
    simp [h.dirty, takeOffline]

theorem deleteReference_deleted (hm : m.Consistent) (hr : r ∈ m.refs) : Deleted m r (m.deleteReference r) := by
  obtain ⟨c, hc⟩ := (mem_refs_iff m r).mp hr
  cases c with
  | false => exact deleteReference_offline hm hc
  | true =>
    have hoff : (m.takeOffline r).flagOf r = some false := by
      simp [flagOf_takeOffline hc]
    have hdel := deleteReference_offline (hm.takeOffline hc) hoff
    have heq : (m.takeOffline r).deleteReference r = m.deleteReference r := by
      rw [deleteReference, deleteReference, HostileReference.removeReference,
        HostileReference.removeReference, setOnlineOfflineState_false hc,
        setOnlineOfflineState_same hoff]
    exact (heq ▸ hdel).of_takeOffline hm hc

theorem Deleted.flagOf (h : Deleted m r m') (s : RefId) : m'.flagOf s = if r = s then none else m.flagOf s := by
  rw [ThreatManager.flagOf, h.refs]
  split <;> rfl

theorem Deleted.unitOf (h : Deleted m r m') (s : RefId) : m'.unitOf s = if r = s then none else m.unitOf s := by
  rw [ThreatManager.unitOf, h.refs]
  split <;> rfl

theorem Deleted.consistent (h : Deleted m r m') (hm : m.Consistent) : m'.Consistent where
  online s := by
    rw [h.online, h.flagOf, List.mem_filter, hm.online]
    by_cases hrs : r = s
    · simp [hrs]
    · simp [hrs, Ne.symm hrs]
  offline s := by
    rw [h.offline, h.flagOf, List.mem_filter, hm.offline]
    by_cases hrs : r = s
    · simp [hrs]
    · simp [hrs, Ne.symm hrs]
  online_nodup := h.online ▸ hm.online_nodup.filter _
  offline_nodup := h.offline ▸ hm.offline_nodup.filter _
  unit_inj a b u ha hb := by
    rw [h.unitOf] at ha hb
    split at ha
    · exact absurd ha (by simp)
    · split at hb
      · exact absurd hb (by simp)
      · exact hm.unit_inj a b u ha hb
  lt_next a u ha := by
    rw [h.unitOf] at ha
    split at ha
    · exact absurd ha (by simp)
    · exact h.next ▸ hm.lt_next a u ha

theorem Deleted.victimOnline (h : Deleted m r m') (hv : m.VictimOnline) : m'.VictimOnline := by
  intro v hvm
  rw [h.victim] at hvm
  split at hvm
  · exact absurd hvm (by simp)
  · next hr =>
    rw [h.online, List.mem_filter]
    have hvr : v ≠ r := by rintro rfl; exact hr hvm
    exact ⟨hv v hvm, by simpa using hvr⟩

theorem getElem?_foldl_erase (l : List RefId) (refs : ExtTreeMap RefId HostileReference) (s : RefId) :
    (l.foldl (fun refs r ↦ refs.erase r) refs)[s]? = if s ∈ l then none else refs[s]? := by
  induction l generalizing refs with
  | nil => rfl
  | cons r l ih =>
    rw [List.foldl_cons, ih, ExtTreeMap.getElem?_erase]
    by_cases hrs : s = r
    · simp [hrs]
    · simp [hrs, Ne.symm hrs]

theorem Consistent.refs_clearReferences (hm : m.Consistent) (s : RefId) : m.clearReferences.refs[s]? = none := by
  rw [ThreatManager.clearReferences, getElem?_foldl_erase]
  split
  · rfl
  · next h =>
    rw [List.mem_append, hm.online, hm.offline, flagOf] at h
    cases hs : m.refs[s]? with
    | none => rfl
    | some k => cases hk : k.iOnline <;> simp [hs, hk] at h

theorem Consistent.clearReferences (hm : m.Consistent) : m.clearReferences.Consistent := by
  have hnone : ∀ s, m.clearReferences.flagOf s = none := fun s ↦ by
    simp [flagOf, hm.refs_clearReferences]
  have hunit : ∀ s, m.clearReferences.unitOf s = none := fun s ↦ by
    simp [unitOf, hm.refs_clearReferences]
  refine ⟨?_, ?_, List.nodup_nil, List.nodup_nil, ?_, ?_⟩
  · intro s
    rw [hnone]
    simp [ThreatManager.clearReferences]
  · intro s
    rw [hnone]
    simp [ThreatManager.clearReferences]
  · intro a b u ha
    simp [hunit] at ha
  · intro a u ha
    simp [hunit] at ha

/-! ## Sorting, choosing and resetting -/

theorem perm_update (m : ThreatManager) :
    m.update.iThreatContainer.iThreatList.Perm m.iThreatContainer.iThreatList := by
  simp only [update]
  split
  · exact List.perm_insertionSort ..
  · exact .rfl

theorem Consistent.update (hm : m.Consistent) : m.update.Consistent :=
  hm.congr (fun _ ↦ rfl) (fun _ ↦ rfl) rfl (fun _ ↦ (perm_update m).mem_iff)
    ((perm_update m).nodup_iff.mpr hm.online_nodup) rfl

theorem VictimOnline.update (hv : m.VictimOnline) : m.update.VictimOnline :=
  fun v h ↦ (perm_update m).mem_iff.mpr (hv v h)

theorem mem_of_ite_some {α : Type*} {p : Prop} [Decidable p] {o : Option α} {x : α}
    (h : (if p then none else o) = some x) : o = some x := by
  split at h
  · exact absurd h (by simp)
  · exact h

/-- The loop finds a reference of the list or keeps the victim it was given. -/
theorem scanVictims_mem {noPriority : Bool} {victim : Option RefId} {l : List RefId} :
    (∀ r, m.scanVictims w noPriority victim l = .found r → r ∈ l ∨ victim = some r) ∧
      ∀ v', m.scanVictims w noPriority victim l = .restart v' → ∀ v ∈ v', victim = some v := by
  induction l generalizing victim with
  | nil => simp [scanVictims]
  | cons x rest ih =>
    have hrest : ∀ {victim'}, (∀ v, victim' = some v → victim = some v) →
        (∀ r, m.scanVictims w noPriority victim' rest = .found r → r ∈ x :: rest ∨ victim = some r) ∧
        ∀ v', m.scanVictims w noPriority victim' rest = .restart v' → ∀ v ∈ v', victim = some v :=
      fun hsub ↦ ⟨fun r h ↦ ((ih.1 r h).imp (List.mem_cons_of_mem _) (hsub r)), fun v' h v hv ↦ hsub v (ih.2 v' h v hv)⟩
    rw [scanVictims.eq_def]
    dsimp only
    split
    · split
      · simp only [reduceCtorEq, false_implies, implies_true, Scan.restart.injEq, true_and]
        rintro v' rfl v hv
        exact hv
      · exact hrest fun v h ↦ mem_of_ite_some h
    · split
      · split
        · simp
        · next v =>
          split
          · simp only [Scan.found.injEq, reduceCtorEq, false_implies, implies_true, and_true]
            rintro r rfl
            split
            · exact .inr rfl
            · exact .inl List.mem_cons_self
          · split
            · simp
            · exact hrest fun _ h ↦ h
      · exact hrest fun _ h ↦ h

theorem selectNextVictim_mem {victim : Option RefId} (h : m.selectNextVictim w victim = some r) :
    r ∈ m.iThreatContainer.iThreatList ∨ victim = some r := by
  rw [selectNextVictim] at h
  split at h
  · next x hx => exact Option.some_inj.mp h ▸ scanVictims_mem.1 x hx
  · exact absurd h (by simp)
  · next v' hv' =>
    split at h
    · next x hx =>
      obtain rfl := Option.some_inj.mp h
      exact (scanVictims_mem.1 x hx).imp_right fun hx ↦ scanVictims_mem.2 v' hv' x hx
    · exact absurd h (by simp)

theorem Consistent.setCurrentVictim (hm : m.Consistent) (v : Option RefId) : (m.setCurrentVictim v).Consistent :=
  hm.congr (fun _ ↦ rfl) (fun _ ↦ rfl) rfl (fun _ ↦ Iff.rfl) hm.online_nodup rfl

theorem Consistent.setDirty (hm : m.Consistent) (isDirty : Bool) : (m.setDirty isDirty).Consistent :=
  hm.congr (fun _ ↦ rfl) (fun _ ↦ rfl) rfl (fun _ ↦ Iff.rfl) hm.online_nodup rfl

theorem VictimOnline.getHostilTarget (hv : m.VictimOnline) (w : ThreatWorld) : (m.getHostilTarget w).VictimOnline := by
  intro v h
  rcases selectNextVictim_mem (h : m.update.selectNextVictim w _ = some v) with h | h
  · exact h
  · exact hv.update v h

/-- The loop of `resetAllAggro` keeps what `addThreat` keeps for every reference that exists. -/
theorem foldl_setThreat_rule {P : ThreatManager → Prop} {l : List RefId} (hp : P m)
    (hm : m.Consistent) (hl : ∀ r ∈ l, r ∈ m.refs)
    (hadd : ∀ m r v, P m → m.Consistent → r ∈ m.refs → P (HostileReference.addThreat w m r v)) :
    P (l.foldl (fun m r ↦ HostileReference.setThreat w m r 0) m) ∧
      (l.foldl (fun m r ↦ HostileReference.setThreat w m r 0) m).Consistent := by
  induction l generalizing m with
  | nil => exact ⟨hp, hm⟩
  | cons r l ih =>
    have hr := hl r List.mem_cons_self
    have hkept := hm.addThreat hr w (0 - (m.refs[r]?).elim 0 (·.iThreat))
    exact ih (hadd m r _ hp hm hr) hkept.1 fun s hs ↦
      hkept.2 s (hl s (List.mem_cons_of_mem _ hs))

/-- **The rule for `resetAllAggro`.** -/
theorem resetAllAggro_rule {P : ThreatManager → Prop} (hp : P m) (hm : m.Consistent)
    (hadd : ∀ m r v, P m → m.Consistent → r ∈ m.refs → P (HostileReference.addThreat w m r v))
    (hdirty : ∀ m, P m → P (m.setDirty true)) : P (m.resetAllAggro w) := by
  rw [resetAllAggro]
  split
  · exact hp
  · have hlive : ∀ r ∈ m.iThreatContainer.iThreatList, r ∈ m.refs := fun r hr ↦
      (mem_refs_iff m r).mpr ⟨true, (hm.online r).mp hr⟩
    exact hdirty _ (foldl_setThreat_rule hp hm hlive hadd).1

/-! ## The bookkeeping of every run -/

variable {a : Call}

theorem Consistent.next (hm : m.Consistent) (h : m.next a = some m') : m'.Consistent := by
  cases a <;> simp only [ThreatManager.next, Option.ite_none_right_eq_some, Option.some_inj] at h
  case _addThreat w u v => exact h ▸ hm._addThreat w u v
  case addThreat w r v => exact h.2 ▸ (hm.addThreat h.1 w v).1
  case setThreat w r v => exact h.2 ▸ (hm.addThreat h.1 w _).1
  case addTempThreat r v => exact h.2 ▸ hm.addTempThreat r v
  case setTempThreat r v => exact h.2 ▸ hm.addTempThreat r _
  case resetTempThreat r => exact h.2 ▸ hm.addTempThreat r _
  case setOnlineOfflineState r b => exact h.2 ▸ hm.setOnlineOfflineState h.1 b
  case updateOnlineStatus w r => exact h.2 ▸ hm.updateOnlineStatus h.1
  case removeReference r => exact h.2 ▸ (deleteReference_deleted hm h.1).consistent hm
  case clearReferences => exact h ▸ hm.clearReferences
  case setCurrentVictim r => exact h.2 ▸ hm.setCurrentVictim (some r)
  case resetAllAggro w =>
    exact h ▸ resetAllAggro_rule (P := Consistent) hm hm
      (fun _ _ v _ hm hr ↦ (hm.addThreat hr w v).1) fun _ hm ↦ hm.setDirty true
  case getHostilTarget w => exact h ▸ hm.update.setCurrentVictim _

theorem VictimOnline.next (hv : m.VictimOnline) (hm : m.Consistent) (h : m.next a = some m') : m'.VictimOnline := by
  cases a <;> simp only [ThreatManager.next, Option.ite_none_right_eq_some, Option.some_inj] at h
  case _addThreat w u v => exact h ▸ hv._addThreat hm w u v
  case addThreat w r v => exact h.2 ▸ hv.addThreat hm h.1 w v
  case setThreat w r v => exact h.2 ▸ hv.addThreat hm h.1 w _
  case addTempThreat r v => exact h.2 ▸ hv.addTempThreat r v
  case setTempThreat r v => exact h.2 ▸ hv.addTempThreat r _
  case resetTempThreat r => exact h.2 ▸ hv.addTempThreat r _
  case setOnlineOfflineState r b => exact h.2 ▸ hv.setOnlineOfflineState h.1 b
  case updateOnlineStatus w r => exact h.2 ▸ hv.updateOnlineStatus h.1
  case removeReference r => exact h.2 ▸ (deleteReference_deleted hm h.1).victimOnline hv
  case clearReferences => exact h ▸ fun v hv ↦ absurd hv (by simp [clearReferences])
  case setCurrentVictim r =>
    obtain ⟨hon, rfl⟩ := h
    rintro v hvr
    obtain rfl : r = v := Option.some_inj.mp hvr
    exact (hm.online r).mpr (flagOf_of_isOnline hon)
  case resetAllAggro w =>
    exact h ▸ resetAllAggro_rule (P := VictimOnline) hv hm
      (fun _ _ v hv hm hr ↦ hv.addThreat hm hr w v) fun _ hv ↦ hv
  case getHostilTarget w => exact h ▸ hv.getHostilTarget w

/-- The bookkeeping as a client of the manager sees it. -/
structure Bookkept (m : ThreatManager) : Prop where
  /-- Every live reference is in exactly one of the two lists, and there only once. -/
  once : ∀ r ∈ m.refs, m.iThreatContainer.iThreatList.count r + m.iThreatOfflineContainer.iThreatList.count r = 1
  /-- It is in the online list exactly when it is online. -/
  online : ∀ r ∈ m.refs, r ∈ m.iThreatContainer.iThreatList ↔ m.isOnline r = true
  /-- The lists hold nothing else: no pointer dangles. -/
  live : ∀ r, r ∈ m.iThreatContainer.iThreatList ∨ r ∈ m.iThreatOfflineContainer.iThreatList → r ∈ m.refs
  /-- No two references are about the same unit. -/
  unit_inj : ∀ r ∈ m.refs, ∀ s ∈ m.refs, m.unitGuid r = m.unitGuid s → r = s
  /-- The current victim is null or online. -/
  victim : ∀ v, m.iCurrentVictim = some v → v ∈ m.iThreatContainer.iThreatList

theorem Consistent.unitGuid_inj (hm : m.Consistent) (hr : r ∈ m.refs) (hs : s ∈ m.refs)
    (h : m.unitGuid r = m.unitGuid s) : r = s := by
  rw [ExtTreeMap.mem_iff_isSome_getElem?, Option.isSome_iff_exists] at hr hs
  obtain ⟨j, hj⟩ := hr
  obtain ⟨k, hk⟩ := hs
  have hr : m.unitOf r = some j.iUnitGuid := by rw [unitOf, hj, Option.map_some]
  have hs : m.unitOf s = some k.iUnitGuid := by rw [unitOf, hk, Option.map_some]
  rw [unitGuid_eq hr, unitGuid_eq hs] at h
  exact hm.unit_inj r s _ hr (h ▸ hs)

theorem Consistent.bookkept (hm : m.Consistent) (hv : m.VictimOnline) : m.Bookkept where
  once r hr := by
    obtain ⟨c, hc⟩ := (mem_refs_iff m r).mp hr
    rw [hm.online_nodup.count, hm.offline_nodup.count]
    simp only [hm.online, hm.offline, hc]
    cases c <;> simp
  online r hr := by
    obtain ⟨c, hc⟩ := (mem_refs_iff m r).mp hr
    simp [hm.online, isOnline_eq, hc]
  live r hr := by
    rw [hm.online, hm.offline] at hr
    exact (mem_refs_iff m r).mpr (hr.elim (⟨_, ·⟩) (⟨_, ·⟩))
  unit_inj r hr s hs h := hm.unitGuid_inj hr hs h
  victim := hv

theorem consistent_of_reaches {owner : ObjectGuid} {ok : ThreatManager → Call → Prop}
    (h : (threatMachine owner).Reaches ok m) : m.Consistent ∧ m.VictimOnline := by
  refine h.invariant (P := fun m ↦ m.Consistent ∧ m.VictimOnline) ?_ ?_
  · exact ⟨.new owner, fun v hv ↦ absurd hv (by simp [threatMachine, ThreatManager.new])⟩
  · rintro m a m' ⟨hm, hv⟩ - hn
    exact ⟨hm.next hn, hv.next hm hn⟩

/-- **The reference bookkeeping of every run.**  Whatever calls are made of a threat manager, every
live reference of it is in exactly one list, in the online one exactly when it is online, no two are
about the same unit, and the victim is null or online. -/
theorem bookkept_of_reachable (owner : ObjectGuid) (h : (threatMachine owner).Reachable m) :
    m.Bookkept :=
  (consistent_of_reaches h).1.bookkept (consistent_of_reaches h).2

/-- A world in which everybody is alive, present and in reach, and nobody owns anybody. -/
def openWorld : ThreatWorld where
  getUnit _ := true
  isGameMaster _ := false
  inFlight _ := false
  isInMap _ := true
  inSamePhase _ := true
  isInAccessiblePlaceFor _ := true
  isWithinCombatRange _ := true
  isAlive _ := true
  getCharmerOrOwner _ := none
  isSecondChoice _ := false
  canCreatureAttack _ := true
  isWithinMeleeRange _ := true

/-- Three units are hated; the first goes offline and comes back, the second is removed. -/
def threeUnits : List Call := [._addThreat openWorld 5 10, ._addThreat openWorld 6 4, ._addThreat openWorld 7 (-2),
    .setOnlineOfflineState 0 false, .updateOnlineStatus openWorld 0, .removeReference 1]

theorem bookkept_threeUnits :
    ∃ m, (threatMachine 1).exec (fun _ _ ↦ True) (.new 1) threeUnits = some m ∧
      m.iThreatContainer.iThreatList = [2, 0] ∧ m.Bookkept :=
  ⟨_, rfl, by decide +kernel, bookkept_of_reachable 1 (Machine.reaches_of_exec threeUnits rfl)⟩

end ThreatManager

end Gundrak
