import Gundrak.Combat.ThreatReferences

/-!
# The order of the threat list

`ThreatContainer::update` sorts the online list only when the dirty flag is up, and
`selectNextVictim` reads the list as if it were in order.  So in every state the list has to be
dirty or in order (`ThreatManager.Tidy`).

The flag goes up when the current victim loses threat, when anybody else gains some, and when a
reference comes online with more than 110 % of the victim's threat.  That leaves out changes that
disorder the list all the same: a reference that is not the victim loses threat and should fall
behind its successor, the victim gains threat and should overtake its predecessor, a reference is put
at the end of the list with more threat than one that is there.  `Call.KeepsOrder` says of a call that
it does none of this unseen, and `sorted_of_reaches` that a run of such calls always has the list
sorted where it is read.
-/

open Std (ExtTreeMap)

namespace Gundrak

/-- The pointers are listed by non-increasing threat. -/
def Descending (threat : RefId → ℚ) (l : List RefId) : Prop := l.Pairwise fun a b ↦ threat b ≤ threat a

instance (threat : RefId → ℚ) (l : List RefId) : Decidable (Descending threat l) :=
  inferInstanceAs (Decidable (l.Pairwise _))

namespace Descending

variable {f g : RefId → ℚ} {l : List RefId} {r : RefId}

theorem append_singleton (h : Descending f l) (hr : ∀ s ∈ l, f r ≤ f s) : Descending f (l ++ [r]) := by
  refine List.pairwise_append.mpr ⟨h, List.pairwise_singleton _ r, fun s hs t ht ↦ ?_⟩
  rw [List.mem_singleton] at ht
  exact ht ▸ hr s hs

theorem filter (h : Descending f l) (p : RefId → Bool) : Descending f (l.filter p) := List.Pairwise.filter p h

theorem congr (h : Descending f l) (hfg : ∀ s ∈ l, g s = f s) : Descending g l := by
  refine List.Pairwise.imp_of_mem ?_ h
  intro a b ha hb hab
  rw [hfg a ha, hfg b hb]
  exact hab

end Descending

namespace ThreatManager

variable {m m' : ThreatManager} {w : ThreatWorld} {r s : RefId} {u : ObjectGuid} {v t : ℚ}

/-- The online list is dirty or in order. -/
def Tidy (m : ThreatManager) : Prop :=
  m.iThreatContainer.iDirty = true ∨ Descending m.getThreat m.iThreatContainer.iThreatList

/-! ## When a call keeps the order -/

/-- A threat change of `v` for `r` raises the dirty flag. -/
def flags (m : ThreatManager) (r : RefId) (v : ℚ) : Prop :=
  (m.iCurrentVictim = some r ∧ v < 0) ∨ (m.iCurrentVictim ≠ some r ∧ 0 < v)

instance (m : ThreatManager) (r : RefId) (v : ℚ) : Decidable (m.flags r v) := inferInstanceAs (Decidable (_ ∨ _))

/-- The threats once `r` has `v` more. -/
def threatAfter (m : ThreatManager) (r : RefId) (v : ℚ) : RefId → ℚ := Function.update m.getThreat r (m.getThreat r + v)

/-- The list is still in order when `r` has `v` more threat, or will be sorted. -/
def KeepsPlace (m : ThreatManager) (r : RefId) (v : ℚ) : Prop :=
  m.iThreatContainer.iDirty = true ∨ v = 0 ∨ m.flags r v ∨ Descending (m.threatAfter r v) m.iThreatContainer.iThreatList

instance (m : ThreatManager) (r : RefId) (v : ℚ) : Decidable (m.KeepsPlace r v) := inferInstanceAs (Decidable (_ ∨ _))

/-- A reference with threat `t` can come online: it is last, or it dirties the list, or the list is
dirty. -/
def CanArrive (m : ThreatManager) (t : ℚ) : Prop :=
  m.iThreatContainer.iDirty = true ∨ (∃ v ∈ m.iCurrentVictim, 11 / 10 * m.getThreat v < t) ∨
    ∀ s ∈ m.iThreatContainer.iThreatList, t ≤ m.getThreat s

instance (m : ThreatManager) (t : ℚ) : Decidable (m.CanArrive t) := inferInstanceAs (Decidable (_ ∨ _))

/-- Nobody on the list has less threat than an owner who is put there because of `r`. -/
def OwnerFits (w : ThreatWorld) (m : ThreatManager) (r : RefId) (v : ℚ) : Prop :=
  m.iThreatContainer.iDirty = true ∨ m.flags r v ∨
    ∀ o ∈ w.getCharmerOrOwner (m.unitGuid r), w.isAlive o → m.isValidProcess w o →
      m.findReference o = none → ∀ s ∈ m.iThreatContainer.iThreatList, 0 ≤ m.threatAfter r v s

instance (m : ThreatManager) (r : RefId) (v : ℚ) : Decidable (m.OwnerFits w r v) := inferInstanceAs (Decidable (_ ∨ _))

/-- Giving `r` the threat `v` keeps the order. -/
def AddKeepsOrder (w : ThreatWorld) (m : ThreatManager) (r : RefId) (v : ℚ) : Prop :=
  if m.isOnline r then m.KeepsPlace r v ∧ (0 < v → m.OwnerFits w r v)
  else v < 0 → m.foundOnline w r → m.CanArrive (m.getThreat r + v)

instance (m : ThreatManager) (r : RefId) (v : ℚ) : Decidable (m.AddKeepsOrder w r v) :=
  inferInstanceAs (Decidable (ite _ _ _))

/-- `_addThreat` keeps the order: as `addThreat` for a unit that is hated already, and otherwise
because the new reference raises the flag, is last, or is a game master's and leaves at once. -/
def HateKeepsOrder (w : ThreatWorld) (m : ThreatManager) (victim : ObjectGuid) (threat : ℚ) : Prop :=
  match m.findReference victim with
  | some r => m.AddKeepsOrder w r threat
  | none => 0 < threat ∨ w.isGameMaster victim = true ∨ m.iThreatContainer.iDirty = true ∨
      ∀ s ∈ m.iThreatContainer.iThreatList, threat ≤ m.getThreat s

instance (m : ThreatManager) (victim : ObjectGuid) (threat : ℚ) :
    Decidable (m.HateKeepsOrder w victim threat) :=
  match h : m.findReference victim with
  | some r => decidable_of_iff (m.AddKeepsOrder w r threat) (by rw [HateKeepsOrder, h])
  | none => decidable_of_iff (0 < threat ∨ w.isGameMaster victim = true ∨ m.iThreatContainer.iDirty = true ∨
      ∀ s ∈ m.iThreatContainer.iThreatList, threat ≤ m.getThreat s) (by rw [HateKeepsOrder, h])

/-- The call does not disorder the list without raising the flag. -/
def Call.KeepsOrder (m : ThreatManager) : Call → Prop
  | ._addThreat w victim threat => m.HateKeepsOrder w victim threat
  | .addThreat w r modThreat => m.AddKeepsOrder w r modThreat
  | .setThreat w r threat => m.AddKeepsOrder w r (threat - (m.refs[r]?).elim 0 (·.iThreat))
  | .addTempThreat r threat => m.isOnline r → m.KeepsPlace r threat
  | .setTempThreat r threat =>
    m.isOnline r → m.KeepsPlace r (threat - (m.refs[r]?).elim 0 (·.iTempThreatModifier))
  | .resetTempThreat r => m.isOnline r → m.KeepsPlace r (-(m.refs[r]?).elim 0 (·.iTempThreatModifier))
  | .setOnlineOfflineState r isOnline =>
    m.isOnline r = false → isOnline = true → m.CanArrive (m.getThreat r)
  | .updateOnlineStatus w r => m.isOnline r = false → m.foundOnline w r → m.CanArrive (m.getThreat r)
  | .removeReference _ | .clearReferences | .setCurrentVictim _ | .resetAllAggro _
  | .getHostilTarget _ => True

instance (m : ThreatManager) (a : Call) : Decidable (a.KeepsOrder m) :=
  match a with
  | ._addThreat w victim threat => inferInstanceAs (Decidable (m.HateKeepsOrder w victim threat))
  | .addThreat w r modThreat => inferInstanceAs (Decidable (m.AddKeepsOrder w r modThreat))
  | .setThreat w r _ => inferInstanceAs (Decidable (m.AddKeepsOrder w r _))
  | .addTempThreat r _ | .setTempThreat r _ => inferInstanceAs (Decidable (_ → _))
  | .resetTempThreat r => inferInstanceAs (Decidable (_ → _))
  | .setOnlineOfflineState r _ => inferInstanceAs (Decidable (_ → _))
  | .updateOnlineStatus w r => inferInstanceAs (Decidable (_ → _))
  | .removeReference _ | .clearReferences | .setCurrentVictim _ | .resetAllAggro _
  | .getHostilTarget _ => inferInstanceAs (Decidable True)

/-! ## Threats after a write -/

theorem getThreat_raise (hr : r ∈ m.refs) {f : HostileReference → HostileReference}
    (hf : ∀ h, (f h).getThreat = h.getThreat + v) :
    (m.modifyRef r f).getThreat = m.threatAfter r v := by
  rw [ExtTreeMap.mem_iff_isSome_getElem?, Option.isSome_iff_exists] at hr
  obtain ⟨k, hk⟩ := hr
  funext s
  rw [getThreat, modifyRef_refs, threatAfter]
  by_cases hrs : s = r
  · subst hrs
    simp [getThreat, hk, hf]
  · rw [if_neg (Ne.symm hrs), Function.update_of_ne hrs, getThreat]

section

variable (m : ThreatManager)

theorem getThreat_bringOnline (r : RefId) : (m.bringOnline r).getThreat = m.getThreat :=
  funext fun s ↦ getThreat_modifyRef m r s (fun h ↦ { h with iOnline := true }) fun _ ↦ rfl

theorem getThreat_takeOffline (r : RefId) : (m.takeOffline r).getThreat = m.getThreat :=
  funext fun s ↦ getThreat_modifyRef m r s
    (fun h ↦ { h with iOnline := false, iAccessible := false }) fun _ ↦ rfl

theorem getThreat_newReference (u : ObjectGuid) :
    (m.newReference u).getThreat = Function.update m.getThreat m.nextRef 0 := by
  funext s
  by_cases hs : s = m.nextRef
  · subst hs
    simp [getThreat, newReference, HostileReference.getThreat]
  · simp [getThreat, newReference, ExtTreeMap.getElem?_insert, hs, Ne.symm hs]

theorem threatAfter_self (r : RefId) (v : ℚ) : m.threatAfter r v r = m.getThreat r + v := Function.update_self ..

theorem threatAfter_of_ne (v : ℚ) (h : s ≠ r) : m.threatAfter r v s = m.getThreat s := Function.update_of_ne h ..

/-- The event of a threat change raises the flag or does nothing. -/
theorem threatChange_flags (r : RefId) (v : ℚ) :
    m.processThreatEvent r (.threatChange v) = if m.flags r v then m.setDirty true else m := rfl

end

/-! ## Changing list -/

theorem Tidy.bringOnline (hm : m.Tidy) (h : m.CanArrive (m.getThreat r)) : (m.bringOnline r).Tidy := by
  rw [Tidy, getThreat_bringOnline]
  simp only [ThreatManager.bringOnline, Bool.or_eq_true]
  rcases h with h | ⟨x, hx, hlt⟩ | h
  · exact .inl (.inl h)
  · have hx : m.iCurrentVictim = some x := hx
    exact .inl (.inr (by simp [outweighsVictim, hx, hlt]))
  · rcases hm with hm | hm
    · exact .inl (.inl hm)
    · exact .inr (hm.append_singleton h)

/-- A reference that goes offline may have been out of order. -/
theorem tidy_takeOffline (h : m.iThreatContainer.iDirty = true ∨
    Descending m.getThreat (m.iThreatContainer.iThreatList.filter (· ≠ r))) :
    (m.takeOffline r).Tidy := by
  rw [Tidy, getThreat_takeOffline]
  simp only [takeOffline, Bool.or_eq_true]
  exact h.imp .inl id

theorem Tidy.takeOffline (hm : m.Tidy) : (m.takeOffline r).Tidy := tidy_takeOffline (hm.imp id fun h ↦ h.filter _)

theorem Tidy.setOnlineOfflineState {b : Bool} (hm : m.Tidy) (hr : r ∈ m.refs)
    (h : m.isOnline r = false → b = true → m.CanArrive (m.getThreat r)) :
    (HostileReference.setOnlineOfflineState m r b).Tidy := by
  obtain ⟨c, hc⟩ := (mem_refs_iff m r).mp hr
  have hon : m.isOnline r = c := by rw [isOnline_eq, hc, Option.getD_some]
  by_cases hcb : c = b
  · rw [setOnlineOfflineState_same (hcb ▸ hc)]
    exact hm
  · cases b with
    | true =>
      obtain rfl : c = false := by simpa using hcb
      rw [setOnlineOfflineState_true hc]
      exact hm.bringOnline (h hon rfl)
    | false =>
      obtain rfl : c = true := by simpa using hcb
      rw [setOnlineOfflineState_false hc]
      exact hm.takeOffline

theorem dirty_setOnlineOfflineState (hd : m.iThreatContainer.iDirty = true) (hr : r ∈ m.refs) (b : Bool) :
    (HostileReference.setOnlineOfflineState m r b).iThreatContainer.iDirty = true := by
  rcases setOnlineOfflineState_cases hr b with ⟨-, h⟩ | ⟨-, h⟩ | ⟨-, h⟩
  · rw [h]; exact hd
  · rw [h]; simp [bringOnline, hd]
  · rw [h]; simp [takeOffline, hd]

theorem Tidy.updateOnlineStatus (hm : m.Tidy) (hr : r ∈ m.refs)
    (h : m.isOnline r = false → m.foundOnline w r → m.CanArrive (m.getThreat r)) :
    (HostileReference.updateOnlineStatus w m r).Tidy := by
  obtain ⟨f, hflag, -, hthreat, heq⟩ := updateOnlineStatus_eq w m r
  have hthreat : (m.modifyRef r f).getThreat = m.getThreat := funext fun s ↦ getThreat_modifyRef m r s f hthreat
  rw [heq]
  refine Tidy.setOnlineOfflineState ?_ ((mem_modifyRef ..).mpr hr) fun hoff hfound ↦ ?_
  · rw [Tidy, hthreat]
    exact hm
  · rw [isOnline_eq, flagOf_modifyRef m r r f hflag, ← isOnline_eq] at hoff
    rw [CanArrive, hthreat]
    exact h hoff hfound

/-! ## Changing threat -/

theorem Tidy.change (hm : m.Tidy) (hr : r ∈ m.refs) (hv : v ≠ 0)
    (h : m.isOnline r → m.KeepsPlace r v) (hcons : m.Consistent)
    {f : HostileReference → HostileReference} (hf : ∀ h, (f h).getThreat = h.getThreat + v) :
    ((m.modifyRef r f).processThreatEvent r (.threatChange v)).Tidy := by
  rw [threatChange_flags]
  split
  · exact .inl rfl
  · next hflags =>
    rw [Tidy, getThreat_raise hr hf]
    rcases hm with hm | hm
    · exact .inl hm
    · by_cases hon : m.isOnline r = true
      · rcases h hon with h | h | h | h
        · exact .inl h
        · exact absurd h hv
        · exact absurd h hflags
        · exact .inr h
      · refine .inr (hm.congr fun s hs ↦ threatAfter_of_ne m v ?_)
        rintro rfl
        exact hon (by rw [isOnline_eq, (hcons.online _).mp hs, Option.getD_some])

theorem dirty_enlist (hd : m.iThreatContainer.iDirty = true) (hr : r ∈ m.refs) (isFirst : Bool) :
    (m.enlist w r u isFirst).iThreatContainer.iDirty = true := by
  rw [enlist]
  split
  · exact dirty_setOnlineOfflineState hd hr false
  · split <;> exact hd

theorem dirty_addThreatToOwner (hd : m.iThreatContainer.iDirty = true) :
    (m.addThreatToOwner w r).iThreatContainer.iDirty = true := by
  refine addThreatToOwner_rule (P := fun m ↦ m.iThreatContainer.iDirty = true) hd fun u ↦ ?_
  rw [addNoThreat]
  split
  · exact hd
  · exact dirty_enlist (m := m.newReference u) hd ((mem_newReference ..).mpr (.inl rfl)) _

theorem Tidy.newReference (hcons : m.Consistent) (h : ∀ s ∈ m.iThreatContainer.iThreatList, 0 ≤ m.getThreat s)
    (hm : Descending m.getThreat m.iThreatContainer.iThreatList) :
    (m.newReference u).Tidy := by
  have hnext : m.nextRef ∉ m.iThreatContainer.iThreatList := by
    simp [hcons.online, hcons.flagOf_nextRef]
  have hthreat : ∀ s ∈ m.iThreatContainer.iThreatList, Function.update m.getThreat m.nextRef 0 s = m.getThreat s :=
    fun s hs ↦ Function.update_of_ne (ne_of_mem_of_not_mem hs hnext) ..
  refine .inr ?_
  rw [getThreat_newReference]
  refine (hm.congr hthreat).append_singleton fun s hs ↦ ?_
  rw [Function.update_self, hthreat s hs]
  exact h s hs

theorem Tidy.enlist (hm : m.Tidy) (hr : r ∈ m.refs) (isFirst : Bool) : (m.enlist w r u isFirst).Tidy := by
  rw [ThreatManager.enlist]
  split
  · exact hm.setOnlineOfflineState hr (by simp)
  · split <;> exact hm

theorem Tidy.addThreatToOwner (hm : m.Tidy) (hcons : m.Consistent) (h : m.iThreatContainer.iDirty = true ∨
      ∀ o ∈ w.getCharmerOrOwner (m.unitGuid r), w.isAlive o → m.isValidProcess w o →
        m.findReference o = none → ∀ s ∈ m.iThreatContainer.iThreatList, 0 ≤ m.getThreat s) :
    (m.addThreatToOwner w r).Tidy := by
  rcases h with hd | h
  · exact .inl (dirty_addThreatToOwner hd)
  rcases hm with hd | hm
  · exact .inl (dirty_addThreatToOwner hd)
  rw [ThreatManager.addThreatToOwner]
  split
  · next o ho =>
    split
    · next halive =>
      rw [Bool.and_eq_true] at halive
      rw [addNoThreat]
      split
      · exact .inr hm
      · next hnone =>
        refine Tidy.enlist ?_ ((mem_newReference ..).mpr (.inl rfl)) _
        exact Tidy.newReference hcons (h o ho halive.1 halive.2 hnone) hm
    · exact .inr hm
  · exact .inr hm

/-! ## `addThreat` -/

/-- The write `addThreat` begins with. -/
def raise (m : ThreatManager) (r : RefId) (v : ℚ) : ThreatManager :=
  m.modifyRef r fun h ↦ { h with iThreat := h.iThreat + v }

theorem flagOf_raise (m : ThreatManager) (r s : RefId) (v : ℚ) : (m.raise r v).flagOf s = m.flagOf s :=
  flagOf_modifyRef m r s (fun h ↦ { h with iThreat := h.iThreat + v }) fun _ ↦ rfl

theorem getThreat_raised (hr : r ∈ m.refs) : (m.raise r v).getThreat = m.threatAfter r v :=
  getThreat_raise hr fun k ↦ by
    simp only [HostileReference.getThreat]
    ring

theorem unitGuid_raise (m : ThreatManager) (r s : RefId) (v : ℚ) : (m.raise r v).unitGuid s = m.unitGuid s := by
  rw [unitGuid, unitGuid, raise, modifyRef_refs]
  split
  · next hrs => subst hrs; cases m.refs[r]? <;> rfl
  · rfl

theorem findReference_raise (m : ThreatManager) (r : RefId) (v : ℚ) (u : ObjectGuid) :
    (m.raise r v).findReference u = m.findReference u := by
  simp only [findReference, getReferenceByTarget, unitGuid_raise]
  rfl

theorem foundOnline_raise (w : ThreatWorld) (m : ThreatManager) (r : RefId) (v : ℚ) :
    (m.raise r v).foundOnline w r = m.foundOnline w r := by
  rw [foundOnline, foundOnline, unitGuid_raise, raise, modifyRef_refs, if_pos rfl]
  cases m.refs[r]? <;> rfl

theorem Consistent.raise (hm : m.Consistent) (r : RefId) (v : ℚ) : (m.raise r v).Consistent :=
  Consistent.modifyRef hm r (fun _ ↦ rfl) fun _ ↦ rfl

theorem addThreat_of_online (hr : m.flagOf r = some true) (hv : v ≠ 0) :
    ∃ P : Prop, ∃ _ : Decidable P, HostileReference.addThreat w m r v =
      if P ∧ 0 < v then
        ((m.raise r v).processThreatEvent r (.threatChange v)).addThreatToOwner w r
      else (m.raise r v).processThreatEvent r (.threatChange v) := by
  have hon : (m.raise r v).isOnline r = true := by
    simp [isOnline_eq, flagOf_raise, hr]
  rw [raise] at hon ⊢
  rw [HostileReference.addThreat, if_neg hv]
  simp only [hon, Bool.true_eq_false, if_false]
  exact ⟨_, _, rfl⟩

theorem Tidy.addThreat_online (hm : m.Tidy) (hcons : m.Consistent) (hr : m.flagOf r = some true)
    (hv : v ≠ 0) (h : m.KeepsPlace r v) (howner : 0 < v → m.OwnerFits w r v) :
    (HostileReference.addThreat w m r v).Tidy := by
  have hlive : r ∈ m.refs := (mem_refs_iff m r).mpr ⟨true, hr⟩
  have hchanged : ((m.raise r v).processThreatEvent r (.threatChange v)).Tidy :=
    hm.change hlive hv (fun _ ↦ h) hcons fun k ↦ by
      simp only [HostileReference.getThreat]
      ring
  obtain ⟨P, _, heq⟩ := addThreat_of_online (w := w) hr hv
  rw [heq]
  split
  · next hpos =>
    refine hchanged.addThreatToOwner ((hcons.raise r v).threatChange r v) ?_
    rw [threatChange_flags]
    split
    · exact .inl rfl
    · next hflags =>
      rcases howner hpos.2 with hd | hf | h
      · exact .inl hd
      · exact absurd hf hflags
      · refine .inr fun o ho halive hvalid hnone ↦ ?_
        rw [unitGuid_raise] at ho
        rw [findReference_raise] at hnone
        rw [getThreat_raised hlive]
        exact h o ho halive hvalid hnone
  · exact hchanged

theorem victim_updateOnlineStatus (hr : m.flagOf r = some false) :
    (HostileReference.updateOnlineStatus w m r).iCurrentVictim = m.iCurrentVictim := by
  obtain ⟨f, hflag, -, -, heq⟩ := updateOnlineStatus_eq w m r
  have hoff : (m.modifyRef r f).flagOf r = some false := by rw [flagOf_modifyRef m r r f hflag, hr]
  rw [heq]
  rcases setOnlineOfflineState_cases ((mem_refs_iff _ r).mpr ⟨false, hoff⟩) (m.foundOnline w r) with
    ⟨-, h⟩ | ⟨-, h⟩ | ⟨h, -⟩
  · rw [h]; rfl
  · rw [h]; rfl
  · simp [hoff] at h

theorem Tidy.addThreat_offline (hm : m.Tidy) (hcons : m.Consistent) (hvict : m.VictimOnline)
    (hr : m.flagOf r = some false) (hv : v ≠ 0)
    (h : v < 0 → m.foundOnline w r → m.CanArrive (m.getThreat r + v)) :
    (HostileReference.addThreat w m r v).Tidy := by
  have hlive : r ∈ m.refs := (mem_refs_iff m r).mpr ⟨false, hr⟩
  have hnot : r ∉ m.iThreatContainer.iThreatList := by simp [hcons.online, hr]
  have hsame : ∀ s ∈ m.iThreatContainer.iThreatList, m.threatAfter r v s = m.getThreat s :=
    fun s hs ↦ threatAfter_of_ne m v (ne_of_mem_of_not_mem hs hnot)
  have hflag : (m.raise r v).flagOf r = some false := by rw [flagOf_raise, hr]
  have hlive' : r ∈ (m.raise r v).refs := (mem_refs_iff _ r).mpr ⟨false, hflag⟩
  have hoff : (m.raise r v).isOnline r = false := by rw [isOnline_eq, hflag, Option.getD_some]
  have hvictim : (HostileReference.updateOnlineStatus w (m.raise r v) r).iCurrentVictim ≠ some r := by
    rw [victim_updateOnlineStatus hflag]
    exact fun hc ↦ hnot (hvict r hc)
  have hraised : (m.raise r v).Tidy := by
    rw [Tidy, getThreat_raised hlive]
    exact hm.imp id fun hm ↦ hm.congr hsame
  rw [HostileReference.addThreat, if_neg hv]
  rw [raise] at hoff
  simp only [hoff, if_true]
  rw [← raise, threatChange_flags]
  rcases lt_or_gt_of_ne hv with hneg | hpos
  · have hstatus : (HostileReference.updateOnlineStatus w (m.raise r v) r).Tidy := by
      refine hraised.updateOnlineStatus hlive' fun _ hfound ↦ ?_
      rw [foundOnline_raise] at hfound
      rw [CanArrive, getThreat_raised hlive, threatAfter_self]
      rcases h hneg hfound with hd | ⟨x, hx, hlt⟩ | hlast
      · exact .inl hd
      · exact .inr (.inl ⟨x, hx, (hsame x (hvict x hx)).symm ▸ hlt⟩)
      · exact .inr (.inr fun s hs ↦ (hsame s hs).symm ▸ hlast s hs)
    rw [if_neg fun h ↦ absurd h.2 (not_lt.mpr hneg.le)]
    split
    · exact .inl rfl
    · exact hstatus
  · have hflags : (HostileReference.updateOnlineStatus w (m.raise r v) r).flags r v := .inr ⟨hvictim, hpos⟩
    rw [if_pos hflags]
    split
    · exact .inl (dirty_addThreatToOwner rfl)
    · exact .inl rfl

theorem Tidy.addThreat (hm : m.Tidy) (hcons : m.Consistent) (hvict : m.VictimOnline)
    (hr : r ∈ m.refs) (h : m.AddKeepsOrder w r v) : (HostileReference.addThreat w m r v).Tidy := by
  by_cases hv : v = 0
  · rw [HostileReference.addThreat, if_pos hv]
    exact hm
  · obtain ⟨c, hc⟩ := (mem_refs_iff m r).mp hr
    have hon : m.isOnline r = c := by rw [isOnline_eq, hc, Option.getD_some]
    rw [AddKeepsOrder, hon] at h
    cases c with
    | true => exact hm.addThreat_online hcons hc hv h.1 h.2
    | false => exact hm.addThreat_offline hcons hvict hc hv h

/-! ## Runs that keep the order -/

variable {a : Call}

theorem Tidy.addTempThreat (hm : m.Tidy) (hcons : m.Consistent) (hr : r ∈ m.refs)
    (h : m.isOnline r → m.KeepsPlace r v) : (HostileReference.addTempThreat m r v).Tidy := by
  rw [HostileReference.addTempThreat]
  split
  · exact hm
  · next hv =>
    refine hm.change hr hv h hcons fun k ↦ ?_
    simp only [HostileReference.getThreat]
    ring

theorem dirty_addThreat (hd : m.iThreatContainer.iDirty = true) (hr : m.flagOf r = some true)
    (w : ThreatWorld) (v : ℚ) :
    (HostileReference.addThreat w m r v).iThreatContainer.iDirty = true := by
  by_cases hv : v = 0
  · rw [HostileReference.addThreat, if_pos hv]
    exact hd
  · obtain ⟨P, _, heq⟩ := addThreat_of_online (w := w) hr hv
    have hfired : ((m.raise r v).processThreatEvent r (.threatChange v)).iThreatContainer.iDirty = true := by
      rw [threatChange_flags]
      split
      · rfl
      · exact hd
    rw [heq]
    split
    · exact dirty_addThreatToOwner hfired
    · exact hfired

/-- Taking threat from a reference that is not the victim is just the write. -/
theorem addThreat_nonpos (hr : m.flagOf r = some true) (hvict : m.iCurrentVictim ≠ some r)
    (hv : v ≤ 0) : HostileReference.addThreat w m r v = m.raise r v := by
  by_cases hv0 : v = 0
  · subst hv0
    rw [HostileReference.addThreat, if_pos rfl, raise]
    exact (modifyRef_fixed fun k _ ↦ by simp).symm
  · obtain ⟨P, _, heq⟩ := addThreat_of_online (w := w) hr hv0
    have hflags : ¬(m.raise r v).flags r v := by
      rintro (h | h)
      · exact hvict h.1
      · exact absurd h.2 (not_lt.mpr hv)
    rw [heq, if_neg fun h ↦ absurd h.2 (not_lt.mpr hv), threatChange_flags, if_neg hflags]

/-- A unit that is hated for the first time.  With some threat its reference raises the flag, with
less than none it does not, and a game master's is taken off the list again. -/
theorem Tidy.hateNew (hm : m.Tidy) (hcons : m.Consistent) (hvict : m.VictimOnline) (hnone : m.findReference u = none)
    (h : 0 < v ∨ w.isGameMaster u = true ∨ m.iThreatContainer.iDirty = true ∨
      ∀ s ∈ m.iThreatContainer.iThreatList, v ≤ m.getThreat s) (isFirst : Bool) :
    ((HostileReference.addThreat w (m.newReference u) m.nextRef v).enlist w m.nextRef u isFirst).Tidy := by
  have hnot : m.nextRef ∉ m.iThreatContainer.iThreatList := by
    simp [hcons.online, hcons.flagOf_nextRef]
  have hnew : (m.newReference u).flagOf m.nextRef = some true := by
    simp [flagOf_newReference]
  have hlive : m.nextRef ∈ (m.newReference u).refs := (mem_newReference ..).mpr (.inl rfl)
  have hvictim : (m.newReference u).iCurrentVictim ≠ some m.nextRef := fun hc ↦ hnot (hvict _ hc)
  have hadded := (hcons.newReference hnone).addThreat hlive w v
  by_cases hd : (HostileReference.addThreat w (m.newReference u) m.nextRef v).iThreatContainer.iDirty
  · exact .inl (dirty_enlist hd (hadded.2 _ hlive) isFirst)
  have hclean : ¬m.iThreatContainer.iDirty = true := fun hc ↦ hd (dirty_addThreat (m := m.newReference u) hc hnew w v)
  have hv : v ≤ 0 := by
    by_contra hpos
    rw [not_le] at hpos
    obtain ⟨P, _, heq⟩ := addThreat_of_online (w := w) hnew hpos.ne'
    refine hd ?_
    rw [heq, threatChange_flags, if_pos (show ((m.newReference u).raise _ v).flags _ v from
      .inr ⟨hvictim, hpos⟩)]
    split
    · exact dirty_addThreatToOwner rfl
    · rfl
  have hold : Descending m.getThreat m.iThreatContainer.iThreatList := hm.resolve_left hclean
  have hthreat : ∀ s ∈ m.iThreatContainer.iThreatList,
      ((m.newReference u).raise m.nextRef v).getThreat s = m.getThreat s := fun s hs ↦ by
    have hsn : s ≠ m.nextRef := ne_of_mem_of_not_mem hs hnot
    rw [getThreat_raised hlive, threatAfter_of_ne _ _ hsn, getThreat_newReference, Function.update_of_ne hsn]
  have hlast : ((m.newReference u).raise m.nextRef v).getThreat m.nextRef = v := by
    simp [getThreat_raised hlive, threatAfter_self, getThreat_newReference]
  rw [addThreat_nonpos hnew hvictim hv] at hadded ⊢
  by_cases hgm : w.isGameMaster u = true
  · rw [ThreatManager.enlist, if_pos hgm, setOnlineOfflineState_false ((flagOf_raise ..).trans hnew)]
    refine tidy_takeOffline (.inr ?_)
    have hlist : ((m.newReference u).raise m.nextRef v).iThreatContainer.iThreatList.filter
        (· ≠ m.nextRef) = m.iThreatContainer.iThreatList := by
      show (m.iThreatContainer.iThreatList ++ [m.nextRef]).filter (· ≠ m.nextRef) = _
      rw [List.filter_append, List.filter_eq_self.mpr fun s hs ↦ by
        simpa using ne_of_mem_of_not_mem hs hnot]
      simp
    rw [hlist]
    exact hold.congr hthreat
  · have hfits := ((h.resolve_left (not_lt.mpr hv)).resolve_left hgm).resolve_left hclean
    refine Tidy.enlist (.inr ?_) (hadded.2 _ hlive) isFirst
    refine Descending.append_singleton (l := m.iThreatContainer.iThreatList)
      (hold.congr hthreat) fun s hs ↦ ?_
    rw [hthreat s hs, hlast]
    exact hfits s hs

theorem Tidy._addThreat (hm : m.Tidy) (hcons : m.Consistent) (hvict : m.VictimOnline)
    (h : m.HateKeepsOrder w u v) : (m._addThreat w u v).Tidy := by
  rw [ThreatManager._addThreat]
  rw [HateKeepsOrder] at h
  split
  · next r hfound =>
    rw [hfound] at h
    exact hm.addThreat hcons hvict (findReference_mem hcons hfound) h
  · next hnone =>
    rw [hnone] at h
    exact hm.hateNew hcons hvict hnone h _

theorem tidy_clearReferences (m : ThreatManager) : m.clearReferences.Tidy := .inr List.Pairwise.nil

theorem tidy_resetAllAggro (hm : m.Tidy) : (m.resetAllAggro w).Tidy := by
  rw [resetAllAggro]
  split
  · exact hm
  · exact .inl rfl

theorem Tidy.update (hm : m.Tidy) : Descending m.getThreat m.update.iThreatContainer.iThreatList := by
  simp only [ThreatManager.update, Bool.and_eq_true, decide_eq_true_eq]
  split
  · exact List.pairwise_insertionSort m.threatOrder _
  · next h =>
    rcases hm with hd | hm
    · have hlen : m.iThreatContainer.iThreatList.length ≤ 1 := by
        by_contra hlen
        exact h ⟨hd, not_le.mp hlen⟩
      rcases hl : m.iThreatContainer.iThreatList with _ | ⟨r, _ | ⟨r', rs⟩⟩
      · exact List.Pairwise.nil
      · exact List.pairwise_singleton _ r
      · exact absurd (hl ▸ hlen) (by simp)
    · exact hm

theorem Tidy.deleteReference (hm : m.Tidy) (hcons : m.Consistent) (hr : r ∈ m.refs) : (m.deleteReference r).Tidy := by
  have hdel := deleteReference_deleted hcons hr
  rw [Tidy, hdel.dirty, hdel.online, Bool.or_eq_true]
  refine hm.imp .inl fun hm ↦ (hm.filter _).congr fun s hs ↦ ?_
  have hsr : r ≠ s := fun h ↦ by simp [h] at hs
  simp [getThreat, hdel.refs, hsr]

theorem Tidy.next (hm : m.Tidy) (hcons : m.Consistent) (hvict : m.VictimOnline)
    (ha : a.KeepsOrder m) (h : m.next a = some m') : m'.Tidy := by
  cases a <;> simp only [ThreatManager.next, Option.ite_none_right_eq_some, Option.some_inj] at h
  case _addThreat w u v => exact h ▸ hm._addThreat hcons hvict ha
  case addThreat w r v => exact h.2 ▸ hm.addThreat hcons hvict h.1 ha
  case setThreat w r v => exact h.2 ▸ hm.addThreat hcons hvict h.1 ha
  case addTempThreat r v => exact h.2 ▸ hm.addTempThreat hcons h.1 ha
  case setTempThreat r v => exact h.2 ▸ hm.addTempThreat hcons h.1 ha
  case resetTempThreat r => exact h.2 ▸ hm.addTempThreat hcons h.1 ha
  case setOnlineOfflineState r b => exact h.2 ▸ hm.setOnlineOfflineState h.1 ha
  case updateOnlineStatus w r => exact h.2 ▸ hm.updateOnlineStatus h.1 ha
  case removeReference r => exact h.2 ▸ hm.deleteReference hcons h.1
  case clearReferences => exact h ▸ tidy_clearReferences m
  case setCurrentVictim r => exact h.2 ▸ hm
  case resetAllAggro w => exact h ▸ tidy_resetAllAggro hm
  case getHostilTarget w => exact h ▸ .inr hm.update

/-- **The order of every run that keeps it.**  In every state reached by calls that do not disorder
the list behind the dirty flag's back, `update` leaves the online list sorted by threat. -/
theorem sorted_of_reaches (owner : ObjectGuid)
    (h : (threatMachine owner).Reaches (fun m a ↦ a.KeepsOrder m) m) :
    Descending m.update.getThreat m.update.iThreatContainer.iThreatList := by
  have hinv : m.Tidy ∧ m.Consistent ∧ m.VictimOnline := by
    refine h.invariant (P := fun m ↦ m.Tidy ∧ m.Consistent ∧ m.VictimOnline) ?_ ?_
    · have hstart : (threatMachine owner).Reaches (fun _ _ ↦ True) (threatMachine owner).start := .start
      exact ⟨.inr List.Pairwise.nil, consistent_of_reaches hstart⟩
    · rintro m a m' ⟨hm, hcons, hvict⟩ ha hn
      exact ⟨hm.next hcons hvict ha hn, hcons.next hn, hvict.next hcons hn⟩
  exact hinv.1.update

/-- Two units gain threat, the list is read, and then the one that is behind loses some. -/
def twoOrdered : List Call := [._addThreat openWorld 5 10, ._addThreat openWorld 6 20, .getHostilTarget openWorld,
    .addThreat openWorld 0 (-3), .setOnlineOfflineState 0 false, .updateOnlineStatus openWorld 0]

theorem sorted_twoOrdered :
    ∃ m, (threatMachine 1).exec (fun m a ↦ a.KeepsOrder m) (.new 1) twoOrdered = some m ∧
      Descending m.update.getThreat m.update.iThreatContainer.iThreatList := by
  have hrun : ((threatMachine 1).exec (fun m a ↦ a.KeepsOrder m) (.new 1) twoOrdered).isSome := by
    decide +kernel
  obtain ⟨m, hm⟩ := Option.isSome_iff_exists.mp hrun
  exact ⟨m, hm, sorted_of_reaches 1 (Machine.reaches_of_exec twoOrdered hm)⟩

/-- The second of three units drops behind the third, and nothing raises the flag. -/
def secondDrops : List Call := [._addThreat openWorld 5 100, ._addThreat openWorld 6 50, ._addThreat openWorld 7 40,
    .getHostilTarget openWorld, .addThreat openWorld 1 (-30)]

theorem not_sorted_secondDrops : ¬∀ m, (threatMachine 1).Reachable m →
      Descending m.update.getThreat m.update.iThreatContainer.iThreatList := by
  intro h
  have hsorted := h _ (Machine.reaches_of_exec secondDrops rfl)
  revert hsorted
  decide +kernel

end ThreatManager

end Gundrak
