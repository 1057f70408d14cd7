import Gundrak.Reputation.States

/-!
# War with those who are hostile

Whoever changes a standing, or loads one, puts the player at war with a faction that is then hostile.  The player
itself can end a war, and there nothing asks for the rank: the call only refuses factions that are hidden or always
invisible.  This module shows that nothing else can go wrong.  It starts from what holds of a single faction,
`AtWarWith`.
-/

namespace Gundrak

namespace ReputationMgr

variable {stores : ReputationStores} {m m' : ReputationMgr} {f g : FactionEntry} {k : RepListID}
  {state state' : FactionState} {told : Option (ReputationRank × ReputationRank)} {seen : Bool}

/-- If the faction has had a change or a stored row, and is hostile, then the player is at war with it, unless that is
forbidden. -/
def AtWarWith (stores : ReputationStores) (m : ReputationMgr) (f : FactionEntry) : Prop :=
  f.key ∈ m.touched → ∀ state, m._factions f.key = some state → m.GetRank stores f ≤ REP_HOSTILE →
    exempt state = false → state.Flags.atWar = true

def HostileAtWar (stores : ReputationStores) (m : ReputationMgr) : Prop :=
  ∀ f ∈ stores.factions.listed, AtWarWith stores m f

/-- What a state must be like, so that the player is at war with the faction if it must be. -/
def WarState (stores : ReputationStores) (f : FactionEntry) (state : FactionState) : Prop :=
  ReputationToRank (GetBaseReputation stores f + state.Standing) ≤ REP_HOSTILE → exempt state = false →
    state.Flags.atWar = true

theorem atWarWith_iff (hf : f ∈ stores.factions.listed) (hstate : m._factions f.key = some state) :
    AtWarWith stores m f ↔ (f.key ∈ m.touched → WarState stores f state) := by
  rw [AtWarWith, getRank_of_state hf hstate]
  refine forall_congr' fun _ ↦ ⟨fun h ↦ h state hstate, fun h other hother ↦ ?_⟩
  obtain rfl := Option.some_inj.mp (hstate.symm.trans hother)
  exact h

theorem AtWarWith.frame (h : AtWarWith stores m f) (hf : f ∈ stores.factions.listed)
    (hfactions : m'._factions f.key = m._factions f.key) (htouched : f.key ∈ m'.touched → f.key ∈ m.touched) :
    AtWarWith stores m' f := by
  intro hmem state hstate hrank
  rw [getRank_of_state hf hstate] at hrank
  rw [hfactions] at hstate
  rw [← getRank_of_state hf hstate] at hrank
  exact h (htouched hmem) state hstate hrank

/-- **A change of one state**: only the factions with its list id are to be looked at. -/
theorem HostileAtWar.change (h : HostileAtWar stores m) (hchange : OneChange m m' k state' told seen)
    (touched : List RepListID) (htouched : ∀ k' ∈ touched, k' ≠ k → k' ∈ m.touched)
    (hwar : ∀ f ∈ stores.factions.listed, f.key = k → k ∈ touched → WarState stores f state') :
    HostileAtWar stores { m' with touched } := by
  intro f hf
  by_cases hkey : f.key = k
  · have hafter : ({ m' with touched } : ReputationMgr)._factions f.key = some state' := hkey ▸ hchange.after
    refine (atWarWith_iff hf hafter).mpr fun hmem ↦ hwar f hf hkey ?_
    rw [← hkey]
    exact hmem
  · refine (h f hf).frame hf ?_ fun hmem ↦ htouched f.key hmem hkey
    exact (hchange.factions f.key).trans (if_neg hkey)

theorem HostileAtWar.sameStanding (h : HostileAtWar stores m) (hstate : m._factions k = some state)
    (hchange : OneChange m m' k state' told seen) (hsame : SameStanding state state')
    (hwar : state.Flags.atWar = true → state'.Flags.atWar = true) : HostileAtWar stores m' := by
  have htouched := hchange.touched
  refine (h.change hchange m'.touched (fun k' hk' _ ↦ htouched ▸ hk') fun f hf hkey hmem hrank hexempt ↦ ?_ :)
  rw [htouched] at hmem
  subst hkey
  rw [hsame.standing] at hrank
  rw [hsame.exempt_eq] at hexempt
  exact hwar ((atWarWith_iff hf hstate).mp (h f hf) hmem hrank hexempt)

theorem hostileAtWar_start : HostileAtWar stores start := fun _ _ hmem ↦ absurd hmem List.not_mem_nil

/-! ## What the calls do -/

section

variable (h : HostileAtWar stores m)
include h

theorem HostileAtWar.setVisibleState (k : RepListID) : HostileAtWar stores (m.SetVisibleState k) := by
  obtain ⟨-, hsame⟩ | ⟨state, hstate, hchange⟩ := setVisibleState_cases m k
  · rw [hsame]
    exact h
  · exact h.sameStanding hstate hchange (sameStanding_madeVisible state) fun hwar ↦ (atWar_madeVisible state).trans hwar

theorem HostileAtWar.setVisible (f : FactionEntry) : HostileAtWar stores (m.SetVisible f) := by
  obtain hsame | hvisible := setVisible_cases m f
  · rw [hsame]
    exact h
  · rw [hvisible]
    exact h.setVisibleState f.key

theorem HostileAtWar.setInactive (k : RepListID) (on : Bool) : HostileAtWar stores (m.SetInactive k on) := by
  obtain ⟨-, hsame⟩ | ⟨state, hstate, hchange⟩ := modifyState_cases m k (·.SetInactive on)
  · rw [SetInactive, hsame]
    exact h
  · exact h.sameStanding hstate hchange (sameStanding_setInactive state on) fun hwar ↦
      (atWar_setInactive state on).trans hwar

theorem HostileAtWar.sendState : HostileAtWar stores m.SendState := by
  intro f hf hmem state hstate hrank
  rw [GetRank, getReputation_sendState hf] at hrank
  obtain ⟨sent, hsent, rfl⟩ := Option.map_eq_some_iff.mp hstate
  exact h f hf hmem sent hsent hrank

end

/-- **A change of one standing** puts the player at war with a faction that is then hostile. -/
theorem HostileAtWar.setOneFactionReputation (hunique : stores.factions.UniqueLists) :
    KeptByOne stores (HostileAtWar stores) := by
  intro m m' f standing incremental res hf h hset
  obtain ⟨-, rfl⟩ | ⟨state, total, hstate, -, -, rfl⟩ := setOneFactionReputation_cases hset
  · exact h
  · obtain ⟨m', hwrite, hchange⟩ := exists_oneChange_writeStanding m f.key state
      (total - GetBaseReputation stores f) (ReputationToRank (state.Standing + GetBaseReputation stores f))
      (ReputationToRank total)
    rw [hwrite]
    refine h.change hchange _ (fun k' hk' hne ↦ (List.mem_cons.mp hk').resolve_left hne) ?_
    intro g hg hkey _ hrank hexempt
    obtain rfl := hunique.eq_of_key hg (FactionStore.listed_of_key hf hg hkey.symm) hkey
    have hsame := sameStanding_writtenState state (total - GetBaseReputation stores g) (ReputationToRank total)
    rw [hsame.standing] at hrank
    have htotal : GetBaseReputation stores g + (total - GetBaseReputation stores g) = total := add_sub_cancel _ _
    have hhostile : ReputationToRank total ≤ REP_HOSTILE := htotal ▸ hrank
    refine atWar_forceWar hhostile ?_
    rw [← (sameStanding_forceWar (ReputationToRank total) _).exempt_eq]
    exact hexempt

/-! ### Loading -/

theorem touched_Initialize (m : ReputationMgr) : (m.Initialize stores).touched = m.touched := by
  refine foldl_rule (P := fun (m' : ReputationMgr) _ ↦ m'.touched = m.touched) (fun m' f rest h ↦ ?_) rfl
  by_cases h0 : 0 ≤ f.reputationListID
  · exact (oneChange_initializeFaction _ _ h0).touched.trans h
  · have hsame : initializeFaction stores m' f = m' := if_neg h0
    rw [hsame]
    exact h

/-- A faction is loaded with a state that it can not be hostile and at peace with. -/
theorem loadRow_atWarWith {row : ReputationRow} {rest : List ℕ} (hunique : stores.factions.UniqueLists)
    (h : ∀ f ∈ stores.factions.listed, f.ID ∉ row.faction :: rest → AtWarWith stores m f)
    (hrow : loadRow stores m row = some m') :
    ∀ f ∈ stores.factions.listed, f.ID ∉ rest → AtWarWith stores m' f := by
  intro g hg hgrest
  obtain ⟨rfl, hnone⟩ | ⟨f, hf, hid, loaded, hchange, rfl⟩ := loadRow_cases hrow
  · exact h g hg fun hmem ↦ (List.mem_cons.mp hmem).elim (hnone g hg) hgrest
  · by_cases hgf : g = f
    · subst hgf
      have hafter : ({ loaded with touched := g.key :: m.touched } : ReputationMgr)._factions g.key = _ := hchange.after
      refine (atWarWith_iff hg hafter).mpr fun _ hrank hexempt ↦ ?_
      have hsame := sameStanding_loadedState row (ReputationToRank (GetBaseReputation stores g + row.standing))
        ((m._factions g.key).getD {})
      rw [hsame.standing] at hrank
      rw [hsame.exempt_eq] at hexempt
      exact atWar_loadedState row _ hrank hexempt
    · have hne : g.ID ≠ f.ID := fun heq ↦ hgf (Option.some_inj.mp
        ((FactionStore.lookupEntry_eq_some.mpr ⟨(FactionStore.mem_listed.mp hg).1, heq⟩).symm.trans
          (FactionStore.lookupEntry_eq_some.mpr ⟨(FactionStore.mem_listed.mp hf).1, rfl⟩)))
      have hbefore := h g hg fun hmem ↦ (List.mem_cons.mp hmem).elim (fun heq ↦ hne (heq.trans hid.symm)) hgrest
      refine hbefore.frame hg (hchange.factions_of_ne hunique hf hg hgf) fun hmem ↦ ?_
      exact (List.mem_cons.mp hmem).resolve_left fun hkey ↦ hgf (hunique.eq_of_key hg hf hkey)

/-- A faction is not hostile, or at war with the player, when nothing is known but its base. -/
def WarBase (stores : ReputationStores) (f : FactionEntry) : Prop := GetBaseRank stores f ≤ REP_HOSTILE →
    ((GetDefaultStateFlags stores f).peaceForced && !(GetDefaultStateFlags stores f).rival) = false →
      (GetDefaultStateFlags stores f).atWar = true

theorem hostileAtWar_loadFromDB {rows : List ReputationRow} (hunique : stores.factions.UniqueLists)
    (hrows : ∀ f ∈ stores.factions.listed, f.key ∈ m.touched → f.ID ∉ rows.map (·.faction) → WarBase stores f)
    (h : m.LoadFromDB stores rows = some m') : HostileAtWar stores m' := by
  have hstart : ∀ f ∈ stores.factions.listed, f.ID ∉ rows.map (·.faction) →
      AtWarWith stores (m.Initialize stores) f := by
    intro f hf hnot
    obtain ⟨state, hstate, hzero, hflags⟩ := exists_state_Initialize hunique m hf
    refine (atWarWith_iff hf hstate).mpr fun hmem hrank hexempt ↦ ?_
    rw [touched_Initialize] at hmem
    rw [hzero, Int.add_zero] at hrank
    rw [exempt, hflags] at hexempt
    rw [hflags]
    exact hrows f hf hmem hnot hrank hexempt
  have hloaded := foldlM_rule
    (P := fun m (rest : List ReputationRow) ↦
      ∀ f ∈ stores.factions.listed, f.ID ∉ rest.map ReputationRow.faction → AtWarWith stores m f)
    (fun m row rest m' hbefore hrow ↦ loadRow_atWarWith hunique hbefore hrow) hstart h
  exact fun f hf ↦ hloaded f hf List.not_mem_nil

/-! ### The request of the player -/

/-- The request to end the war with a faction is not for one that had a change or a stored row and is hostile, unless
war with it is forbidden, or it can not change its war state. -/
def NotWithHostile (stores : ReputationStores) (m : ReputationMgr) (k : RepListID) : Prop :=
  ∀ f ∈ stores.factions.listed, f.key = k → k ∈ m.touched → ∀ state, m._factions k = some state →
    (state.Flags.invisibleForced || state.Flags.hidden) = false → m.GetRank stores f ≤ REP_HOSTILE → exempt state = true

theorem HostileAtWar.setAtWar {on : Bool} (h : HostileAtWar stores m)
    (hpeace : on = false → NotWithHostile stores m k) : HostileAtWar stores (m.SetAtWar k on) := by
  obtain ⟨-, hsame⟩ | ⟨state, hstate, hchange⟩ := modifyState_cases m k fun faction ↦
    if faction.Flags.invisibleForced || faction.Flags.hidden then faction else faction.SetAtWar on
  · rw [SetAtWar, hsame]
    exact h
  · have hsame : SameStanding state
        (if state.Flags.invisibleForced || state.Flags.hidden then state else state.SetAtWar on) := by
      split
      · exact ⟨rfl, rfl, rfl⟩
      · exact sameStanding_setAtWar state on
    have htouched := hchange.touched
    refine (h.change hchange _ (fun k' hk' _ ↦ htouched ▸ hk') fun f hf hkey hmem hrank hexempt ↦ ?_ :)
    rw [htouched] at hmem
    subst hkey
    rw [hsame.standing] at hrank
    rw [hsame.exempt_eq] at hexempt
    have hbefore := (atWarWith_iff hf hstate).mp (h f hf) hmem hrank hexempt
    split
    · exact hbefore
    · rename_i hfree
      cases on with
      | true => exact atWar_setAtWar hexempt
      | false =>
        rw [← getRank_of_state hf hstate] at hrank
        have hforbidden := hpeace rfl f hf rfl hmem state hstate (Bool.eq_false_iff.mpr hfree) hrank
        simp [hexempt] at hforbidden

/-! ## Runs -/

/-- The calls that end no war with one who is hostile: neither a request of the player, nor loading that leaves out
a faction that had a change or a row before, although its base is hostile and at peace. -/
def KeepsWar (stores : ReputationStores) (m : ReputationMgr) : ReputationCall → Prop
  | .LoadFromDB result =>
    ∀ f ∈ stores.factions.listed, f.key ∈ m.touched → f.ID ∉ result.map (·.faction) → WarBase stores f
  | .SetAtWar repListID on => on = false → NotWithHostile stores m repListID
  | _ => True

theorem HostileAtWar.next {call : ReputationCall} (hunique : stores.factions.UniqueLists) (h : HostileAtWar stores m)
    (hkeeps : KeepsWar stores m call) (hnext : m.next stores call = some m') : HostileAtWar stores m' := by
  refine next_invariant (HostileAtWar.setOneFactionReputation hunique) (fun _ h ↦ h.sendState) h.setVisible
    h.setInactive ?_ ?_ h hnext
  · rintro rows rfl hload
    exact hostileAtWar_loadFromDB hunique hkeeps hload
  · rintro k on rfl
    exact h.setAtWar hkeeps

/-- **The player is at war with those who are hostile**, in every state that is reached without ending such a war. -/
theorem hostileAtWar_of_reaches (hunique : stores.factions.UniqueLists)
    (h : (reputation stores).Reaches (KeepsWar stores) m) : HostileAtWar stores m :=
  h.invariant hostileAtWar_start fun _ _ _ hwar hkeeps hnext ↦ hwar.next hunique hkeeps hnext

/-- The row of a faction that hates the player. -/
def hatedRow : ReputationRow := ⟨1, -42000, { visible := true, atWar := true }, false⟩

/-- One faction hates the player when it is loaded, and the other one is made to. -/
theorem hostileAtWar_of_reaches_hated :
    ∃ m, m.GetRank twoStores (visibleFaction 0) = REP_HATED ∧ m.GetRank twoStores (visibleFaction 1) = REP_HATED ∧
      HostileAtWar twoStores m := by
  have hunique : twoStores.factions.UniqueLists := uniqueLists_visibleFactions 2 (by decide)
  have hrun : ((start.LoadFromDB twoStores [hatedRow]).bind fun m ↦
      (m.next twoStores (.SetReputation (visibleFaction 1) (-10000) false false)).bind fun m ↦
        m.next twoStores (.SetAtWar 0 true)).any (fun m ↦
          decide (m.GetRank twoStores (visibleFaction 0) = REP_HATED ∧
            m.GetRank twoStores (visibleFaction 1) = REP_HATED)) = true := by
    decide +kernel
  obtain ⟨m, hm, hend⟩ := (Option.any_eq_true _ _).mp hrun
  obtain ⟨loaded, hloaded, hm⟩ := Option.bind_eq_some_iff.mp hm
  obtain ⟨changed, hchanged, hset⟩ := Option.bind_eq_some_iff.mp hm
  have hstart : KeepsWar twoStores start (.LoadFromDB [hatedRow]) := fun _ _ hmem ↦ absurd hmem List.not_mem_nil
  have hreaches : (reputation twoStores).Reaches (KeepsWar twoStores) m :=
    .step (a := .SetAtWar 0 true) (.step (a := .SetReputation (visibleFaction 1) (-10000) false false)
        (.step (a := .LoadFromDB [hatedRow]) .start hstart hloaded) trivial hchanged)
      (fun hoff ↦ absurd hoff.symm Bool.false_ne_true) hset
  have hend := of_decide_eq_true hend
  exact ⟨m, hend.1, hend.2, hostileAtWar_of_reaches hunique hreaches⟩

/-- The player ends the war with a faction that hates it. -/
theorem not_hostileAtWar_peace :
    ∃ (stores : ReputationStores) (m : ReputationMgr), stores.factions.UniqueLists ∧ (reputation stores).Reachable m ∧
      ¬ HostileAtWar stores m := by
  obtain ⟨m, hreaches, ⟨hmem, hhated⟩, hstate⟩ := (reputation twoStores).exists_reachable
    [.LoadFromDB [hatedRow], .SetAtWar 0 false] (fun m ↦
      ((visibleFaction 0).key ∈ m.touched ∧ m.GetRank twoStores (visibleFaction 0) = REP_HATED) ∧
        ((m._factions (visibleFaction 0).key).any fun state ↦
          decide (state.Flags.peaceForced = false ∧ state.Flags.atWar = false)) = true) (by decide +kernel)
  obtain ⟨state, hstate, hflags⟩ := (Option.any_eq_true _ _).mp hstate
  have hflags := of_decide_eq_true hflags
  refine ⟨twoStores, m, uniqueLists_visibleFactions 2 (by decide), hreaches, fun hwar ↦ ?_⟩
  have hhostile : m.GetRank twoStores (visibleFaction 0) ≤ REP_HOSTILE := by
    rw [hhated]
    decide
  have hexempt : exempt state = false := by rw [exempt, hflags.1, Bool.false_and]
  have hatWar := hwar (visibleFaction 0) (by decide +kernel) hmem state hstate hhostile hexempt
  simp [hflags.2] at hatWar

end ReputationMgr

end Gundrak
