import Gundrak.Reputation.ReputationMgr
import Gundrak.Util.Counting

/-!
# The states of factions, call by call

What the operations of the `ReputationMgr` do to the state of one faction, and that they leave those of all
others alone.  Two invariants are built on this: that the counters are right, and that the player is at war with
those who are hostile.  For both it matters that no two factions share a list id.
-/

namespace Gundrak

open Checked (asInt32)

/-- The key of the state of a faction. -/
def FactionEntry.key (f : FactionEntry) : RepListID := uint32 f.reputationListID

namespace FactionStore

variable {store : FactionStore} {f g : FactionEntry} {id : ℕ}

theorem lookupEntry_eq_some : store.LookupEntry id = some f ↔ f ∈ store.rows ∧ f.ID = id := by
  rw [LookupEntry]
  constructor
  · intro h
    have hid := List.find?_some (p := fun g : FactionEntry ↦ decide (g.ID = id)) h
    exact ⟨List.mem_of_find?_eq_some h, of_decide_eq_true hid⟩
  · rintro ⟨hf, rfl⟩
    obtain ⟨l₁, l₂, hrows⟩ := List.append_of_mem hf
    have hascending := store.ascending
    rw [hrows, List.pairwise_append] at hascending
    have hbefore : ∀ g ∈ l₁, ¬ decide (g.ID = f.ID) = true := by
      intro g hg heq
      exact absurd (of_decide_eq_true heq) (hascending.2.2 g hg f List.mem_cons_self).ne
    have hthere : decide (f.ID = f.ID) = true := decide_eq_true rfl
    rw [hrows, List.find?_append, List.find?_eq_none.mpr hbefore, Option.none_or]
    exact List.find?_cons_of_pos hthere

theorem mem_listed : f ∈ store.listed ↔ f ∈ store.rows ∧ 0 ≤ f.reputationListID := by
  simp [listed]

theorem listed_nodup (store : FactionStore) : store.listed.Nodup :=
  (store.ascending.imp fun h heq ↦ (heq ▸ h).false).filter _

/-- No two factions of the list share a list id. -/
def UniqueLists (store : FactionStore) : Prop :=
  ∀ f ∈ store.listed, ∀ g ∈ store.listed, f.reputationListID = g.reputationListID → f = g

theorem key_of_listed (hf : f ∈ store.listed) : (f.key : ℤ) = f.reputationListID := by
  obtain ⟨hfr, hf0⟩ := mem_listed.mp hf
  have hf32 := store.int32 f hfr
  rw [FactionEntry.key, uint32, Int.toNat_of_nonneg (Int.emod_nonneg _ (by decide))]
  exact Int.emod_eq_of_lt hf0 (by omega)

theorem UniqueLists.eq_of_key (h : store.UniqueLists) (hf : f ∈ store.listed) (hg : g ∈ store.listed)
    (hkey : f.key = g.key) : f = g := by
  exact h f hf g hg (by rw [← key_of_listed hf, ← key_of_listed hg, hkey])

/-- The key of a faction that is not in the list is none of the list. -/
theorem listed_of_key (hf : f ∈ store.rows) (hg : g ∈ store.listed) (hkey : f.key = g.key) : f ∈ store.listed := by
  have hf32 := store.int32 f hf
  have hg32 := store.int32 g (mem_listed.mp hg).1
  have hgkey := key_of_listed hg
  refine mem_listed.mpr ⟨hf, ?_⟩
  rw [← hkey, FactionEntry.key, uint32, Int.toNat_of_nonneg (Int.emod_nonneg _ (by decide))] at hgkey
  by_contra hneg
  have hwrap : f.reputationListID % 2 ^ 32 = f.reputationListID + 2 ^ 32 := by
    rw [← Int.add_emod_right, Int.emod_eq_of_lt (by omega) (by omega)]
  omega

end FactionStore

namespace ReputationMgr

variable {stores : ReputationStores} {m m' : ReputationMgr} {f g : FactionEntry} {k : RepListID}
  {state : FactionState}

section

variable (hf : f ∈ stores.factions.listed)
include hf

theorem getState_of_listed : m.GetState f = m._factions f.key := if_pos (FactionStore.mem_listed.mp hf).2

theorem getRank_of_state (hstate : m._factions f.key = some state) :
    m.GetRank stores f = ReputationToRank (GetBaseReputation stores f + state.Standing) := by
  rw [GetRank, GetReputation, getState_of_listed hf, hstate]

theorem getReputation_of_state (hstate : m._factions f.key = some state) :
    m.GetReputation stores f = GetBaseReputation stores f + state.Standing := by
  rw [GetReputation, getState_of_listed hf, hstate]

theorem getReputation_of_none (hnone : m._factions f.key = none) : m.GetReputation stores f = 0 := by
  rw [GetReputation, getState_of_listed hf, hnone]

end

/-! ## One state -/

@[simp] theorem factions_setState (m : ReputationMgr) (k : RepListID) (state : FactionState) (k' : RepListID) :
    (m.setState k state)._factions k' = if k' = k then some state else m._factions k' :=
  Function.update_apply m._factions k (some state) k'

theorem factions_sendState (m : ReputationMgr) (k : RepListID) :
    m.SendState._factions k = (m._factions k).map fun state ↦ { state with needSend := false } := rfl

/-- A faction that is made visible, as far as it can be. -/
def madeVisible (faction : FactionState) : FactionState :=
  if (faction.Flags.invisibleForced || faction.Flags.hidden) && !faction.Flags.special then faction
  else if faction.Flags.visible then faction
  else { faction with Flags := { faction.Flags with visible := true }, needSend := true, needSave := true }

/-- What making a faction visible, inactive, or at war with does not change. -/
structure SameStanding (faction faction' : FactionState) : Prop where
  standing : faction'.Standing = faction.Standing
  peaceForced : faction'.Flags.peaceForced = faction.Flags.peaceForced
  rival : faction'.Flags.rival = faction.Flags.rival

theorem SameStanding.trans {a b c : FactionState} (h : SameStanding a b) (h' : SameStanding b c) : SameStanding a c :=
  ⟨h'.standing.trans h.standing, h'.peaceForced.trans h.peaceForced, h'.rival.trans h.rival⟩

section

variable (state : FactionState)

theorem sameStanding_madeVisible : SameStanding state (madeVisible state) := by
  rw [madeVisible]
  split
  · exact ⟨rfl, rfl, rfl⟩
  · split <;> exact ⟨rfl, rfl, rfl⟩

theorem sameStanding_setAtWar (atWar : Bool) : SameStanding state (state.SetAtWar atWar) := by
  rw [FactionState.SetAtWar]
  split
  · exact ⟨rfl, rfl, rfl⟩
  · split <;> exact ⟨rfl, rfl, rfl⟩

theorem sameStanding_setInactive (inactive : Bool) : SameStanding state (state.SetInactive inactive) := by
  rw [FactionState.SetInactive]
  split
  · exact ⟨rfl, rfl, rfl⟩
  · split <;> exact ⟨rfl, rfl, rfl⟩

theorem visible_setAtWar (atWar : Bool) : (state.SetAtWar atWar).Flags.visible = state.Flags.visible := by
  rw [FactionState.SetAtWar]
  split
  · rfl
  · split <;> rfl

theorem visible_setInactive (inactive : Bool) : (state.SetInactive inactive).Flags.visible = state.Flags.visible := by
  rw [FactionState.SetInactive]
  split
  · rfl
  · split <;> rfl

end

theorem visible_madeVisible (h : state.Flags.visible = true) : (madeVisible state).Flags.visible = true := by
  simpa [madeVisible, h] using h

/-- A faction that the player can not be at war with. -/
def exempt (faction : FactionState) : Bool := faction.Flags.peaceForced && !faction.Flags.rival

theorem SameStanding.exempt_eq {faction faction' : FactionState} (h : SameStanding faction faction') :
    exempt faction' = exempt faction := by
  rw [exempt, exempt, h.peaceForced, h.rival]

theorem atWar_setAtWar (h : exempt state = false) : (state.SetAtWar true).Flags.atWar = true := by
  have hallowed : ¬ (true && state.Flags.peaceForced && !state.Flags.rival) = true := by
    rw [Bool.true_and]
    exact Bool.eq_false_iff.mp h
  rw [FactionState.SetAtWar, if_neg hallowed]
  split
  · assumption
  · rfl

theorem atWar_madeVisible (state : FactionState) : (madeVisible state).Flags.atWar = state.Flags.atWar := by
  rw [madeVisible]
  split
  · rfl
  · split <;> rfl

theorem atWar_setInactive (state : FactionState) (inactive : Bool) :
    (state.SetInactive inactive).Flags.atWar = state.Flags.atWar := by
  rw [FactionState.SetInactive]
  split
  · rfl
  · split <;> rfl

/-- War with a faction of this rank, if that is hostile. -/
def forceWar (rank : ReputationRank) (faction : FactionState) : FactionState :=
  if rank ≤ REP_HOSTILE then faction.SetAtWar true else faction

theorem sameStanding_forceWar (rank : ReputationRank) (state : FactionState) :
    SameStanding state (forceWar rank state) := by
  rw [forceWar]
  split
  · exact sameStanding_setAtWar state true
  · exact ⟨rfl, rfl, rfl⟩

theorem visible_forceWar (rank : ReputationRank) (state : FactionState) :
    (forceWar rank state).Flags.visible = state.Flags.visible := by
  rw [forceWar]
  split
  · exact visible_setAtWar state true
  · rfl

theorem atWar_forceWar {rank : ReputationRank} (hrank : rank ≤ REP_HOSTILE) (h : exempt state = false) :
    (forceWar rank state).Flags.atWar = true := by
  rw [forceWar, if_pos hrank]
  exact atWar_setAtWar h

/-! ## One change -/

/-- What a counter is told of a change of rank, if it is told of one. -/
def toldCounter (rank : ReputationRank) (told : Option (ReputationRank × ReputationRank)) (count : ℕ) : ℕ :=
  match told with
  | none => count
  | some (old_rank, new_rank) => updateCounter rank old_rank new_rank count

/-- One state is changed.  The counters are told of its ranks, and the counter of visible factions whether it is
seen for the first time. -/
structure OneChange (m m' : ReputationMgr) (k : RepListID) (state' : FactionState)
    (told : Option (ReputationRank × ReputationRank)) (seen : Bool) : Prop where
  factions : ∀ k', m'._factions k' = if k' = k then some state' else m._factions k'
  honored : m'._honoredFactionCount = toldCounter REP_HONORED told m._honoredFactionCount
  revered : m'._reveredFactionCount = toldCounter REP_REVERED told m._reveredFactionCount
  exalted : m'._exaltedFactionCount = toldCounter REP_EXALTED told m._exaltedFactionCount
  visible : m'._visibleFactionCount = if seen then increment m._visibleFactionCount else m._visibleFactionCount
  touched : m'.touched = m.touched

namespace OneChange

variable {told : Option (ReputationRank × ReputationRank)} {seen : Bool}

theorem same (hstate : m._factions k = some state) : OneChange m m k state none false := by
  refine ⟨fun k' ↦ ?_, rfl, rfl, rfl, rfl, rfl⟩
  split
  · rename_i heq
    rw [heq, hstate]
  · rfl

theorem setState (m : ReputationMgr) (k : RepListID) (state : FactionState) :
    OneChange m (m.setState k state) k state none false :=
  ⟨fun k' ↦ factions_setState m k state k', rfl, rfl, rfl, rfl, rfl⟩

theorem after (h : OneChange m m' k state told seen) : m'._factions k = some state := (h.factions k).trans (if_pos rfl)

theorem modifyState (h : OneChange m m' k state told seen) (g : FactionState → FactionState) :
    OneChange m (m'.modifyState k g) k (g state) told seen := by
  have hmodify : m'.modifyState k g = m'.setState k (g state) := by rw [ReputationMgr.modifyState, h.after]
  rw [hmodify]
  refine ⟨fun k' ↦ ?_, h.honored, h.revered, h.exalted, h.visible, h.touched⟩
  rw [factions_setState, h.factions]
  split <;> rfl

theorem setVisibleState (h : OneChange m m' k state told false) :
    OneChange m (m'.SetVisibleState k) k (madeVisible state) told
      ((madeVisible state).Flags.visible != state.Flags.visible) := by
  have hvisible := h.visible
  rw [if_neg Bool.false_ne_true] at hvisible
  rw [SetVisibleState, h.after, madeVisible]
  dsimp only
  split
  · simpa using h
  · split
    · simpa using h
    · rename_i hnot
      rw [bne_iff_ne.mpr fun heq ↦ hnot heq.symm]
      refine ⟨fun k' ↦ ?_, h.honored, h.revered, h.exalted, congrArg increment hvisible, h.touched⟩
      have hset := factions_setState m' k
        { state with Flags := { state.Flags with visible := true }, needSend := true, needSave := true } k'
      rw [h.factions] at hset
      refine hset.trans ?_
      split <;> rfl

theorem either {c : Prop} [Decidable c] {m₁ m₂ : ReputationMgr} {state₁ state₂ : FactionState}
    (h₁ : OneChange m m₁ k state₁ told seen) (h₂ : OneChange m m₂ k state₂ told seen) :
    OneChange m (if c then m₁ else m₂) k (if c then state₁ else state₂) told seen := by
  split
  · exact h₁
  · exact h₂

/-- The player is at war with the faction, if it is hostile. -/
theorem forceWar (h : OneChange m m' k state told seen) (rank : ReputationRank) :
    OneChange m (if rank ≤ REP_HOSTILE then m'.modifyState k (·.SetAtWar true) else m') k
      (ReputationMgr.forceWar rank state) told seen :=
  (h.modifyState _).either h

theorem updateRankCounters (h : OneChange m m' k state none seen) (old_rank new_rank : ReputationRank) :
    OneChange m (m'.UpdateRankCounters old_rank new_rank) k state (some (old_rank, new_rank)) seen :=
  ⟨h.factions, congrArg (updateCounter REP_HONORED old_rank new_rank) h.honored,
    congrArg (updateCounter REP_REVERED old_rank new_rank) h.revered,
    congrArg (updateCounter REP_EXALTED old_rank new_rank) h.exalted, h.visible, h.touched⟩

section

variable (h : OneChange m m' f.key state told seen) (hunique : stores.factions.UniqueLists)
  (hf : f ∈ stores.factions.listed) (hg : g ∈ stores.factions.listed) (hne : g ≠ f)
include h hunique hf hg hne

theorem factions_of_ne : m'._factions g.key = m._factions g.key := by
  rw [h.factions, if_neg fun hkey ↦ hne (hunique.eq_of_key hg hf hkey)]

theorem getReputation_of_ne : m'.GetReputation stores g = m.GetReputation stores g := by
  simp [GetReputation, getState_of_listed hg, h.factions_of_ne hunique hf hg hne]

end

end OneChange

theorem oneChange_initializeFaction (stores : ReputationStores) (m : ReputationMgr) (hf : 0 ≤ f.reputationListID) :
    OneChange m (initializeFaction stores m f) f.key
      { ID := f.ID, ReputationListID := f.key, Standing := 0, Flags := GetDefaultStateFlags stores f,
        needSend := true, needSave := true }
      (some (REP_HOSTILE, GetBaseRank stores f)) (GetDefaultStateFlags stores f).visible := by
  rw [initializeFaction, if_pos hf]
  dsimp only
  cases (GetDefaultStateFlags stores f).visible with
  | true => exact ⟨fun k' ↦ factions_setState _ _ _ k', rfl, rfl, rfl, rfl, rfl⟩
  | false => exact ⟨fun k' ↦ factions_setState _ _ _ k', rfl, rfl, rfl, rfl, rfl⟩

/-! ### A standing is changed -/

/-- The state of a faction that gets a standing, before it may come to a war. -/
def shownState (state : FactionState) (Standing : ℤ) : FactionState :=
  madeVisible { state with Standing, needSend := true, needSave := true }

/-- The state of a faction that gets a standing. -/
def writtenState (state : FactionState) (Standing : ℤ) (new_rank : ReputationRank) : FactionState :=
  forceWar new_rank (shownState state Standing)

section

variable (state : FactionState) (Standing : ℤ) (rank : ReputationRank)

theorem sameStanding_writtenState : SameStanding { state with Standing } (writtenState state Standing rank) := by
  have hshown : SameStanding { state with Standing } (shownState state Standing) := by
    have hvisible := sameStanding_madeVisible { state with Standing, needSend := true, needSave := true }
    exact ⟨hvisible.standing, hvisible.peaceForced, hvisible.rival⟩
  exact hshown.trans (sameStanding_forceWar rank _)

theorem visible_writtenState :
    (writtenState state Standing rank).Flags.visible = (shownState state Standing).Flags.visible :=
  visible_forceWar rank _

end

theorem visible_shownState {Standing : ℤ} (h : state.Flags.visible = true) :
    (shownState state Standing).Flags.visible = true :=
  visible_madeVisible h

/-- **A standing is written**: the state is changed, and the counters are told of its ranks. -/
theorem exists_oneChange_writeStanding (m : ReputationMgr) (k : RepListID) (state : FactionState) (Standing : ℤ)
    (old_rank new_rank : ReputationRank) :
    ∃ m', m.writeStanding k state Standing old_rank new_rank = { m' with touched := k :: m.touched } ∧
      OneChange m m' k (writtenState state Standing new_rank) (some (old_rank, new_rank))
        ((shownState state Standing).Flags.visible != state.Flags.visible) := by
  have hwritten := OneChange.setState m k { state with Standing, needSend := true, needSave := true }
  have hshown := hwritten.setVisibleState
  rw [writeStanding]
  generalize (m.setState k _).SetVisibleState k = shown at hshown ⊢
  have hwar := hshown.forceWar new_rank
  generalize (if new_rank ≤ REP_HOSTILE then shown.modifyState k (·.SetAtWar true) else shown) = atWar at hwar ⊢
  have hsent : OneChange m (if new_rank > old_rank then { atWar with _sendFactionIncreased := true } else atWar) k
      (forceWar new_rank (shownState state Standing)) none
      ((shownState state Standing).Flags.visible != state.Flags.visible) := by
    split
    · exact ⟨hwar.factions, hwar.honored, hwar.revered, hwar.exalted, hwar.visible, hwar.touched⟩
    · exact hwar
  have htold := hsent.updateRankCounters old_rank new_rank
  refine ⟨_, ?_, htold⟩
  rw [htold.touched]

theorem clamp_bounds (standing : ℤ) : Reputation_Bottom ≤ clamp standing ∧ clamp standing ≤ Reputation_Cap := by
  rw [clamp, Reputation_Bottom, Reputation_Cap]
  split
  · exact ⟨by decide, le_rfl⟩
  · split <;> omega

/-- **A change of one standing**: there is a state, or else nothing happens. -/
theorem setOneFactionReputation_cases {standing : ℤ} {incremental res : Bool}
    (h : m.SetOneFactionReputation stores f standing incremental = some (res, m')) :
    (m._factions f.key = none ∧ m' = m) ∨
      ∃ state total, m._factions f.key = some state ∧ Reputation_Bottom ≤ total ∧ total ≤ Reputation_Cap ∧
        m' = m.writeStanding f.key state (total - GetBaseReputation stores f)
          (ReputationToRank (state.Standing + GetBaseReputation stores f)) (ReputationToRank total) := by
  rw [SetOneFactionReputation] at h
  split at h
  · rename_i hnone
    exact Or.inl ⟨hnone, (congrArg Prod.snd (Option.some_inj.mp h)).symm⟩
  · rename_i state hstate
    obtain ⟨wanted, -, h⟩ := Option.bind_eq_some_iff.mp h
    obtain ⟨current, hcurrent, h⟩ := Option.bind_eq_some_iff.mp h
    obtain ⟨Standing, hStanding, h⟩ := Option.bind_eq_some_iff.mp h
    obtain ⟨-, rfl⟩ := Checked.asInt32_eq_some.mp hcurrent
    obtain ⟨-, rfl⟩ := Checked.asInt32_eq_some.mp hStanding
    have hbounds := clamp_bounds wanted
    exact Or.inr ⟨state, clamp wanted, hstate, hbounds.1, hbounds.2, (congrArg Prod.snd (Option.some_inj.mp h)).symm⟩

/-! ### The other calls -/

theorem getReputation_sendState (hf : f ∈ stores.factions.listed) :
    m.SendState.GetReputation stores f = m.GetReputation stores f := by
  rw [GetReputation, GetReputation, getState_of_listed hf, getState_of_listed hf, factions_sendState]
  cases m._factions f.key with
  | none => rfl
  | some state => rfl

theorem modifyState_cases (m : ReputationMgr) (k : RepListID) (g : FactionState → FactionState) :
    (m._factions k = none ∧ m.modifyState k g = m) ∨
      ∃ state, m._factions k = some state ∧ OneChange m (m.modifyState k g) k (g state) none false := by
  cases hstate : m._factions k with
  | none => exact Or.inl ⟨rfl, by rw [modifyState, hstate]⟩
  | some state => exact Or.inr ⟨state, rfl, (OneChange.same hstate).modifyState g⟩

theorem setVisibleState_cases (m : ReputationMgr) (k : RepListID) : (m._factions k = none ∧ m.SetVisibleState k = m) ∨
      ∃ state, m._factions k = some state ∧ OneChange m (m.SetVisibleState k) k (madeVisible state) none
        ((madeVisible state).Flags.visible != state.Flags.visible) := by
  cases hstate : m._factions k with
  | none => exact Or.inl ⟨rfl, by rw [SetVisibleState, hstate]⟩
  | some state => exact Or.inr ⟨state, rfl, (OneChange.same hstate).setVisibleState⟩

theorem setVisible_cases (m : ReputationMgr) (f : FactionEntry) :
    m.SetVisible f = m ∨ m.SetVisible f = m.SetVisibleState f.key := by
  rw [SetVisible]
  split
  · exact Or.inl rfl
  · exact Or.inr rfl

theorem setVisibleTemplate_cases (stores : ReputationStores) (m : ReputationMgr) (faction : ℕ) :
    m.SetVisibleTemplate stores faction = m ∨
      ∃ f ∈ stores.factions.rows, m.SetVisibleTemplate stores faction = m.SetVisible f := by
  rw [SetVisibleTemplate]
  split
  · exact Or.inl rfl
  · split
    · exact Or.inl rfl
    · rename_i f hf
      split
      · exact Or.inl rfl
      · exact Or.inr ⟨f, (FactionStore.lookupEntry_eq_some.mp hf).1, rfl⟩

/-! ### A stored row is loaded -/

theorem sameStanding_loadAtWar (flags : FactionFlags) (state : FactionState) :
    SameStanding state (loadAtWar flags state) := by
  rw [loadAtWar]
  split
  · exact sameStanding_setAtWar state true
  · split
    · exact sameStanding_setAtWar state false
    · exact ⟨rfl, rfl, rfl⟩

theorem visible_loadAtWar (flags : FactionFlags) (state : FactionState) :
    (loadAtWar flags state).Flags.visible = state.Flags.visible := by
  rw [loadAtWar]
  split
  · exact visible_setAtWar state true
  · split
    · exact visible_setAtWar state false
    · rfl

/-- The state of a faction that gets a stored standing. -/
def shownRow (state : FactionState) (row : ReputationRow) : FactionState :=
  if row.flags.visible then madeVisible { state with Standing := row.standing }
  else { state with Standing := row.standing }

/-- The state of a faction that is as active as its stored row says. -/
def settledRow (state : FactionState) (row : ReputationRow) : FactionState :=
  if row.flags.inactive then (shownRow state row).SetInactive true else shownRow state row

/-- The state of a faction when its stored row is loaded. -/
def loadedState (state : FactionState) (row : ReputationRow) (rank : ReputationRank) : FactionState :=
  resetChanged row (forceWar rank (loadAtWar row.flags (settledRow state row)))

section loaded

variable (row : ReputationRow) (rank : ReputationRank)

section

variable (state : FactionState)

theorem flags_resetChanged : (resetChanged row state).Flags = state.Flags := by
  rw [resetChanged]
  split <;> rfl

theorem standing_resetChanged : (resetChanged row state).Standing = state.Standing := by
  rw [resetChanged]
  split <;> rfl

theorem sameStanding_shownRow : SameStanding { state with Standing := row.standing } (shownRow state row) := by
  rw [shownRow]
  split
  · exact sameStanding_madeVisible _
  · exact ⟨rfl, rfl, rfl⟩

theorem sameStanding_settledRow : SameStanding (shownRow state row) (settledRow state row) := by
  rw [settledRow]
  split
  · exact sameStanding_setInactive _ true
  · exact ⟨rfl, rfl, rfl⟩

theorem visible_settledRow : (settledRow state row).Flags.visible = (shownRow state row).Flags.visible := by
  rw [settledRow]
  split
  · exact visible_setInactive _ true
  · rfl

theorem sameStanding_loadedState :
    SameStanding { state with Standing := row.standing } (loadedState state row rank) := by
  have hsettled := (sameStanding_shownRow row state).trans (sameStanding_settledRow row state)
  have hwar := (hsettled.trans (sameStanding_loadAtWar row.flags _)).trans (sameStanding_forceWar rank _)
  refine hwar.trans ⟨standing_resetChanged row _, ?_, ?_⟩
  · rw [loadedState, flags_resetChanged]
  · rw [loadedState, flags_resetChanged]

theorem visible_loadedState : (loadedState state row rank).Flags.visible = (shownRow state row).Flags.visible := by
  rw [loadedState, flags_resetChanged, visible_forceWar, visible_loadAtWar, visible_settledRow]

end

theorem visible_loadedState_of_visible (h : state.Flags.visible = true) :
    (loadedState state row rank).Flags.visible = true := by
  rw [visible_loadedState, shownRow]
  split
  · exact visible_madeVisible h
  · exact h

theorem atWar_loadedState (hrank : rank ≤ REP_HOSTILE) (h : exempt state = false) :
    (loadedState state row rank).Flags.atWar = true := by
  have hsettled := (sameStanding_shownRow row state).trans (sameStanding_settledRow row state)
  have hwar := hsettled.trans (sameStanding_loadAtWar row.flags _)
  rw [loadedState, flags_resetChanged]
  exact atWar_forceWar hrank (hwar.exempt_eq.trans h)

end loaded

theorem OneChange.loadFlags {told : Option (ReputationRank × ReputationRank)} {row : ReputationRow}
    (h : OneChange m m' f.key { state with Standing := row.standing } told false)
    (hf : f ∈ stores.factions.listed) :
    OneChange m (m'.loadFlags stores f row) f.key
      (loadedState state row (ReputationToRank (GetBaseReputation stores f + row.standing))) told
      ((shownRow state row).Flags.visible != state.Flags.visible) := by
  have hshown : OneChange m (if row.flags.visible then m'.SetVisibleState f.key else m') f.key (shownRow state row)
      told ((shownRow state row).Flags.visible != state.Flags.visible) := by
    rw [shownRow]
    split
    · exact h.setVisibleState
    · simpa using h
  have hsettled : OneChange m _ f.key (settledRow state row) told _ :=
    (hshown.modifyState (·.SetInactive true)).either (c := row.flags.inactive = true) hshown
  have hwar := hsettled.modifyState (loadAtWar row.flags)
  have hrank := getRank_of_state hf hwar.after
  have hstanding : (loadAtWar row.flags (settledRow state row)).Standing = row.standing :=
    (((sameStanding_shownRow row state).trans (sameStanding_settledRow row state)).trans
      (sameStanding_loadAtWar row.flags _)).standing
  rw [hstanding] at hrank
  have hlast := (hwar.forceWar (ReputationToRank (GetBaseReputation stores f + row.standing))).modifyState
    (resetChanged row)
  rw [← hrank] at hlast ⊢
  exact hlast

/-- **A stored row is loaded**, for a faction that is in the list. -/
theorem loadRow_cases {row : ReputationRow} (h : loadRow stores m row = some m') :
    (m' = m ∧ ∀ f ∈ stores.factions.listed, f.ID ≠ row.faction) ∨
      ∃ f ∈ stores.factions.listed, f.ID = row.faction ∧ ∃ loaded, OneChange m loaded f.key
          (loadedState ((m._factions f.key).getD {}) row (ReputationToRank (GetBaseReputation stores f + row.standing)))
          (some (GetBaseRank stores f, ReputationToRank (GetBaseReputation stores f + row.standing)))
          ((shownRow ((m._factions f.key).getD {}) row).Flags.visible != ((m._factions f.key).getD {}).Flags.visible) ∧
        m' = { loaded with touched := f.key :: m.touched } := by
  rw [loadRow] at h
  split at h
  · rename_i hnone
    refine Or.inl ⟨(Option.some_inj.mp h).symm, fun f hf hid ↦ ?_⟩
    simp [FactionStore.lookupEntry_eq_some.mpr ⟨(FactionStore.mem_listed.mp hf).1, hid⟩] at hnone
  · rename_i f hf
    obtain ⟨hf, hid⟩ := FactionStore.lookupEntry_eq_some.mp hf
    split at h
    · rename_i h0
      have hlisted := FactionStore.mem_listed.mpr ⟨hf, h0⟩
      obtain ⟨total, htotal, h⟩ := Option.bind_eq_some_iff.mp h
      obtain ⟨-, rfl⟩ := Checked.asInt32_eq_some.mp htotal
      have hstanding := (OneChange.setState m f.key
        { (m._factions f.key).getD {} with Standing := row.standing }).updateRankCounters (GetBaseRank stores f)
        (ReputationToRank (GetBaseReputation stores f + row.standing))
      have hflags := hstanding.loadFlags hlisted
      refine Or.inr ⟨f, hlisted, hid, _, hflags, ?_⟩
      rw [hflags.touched.symm]
      exact (Option.some_inj.mp h).symm
    · rename_i hneg
      refine Or.inl ⟨(Option.some_inj.mp h).symm, fun g hg hgid ↦ ?_⟩
      obtain ⟨hg, hg0⟩ := FactionStore.mem_listed.mp hg
      have hfg : some f = some g :=
        (FactionStore.lookupEntry_eq_some.mpr ⟨hf, hid⟩).symm.trans (FactionStore.lookupEntry_eq_some.mpr ⟨hg, hgid⟩)
      exact hneg (Option.some_inj.mp hfg ▸ hg0)

/-! ### Reputation with all that it spills over to -/

section spillover

variable {P : ReputationMgr → Prop} {standing : ℤ} {incremental : Bool}

/-- `P` is kept by a change of one standing. -/
def KeptByOne (stores : ReputationStores) (P : ReputationMgr → Prop) : Prop :=
  ∀ (m m' : ReputationMgr) (f : FactionEntry) (standing : ℤ) (incremental res : Bool), f ∈ stores.factions.rows →
    P m → m.SetOneFactionReputation stores f standing incremental = some (res, m') → P m'

theorem spillOverTemplate_invariant {s : Spillover} (hone : KeptByOne stores P) (hm : P m)
    (h : spillOverTemplate stores standing incremental m s = some m') : P m' := by
  rw [spillOverTemplate] at h
  split at h
  · obtain ⟨spilloverRep, -, h⟩ := Option.bind_eq_some_iff.mp h
    obtain ⟨g, hg, h⟩ := Option.bind_eq_some_iff.mp h
    obtain ⟨⟨res, m₁⟩, hset, h⟩ := Option.bind_eq_some_iff.mp h
    rw [← Option.some_inj.mp h]
    exact hone m m₁ g _ _ res (FactionStore.lookupEntry_eq_some.mp hg).1 hm hset
  · exact Option.some_inj.mp h ▸ hm

theorem spillOverTeam_invariant {spillOverRepOut : ℚ} {acc acc' : Bool × ReputationMgr} {id : ℕ}
    (hone : KeptByOne stores P) (hm : P acc.2)
    (h : spillOverTeam stores f spillOverRepOut incremental acc id = some acc') : P acc'.2 := by
  rw [spillOverTeam] at h
  split at h
  · exact Option.some_inj.mp h ▸ hm
  · rename_i g hg
    split at h
    · exact Option.some_inj.mp h ▸ hm
    · obtain ⟨spilloverRep, -, h⟩ := Option.bind_eq_some_iff.mp h
      split at h
      · exact hone acc.2 acc'.2 g _ _ acc'.1 (FactionStore.lookupEntry_eq_some.mp hg).1 hm h
      · exact Option.some_inj.mp h ▸ hm

theorem spillOverOut_invariant {out : ℚ × Option (List ℕ) × ReputationMgr} (hone : KeptByOne stores P) (hm : P m)
    (h : m.spillOverOut stores f standing incremental = some out) : P out.2.2 := by
  rw [spillOverOut] at h
  split at h
  · split at h
    · rw [← Option.some_inj.mp h]
      exact hm
    · rename_i parent hlookup
      split at h
      · obtain ⟨spilloverRep, -, h⟩ := Option.bind_eq_some_iff.mp h
        obtain ⟨⟨done, m₁⟩, hset, h⟩ := Option.bind_eq_some_iff.mp h
        rw [← Option.some_inj.mp h]
        exact hone m m₁ parent _ _ done (FactionStore.lookupEntry_eq_some.mp hlookup).1 hm hset
      · rw [← Option.some_inj.mp h]
        exact hm
  · rw [← Option.some_inj.mp h]
    exact hm

theorem spillOver_invariant {out : Bool × ReputationMgr} (hone : KeptByOne stores P) (hm : P m)
    (h : m.spillOver stores f standing incremental = some out) : P out.2 := by
  rw [spillOver] at h
  split at h
  · obtain ⟨m₁, hfold, rfl⟩ := Option.map_eq_some_iff.mp h
    exact foldlM_invariant (fun m m' s _ hm hpass ↦ spillOverTemplate_invariant hone hm hpass) hm hfold
  · obtain ⟨⟨spillOverRepOut, flist, m₁⟩, hout, hfold⟩ := Option.bind_eq_some_iff.mp h
    exact foldlM_invariant (P := fun acc : Bool × ReputationMgr ↦ P acc.2)
      (fun acc acc' id _ hacc hpass ↦ spillOverTeam_invariant hone hacc hpass) (spillOverOut_invariant hone hm hout) hfold

/-- **A change of reputation**: what the changes of single standings keep, and the sending. -/
theorem setReputation_invariant {spillOverOnly res : Bool} (hone : KeptByOne stores P)
    (hsend : ∀ m, P m → P m.SendState) (hf : f ∈ stores.factions.rows) (hm : P m)
    (h : m.SetReputation stores f standing incremental spillOverOnly = some (res, m')) : P m' := by
  obtain ⟨⟨spilled, m₁⟩, hspill, h⟩ := Option.bind_eq_some_iff.mp h
  have hm₁ := spillOver_invariant hone hm hspill
  dsimp only at h
  split at h
  · split at h
    · obtain ⟨-, rfl⟩ := Prod.mk.inj (Option.some_inj.mp h)
      exact hsend m₁ hm₁
    · obtain ⟨⟨done, m₂⟩, hset, h⟩ := Option.bind_eq_some_iff.mp h
      obtain ⟨-, rfl⟩ := Prod.mk.inj (Option.some_inj.mp h)
      exact hsend m₂ (hone m₁ m₂ f _ _ done hf hm₁ hset)
  · obtain ⟨-, rfl⟩ := Prod.mk.inj (Option.some_inj.mp h)
    exact hm₁

/-- What the changes of single factions keep, every call keeps, as far as loading and the requests about war do. -/
theorem next_invariant {call : ReputationCall} (hone : KeptByOne stores P) (hsend : ∀ m, P m → P m.SendState)
    (hvisible : ∀ f, P (m.SetVisible f)) (hinactive : ∀ k on, P (m.SetInactive k on))
    (hload : ∀ rows, call = .LoadFromDB rows → m.LoadFromDB stores rows = some m' → P m')
    (hatWar : ∀ k on, call = .SetAtWar k on → P (m.SetAtWar k on)) (hm : P m) (h : m.next stores call = some m') :
    P m' := by
  cases call with
  | LoadFromDB rows => exact hload rows rfl h
  | SetReputation f standing incremental spillOverOnly =>
    obtain ⟨hf, hset⟩ := Option.ite_none_right_eq_some.mp h
    obtain ⟨⟨res, m₁⟩, hdone, rfl⟩ := Option.map_eq_some_iff.mp hset
    exact setReputation_invariant hone hsend hf hm hdone
  | SetOneFactionReputation f standing incremental =>
    obtain ⟨hf, hset⟩ := Option.ite_none_right_eq_some.mp h
    obtain ⟨⟨res, m₁⟩, hdone, rfl⟩ := Option.map_eq_some_iff.mp hset
    exact hone m m₁ f standing incremental res hf hm hdone
  | SetVisible f =>
    obtain ⟨-, hset⟩ := Option.ite_none_right_eq_some.mp h
    exact Option.some_inj.mp hset ▸ hvisible f
  | SetVisibleTemplate faction =>
    rw [← Option.some_inj.mp h]
    obtain hsame | ⟨f, -, hset⟩ := setVisibleTemplate_cases stores m faction
    · rwa [hsame]
    · rw [hset]
      exact hvisible f
  | SetAtWar k on => exact Option.some_inj.mp h ▸ hatWar k on rfl
  | SetInactive k on => exact Option.some_inj.mp h ▸ hinactive k on

end spillover

/-! ### The states before anything is loaded -/

/-- In the middle of `Initialize`: the factions of `rest` have no state yet, and those before have standing 0 and
the flags of their base. -/
structure Filling (stores : ReputationStores) (m : ReputationMgr) (rest : List FactionEntry) : Prop where
  nodup : rest.Nodup
  rows : ∀ g ∈ rest, g ∈ stores.factions.rows
  ahead : ∀ g ∈ rest, g ∈ stores.factions.listed → m._factions g.key = none
  done : ∀ g ∈ stores.factions.listed, g ∉ rest →
    ∃ state, m._factions g.key = some state ∧ state.Standing = 0 ∧ state.Flags = GetDefaultStateFlags stores g

theorem Filling.start (hnone : ∀ k, m._factions k = none) : Filling stores m stores.factions.rows := by
  refine ⟨?_, fun g hg ↦ hg, fun g _ _ ↦ hnone g.key, fun g hg hnot ↦ ?_⟩
  · exact stores.factions.ascending.imp fun hlt heq ↦ (heq ▸ hlt).false
  · exact absurd (FactionStore.mem_listed.mp hg).1 hnot

theorem Filling.step {rest : List FactionEntry} (h : Filling stores m (f :: rest))
    (hunique : stores.factions.UniqueLists) : Filling stores (initializeFaction stores m f) rest := by
  obtain ⟨hnot, hnodup⟩ := List.nodup_cons.mp h.nodup
  have hrows : ∀ g ∈ rest, g ∈ stores.factions.rows := fun g hg ↦ h.rows g (List.mem_cons_of_mem f hg)
  by_cases h0 : 0 ≤ f.reputationListID
  · have hf := FactionStore.mem_listed.mpr ⟨h.rows f List.mem_cons_self, h0⟩
    have hchange := oneChange_initializeFaction stores m h0
    refine ⟨hnodup, hrows, fun g hg hglisted ↦ ?_, fun g hg hgrest ↦ ?_⟩
    · have hne : g ≠ f := fun heq ↦ hnot (heq ▸ hg)
      rw [hchange.factions_of_ne hunique hf hglisted hne]
      exact h.ahead g (List.mem_cons_of_mem f hg) hglisted
    · by_cases hgf : g = f
      · rw [hgf]
        exact ⟨_, hchange.after, rfl, rfl⟩
      · rw [hchange.factions_of_ne hunique hf hg hgf]
        exact h.done g hg fun hmem ↦ (List.mem_cons.mp hmem).elim hgf hgrest
  · have hsame : initializeFaction stores m f = m := if_neg h0
    rw [hsame]
    refine ⟨hnodup, hrows, fun g hg hglisted ↦ h.ahead g (List.mem_cons_of_mem f hg) hglisted,
      fun g hg hgrest ↦ h.done g hg fun hmem ↦ ?_⟩
    obtain rfl | hmem := List.mem_cons.mp hmem
    · exact h0 (FactionStore.mem_listed.mp hg).2
    · exact hgrest hmem

/-- **Initialize**: every faction of the list has a state with standing 0 and the flags of its base. -/
theorem exists_state_Initialize (hunique : stores.factions.UniqueLists) (m : ReputationMgr)
    (hf : f ∈ stores.factions.listed) :
    ∃ state, (m.Initialize stores)._factions f.key = some state ∧ state.Standing = 0 ∧
      state.Flags = GetDefaultStateFlags stores f := by
  have hfilled : Filling stores (m.Initialize stores) [] :=
    foldl_rule (fun m f rest h ↦ Filling.step h hunique) (Filling.start fun _ ↦ rfl)
  exact hfilled.done f hf List.not_mem_nil

/-! ## A list of `n` factions -/

/-- A faction with the list id `i` that is visible from the start. -/
def visibleFaction (i : ℕ) : FactionEntry :=
  { ID := i + 1, reputationListID := i, bases := [⟨1, 0, 0, { visible := true }⟩], team := 0, spilloverRateIn := 0,
    spilloverRateOut := 0, spilloverMaxRankIn := 0 }

/-- `n` factions that are visible from the start. -/
def visibleFactions (n : ℕ) (hn : n ≤ 2 ^ 31) : FactionStore where
  rows := (List.range n).map visibleFaction
  ascending := List.pairwise_map.mpr (List.pairwise_lt_range.imp fun hlt ↦ Nat.add_lt_add_right hlt 1)
  pos := by
    intro f hf
    obtain ⟨i, -, rfl⟩ := List.mem_map.mp hf
    exact Nat.succ_pos i
  int32 := by
    intro f hf
    obtain ⟨i, hi, rfl⟩ := List.mem_map.mp hf
    have hi := List.mem_range.mp hi
    constructor
    · exact le_trans (by decide) (Int.natCast_nonneg i)
    · show (i : ℤ) < 2 ^ 31
      omega

/-- The stores of a player with `n` visible factions. -/
def visibleStores (n : ℕ) (hn : n ≤ 2 ^ 31) : ReputationStores :=
  { factions := visibleFactions n hn, GetRepSpilloverTemplate := fun _ ↦ none, RATE_REPUTATION_GAIN := 1,
    raceMask := 1, classMask := 1 }

section visibleStores

variable (n : ℕ) (hn : n ≤ 2 ^ 31)

theorem mem_listed_visibleFactions (hf : f ∈ (visibleFactions n hn).listed) : ∃ i, f = visibleFaction i := by
  obtain ⟨i, -, rfl⟩ := List.mem_map.mp (FactionStore.mem_listed.mp hf).1
  exact ⟨i, rfl⟩

theorem length_listed_visibleFactions : (visibleFactions n hn).listed.length = n := by
  have hall : ∀ f ∈ (visibleFactions n hn).rows, decide (0 ≤ f.reputationListID) = true := by
    intro f hf
    obtain ⟨i, -, rfl⟩ := List.mem_map.mp hf
    exact decide_eq_true (Int.natCast_nonneg i)
  rw [FactionStore.listed, List.filter_eq_self.mpr hall, visibleFactions, List.length_map, List.length_range]

theorem uniqueLists_visibleFactions : (visibleFactions n hn).UniqueLists := by
  intro f hf g hg heq
  obtain ⟨i, rfl⟩ := mem_listed_visibleFactions n hn hf
  obtain ⟨j, rfl⟩ := mem_listed_visibleFactions n hn hg
  exact congrArg visibleFaction (Int.ofNat_inj.mp heq)

theorem baseOf_visibleFaction (i : ℕ) :
    baseOf (visibleStores n hn) (visibleFaction i) = some ⟨1, 0, 0, { visible := true }⟩ := by
  have hmask : ((1 : UInt32) &&& 1 != 0 || (1 : UInt32) == 0 && (0 : UInt32) != 0) &&
      ((0 : UInt32) &&& 1 != 0 || (0 : UInt32) == 0) := by decide
  exact List.find?_cons_of_pos hmask

end visibleStores

/-- The stores of a player with two factions. -/
def twoStores : ReputationStores := visibleStores 2 (by decide)

end ReputationMgr

end Gundrak
