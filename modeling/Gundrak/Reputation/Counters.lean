import Gundrak.Reputation.States

/-!
# The counters of the reputation

The four counters of the `ReputationMgr` are kept up to date by differences: each change tells them an old and a
new rank, and what was seen for the first time.  The old rank is read off the state in one place, it is the base
rank in another, and `REP_HOSTILE` where there was no state at all.

`Counted` says that the counters are right, as far as eight bits go, and that the reputations are within their
bounds.  `Counted.change` is its step lemma: a change of one state keeps it when what the counters are told is
true from the rank `REP_HONORED` on.
-/

namespace Gundrak

namespace ReputationMgr

variable {stores : ReputationStores} {m m' : ReputationMgr} {f g : FactionEntry} {k : RepListID}
  {state state' : FactionState} {rank old_rank new_rank : ReputationRank}
  {told : Option (ReputationRank × ReputationRank)} {seen : Bool}

/-! ## Counters of eight bits -/

theorem increment_mod (count : ℕ) : increment (count % 256) = (count + 1) % 256 := by
  rw [increment]
  omega

/-- A counter that is told the old and the new rank is right afterwards. -/
theorem updateCounter_mod {count count' : ℕ}
    (h : count' + (if rank ≤ old_rank then 1 else 0) = count + if rank ≤ new_rank then 1 else 0) :
    updateCounter rank old_rank new_rank (count % 256) = count' % 256 := by
  have hold : (if old_rank ≥ rank then decrement (count % 256) else count % 256) =
      (count + 255 * if rank ≤ old_rank then 1 else 0) % 256 := by
    split <;> simp [decrement]
  rw [updateCounter, hold]
  split
  · rename_i hnew
    rw [if_pos hnew] at h
    rw [increment_mod]
    split at h <;> rename_i hrank
    · rw [if_pos hrank]
      omega
    · rw [if_neg hrank]
      omega
  · rename_i hnew
    rw [if_neg hnew] at h
    split at h <;> rename_i hrank
    · rw [if_pos hrank]
      omega
    · rw [if_neg hrank]
      omega

/-- What the counters are told is true from `REP_HONORED` on. -/
def ToldOf (told : Option (ReputationRank × ReputationRank)) (old_rank new_rank : ReputationRank) : Prop :=
  match told with
  | none => old_rank = new_rank
  | some (old, new) => (∀ rank, REP_HONORED ≤ rank → (rank ≤ old ↔ rank ≤ old_rank)) ∧ new = new_rank

theorem toldCounter_mod {count count' : ℕ} (htold : ToldOf told old_rank new_rank) (hrank : REP_HONORED ≤ rank)
    (h : count' + (if rank ≤ old_rank then 1 else 0) = count + if rank ≤ new_rank then 1 else 0) :
    toldCounter rank told (count % 256) = count' % 256 := by
  cases told with
  | none =>
    obtain rfl : old_rank = new_rank := htold
    exact congrArg (· % 256) (Nat.add_right_cancel h).symm
  | some ranks =>
    obtain ⟨old, new⟩ := ranks
    obtain ⟨hold, rfl⟩ := htold
    refine updateCounter_mod (Eq.trans ?_ h)
    rw [if_congr (hold rank hrank) rfl rfl]

/-! ## The numbers of factions -/

/-- The number of factions that the player has at least this rank with. -/
def rankCount (stores : ReputationStores) (m : ReputationMgr) (rank : ReputationRank) : ℕ :=
  stores.factions.listed.countP fun f ↦ decide (rank ≤ m.GetRank stores f)

/-- The player sees the faction in the list. -/
def sees (m : ReputationMgr) (f : FactionEntry) : Bool := (m._factions f.key).any (·.Flags.visible)

def visibleCount (stores : ReputationStores) (m : ReputationMgr) : ℕ := stores.factions.listed.countP m.sees

/-- The reputation with every faction is within its bounds, and the counters are right as far as eight bits go. -/
structure Counted (stores : ReputationStores) (m : ReputationMgr) : Prop where
  known : ∀ k state, m._factions k = some state → ∃ f ∈ stores.factions.listed, f.key = k
  range : ∀ f ∈ stores.factions.listed,
    Reputation_Bottom ≤ m.GetReputation stores f ∧ m.GetReputation stores f ≤ Reputation_Cap
  honored : m._honoredFactionCount = rankCount stores m REP_HONORED % 256
  revered : m._reveredFactionCount = rankCount stores m REP_REVERED % 256
  exalted : m._exaltedFactionCount = rankCount stores m REP_EXALTED % 256
  visible : m._visibleFactionCount = visibleCount stores m % 256

section

variable (h : OneChange m m' f.key state' told seen) (hunique : stores.factions.UniqueLists)
  (hf : f ∈ stores.factions.listed)
include h hunique hf

theorem OneChange.rankCount_add (rank : ReputationRank) :
    rankCount stores m' rank + (if rank ≤ m.GetRank stores f then 1 else 0) =
      rankCount stores m rank + if rank ≤ m'.GetRank stores f then 1 else 0 := by
  have hchange := countP_change (p := fun g ↦ decide (rank ≤ m.GetRank stores g))
    (q := fun g ↦ decide (rank ≤ m'.GetRank stores g)) stores.factions.listed_nodup hf fun g hg hne ↦ by
      rw [GetRank, GetRank, h.getReputation_of_ne hunique hf hg hne]
  simp only [decide_eq_true_eq] at hchange
  exact hchange

theorem OneChange.visibleCount_add : visibleCount stores m' + (if m.sees f then 1 else 0) =
      visibleCount stores m + if state'.Flags.visible then 1 else 0 := by
  have hchange := countP_change (p := m.sees) (q := m'.sees) stores.factions.listed_nodup hf fun g hg hne ↦ by
    rw [sees, sees, h.factions_of_ne hunique hf hg hne]
  have hsees : m'.sees f = state'.Flags.visible := by
    simp [sees, h.after]
  rw [hsees] at hchange
  exact hchange

end

/-- **A change of one state keeps the counters right**, if what they are told is true and nothing is hidden. -/
theorem Counted.change (h : Counted stores m) (hunique : stores.factions.UniqueLists)
    (hf : f ∈ stores.factions.listed) (hchange : OneChange m m' f.key state' told seen)
    (hrange : Reputation_Bottom ≤ GetBaseReputation stores f + state'.Standing ∧
      GetBaseReputation stores f + state'.Standing ≤ Reputation_Cap)
    (htold : ToldOf told (m.GetRank stores f) (ReputationToRank (GetBaseReputation stores f + state'.Standing)))
    (hseen : seen = (state'.Flags.visible != m.sees f)) (hshown : m.sees f = true → state'.Flags.visible = true) :
    Counted stores m' := by
  have hcount : ∀ rank, REP_HONORED ≤ rank → toldCounter rank told (rankCount stores m rank % 256) =
      rankCount stores m' rank % 256 := by
    intro rank hrank
    have hadd := hchange.rankCount_add hunique hf rank
    rw [getRank_of_state hf hchange.after] at hadd
    exact toldCounter_mod htold hrank hadd
  have hvisible := hchange.visibleCount_add hunique hf
  refine ⟨fun k' state hstate ↦ ?_, fun g hg ↦ ?_, ?_, ?_, ?_, ?_⟩
  · rw [hchange.factions] at hstate
    split at hstate
    · rename_i hkey
      exact ⟨f, hf, hkey.symm⟩
    · exact h.known k' state hstate
  · by_cases hgf : g = f
    · rw [hgf, getReputation_of_state hf hchange.after]
      exact hrange
    · rw [hchange.getReputation_of_ne hunique hf hg hgf]
      exact h.range g hg
  · rw [hchange.honored, h.honored, hcount REP_HONORED le_rfl]
  · rw [hchange.revered, h.revered, hcount REP_REVERED (by decide)]
  · rw [hchange.exalted, h.exalted, hcount REP_EXALTED (by decide)]
  · rw [hchange.visible, h.visible, hseen]
    cases hsees : m.sees f with
    | true =>
      rw [hshown hsees, bne_self_eq_false, if_neg Bool.false_ne_true]
      rw [hsees, hshown hsees] at hvisible
      rw [Nat.add_right_cancel hvisible]
    | false =>
      rw [Bool.bne_false]
      rw [hsees] at hvisible
      split
      · rename_i hafter
        rw [hafter] at hvisible
        rw [if_neg Bool.false_ne_true, if_pos rfl, Nat.add_zero] at hvisible
        rw [increment_mod, hvisible]
      · rename_i hafter
        simp [Bool.eq_false_iff.mpr hafter, Nat.add_right_cancel hvisible]

/-! ## What the calls do -/

theorem range_zero : Reputation_Bottom ≤ (0 : ℤ) ∧ (0 : ℤ) ≤ Reputation_Cap := by decide

theorem rank_zero_lt (hrank : REP_HONORED ≤ rank) : ¬ rank ≤ ReputationToRank 0 := by
  have hzero : ReputationToRank 0 < REP_HONORED := by decide
  exact fun hle ↦ absurd (hrank.trans hle) hzero.not_ge

theorem counted_of_none (hnone : ∀ k, m._factions k = none) (hvisible : m._visibleFactionCount = 0)
    (hhonored : m._honoredFactionCount = 0) (hrevered : m._reveredFactionCount = 0)
    (hexalted : m._exaltedFactionCount = 0) : Counted stores m := by
  have hreputation : ∀ f ∈ stores.factions.listed, m.GetReputation stores f = 0 := fun f hf ↦
    getReputation_of_none hf (hnone f.key)
  have hcount : ∀ rank, REP_HONORED ≤ rank → rankCount stores m rank = 0 := by
    intro rank hrank
    refine List.countP_eq_zero.mpr fun f hf hle ↦ rank_zero_lt hrank ?_
    simpa [GetRank, hreputation f hf] using of_decide_eq_true hle
  refine ⟨fun k state hstate ↦ ?_, fun f hf ↦ ?_, ?_, ?_, ?_, ?_⟩
  · simp [hnone k] at hstate
  · rw [hreputation f hf]
    exact range_zero
  · rw [hhonored, hcount REP_HONORED le_rfl]
  · rw [hrevered, hcount REP_REVERED (by decide)]
  · rw [hexalted, hcount REP_EXALTED (by decide)]
  · rw [hvisible, visibleCount, List.countP_eq_zero.mpr fun f _ hsees ↦ ?_]
    rw [sees, hnone f.key] at hsees
    exact Bool.false_ne_true hsees

theorem counted_start : Counted stores start := counted_of_none (fun _ ↦ rfl) rfl rfl rfl rfl

theorem sees_of_state (hstate : m._factions f.key = some state) : m.sees f = state.Flags.visible := by
  simp [sees, hstate]

section

variable (h : Counted stores m) (hunique : stores.factions.UniqueLists)
include h hunique

theorem Counted.sameStanding (hstate : m._factions k = some state) (hchange : OneChange m m' k state' none seen)
    (hsame : SameStanding state state') (hseen : seen = (state'.Flags.visible != state.Flags.visible))
    (hshown : state.Flags.visible = true → state'.Flags.visible = true) : Counted stores m' := by
  obtain ⟨f, hf, rfl⟩ := h.known k state hstate
  have hrange := h.range f hf
  rw [getReputation_of_state hf hstate] at hrange
  refine h.change hunique hf hchange ?_ ?_ ?_ ?_
  · rw [hsame.standing]
    exact hrange
  · rw [getRank_of_state hf hstate, hsame.standing]
    rfl
  · rw [sees_of_state hstate]
    exact hseen
  · rw [sees_of_state hstate]
    exact hshown

theorem Counted.setVisibleState (k : RepListID) : Counted stores (m.SetVisibleState k) := by
  obtain ⟨-, hsame⟩ | ⟨state, hstate, hchange⟩ := setVisibleState_cases m k
  · rw [hsame]
    exact h
  · exact h.sameStanding hunique hstate hchange (sameStanding_madeVisible state) rfl visible_madeVisible

theorem Counted.setVisible (f : FactionEntry) : Counted stores (m.SetVisible f) := by
  obtain hsame | hvisible := setVisible_cases m f
  · rw [hsame]
    exact h
  · rw [hvisible]
    exact h.setVisibleState hunique f.key

theorem Counted.modifyState (k : RepListID)
    {change : FactionState → FactionState} (hsame : ∀ state, SameStanding state (change state))
    (hvisible : ∀ state, (change state).Flags.visible = state.Flags.visible) :
    Counted stores (m.modifyState k change) := by
  obtain ⟨-, hnothing⟩ | ⟨state, hstate, hchange⟩ := modifyState_cases m k change
  · rw [hnothing]
    exact h
  · refine h.sameStanding hunique hstate hchange (hsame state) ?_ fun hvis ↦ (hvisible state).trans hvis
    simp [hvisible]

theorem Counted.setAtWar (k : RepListID) (on : Bool) : Counted stores (m.SetAtWar k on) := by
  refine h.modifyState hunique k (fun state ↦ ?_) fun state ↦ ?_
  · split
    · exact ⟨rfl, rfl, rfl⟩
    · exact sameStanding_setAtWar state on
  · split
    · rfl
    · exact visible_setAtWar state on

theorem Counted.setInactive (k : RepListID) (on : Bool) : Counted stores (m.SetInactive k on) :=
  h.modifyState hunique k (fun state ↦ sameStanding_setInactive state on) fun state ↦ visible_setInactive state on

end

/-! ### Standings -/

theorem Counted.touch (h : Counted stores m) (touched : List RepListID) : Counted stores { m with touched } :=
  ⟨h.known, h.range, h.honored, h.revered, h.exalted, h.visible⟩

/-- **A change of one standing keeps the counters right.** -/
theorem Counted.setOneFactionReputation (hunique : stores.factions.UniqueLists) :
    KeptByOne stores (Counted stores) := by
  intro m m' f standing incremental res hf h hset
  obtain ⟨-, rfl⟩ | ⟨state, total, hstate, hbottom, hcap, rfl⟩ := setOneFactionReputation_cases hset
  · exact h
  · obtain ⟨g, hg, hkey⟩ := h.known f.key state hstate
    have hlisted := FactionStore.listed_of_key hf hg hkey.symm
    obtain ⟨m', hwrite, hchange⟩ := exists_oneChange_writeStanding m f.key state
      (total - GetBaseReputation stores f) (ReputationToRank (state.Standing + GetBaseReputation stores f))
      (ReputationToRank total)
    have htotal : GetBaseReputation stores f + (writtenState state (total - GetBaseReputation stores f)
        (ReputationToRank total)).Standing = total := by
      rw [(sameStanding_writtenState state _ _).standing]
      exact add_sub_cancel _ _
    rw [hwrite]
    refine (h.change hunique hlisted hchange ?_ ?_ ?_ ?_).touch _
    · rw [htotal]
      exact ⟨hbottom, hcap⟩
    · rw [htotal, getRank_of_state hlisted hstate, Int.add_comm state.Standing]
      exact ⟨fun rank _ ↦ Iff.rfl, rfl⟩
    · rw [visible_writtenState, sees_of_state hstate]
    · rw [visible_writtenState, sees_of_state hstate]
      exact visible_shownState

theorem sees_sendState (f : FactionEntry) : m.SendState.sees f = m.sees f := by
  rw [sees, sees, factions_sendState, Option.any_map]

theorem Counted.sendState (h : Counted stores m) : Counted stores m.SendState := by
  have hranks : ∀ rank, rankCount stores m.SendState rank = rankCount stores m rank := by
    intro rank
    refine List.countP_congr fun f hf ↦ ?_
    rw [GetRank, GetRank, getReputation_sendState hf]
  have hvisible : visibleCount stores m.SendState = visibleCount stores m :=
    List.countP_congr fun f _ ↦ by rw [sees_sendState]
  refine ⟨fun k state hstate ↦ ?_, fun f hf ↦ ?_, ?_, ?_, ?_, ?_⟩
  · obtain ⟨sent, hsent, -⟩ := Option.map_eq_some_iff.mp hstate
    exact h.known k sent hsent
  · rw [getReputation_sendState hf]
    exact h.range f hf
  · rw [hranks]
    exact h.honored
  · rw [hranks]
    exact h.revered
  · rw [hranks]
    exact h.exalted
  · rw [hvisible]
    exact h.visible

/-! ### Loading -/

/-- The base of every faction of the list is within the bounds. -/
def BasesFit (stores : ReputationStores) : Prop := ∀ f ∈ stores.factions.listed,
    Reputation_Bottom ≤ GetBaseReputation stores f ∧ GetBaseReputation stores f ≤ Reputation_Cap

theorem Counted.initializeFaction {rest : List FactionEntry} (h : Counted stores m)
    (hunique : stores.factions.UniqueLists)
    (hbase : BasesFit stores)
    (hfilling : Filling stores m (f :: rest)) : Counted stores (initializeFaction stores m f) := by
  by_cases h0 : 0 ≤ f.reputationListID
  · have hf := FactionStore.mem_listed.mpr ⟨hfilling.rows f List.mem_cons_self, h0⟩
    have hnone := hfilling.ahead f List.mem_cons_self hf
    have hsees : m.sees f = false := by rw [sees, hnone, Option.any_none]
    refine h.change hunique hf (oneChange_initializeFaction stores m h0) ?_ ?_ ?_ ?_
    · rw [Int.add_zero]
      exact hbase f hf
    · rw [Int.add_zero, GetRank, getReputation_of_none hf hnone]
      refine ⟨fun rank hrank ↦ ⟨fun hle ↦ ?_, fun hle ↦ absurd hle (rank_zero_lt hrank)⟩, rfl⟩
      have hhostile : REP_HOSTILE < REP_HONORED := by decide
      exact absurd (hrank.trans hle) hhostile.not_ge
    · simp [hsees]
    · rw [hsees]
      intro hfalse
      cases hfalse
  · have hsame : ReputationMgr.initializeFaction stores m f = m := if_neg h0
    rw [hsame]
    exact h

/-- **Initialize** counts the bases. -/
theorem counted_Initialize (hunique : stores.factions.UniqueLists) (hbase : BasesFit stores)
    (m : ReputationMgr) : Counted stores (m.Initialize stores) := by
  refine (foldl_rule (P := fun m rest ↦ Filling stores m rest ∧ Counted stores m)
    (fun m f rest h ↦ ⟨h.1.step hunique, h.2.initializeFaction hunique hbase h.1⟩) ?_).2
  exact ⟨Filling.start fun _ ↦ rfl, counted_of_none (fun _ ↦ rfl) rfl rfl rfl rfl⟩

/-- The rows are those of different factions, and the reputations that they make are within their bounds. -/
def FitRows (stores : ReputationStores) (rows : List ReputationRow) : Prop :=
  (rows.map (·.faction)).Nodup ∧ ∀ row ∈ rows, ∀ f ∈ stores.factions.listed, f.ID = row.faction →
      Reputation_Bottom ≤ GetBaseReputation stores f + row.standing ∧
        GetBaseReputation stores f + row.standing ≤ Reputation_Cap

/-- In the middle of the rows: the factions of the rows that are left have standing 0. -/
structure Loading (stores : ReputationStores) (m : ReputationMgr) (rows : List ReputationRow) : Prop where
  counted : Counted stores m
  fit : FitRows stores rows
  ahead : ∀ f ∈ stores.factions.listed, f.ID ∈ rows.map (·.faction) →
    ∃ state, m._factions f.key = some state ∧ state.Standing = 0

theorem FitRows.tail {row : ReputationRow} {rows : List ReputationRow} (h : FitRows stores (row :: rows)) :
    FitRows stores rows :=
  ⟨(List.nodup_cons.mp h.1).2, fun r hr ↦ h.2 r (List.mem_cons_of_mem row hr)⟩

theorem Loading.step {row : ReputationRow} {rows : List ReputationRow} (h : Loading stores m (row :: rows))
    (hunique : stores.factions.UniqueLists) (hrow : loadRow stores m row = some m') : Loading stores m' rows := by
  have hnot := (List.nodup_cons.mp h.fit.1).1
  obtain ⟨rfl, -⟩ | ⟨f, hf, hid, loaded, hchange, rfl⟩ := loadRow_cases hrow
  · exact ⟨h.counted, h.fit.tail, fun f hf hmem ↦ h.ahead f hf (List.mem_cons_of_mem row.faction hmem)⟩
  · have hthere : f.ID ∈ (row :: rows).map (·.faction) := hid ▸ List.mem_cons_self
    obtain ⟨state, hstate, hzero⟩ := h.ahead f hf hthere
    rw [hstate, Option.getD_some] at hchange
    have hstanding := (sameStanding_loadedState row
      (ReputationToRank (GetBaseReputation stores f + row.standing)) state).standing
    refine ⟨(h.counted.change hunique hf hchange ?_ ?_ ?_ ?_).touch _, h.fit.tail, fun g hg hmem ↦ ?_⟩
    · rw [hstanding]
      exact h.fit.2 row List.mem_cons_self f hf hid
    · rw [hstanding, getRank_of_state hf hstate, hzero, Int.add_zero]
      exact ⟨fun rank _ ↦ Iff.rfl, rfl⟩
    · rw [sees_of_state hstate, visible_loadedState]
    · rw [sees_of_state hstate]
      exact visible_loadedState_of_visible row _
    · have hne : g ≠ f := by
        rintro rfl
        rw [hid] at hmem
        exact hnot hmem
      obtain ⟨other, hother, hotherzero⟩ := h.ahead g hg (List.mem_cons_of_mem row.faction hmem)
      exact ⟨other, (hchange.factions_of_ne hunique hf hg hne).trans hother, hotherzero⟩

theorem counted_loadFromDB {rows : List ReputationRow} (hunique : stores.factions.UniqueLists) (hbase : BasesFit stores)
    (hfit : FitRows stores rows) (h : m.LoadFromDB stores rows = some m') : Counted stores m' := by
  have hstart : Loading stores (m.Initialize stores) rows := ⟨counted_Initialize hunique hbase m, hfit, fun f hf _ ↦
      (exists_state_Initialize hunique m hf).imp fun state hstate ↦ ⟨hstate.1, hstate.2.1⟩⟩
  exact (foldlM_rule (P := Loading stores) (fun m row rows m' hloading hrow ↦ Loading.step hloading hunique hrow) hstart h).counted

/-! ## Runs -/

/-- Rows that are loaded are of different factions, with reputations within their bounds. -/
def RowsFit (stores : ReputationStores) (_m : ReputationMgr) : ReputationCall → Prop
  | .LoadFromDB result => FitRows stores result
  | _ => True

/-- **Every call keeps the counters right.** -/
theorem Counted.next {call : ReputationCall} (hunique : stores.factions.UniqueLists) (hbase : BasesFit stores)
    (h : Counted stores m) (hfit : RowsFit stores m call) (hnext : m.next stores call = some m') :
    Counted stores m' := by
  refine next_invariant (Counted.setOneFactionReputation hunique) (fun _ h ↦ h.sendState) (h.setVisible hunique)
    (h.setInactive hunique) ?_ (fun k on _ ↦ h.setAtWar hunique k on) h hnext
  rintro rows rfl hload
  exact counted_loadFromDB hunique hbase hfit hload

theorem counted_of_reaches (hunique : stores.factions.UniqueLists) (hbase : BasesFit stores)
    (h : (reputation stores).Reaches (RowsFit stores) m) : Counted stores m :=
  h.invariant counted_start fun _ _ _ hcounted hfit hnext ↦ hcounted.next hunique hbase hfit hnext

/-- The four counters are the numbers of factions that they stand for. -/
structure CountersRight (stores : ReputationStores) (m : ReputationMgr) : Prop where
  honored : m._honoredFactionCount = rankCount stores m REP_HONORED
  revered : m._reveredFactionCount = rankCount stores m REP_REVERED
  exalted : m._exaltedFactionCount = rankCount stores m REP_EXALTED
  visible : m._visibleFactionCount = visibleCount stores m

theorem Counted.countersRight (h : Counted stores m) (hlength : stores.factions.listed.length ≤ 255) :
    CountersRight stores m := by
  have hsmall : ∀ p : FactionEntry → Bool, stores.factions.listed.countP p % 256 = stores.factions.listed.countP p :=
    fun p ↦ Nat.mod_eq_of_lt ((List.countP_le_length.trans hlength).trans_lt (by decide))
  exact ⟨h.honored.trans (hsmall _), h.revered.trans (hsmall _), h.exalted.trans (hsmall _), h.visible.trans (hsmall _)⟩

/-- **The counters and the range of the reputation.**  In every state that loading rows that fit and any other calls
lead to, the reputation with each faction is within its bounds.  Each counter is the number of factions that it stands
for, as far as eight bits go, and so exactly that number if the list has at most 255 factions. -/
theorem counters_of_reaches (hunique : stores.factions.UniqueLists)
    (hbase : ∀ f ∈ stores.factions.listed,
      Reputation_Bottom ≤ GetBaseReputation stores f ∧ GetBaseReputation stores f ≤ Reputation_Cap)
    (h : (reputation stores).Reaches (RowsFit stores) m) :
    (∀ f ∈ stores.factions.listed,
      Reputation_Bottom ≤ m.GetReputation stores f ∧ m.GetReputation stores f ≤ Reputation_Cap) ∧
    (m._honoredFactionCount = rankCount stores m REP_HONORED % 256 ∧
      m._reveredFactionCount = rankCount stores m REP_REVERED % 256 ∧
      m._exaltedFactionCount = rankCount stores m REP_EXALTED % 256 ∧
      m._visibleFactionCount = visibleCount stores m % 256) ∧
    (stores.factions.listed.length ≤ 255 → CountersRight stores m) := by
  have hcounted := counted_of_reaches hunique hbase h
  exact ⟨hcounted.range, ⟨hcounted.honored, hcounted.revered, hcounted.exalted, hcounted.visible⟩,
    hcounted.countersRight⟩

theorem range_visibleFactions (n : ℕ) (hn : n ≤ 2 ^ 31) : ∀ f ∈ (visibleStores n hn).factions.listed,
    Reputation_Bottom ≤ GetBaseReputation (visibleStores n hn) f ∧
      GetBaseReputation (visibleStores n hn) f ≤ Reputation_Cap := by
  intro f hf
  obtain ⟨i, rfl⟩ := mem_listed_visibleFactions n hn hf
  rw [GetBaseReputation, baseOf_visibleFaction]
  exact range_zero

theorem visibleCount_Initialize (n : ℕ) (hn : n ≤ 2 ^ 31) :
    visibleCount (visibleStores n hn) (start.Initialize (visibleStores n hn)) = n := by
  have hall : ∀ f ∈ (visibleStores n hn).factions.listed, (start.Initialize (visibleStores n hn)).sees f = true := by
    intro f hf
    obtain ⟨state, hstate, -, hflags⟩ :=
      exists_state_Initialize (uniqueLists_visibleFactions n hn : (visibleStores n hn).factions.UniqueLists) start hf
    obtain ⟨i, rfl⟩ := mem_listed_visibleFactions n hn hf
    simp [sees_of_state hstate, hflags, GetDefaultStateFlags, baseOf_visibleFaction]
  rw [visibleCount, List.countP_eq_length.mpr hall]
  exact length_listed_visibleFactions n hn

/-- With 256 factions that are visible from the start, their counter is 0. -/
theorem not_counters_visibleFactions :
    ∃ (stores : ReputationStores) (m : ReputationMgr), stores.factions.UniqueLists ∧
      (∀ f ∈ stores.factions.listed,
        Reputation_Bottom ≤ GetBaseReputation stores f ∧ GetBaseReputation stores f ≤ Reputation_Cap) ∧
      (reputation stores).Reaches (RowsFit stores) m ∧
      m._visibleFactionCount = 0 ∧ visibleCount stores m = 256 := by
  have hn : 256 ≤ 2 ^ 31 := by decide
  have hunique := uniqueLists_visibleFactions 256 hn
  have hrange := range_visibleFactions 256 hn
  have hfit : FitRows (visibleStores 256 hn) [] := ⟨List.nodup_nil, fun row hrow ↦ absurd hrow List.not_mem_nil⟩
  have hreaches : (reputation (visibleStores 256 hn)).Reaches (RowsFit (visibleStores 256 hn))
      (start.Initialize (visibleStores 256 hn)) :=
    .step (a := .LoadFromDB []) .start hfit rfl
  have hcount := visibleCount_Initialize 256 hn
  refine ⟨visibleStores 256 hn, _, hunique, hrange, hreaches, ?_, hcount⟩
  rw [(counted_of_reaches hunique hrange hreaches).visible, hcount]

/-- A player who is loaded with a reputation of 41000 with the second of two factions, and gains 5000 more. -/
theorem counters_of_reaches_exalted :
    ∃ m, m._exaltedFactionCount = 1 ∧ m._visibleFactionCount = 2 ∧ CountersRight twoStores m ∧
      m.GetReputation twoStores (visibleFaction 1) ≤ Reputation_Cap := by
  have hunique : twoStores.factions.UniqueLists := uniqueLists_visibleFactions 2 (by decide)
  have hbase := range_visibleFactions 2 (by decide)
  have hrows : FitRows twoStores [⟨2, 41000, { visible := true }, false⟩] :=
    ⟨by decide, by decide +kernel⟩
  have hrun : ((start.LoadFromDB twoStores [⟨2, 41000, { visible := true }, false⟩]).bind fun m ↦
      m.next twoStores (.SetReputation (visibleFaction 1) 5000 true false)).any (fun m ↦
        decide (m._exaltedFactionCount = 1 ∧ m._visibleFactionCount = 2)) = true := by
    decide +kernel
  obtain ⟨m, hm, hend⟩ := (Option.any_eq_true _ _).mp hrun
  obtain ⟨loaded, hloaded, hset⟩ := Option.bind_eq_some_iff.mp hm
  have hreaches : (reputation twoStores).Reaches (RowsFit twoStores) m :=
    .step (a := .SetReputation (visibleFaction 1) 5000 true false)
      (.step (a := .LoadFromDB [⟨2, 41000, { visible := true }, false⟩]) .start hrows hloaded) trivial hset
  have hcounters := counters_of_reaches hunique hbase hreaches
  have hend := of_decide_eq_true hend
  exact ⟨m, hend.1, hend.2, hcounters.2.2 (by decide), (hcounters.1 (visibleFaction 1) (by decide +kernel)).2⟩

end ReputationMgr

end Gundrak
