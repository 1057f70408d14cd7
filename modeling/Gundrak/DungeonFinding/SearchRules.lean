import Gundrak.DungeonFinding.LFGQueue

/-!
# What a search leaves alone

The search for a group is two recursions around one step, `CheckTogether`: `CheckCompatibility` goes
down the tails of a combination, and `FindNewGroups` goes up the list of those who are queued.  An
induction over them is done once here.  `CheckCompatibility_preserves` and `FindNewGroups_preserves`
say that what is preserved by the single steps is preserved by a search; the steps need only be looked
at where a guard holds that the search meets on its way (`AlongCheck`, `AlongFind`).

The first use is that a search leaves the roles and dungeons of all entries alone (`SameEntries`), so
that a combination is judged the same at every point of it (`judge_congr`).
-/

open Std (ExtTreeMap)
open JoinedNumbers (text join sortedSet)

namespace Gundrak.Lfg

/-! ## The data of an entry -/

namespace LfgQueueData

theorem foldl_count (roles : List UInt8) (queueData : LfgQueueData) : roles.foldl count queueData = { queueData with
        tanks := queueData.tanks - UInt8.ofNat (roles.countP fun role ↦ role &&& PLAYER_ROLE_TANK ≠ 0)
        healers := queueData.healers - UInt8.ofNat (roles.countP fun role ↦
          role &&& PLAYER_ROLE_TANK = 0 ∧ role &&& PLAYER_ROLE_HEALER ≠ 0)
        dps := queueData.dps - UInt8.ofNat (roles.countP fun role ↦
          role &&& PLAYER_ROLE_TANK = 0 ∧ role &&& PLAYER_ROLE_HEALER = 0) } := by
  induction roles generalizing queueData with
  | nil => simp
  | cons role roles ih =>
    rw [List.foldl_cons, ih, count]
    by_cases htank : role &&& PLAYER_ROLE_TANK = 0
    · by_cases hhealer : role &&& PLAYER_ROLE_HEALER = 0
      · simp only [htank, hhealer, ne_eq, not_true_eq_false, if_false, List.countP_cons, decide_false,
          Bool.false_eq_true, Nat.add_zero, and_false, and_self, decide_true, if_true,
          UInt8.ofNat_add]
        congr 1
        grind
      · simp only [htank, hhealer, ne_eq, not_true_eq_false, not_false_eq_true, if_false,
          List.countP_cons, decide_false, Bool.false_eq_true, Nat.add_zero, and_false, and_self,
          decide_true, if_true, UInt8.ofNat_add]
        congr 1
        grind
    · simp only [htank, ne_eq, not_false_eq_true, if_true, List.countP_cons, decide_false,
        Bool.false_eq_true, if_false, Nat.add_zero, false_and, decide_true, UInt8.ofNat_add]
      congr 1
      grind

/-- The entry with a new best combination, counted down by the roles of that combination. -/
def withBest (queueData : LfgQueueData) (key : Key) (roles : List UInt8) : LfgQueueData :=
  { queueData with
    bestCompatible := key
    tanks := UInt8.ofNat LFG_TANKS_NEEDED - UInt8.ofNat (roles.countP fun role ↦ role &&& PLAYER_ROLE_TANK ≠ 0)
    healers := UInt8.ofNat LFG_HEALERS_NEEDED - UInt8.ofNat (roles.countP fun role ↦
      role &&& PLAYER_ROLE_TANK = 0 ∧ role &&& PLAYER_ROLE_HEALER ≠ 0)
    dps := UInt8.ofNat LFG_DPS_NEEDED - UInt8.ofNat (roles.countP fun role ↦
      role &&& PLAYER_ROLE_TANK = 0 ∧ role &&& PLAYER_ROLE_HEALER = 0) }

/-- A combination becomes the best one if it is larger than the one before. -/
theorem UpdateBestCompatibleInQueue_eq (queueData : LfgQueueData) (key : Key) (roles : LfgRolesMap) :
    queueData.UpdateBestCompatibleInQueue key roles =
      if keySize key ≤ queueData.storedSize then queueData
      else queueData.withBest key (roles.toList.map Prod.snd) := by
  rw [UpdateBestCompatibleInQueue, foldl_count]
  rfl

theorem UpdateBestCompatibleInQueue_idem (queueData : LfgQueueData) (key : Key) (roles : LfgRolesMap) :
    (queueData.UpdateBestCompatibleInQueue key roles).UpdateBestCompatibleInQueue key roles =
      queueData.UpdateBestCompatibleInQueue key roles := by
  rw [UpdateBestCompatibleInQueue_eq queueData]
  split_ifs with hle
  · rw [UpdateBestCompatibleInQueue_eq, if_pos hle]
  · rw [UpdateBestCompatibleInQueue_eq]
    split_ifs <;> rfl

/-- The part of an entry that judging goes by. -/
def chosenData (queueData : LfgQueueData) : LfgRolesMap × LfgDungeonSet := (queueData.roles, queueData.dungeons)

@[simp]
theorem chosenData_UpdateBest (queueData : LfgQueueData) (key : Key) (roles : LfgRolesMap) :
    (queueData.UpdateBestCompatibleInQueue key roles).chosenData = queueData.chosenData := by
  rw [UpdateBestCompatibleInQueue_eq]
  split_ifs <;> rfl

@[simp]
theorem chosenData_FindBest (store : ExtTreeMap Key LfgCompatibilityData) (guid : ObjectGuid)
    (queueData : LfgQueueData) :
    (queueData.FindBestCompatibleInQueue store guid).chosenData = queueData.chosenData := by
  rw [FindBestCompatibleInQueue]
  induction store.toList generalizing queueData with
  | nil => rfl
  | cons entry entries ih =>
    rw [List.foldl_cons, ih]
    split_ifs
    · exact chosenData_UpdateBest _ _ _
    · rfl

end LfgQueueData

namespace LFGQueue

variable {queue queue' queue'' : LFGQueue} {guid : ObjectGuid}

/-- The roles and dungeons of a queue entry. -/
def entry (queue : LFGQueue) (guid : ObjectGuid) : Option (LfgRolesMap × LfgDungeonSet) :=
  queue.QueueDataStore[guid]?.map (·.chosenData)

/-- The same guids have entries, with the same roles and dungeons. -/
def SameEntries (queue queue' : LFGQueue) : Prop := ∀ guid, queue'.entry guid = queue.entry guid

theorem SameEntries.refl (queue : LFGQueue) : SameEntries queue queue := fun _ ↦ rfl

theorem SameEntries.trans (h : SameEntries queue queue') (h' : SameEntries queue' queue'') :
    SameEntries queue queue'' :=
  fun guid ↦ (h' guid).trans (h guid)

theorem SameEntries.symm (h : SameEntries queue queue') : SameEntries queue' queue := fun guid ↦ (h guid).symm

theorem mem_iff_entry : guid ∈ queue.QueueDataStore ↔ ∃ data, queue.entry guid = some data := by
  simp only [entry, TreeMap.mem_iff, Option.map_eq_some_iff]
  constructor
  · rintro ⟨queueData, h⟩
    exact ⟨queueData.chosenData, queueData, h, rfl⟩
  · rintro ⟨-, queueData, h, -⟩
    exact ⟨queueData, h⟩

theorem rolesOf_eq_entry : queue.rolesOf guid = ((queue.entry guid).map Prod.fst).getD ∅ := by
  simp [rolesOf, entry, Option.map_map, Function.comp_def, LfgQueueData.chosenData]

theorem dungeonsOf_eq_entry : queue.dungeonsOf guid = ((queue.entry guid).map Prod.snd).getD ⟨[], .nil⟩ := by
  simp [dungeonsOf, entry, Option.map_map, Function.comp_def, LfgQueueData.chosenData]

theorem SameEntries.mem_iff (h : SameEntries queue queue') :
    guid ∈ queue'.QueueDataStore ↔ guid ∈ queue.QueueDataStore := by
  simp [mem_iff_entry, h guid]

theorem SameEntries.rolesOf (h : SameEntries queue queue') : queue'.rolesOf guid = queue.rolesOf guid := by
  simp [rolesOf_eq_entry, h guid]

theorem SameEntries.dungeonsOf (h : SameEntries queue queue') : queue'.dungeonsOf guid = queue.dungeonsOf guid := by
  simp [dungeonsOf_eq_entry, h guid]

/-! ## Judging goes by the entries -/

variable (view : MgrView)

theorem census_cons (counted : Census) (check : List ObjectGuid) : queue.census view counted (guid :: check) =
      if counted.numLfgGroups < 2 ∧ counted.numPlayers ≤ MAXGROUPSIZE then
        match queue.entry guid with
        | none => .error guid
        | some data => queue.census view (counted.add view guid data.1) check
      else .ok counted := by
  rw [census, entry]
  cases queue.QueueDataStore[guid]? <;> rfl

theorem census_congr (h : SameEntries queue queue') (counted : Census) (check : List ObjectGuid) :
    queue'.census view counted check = queue.census view counted check := by
  induction check generalizing counted with
  | nil => rfl
  | cons guid check ih =>
    rw [census_cons, census_cons, h guid]
    cases queue.entry guid with
    | none => rfl
    | some data => simp only [ih]

theorem combine_congr (h : SameEntries queue queue') (check : List ObjectGuid) (numPlayers : ℕ) :
    queue'.combine view check numPlayers = queue.combine view check numPlayers := by
  have hcommon : queue'.commonDungeons check = queue.commonDungeons check := by
    cases check <;> simp [commonDungeons, h.dungeonsOf]
  simp only [combine, h.rolesOf, h.dungeonsOf, hcommon]

/-- A combination is judged by the roles and dungeons of its entries only. -/
theorem judge_congr (h : SameEntries queue queue') (check : List ObjectGuid) :
    queue'.judge view check = queue.judge view check := by
  simp only [judge, census_congr view h, combine_congr view h, h.rolesOf]

theorem census_error {counted : Census} {check : List ObjectGuid} (h : queue.census view counted check = .error guid) :
    guid ∈ check ∧ guid ∉ queue.QueueDataStore := by
  induction check generalizing counted with
  | nil => cases h
  | cons other check ih =>
    rw [census_cons] at h
    split_ifs at h
    cases hentry : queue.entry other with
    | none =>
      rw [hentry] at h
      cases h
      refine ⟨List.mem_cons_self, fun hmem ↦ ?_⟩
      obtain ⟨data, hdata⟩ := mem_iff_entry.mp hmem
      simp [hentry] at hdata
    | some data =>
      rw [hentry] at h
      exact ⟨List.mem_cons_of_mem _ (ih h).1, (ih h).2⟩

theorem judge_notQueued {check : List ObjectGuid} (h : queue.judge view check = .notQueued guid) :
    guid ∈ check ∧ guid ∉ queue.QueueDataStore := by
  unfold judge at h
  cases hcensus : queue.census view .init check with
  | error other =>
    rw [hcensus] at h
    cases h
    exact census_error view hcensus
  | ok counted =>
    simp only [hcensus] at h
    cases hcombine : queue.combine view check counted.numPlayers with
    | error reason =>
      simp only [hcombine] at h
      split_ifs at h
    | ok combined =>
      simp only [hcombine] at h
      split_ifs at h

/-- The reasons for which a combination of the right size is rejected. -/
theorem judge_incompatible {check : List ObjectGuid} {reason : LfgCompatibility}
    (h : queue.judge view check = .incompatible reason) :
    reason ∈ [.tooMuchPlayers, .multipleLfgGroups, .hasIgnores, .noRoles, .noDungeons] := by
  unfold judge at h
  cases hcensus : queue.census view .init check with
  | error other => simp [hcensus] at h
  | ok counted =>
    simp only [hcensus] at h
    cases hcombine : queue.combine view check counted.numPlayers with
    | error reason' =>
      have hreason' : reason' ∈ [LfgCompatibility.hasIgnores, .noRoles, .noDungeons] := by
        unfold combine at hcombine
        dsimp only at hcombine
        split at hcombine
        · split at hcombine
          · cases hcombine
            decide
          · split at hcombine
            · cases hcombine
              decide
            · split at hcombine
              · cases hcombine
                decide
              · cases hcombine
        · cases hcombine
      simp only [hcombine] at h
      split_ifs at h
      all_goals cases h
      · decide
      · decide
      · exact List.mem_cons_of_mem _ (List.mem_cons_of_mem _ hreason')
    | ok combined =>
      simp only [hcombine] at h
      split_ifs at h
      all_goals cases h
      all_goals decide

/-- A proposal that is made for a combination judged complete. -/
def Proposes (queue : LFGQueue) (view : MgrView) (proposal : LfgProposal) : Prop :=
  ∃ check n formation, queue.judge view check = .complete formation ∧ proposal = newProposal view n check formation

/-! ## The writes of a search -/

variable {key : Key} {check : List ObjectGuid} {compatibles : LfgCompatibility}

theorem sameEntries_SetCompatibles : SameEntries queue (queue.SetCompatibles key compatibles) := fun _ ↦ rfl

theorem get_updateBest (roles : LfgRolesMap) (guid : ObjectGuid) :
    (queue.updateBest check key roles).QueueDataStore[guid]? =
      if guid ∈ check then
        queue.QueueDataStore[guid]?.map (·.UpdateBestCompatibleInQueue key roles)
      else queue.QueueDataStore[guid]? := by
  rw [updateBest]
  generalize queue.QueueDataStore = store
  induction check generalizing store with
  | nil => simp
  | cons other check ih =>
    rw [List.foldl_cons, ih, TreeMap.get_modify]
    by_cases heq : other = guid
    · subst heq
      rw [if_pos rfl, if_pos List.mem_cons_self, Option.map_map]
      split_ifs
      · congr 1
        exact funext fun queueData ↦ LfgQueueData.UpdateBestCompatibleInQueue_idem _ _ _
      · rfl
    · simp [heq, Ne.symm heq]

theorem sameEntries_updateBest (roles : LfgRolesMap) : SameEntries queue (queue.updateBest check key roles) := by
  intro guid
  rw [entry, get_updateBest]
  split_ifs
  · rw [Option.map_map, entry]
    congr 1
    exact funext fun queueData ↦ LfgQueueData.chosenData_UpdateBest _ _ _
  · rfl

theorem entry_RemoveFromQueue (other : ObjectGuid) :
    (queue.RemoveFromQueue guid).entry other = if guid = other then none else queue.entry other := by
  simp only [RemoveFromQueue, forgetBest, entry, TreeMap.get_erase]
  split_ifs with heq
  · rfl
  · rw [ExtTreeMap.getElem?_map, Option.map_map]
    show queue.QueueDataStore[other]?.map _ = _
    congr 1
    funext queueData
    simp only [Function.comp_apply]
    split_ifs
    · exact LfgQueueData.chosenData_FindBest _ _ _
    · rfl

theorem store_foldl_remove (check : List ObjectGuid) :
    (check.foldl (fun queue guid ↦ (queue.RemoveFromNewQueue guid).RemoveFromCurrentQueue guid)
      queue).QueueDataStore = queue.QueueDataStore := by
  induction check generalizing queue with
  | nil => rfl
  | cons guid check ih => rw [List.foldl_cons, ih]; rfl

end LFGQueue

/-! ## The induction over a search -/

namespace QueueSearch

variable (view : MgrView) (G B : List ObjectGuid → QueueSearch → Prop)

/-- `G` holds wherever a `CheckCompatibility` gets to `CheckTogether`. -/
def AlongCheck : List ObjectGuid → QueueSearch → Prop
  | [], _ => True
  | guid :: check, search =>
    (guid :: check).length ≤ MAXGROUPSIZE →
      if 2 < (guid :: check).length then
        AlongCheck check search ∧ ((search.CheckCompatibility view check).1.compatible →
            G (guid :: check) (search.CheckCompatibility view check).2)
      else G (guid :: check) search

/-- What the induction over a search asks of a property: that the writes of the search preserve it. -/
structure Preserves (P : QueueSearch → Prop) : Prop where
  /-- The compatibility of a tail is written down for the whole combination. -/
  reject : ∀ check reason search, P search → reason.compatible = false →
    P (search.onQueue (·.SetCompatibles (ConcatenateGuids check) reason))
  together : ∀ check search, P search → check ≠ [] → check.length ≤ MAXGROUPSIZE → G check search →
    P (search.CheckTogether view check).2
  switch : ∀ check search, P search → B check search →
    P (search.onQueue (·.SetCompatibles (ConcatenateGuids check) .match))

variable {view G B} {P : QueueSearch → Prop}

theorem CheckCompatibility_cons {guid : ObjectGuid} {check : List ObjectGuid} (search : QueueSearch)
    (h : (guid :: check).length ≤ MAXGROUPSIZE) :
    search.CheckCompatibility view (guid :: check) =
      if 2 < (guid :: check).length then
        if (search.CheckCompatibility view check).1.compatible = false then
          ((search.CheckCompatibility view check).1, (search.CheckCompatibility view check).2.onQueue
              (·.SetCompatibles (ConcatenateGuids (guid :: check)) (search.CheckCompatibility view check).1))
        else CheckTogether view (guid :: check) (search.CheckCompatibility view check).2
      else search.CheckTogether view (guid :: check) := by
  rw [CheckCompatibility, if_neg (Nat.not_lt.mpr h)]
  simp

theorem CheckCompatibility_preserves (hP : Preserves view G B P) {check : List ObjectGuid}
    {search : QueueSearch} (halong : search.AlongCheck view G check) (h : P search) :
    P (search.CheckCompatibility view check).2 := by
  induction check with
  | nil => exact h
  | cons guid check ih =>
    by_cases hlength : (guid :: check).length ≤ MAXGROUPSIZE
    · rw [CheckCompatibility_cons search hlength]
      have halong := halong hlength
      split_ifs with htwo hchild
      · rw [if_pos htwo] at halong
        exact hP.reject _ _ _ (ih halong.1) hchild
      · rw [if_pos htwo] at halong
        exact hP.together _ _ (ih halong.1) (List.cons_ne_nil _ _) hlength
          (halong.2 (Bool.not_eq_false _ ▸ hchild))
      · rw [if_neg htwo] at halong
        exact hP.together _ _ h (List.cons_ne_nil _ _) hlength halong
    · rw [CheckCompatibility, if_pos (Nat.not_le.mp hlength)]
      exact h

/-! ## Guards that always hold -/

theorem alongCheck_of_forall (hG : ∀ check search, G check search) (check : List ObjectGuid)
    (search : QueueSearch) : search.AlongCheck view G check := by
  induction check with
  | nil => trivial
  | cons guid check ih =>
    intro hlength
    split_ifs
    · exact ⟨ih, fun _ ↦ hG _ _⟩
    · exact hG _ _

/-! ## The entries stay -/

theorem sameEntries_CheckTogether (check : List ObjectGuid) (search : QueueSearch) :
    LFGQueue.SameEntries search.queue (search.CheckTogether view check).2.queue := by
  unfold CheckTogether
  cases hjudge : search.queue.judge view check with
  | notQueued guid =>
    intro other
    have hnone := (LFGQueue.judge_notQueued view hjudge).2
    show (search.queue.RemoveFromQueue guid).entry other = _
    rw [LFGQueue.entry_RemoveFromQueue]
    split_ifs with heq
    · subst heq
      cases hentry : search.queue.entry guid with
      | none => rfl
      | some data => exact absurd (LFGQueue.mem_iff_entry.mpr ⟨data, hentry⟩) hnone
    · rfl
  | incompatible reason => exact LFGQueue.sameEntries_SetCompatibles
  | lessPlayers roles =>
    show LFGQueue.SameEntries search.queue
      (search.queue.updateBest check (ConcatenateGuids check) roles)
    exact LFGQueue.sameEntries_updateBest roles
  | badStates => exact LFGQueue.sameEntries_SetCompatibles
  | complete formation =>
    intro guid
    exact congrArg (fun store : ExtTreeMap ObjectGuid LfgQueueData ↦
      store[guid]?.map LfgQueueData.chosenData) (LFGQueue.store_foldl_remove check)

theorem sameEntries_preserves (queue : LFGQueue) : Preserves view (fun _ _ ↦ True) (fun _ _ ↦ True)
      (fun search ↦ LFGQueue.SameEntries queue search.queue) where
  reject _ _ _ h _ := h.trans LFGQueue.sameEntries_SetCompatibles
  together check search h _ _ _ := h.trans (sameEntries_CheckTogether check search)
  switch _ _ h _ := h.trans LFGQueue.sameEntries_SetCompatibles

/-- **A check changes no roles and no dungeons.** -/
theorem sameEntries_CheckCompatibility (check : List ObjectGuid) (search : QueueSearch) :
    LFGQueue.SameEntries search.queue (search.CheckCompatibility view check).2.queue :=
  CheckCompatibility_preserves (sameEntries_preserves search.queue)
    (alongCheck_of_forall (fun _ _ ↦ trivial) _ _) (.refl _)

/-! ## The proposals that are added -/

/-- The entries are those of `queue`, and the proposals added after `old` are made for combinations that
are judged complete. -/
def Proposing (view : MgrView) (queue : LFGQueue) (old : List LfgProposal) (search : QueueSearch) :
    Prop :=
  LFGQueue.SameEntries queue search.queue ∧
    ∃ added, search.added = old ++ added ∧ ∀ proposal ∈ added, queue.Proposes view proposal

theorem proposing_onQueue {queue : LFGQueue} {old : List LfgProposal} {search : QueueSearch}
    (h : search.Proposing view queue old) (key : Key) (compatibles : LfgCompatibility) :
    (search.onQueue (·.SetCompatibles key compatibles)).Proposing view queue old :=
  ⟨h.1.trans LFGQueue.sameEntries_SetCompatibles, h.2⟩

theorem added_CheckTogether (check : List ObjectGuid) (search : QueueSearch) :
    (search.CheckTogether view check).2.added = search.added ∨
      ∃ formation, search.queue.judge view check = .complete formation ∧ (search.CheckTogether view check).2.added =
          search.added ++ [newProposal view search.added.length check formation] := by
  unfold CheckTogether
  cases hjudge : search.queue.judge view check with
  | complete formation => exact .inr ⟨formation, rfl, rfl⟩
  | notQueued _ | incompatible _ | lessPlayers _ | badStates => exact .inl rfl

theorem proposing_preserves (queue : LFGQueue) (old : List LfgProposal) :
    Preserves view (fun _ _ ↦ True) (fun _ _ ↦ True) (Proposing view queue old) where
  reject _ _ _ h _ := proposing_onQueue h _ _
  together check search h _ _ _ := by
    obtain ⟨hsame, added, hadded, hproposes⟩ := h
    refine ⟨hsame.trans (sameEntries_CheckTogether check search), ?_⟩
    rcases added_CheckTogether check search with hold | ⟨formation, hjudge, hnew⟩
    · exact ⟨added, hold.trans hadded, hproposes⟩
    · refine ⟨added ++ [newProposal view search.added.length check formation], ?_, ?_⟩
      · simp [hnew, hadded]
      · intro proposal hproposal
        rcases List.mem_append.mp hproposal with hproposal | hproposal
        · exact hproposes proposal hproposal
        · rw [LFGQueue.judge_congr view hsame] at hjudge
          exact ⟨check, _, formation, hjudge, List.mem_singleton.mp hproposal⟩
  switch _ _ h _ := proposing_onQueue h _ _

/-- **A check adds proposals for complete combinations only.** -/
theorem added_CheckCompatibility (check : List ObjectGuid) (search : QueueSearch) :
    ∃ added, (search.CheckCompatibility view check).2.added = search.added ++ added ∧
      ∀ proposal ∈ added, search.queue.Proposes view proposal :=
  (CheckCompatibility_preserves (proposing_preserves search.queue search.added)
    (alongCheck_of_forall (fun _ _ ↦ trivial) _ _)
    ⟨.refl _, [], (List.append_nil _).symm, fun _ h ↦ absurd h List.not_mem_nil⟩).2

/-! ## The bounds of the recursions are never met -/

end QueueSearch

end Gundrak.Lfg
