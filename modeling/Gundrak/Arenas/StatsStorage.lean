import Gundrak.Arenas.ArenaTeam

/-!
# Arena statistics after a restart

Loading the teams should give what is in memory: the same teams, with the same statistics, and the same
members with the same games, wins and ratings, in some order.  Then the points of the next distribution are
the same as well.  This is `Restores`.

`Keeps` is when an operation leaves it so.  A weekly distribution does only if it finds no games of the week
to set to zero, since the members are left out of `SaveToDB` right after that; and a new member does only if
his rating is what the column has by default, since it is not written before he plays.

**`restores_of_reaches`** says that along the runs that keep to `Keeps` the teams can always be loaded as
they are, and that an operation after such a run leaves it so exactly when it keeps to the condition.
-/

open Std (ExtTreeMap)

namespace Gundrak.Arenas

/-! ## What should hold -/

/-- Two teams that differ in nothing but the order of the members. -/
structure ArenaTeam.Same (t' t : ArenaTeam) : Prop where
  type : t'.GetType = t.GetType
  captain : t'.CaptainGuid = t.CaptainGuid
  stats : t'.Stats = t.Stats
  members : t'.Members.Perm t.Members

namespace ArenaTeamMgr

variable (setup : Setup) (s : ArenaTeamMgr)

/-- The teams that are loaded are those in memory, and the points they give are the same. -/
def Restores : Prop := ∀ result, s.IsResult result →
    List.Forall₂ (fun p q ↦ p.1 = q.1 ∧ p.2.Same q.2) (s.LoadArenaTeams setup result)
      s.ArenaTeamStore.toList ∧
    ∀ requiredGames GetPoints, PlayerPoints requiredGames GetPoints
        ((s.LoadArenaTeams setup result).map Prod.snd) =
      PlayerPoints requiredGames GetPoints (s.ArenaTeamStore.toList.map Prod.snd)

/-- A member that has been added to a team is in the table with what he has in memory. -/
def AddsAs (t : ArenaTeam) (guid : ObjectGuid) : Prop :=
  { setup.memberColumns with Guid := guid } = t.newMember setup guid

/-- A member can play once more before his games of the week start from 0 again. -/
def CanCount (t : ArenaTeam) (guid : ObjectGuid) : Prop := ∀ m ∈ t.Members, m.Guid = guid → m.WeekGames ≠ 65535

/-- When an operation leaves the teams as they can be loaded. -/
def Keeps : Call → Prop
  | .Create _ type captainGuid added => added = true ∧
      { setup.teamColumns with Rating := setup.CONFIG_ARENA_START_RATING } =
        (⟨setup.CONFIG_ARENA_START_RATING, 0, 0, 0, 0, 0⟩ : ArenaTeamStats) ∧
      AddsAs setup ⟨type, captainGuid, [], ⟨setup.CONFIG_ARENA_START_RATING, 0, 0, 0, 0, 0⟩⟩ captainGuid
  | .AddMember id guid => ∀ t ∈ s.ArenaTeamStore[id]?, t.Members.length < t.GetType.toNat * 2 → AddsAs setup t guid
  | .DelMember id guid => ∀ t ∈ s.ArenaTeamStore[id]?, t.CaptainGuid ≠ guid
  | .SetCaptain id guid => ∀ t ∈ s.ArenaTeamStore[id]?, t.IsMember guid
  | .Disband _ | .WonAgainst _ _ | .LostAgainst _ _ => True
  | .MemberWon id guid _ | .MemberLost id guid _ => ∀ t ∈ s.ArenaTeamStore[id]?, CanCount t guid
  | .DistributeArenaPoints => ∀ p ∈ s.ArenaTeamStore.toList, p.2.Stats.WeekGames ≠ 0 →
      ∀ m ∈ p.2.Members, m.WeekGames = 0 ∧ m.WeekWins = 0

instance (t : ArenaTeam) (guid : ObjectGuid) : Decidable (AddsAs setup t guid) := inferInstanceAs (Decidable (_ = _))

instance (t : ArenaTeam) (guid : ObjectGuid) : Decidable (CanCount t guid) :=
  inferInstanceAs (Decidable (∀ m ∈ t.Members, _))

instance : (call : Call) → Decidable (s.Keeps setup call)
  | .Create .. => inferInstanceAs (Decidable (_ ∧ _))
  | .AddMember id guid => inferInstanceAs (Decidable (∀ t ∈ s.ArenaTeamStore[id]?, _))
  | .DelMember id guid => inferInstanceAs (Decidable (∀ t ∈ s.ArenaTeamStore[id]?, _))
  | .SetCaptain id guid => inferInstanceAs (Decidable (∀ t ∈ s.ArenaTeamStore[id]?, _))
  | .Disband _ | .WonAgainst _ _ | .LostAgainst _ _ => inferInstanceAs (Decidable True)
  | .MemberWon id guid _ | .MemberLost id guid _ => inferInstanceAs (Decidable (∀ t ∈ s.ArenaTeamStore[id]?, _))
  | .DistributeArenaPoints => inferInstanceAs (Decidable (∀ p ∈ s.ArenaTeamStore.toList, _))

/-! ## The rows of a team -/

/-- The rows of a team, without its id. -/
def rowsOf (id : ℕ) (rows : List (ℕ × ArenaTeamMember)) : List ArenaTeamMember := (rows.filter (·.1 = id)).map Prod.snd

theorem rowsOf_append (id : ℕ) (rows rows' : List (ℕ × ArenaTeamMember)) :
    rowsOf id (rows ++ rows') = rowsOf id rows ++ rowsOf id rows' := by
  simp [rowsOf]

/-- What `saveMember` does to the rows of its team. -/
def saveRow (rows : List ArenaTeamMember) (m : ArenaTeamMember) : List ArenaTeamMember :=
  if m.WeekGames = 0 then rows else rows.map fun r ↦ if r.Guid = m.Guid then m else r

theorem rowsOf_saveMember_self (id : ℕ) (rows : List (ℕ × ArenaTeamMember)) (m : ArenaTeamMember) :
    rowsOf id (saveMember id rows m) = saveRow (rowsOf id rows) m := by
  rw [saveMember, saveRow]
  split
  · rfl
  · induction rows with
    | nil => rfl
    | cons row rows ih =>
      obtain ⟨id', r⟩ := row
      rw [rowsOf, rowsOf, updateMember] at ih
      rw [rowsOf, rowsOf, updateMember, List.map_cons]
      by_cases hid : id' = id
      · by_cases hguid : r.Guid = m.Guid <;> simp [hid, hguid, ih]
      · simp [hid, ih]

theorem rowsOf_saveMember_of_ne {id id' : ℕ} (h : id ≠ id') (rows : List (ℕ × ArenaTeamMember))
    (m : ArenaTeamMember) : rowsOf id' (saveMember id rows m) = rowsOf id' rows := by
  rw [saveMember]
  split
  · rfl
  · induction rows with
    | nil => rfl
    | cons row rows ih =>
      obtain ⟨k, r⟩ := row
      rw [rowsOf, rowsOf, updateMember] at ih
      rw [rowsOf, rowsOf, updateMember, List.map_cons]
      by_cases hupd : k = id ∧ r.Guid = m.Guid
      · simp [hupd.1, hupd.2, h, ih]
      · rw [if_neg hupd]
        by_cases hk : k = id' <;> simp [hk, ih]

theorem rowsOf_foldl_saveMember (id id' : ℕ) (ms : List ArenaTeamMember)
    (rows : List (ℕ × ArenaTeamMember)) : rowsOf id' (ms.foldl (saveMember id) rows) =
      if id = id' then ms.foldl saveRow (rowsOf id' rows) else rowsOf id' rows := by
  induction ms generalizing rows with
  | nil => simp
  | cons m ms ih =>
    rw [List.foldl_cons, ih]
    by_cases hid : id = id'
    · subst hid
      simp [rowsOf_saveMember_self]
    · simp [hid, rowsOf_saveMember_of_ne hid]

theorem guids_foldl_saveRow (ms rows : List ArenaTeamMember) :
    (ms.foldl saveRow rows).map ArenaTeamMember.Guid = rows.map ArenaTeamMember.Guid := by
  induction ms generalizing rows with
  | nil => rfl
  | cons m ms ih =>
    rw [List.foldl_cons, ih, saveRow]
    split
    · rfl
    · rw [List.map_map]
      refine List.map_congr_left fun r _ ↦ ?_
      simp only [Function.comp]
      split
      · rename_i hguid
        exact hguid.symm
      · rfl

/-- A row is that of a member who has played, or it is as it was, and its member has not. -/
theorem mem_foldl_saveRow {ms rows : List ArenaTeamMember} {r : ArenaTeamMember} (h : r ∈ ms.foldl saveRow rows) :
    r ∈ ms ∨ r ∈ rows ∧ ∀ m ∈ ms, m.Guid = r.Guid → m.WeekGames = 0 := by
  induction ms generalizing rows with
  | nil => exact .inr ⟨h, fun _ hm ↦ absurd hm List.not_mem_nil⟩
  | cons m ms ih =>
    rcases ih h with hms | ⟨hrow, hall⟩
    · exact .inl (List.mem_cons_of_mem _ hms)
    · rw [saveRow] at hrow
      split at hrow
      · rename_i hzero
        exact .inr ⟨hrow, List.forall_mem_cons.mpr ⟨fun _ ↦ hzero, hall⟩⟩
      · obtain ⟨r₀, hr₀, rfl⟩ := List.mem_map.mp hrow
        split
        · exact .inl List.mem_cons_self
        · rename_i hne
          rw [if_neg hne] at hall
          exact .inr ⟨hr₀, List.forall_mem_cons.mpr ⟨fun hguid ↦ absurd hguid.symm hne, hall⟩⟩

theorem mem_foldl_saveRow_of_mem {ms rows : List ArenaTeamMember} {r : ArenaTeamMember} (h : r ∈ rows)
    (hall : ∀ m ∈ ms, m.Guid = r.Guid → m.WeekGames = 0) : r ∈ ms.foldl saveRow rows := by
  induction ms generalizing rows with
  | nil => exact h
  | cons m ms ih =>
    obtain ⟨hm, hms⟩ := List.forall_mem_cons.mp hall
    refine ih ?_ hms
    rw [saveRow]
    split
    · exact h
    · rename_i hplayed
      have hne : r.Guid ≠ m.Guid := fun hguid ↦ hplayed (hm hguid.symm)
      exact List.mem_map.mpr ⟨r, h, if_neg hne⟩

/-- The rows of a team have what its members have. -/
def Agree (rows ms : List ArenaTeamMember) : Prop := ∀ r ∈ rows, ∀ m ∈ ms, r.Guid = m.Guid → r = m

theorem eq_of_guid_eq {ms : List ArenaTeamMember} (h : (ms.map ArenaTeamMember.Guid).Nodup)
    {m m' : ArenaTeamMember} (hm : m ∈ ms) (hm' : m' ∈ ms) (hguid : m.Guid = m'.Guid) : m = m' :=
  List.inj_on_of_nodup_map h hm hm' hguid

/-- **What is saved** is right exactly when the rows of the members without a game in the week were. -/
theorem agree_save_iff {ms rows : List ArenaTeamMember} (h : (ms.map ArenaTeamMember.Guid).Nodup) :
    Agree (ms.foldl saveRow rows) ms ↔ ∀ m ∈ ms, m.WeekGames = 0 → ∀ r ∈ rows, r.Guid = m.Guid → r = m := by
  constructor
  · intro hagree m hm hzero r hr hguid
    refine hagree r (mem_foldl_saveRow_of_mem hr fun m' hm' hguid' ↦ ?_) m hm hguid
    rw [eq_of_guid_eq h hm' hm (hguid'.trans hguid)]
    exact hzero
  · intro hall r hr m hm hguid
    rcases mem_foldl_saveRow hr with hms | ⟨hrow, hzero⟩
    · exact eq_of_guid_eq h hms hm hguid
    · exact hall m hm (hzero m hm hguid.symm) r hrow hguid

/-- Rows that have what the members have are the members, in some order. -/
theorem perm_of_agree {ms rows : List ArenaTeamMember} (hnodup : (ms.map ArenaTeamMember.Guid).Nodup)
    (hguids : (rows.map ArenaTeamMember.Guid).Perm (ms.map ArenaTeamMember.Guid)) (hagree : Agree rows ms) :
    rows.Perm ms := by
  refine (List.perm_ext_iff_of_nodup (hguids.nodup_iff.mpr hnodup).of_map hnodup.of_map).mpr fun m ↦ ?_
  constructor
  · intro hm
    obtain ⟨m', hm', hguid⟩ := List.mem_map.mp (hguids.mem_iff.mp (List.mem_map_of_mem hm))
    rw [hagree m hm m' hm' hguid.symm]
    exact hm'
  · intro hm
    obtain ⟨r, hr, hguid⟩ := List.mem_map.mp (hguids.mem_iff.mpr (List.mem_map_of_mem hm))
    rw [← hagree r hr m hm hguid]
    exact hr

/-! ## What is in the tables

`TablesAt` is what the tables always have of a team: its type, its captain and the guids of its members.
`SavedAt` is that they have all of it, and that the team has its captain. -/

/-- What the tables always have of a team. -/
structure Stored (setup : Setup) (s : ArenaTeamMgr) (id : ℕ) (t : ArenaTeam) : Prop where
  row : ∃ row, s.arena_team[id]? = some row ∧ row.type = t.GetType ∧ row.captainGuid = t.CaptainGuid
  guids : ((rowsOf id s.arena_team_member).map ArenaTeamMember.Guid).Perm (t.Members.map ArenaTeamMember.Guid)
  nodup : (t.Members.map ArenaTeamMember.Guid).Nodup
  named : ∀ m ∈ t.Members, setup.characters m.Guid = true

/-- What the tables always have under an id. -/
structure TablesAt (setup : Setup) (s : ArenaTeamMgr) (id : ℕ) : Prop where
  stored : ∀ t, s.ArenaTeamStore[id]? = some t → Stored setup s id t
  none : s.ArenaTeamStore[id]? = none → s.arena_team[id]? = none ∧ rowsOf id s.arena_team_member = []

/-- The tables have all of a team. -/
structure Saved (s : ArenaTeamMgr) (id : ℕ) (t : ArenaTeam) : Prop where
  row : s.arena_team[id]? = some t.row
  agree : Agree (rowsOf id s.arena_team_member) t.Members
  captain : t.IsMember t.CaptainGuid = true

/-- The tables have all of the team with an id, if there is one. -/
def SavedAt (s : ArenaTeamMgr) (id : ℕ) : Prop := ∀ t, s.ArenaTeamStore[id]? = some t → Saved s id t

variable {setup : Setup} {s s' : ArenaTeamMgr} {id id' : ℕ} {t t' : ArenaTeam} {guid : ObjectGuid}

/-- Nothing has changed under an id. -/
structure SameAt (s' s : ArenaTeamMgr) (id : ℕ) : Prop where
  store : s'.ArenaTeamStore[id]? = s.ArenaTeamStore[id]?
  team : s'.arena_team[id]? = s.arena_team[id]?
  rows : rowsOf id s'.arena_team_member = rowsOf id s.arena_team_member

theorem SameAt.refl (s : ArenaTeamMgr) (id : ℕ) : SameAt s s id := ⟨rfl, rfl, rfl⟩

theorem SameAt.symm (h : SameAt s' s id) : SameAt s s' id := ⟨h.store.symm, h.team.symm, h.rows.symm⟩

theorem SameAt.trans {s'' : ArenaTeamMgr} (h : SameAt s'' s' id) (h' : SameAt s' s id) : SameAt s'' s id :=
  ⟨h.store.trans h'.store, h.team.trans h'.team, h.rows.trans h'.rows⟩

theorem TablesAt.congr (h : TablesAt setup s id) (hsame : SameAt s' s id) : TablesAt setup s' id := by
  refine ⟨fun t ht ↦ ?_, fun hnone ↦ ?_⟩
  · obtain ⟨hrow, hguids, hnodup, hnamed⟩ := h.stored t (hsame.store ▸ ht)
    exact ⟨hsame.team ▸ hrow, hsame.rows ▸ hguids, hnodup, hnamed⟩
  · rw [hsame.team, hsame.rows]
    exact h.none (hsame.store ▸ hnone)

theorem SavedAt.congr (h : SavedAt s id) (hsame : SameAt s' s id) : SavedAt s' id := by
  intro t ht
  obtain ⟨hrow, hagree, hcaptain⟩ := h t (hsame.store ▸ ht)
  exact ⟨hsame.team ▸ hrow, hsame.rows ▸ hagree, hcaptain⟩

theorem isMember_iff : t.IsMember guid = true ↔ guid ∈ t.Members.map ArenaTeamMember.Guid := by
  simp [ArenaTeam.IsMember]

theorem Stored.exists_row (h : Stored setup s id t) {m : ArenaTeamMember} (hm : m ∈ t.Members) :
    ∃ r ∈ rowsOf id s.arena_team_member, r.Guid = m.Guid :=
  List.mem_map.mp (h.guids.mem_iff.mpr (List.mem_map_of_mem hm))

/-! ## Saving a team -/

theorem sameAt_saveToDB_of_ne (h : id ≠ id') : SameAt (s.SaveToDB id t) s id' := by
  constructor <;> simp [SaveToDB, TreeMap.get_insert, h, TreeMap.get_modify, rowsOf_foldl_saveMember]

theorem get_saveToDB_self : (s.SaveToDB id t).ArenaTeamStore[id]? = some t := by
  simp [SaveToDB]

theorem rowsOf_saveToDB_self : rowsOf id (s.SaveToDB id t).arena_team_member =
    t.Members.foldl saveRow (rowsOf id s.arena_team_member) := by
  simp [SaveToDB, rowsOf_foldl_saveMember]

/-- A team is saved that differs from the one before in its statistics and in those of its members. -/
structure Changes (t' t : ArenaTeam) : Prop where
  type : t'.GetType = t.GetType
  captain : t'.CaptainGuid = t.CaptainGuid
  guids : t'.Members.map ArenaTeamMember.Guid = t.Members.map ArenaTeamMember.Guid

theorem Changes.isMember (h : Changes t' t) : t'.IsMember t'.CaptainGuid = t.IsMember t.CaptainGuid := by
  rw [Bool.eq_iff_iff, isMember_iff, isMember_iff, h.guids, h.captain]

theorem tablesAt_saveToDB (h : Stored setup s id t) (hc : Changes t' t) : TablesAt setup (s.SaveToDB id t') id := by
  refine ⟨fun t'' ht'' ↦ ?_, fun hnone ↦ ?_⟩
  · rw [get_saveToDB_self] at ht''
    obtain rfl := Option.some.inj ht''
    obtain ⟨row, hrow, htype, hcaptain⟩ := h.row
    refine ⟨⟨{ row with Stats := t'.Stats }, ?_, htype.trans hc.type.symm,
      hcaptain.trans hc.captain.symm⟩, ?_, ?_, fun m hm ↦ ?_⟩
    · simp [SaveToDB, hrow]
    · rw [rowsOf_saveToDB_self, guids_foldl_saveRow, hc.guids]
      exact h.guids
    · rw [hc.guids]
      exact h.nodup
    · have hmem : m.Guid ∈ t.Members.map ArenaTeamMember.Guid := hc.guids ▸ List.mem_map_of_mem hm
      obtain ⟨m', hm', hguid⟩ := List.mem_map.mp hmem
      exact hguid ▸ h.named m' hm'
  · simp [get_saveToDB_self] at hnone

/-- **A team is saved right** exactly when the members without a game in the week are as they were. -/
theorem savedAt_saveToDB_iff (h : Stored setup s id t) (hs : Saved s id t) (hc : Changes t' t) :
    SavedAt (s.SaveToDB id t') id ↔
      ∀ m' ∈ t'.Members, m'.WeekGames = 0 → ∀ m ∈ t.Members, m.Guid = m'.Guid → m = m' := by
  have hnodup : (t'.Members.map ArenaTeamMember.Guid).Nodup := hc.guids ▸ h.nodup
  have hrows : (∀ m' ∈ t'.Members, m'.WeekGames = 0 → ∀ r ∈ rowsOf id s.arena_team_member, r.Guid = m'.Guid → r = m') ↔
        ∀ m' ∈ t'.Members, m'.WeekGames = 0 → ∀ m ∈ t.Members, m.Guid = m'.Guid → m = m' := by
    refine forall₃_congr fun m' _ _ ↦ ⟨fun hall m hm hguid ↦ ?_, fun hall r hr hguid ↦ ?_⟩
    · obtain ⟨r, hr, hrm⟩ := h.exists_row hm
      rw [← hs.agree r hr m hm hrm]
      exact hall r hr (hrm.trans hguid)
    · obtain ⟨m, hm, hmr⟩ := List.mem_map.mp (h.guids.mem_iff.mp (List.mem_map_of_mem hr))
      rw [hs.agree r hr m hm hmr.symm]
      exact hall m hm (hmr.trans hguid)
  rw [← hrows, ← agree_save_iff hnodup]
  constructor
  · intro hsaved
    simpa [rowsOf_saveToDB_self] using (hsaved t' get_saveToDB_self).agree
  · intro hagree t'' ht''
    rw [get_saveToDB_self] at ht''
    obtain rfl := Option.some.inj ht''
    refine ⟨?_, rowsOf_saveToDB_self ▸ hagree, hc.isMember.trans hs.captain⟩
    simp [SaveToDB, hs.row, ArenaTeam.row, hc.type, hc.captain]

/-! ## Matches -/

section Match

variable {f : ArenaTeamMember → ArenaTeamMember} {ms : List ArenaTeamMember}

theorem guids_modifyMember (hf : ∀ m, (f m).Guid = m.Guid) :
    (ArenaTeam.modifyMember guid f ms).map ArenaTeamMember.Guid = ms.map ArenaTeamMember.Guid := by
  induction ms with
  | nil => rfl
  | cons m ms ih =>
    rw [ArenaTeam.modifyMember]
    split <;> simp [hf, ih]

theorem mem_modifyMember {m' : ArenaTeamMember} (h : m' ∈ ArenaTeam.modifyMember guid f ms) :
    m' ∈ ms ∨ ∃ m ∈ ms, m.Guid = guid ∧ m' = f m := by
  induction ms with
  | nil => exact .inl h
  | cons m ms ih =>
    rw [ArenaTeam.modifyMember] at h
    split at h
    · rename_i hguid
      rcases List.mem_cons.mp h with rfl | h
      · exact .inr ⟨m, List.mem_cons_self, hguid, rfl⟩
      · exact .inl (List.mem_cons_of_mem _ h)
    · rcases List.mem_cons.mp h with rfl | h
      · exact .inl List.mem_cons_self
      · rcases ih h with hms | ⟨m₀, hm₀, heq⟩
        · exact .inl (List.mem_cons_of_mem _ hms)
        · exact .inr ⟨m₀, List.mem_cons_of_mem _ hm₀, heq⟩

theorem mem_modifyMember_of_mem (hnodup : (ms.map ArenaTeamMember.Guid).Nodup) {m : ArenaTeamMember}
    (hm : m ∈ ms) (hguid : m.Guid = guid) : f m ∈ ArenaTeam.modifyMember guid f ms := by
  induction ms with
  | nil => exact absurd hm List.not_mem_nil
  | cons m₀ ms ih =>
    rw [List.map_cons, List.nodup_cons] at hnodup
    rw [ArenaTeam.modifyMember]
    rcases List.mem_cons.mp hm with rfl | hm
    · simpa [hguid] using List.mem_cons_self
    · have hne : m₀.Guid ≠ guid := fun heq ↦ hnodup.1 (heq.trans hguid.symm ▸ List.mem_map_of_mem hm)
      rw [if_neg hne]
      exact List.mem_cons_of_mem _ (ih hnodup.2 hm)

theorem weekGames_succ_eq_zero_iff (n : UInt16) : n + 1 = 0 ↔ n = 65535 := by
  constructor
  · intro h
    exact (eq_neg_of_add_eq_zero_left h).trans rfl
  · rintro rfl
    rfl

/-- The games of a member that has played are not 0 again, as long as they can be counted. -/
theorem match_iff (hnodup : (t.Members.map ArenaTeamMember.Guid).Nodup) (hf : ∀ m, (f m).Guid = m.Guid)
    (hgames : ∀ m, (f m).WeekGames = m.WeekGames + 1) :
    (∀ m' ∈ ArenaTeam.modifyMember guid f t.Members, m'.WeekGames = 0 →
      ∀ m ∈ t.Members, m.Guid = m'.Guid → m = m') ↔ CanCount t guid := by
  constructor
  · intro hall m hm hguid hmax
    have hzero : (f m).WeekGames = 0 := (hgames m).trans ((weekGames_succ_eq_zero_iff _).mpr hmax)
    have heq := hall (f m) (mem_modifyMember_of_mem hnodup hm hguid) hzero m hm (hf m).symm
    simp [← heq, hmax] at hzero
  · intro hcan m' hm' hzero m hm hguid
    rcases mem_modifyMember hm' with hold | ⟨m₀, hm₀, hguid₀, rfl⟩
    · exact eq_of_guid_eq hnodup hm hold hguid
    · rw [hgames, weekGames_succ_eq_zero_iff] at hzero
      exact absurd hzero (hcan m₀ hm₀ hguid₀)

end Match

/-! ## The week -/

theorem changes_finishWeek (t : ArenaTeam) : Changes t.FinishWeek t := by
  refine ⟨rfl, rfl, ?_⟩
  simp [ArenaTeam.FinishWeek]

theorem finishWeek_iff (hnodup : (t.Members.map ArenaTeamMember.Guid).Nodup) :
    (∀ m' ∈ t.FinishWeek.Members, m'.WeekGames = 0 → ∀ m ∈ t.Members, m.Guid = m'.Guid → m = m') ↔
      ∀ m ∈ t.Members, m.WeekGames = 0 ∧ m.WeekWins = 0 := by
  constructor
  · intro hall m hm
    have heq := hall _ (List.mem_map_of_mem hm) rfl m hm rfl
    exact ⟨congrArg ArenaTeamMember.WeekGames heq, congrArg ArenaTeamMember.WeekWins heq⟩
  · intro hall m' hm' _ m hm hguid
    obtain ⟨m₀, hm₀, rfl⟩ := List.mem_map.mp hm'
    obtain rfl := eq_of_guid_eq hnodup hm hm₀ hguid
    obtain ⟨hgames, hwins⟩ := hall m hm
    cases m
    simp_all

/-! ## The members -/

theorem eraseP_eq_filter {ms : List ArenaTeamMember} (hnodup : (ms.map ArenaTeamMember.Guid).Nodup) :
    ms.eraseP (·.Guid = guid) = ms.filter fun m ↦ m.Guid ≠ guid := by
  induction ms with
  | nil => rfl
  | cons m ms ih =>
    rw [List.map_cons, List.nodup_cons] at hnodup
    by_cases hguid : m.Guid = guid
    · rw [List.eraseP_cons_of_pos (by simp [hguid]), List.filter_cons_of_neg (by simp [hguid])]
      refine (List.filter_eq_self.mpr fun m' hm' ↦ ?_).symm
      have hne : m'.Guid ≠ guid := fun heq ↦ hnodup.1 (hguid.trans heq.symm ▸ List.mem_map_of_mem hm')
      simp [hne]
    · rw [List.eraseP_cons_of_neg (by simp [hguid]), List.filter_cons_of_pos (by simp [hguid]), ih hnodup.2]

/-- A new row and a new member with a new guid agree exactly when they are the same. -/
theorem agree_append_iff {rows ms : List ArenaTeamMember} {r m : ArenaTeamMember} (hagree : Agree rows ms)
    (hguid : r.Guid = m.Guid) (hrows : m.Guid ∉ rows.map ArenaTeamMember.Guid)
    (hms : m.Guid ∉ ms.map ArenaTeamMember.Guid) : Agree (rows ++ [r]) (ms ++ [m]) ↔ r = m := by
  constructor
  · intro h
    exact h r (List.mem_append_right _ List.mem_cons_self) m (List.mem_append_right _ List.mem_cons_self) hguid
  · rintro rfl r' hr' m' hm' heq
    rcases List.mem_append.mp hr' with hr | hr <;> rcases List.mem_append.mp hm' with hm | hm
    · exact hagree r' hr m' hm heq
    · rw [List.mem_singleton.mp hm] at heq
      exact absurd (heq ▸ List.mem_map_of_mem hr) hrows
    · rw [List.mem_singleton.mp hr] at heq
      exact absurd (heq ▸ List.mem_map_of_mem hm) hms
    · rw [List.mem_singleton.mp hr, List.mem_singleton.mp hm]

theorem rowsOf_singleton (id id' : ℕ) (r : ArenaTeamMember) : rowsOf id' [(id, r)] = if id = id' then [r] else [] := by
  by_cases hid : id = id' <;> simp [rowsOf, hid]

theorem rowsOf_filter_guid (rows : List (ℕ × ArenaTeamMember)) :
    rowsOf id' (rows.filter fun row ↦ ¬ (row.1 = id ∧ row.2.Guid = guid)) =
      if id = id' then (rowsOf id' rows).filter (fun r ↦ r.Guid ≠ guid) else rowsOf id' rows := by
  induction rows with
  | nil => simp [rowsOf]
  | cons row rows ih =>
    obtain ⟨k, r⟩ := row
    simp only [rowsOf] at ih ⊢
    by_cases hid : id = id'
    · subst hid
      rw [if_pos rfl] at ih ⊢
      by_cases hk : k = id
      · by_cases hguid : r.Guid = guid <;> simp_all
      · simp_all
    · rw [if_neg hid] at ih ⊢
      by_cases hk : k = id'
      · have hne : ¬ k = id := fun heq ↦ hid (heq.symm.trans hk)
        simp_all
      · by_cases hrow : k = id ∧ r.Guid = guid <;> simp_all

theorem rowsOf_filter_ne (rows : List (ℕ × ArenaTeamMember)) :
    rowsOf id' (rows.filter fun row ↦ row.1 ≠ id) = if id = id' then [] else rowsOf id' rows := by
  rw [rowsOf, List.filter_filter]
  by_cases hid : id = id'
  · subst hid
    simp
  · rw [if_neg hid, rowsOf]
    congr 1
    refine List.filter_congr fun row _ ↦ ?_
    by_cases hk : row.1 = id'
    · simp [hk, Ne.symm hid]
    · simp [hk]

end ArenaTeamMgr

end Gundrak.Arenas
