import Gundrak.Arenas.Restart
import Gundrak.Util.Elementwise

/-!
# Loading the teams

The rows of the members come in the order of the team ids, so the cursor of `LoadArenaTeams` finds for each
team the rows of that team (`loadArenaTeams_eq`).  From that, the teams are loaded as they are in memory
exactly when the tables have all of them (`restores_iff`).
-/

open Std (ExtTreeMap)

namespace Gundrak.Arenas

namespace ArenaTeamMgr

variable {setup : Setup} {s s' : ArenaTeamMgr} {id id' : ℕ} {t t' : ArenaTeam} {guid : ObjectGuid}

/-! ## The cursor -/

section Cursor

variable {result : List (ℕ × ArenaTeamMember)}

theorem takeWhile_eq_filter (h : result.Pairwise fun x y ↦ x.1 ≤ y.1) :
    result.takeWhile (·.1 ≤ id) = result.filter (·.1 ≤ id) := by
  induction result with
  | nil => rfl
  | cons x result ih =>
    obtain ⟨hx, h⟩ := List.pairwise_cons.mp h
    by_cases hid : x.1 ≤ id
    · simp [hid, ih h]
    · have hnone : result.filter (·.1 ≤ id) = [] :=
        List.filter_eq_nil_iff.mpr fun y hy ↦ by simpa using lt_of_lt_of_le (not_le.mp hid) (hx y hy)
      simp [hid, hnone]

theorem dropWhile_eq_filter (h : result.Pairwise fun x y ↦ x.1 ≤ y.1) :
    result.dropWhile (·.1 ≤ id) = result.filter (id < ·.1) := by
  induction result with
  | nil => rfl
  | cons x result ih =>
    obtain ⟨hx, h⟩ := List.pairwise_cons.mp h
    by_cases hid : x.1 ≤ id
    · simp [hid, ih h]
    · have hall : result.filter (id < ·.1) = result :=
        List.filter_eq_self.mpr fun y hy ↦ by simpa using lt_of_lt_of_le (not_le.mp hid) (hx y hy)
      rw [List.dropWhile_cons_of_neg (by simpa using hid), List.filter_cons_of_pos (by simpa using not_le.mp hid), hall]

/-- A team from its row and the rows of its members. -/
def loadTeam (setup : Setup) (p : ℕ × TeamRow) (rows : List ArenaTeamMember) : Option (ℕ × ArenaTeam) :=
  let members := rows.filter fun m ↦ setup.characters m.Guid
  if members.any (·.Guid = p.2.captainGuid) then
    some (p.1, ⟨p.2.type, p.2.captainGuid, members, p.2.Stats⟩)
  else none

/-- **The cursor** finds for each team its rows. -/
theorem loadArenaTeams_eq (teams : List (ℕ × TeamRow)) (hteams : teams.Pairwise fun p q ↦ p.1 < q.1)
    (hsorted : result.Pairwise fun x y ↦ x.1 ≤ y.1) (hids : ∀ x ∈ result, x.1 ∈ teams.map Prod.fst) :
    loadArenaTeams setup teams result = teams.filterMap fun p ↦ loadTeam setup p (rowsOf p.1 result) := by
  induction teams generalizing result with
  | nil => rfl
  | cons p teams ih =>
    obtain ⟨id, row⟩ := p
    obtain ⟨hlt, hteams⟩ := List.pairwise_cons.mp hteams
    have hcases : ∀ x ∈ result, x.1 = id ∨ x.1 ∈ teams.map Prod.fst := fun x hx ↦ List.mem_cons.mp (hids x hx)
    have hlater : ∀ k ∈ teams.map Prod.fst, id < k := fun k hk ↦ by
      obtain ⟨q, hq, rfl⟩ := List.mem_map.mp hk
      exact hlt q hq
    have htake : result.takeWhile (·.1 ≤ id) = result.filter (·.1 = id) := by
      rw [takeWhile_eq_filter hsorted]
      refine List.filter_congr fun x hx ↦ decide_eq_decide.mpr ⟨fun hle ↦ ?_, le_of_eq⟩
      exact (hcases x hx).resolve_right fun hmem ↦ absurd (hlater x.1 hmem) (not_lt.mpr hle)
    have hdrop : result.dropWhile (·.1 ≤ id) = result.filter (id < ·.1) := dropWhile_eq_filter hsorted
    have hrows : ∀ q ∈ teams, rowsOf q.1 (result.dropWhile (·.1 ≤ id)) = rowsOf q.1 result := fun q hq ↦ by
      rw [hdrop, rowsOf, List.filter_filter, rowsOf]
      congr 1
      refine List.filter_congr fun x _ ↦ ?_
      by_cases hx : x.1 = q.1 <;> simp [hx, hlt q hq]
    have hleft : ∀ x ∈ result.dropWhile (·.1 ≤ id), x.1 ∈ teams.map Prod.fst := fun x hx ↦ by
      rw [hdrop] at hx
      obtain ⟨hmem, hgt⟩ := List.mem_filter.mp hx
      exact (hcases x hmem).resolve_left (of_decide_eq_true hgt).ne'
    have hrest := ih hteams (hsorted.sublist (List.dropWhile_sublist _)) hleft
    rw [loadArenaTeams, hrest, List.filterMap_cons, LoadMembersFromDB, htake]
    have hmap : (teams.filterMap fun q ↦ loadTeam setup q (rowsOf q.1 (result.dropWhile (·.1 ≤ id)))) =
        teams.filterMap fun q ↦ loadTeam setup q (rowsOf q.1 result) :=
      List.filterMap_congr fun q hq ↦ by rw [hrows q hq]
    rw [hmap]
    simp only [loadTeam, rowsOf]
    split
    · rename_i hcaptain
      simp [hcaptain]
    · rename_i hcaptain
      simp [hcaptain]

end Cursor

theorem pairwise_toList {β : Type} (m : ExtTreeMap ℕ β) : m.toList.Pairwise fun p q ↦ p.1 < q.1 :=
  ExtTreeMap.ordered_keys_toList.imp fun hlt ↦ Nat.compare_eq_lt.mp hlt

section Result

variable {result : List (ℕ × ArenaTeamMember)}

theorem IsResult.mem_arena_team (h : s.IsResult result) {x : ℕ × ArenaTeamMember} (hx : x ∈ result) :
    x.1 ∈ s.arena_team.toList.map Prod.fst := by
  have hmem := of_decide_eq_true (List.mem_filter.mp (h.1.mem_iff.mp hx)).2
  obtain ⟨row, hrow⟩ := (TreeMap.mem_iff _ _).mp hmem
  exact List.mem_map.mpr ⟨(x.1, row), ExtTreeMap.mem_toList_iff_getElem?_eq_some.mpr hrow, rfl⟩

theorem IsResult.rowsOf_perm (h : s.IsResult result) {row : TeamRow} (hrow : s.arena_team[id]? = some row) :
    (rowsOf id result).Perm (rowsOf id s.arena_team_member) := by
  have hperm := (h.1.filter (·.1 = id)).map Prod.snd
  rw [List.filter_filter] at hperm
  rw [rowsOf, rowsOf]
  refine hperm.trans (.of_eq (congrArg _ (List.filter_congr fun x _ ↦ ?_)))
  by_cases hx : x.1 = id <;> simp [hx, (TreeMap.mem_iff _ _).mpr ⟨row, hrow⟩]

theorem exists_isResult (s : ArenaTeamMgr) : ∃ result, s.IsResult result := by
  refine ⟨(s.arena_team_member.filter fun row ↦ row.1 ∈ s.arena_team).insertionSort (fun x y ↦ x.1 ≤ y.1),
    List.perm_insertionSort _ _, ?_⟩
  exact List.pairwise_insertionSort _ _

theorem loadArenaTeams_of_isResult (h : s.IsResult result) : s.LoadArenaTeams setup result =
    s.arena_team.toList.filterMap fun p ↦ loadTeam setup p (rowsOf p.1 result) :=
  loadArenaTeams_eq _ (pairwise_toList _) h.2 fun _ hx ↦ h.mem_arena_team hx

/-! ## When the teams are loaded as they are -/

theorem loadTeam_eq_some {p : ℕ × TeamRow} {rows : List ArenaTeamMember} {q : ℕ × ArenaTeam} :
    loadTeam setup p rows = some q ↔
      (rows.filter fun m ↦ setup.characters m.Guid).any (·.Guid = p.2.captainGuid) = true ∧
      q = (p.1, ⟨p.2.type, p.2.captainGuid, rows.filter fun m ↦ setup.characters m.Guid, p.2.Stats⟩) := by
  rw [loadTeam, Option.ite_none_right_eq_some, Option.some_inj, eq_comm (a := q)]

/-- The teams that are loaded differ from those in memory in nothing but the order of the members. -/
def Loads (setup : Setup) (s : ArenaTeamMgr) (result : List (ℕ × ArenaTeamMember)) : Prop :=
  List.Forall₂ (fun p q ↦ p.1 = q.1 ∧ p.2.Same q.2) (s.LoadArenaTeams setup result) s.ArenaTeamStore.toList

theorem filter_named {rows ms : List ArenaTeamMember}
    (hguids : (rows.map ArenaTeamMember.Guid).Perm (ms.map ArenaTeamMember.Guid))
    (hnamed : ∀ m ∈ ms, setup.characters m.Guid = true) :
    rows.filter (fun m ↦ setup.characters m.Guid) = rows := by
  refine List.filter_eq_self.mpr fun r hr ↦ ?_
  obtain ⟨m, hm, hguid⟩ := List.mem_map.mp (hguids.mem_iff.mp (List.mem_map_of_mem hr))
  exact hguid ▸ hnamed m hm

theorem savedAt_of_loads (htables : ∀ id, TablesAt setup s id) (hresult : s.IsResult result)
    (h : Loads setup s result) (id : ℕ) : SavedAt s id := by
  intro t ht
  have hstored := (htables id).stored t ht
  have hmem : (id, t) ∈ s.ArenaTeamStore.toList := ExtTreeMap.mem_toList_iff_getElem?_eq_some.mpr ht
  obtain ⟨⟨id', t'⟩, hload, rfl, hsame⟩ := Elementwise.exists_of_mem_right h hmem
  rw [loadArenaTeams_of_isResult hresult] at hload
  obtain ⟨⟨id, row⟩, hrow, hteam⟩ := List.mem_filterMap.mp hload
  obtain ⟨hcaptain, heq⟩ := loadTeam_eq_some.mp hteam
  obtain ⟨rfl, rfl⟩ := Prod.mk.inj heq
  have hrow := ExtTreeMap.mem_toList_iff_getElem?_eq_some.mp hrow
  have hrows := hresult.rowsOf_perm hrow
  have hnamed := filter_named ((hrows.map _).trans hstored.guids) hstored.named
  have hmembers := hsame.members
  simp only [hnamed] at hcaptain hmembers
  refine ⟨?_, fun r hr m hm hguid ↦ ?_, ?_⟩
  · rw [hrow, ArenaTeam.row, ← hsame.type, ← hsame.captain, ← hsame.stats]
  · exact eq_of_guid_eq hstored.nodup (hmembers.mem_iff.mp (hrows.mem_iff.mpr hr)) hm hguid
  · rw [ArenaTeam.IsMember, ← hsame.captain, ← hcaptain]
    exact (hmembers.any_eq).symm

theorem arena_team_eq (h : Sound setup s) : s.arena_team = s.ArenaTeamStore.map fun _ t ↦ t.row := by
  refine ExtTreeMap.ext_getElem? fun id ↦ ?_
  rw [ExtTreeMap.getElem?_map]
  cases ht : s.ArenaTeamStore[id]? with
  | none => exact ((h.tables id).none ht).1
  | some t => exact (h.saved id t ht).row

theorem loadTeam_of_sound (h : Sound setup s) (hresult : s.IsResult result) (ht : s.ArenaTeamStore[id]? = some t) :
    ∃ t', loadTeam setup (id, t.row) (rowsOf id result) = some (id, t') ∧ t'.Same t := by
  have hstored := (h.tables id).stored t ht
  have hsaved := h.saved id t ht
  have hrows := hresult.rowsOf_perm hsaved.row
  have hperm := hrows.trans (perm_of_agree hstored.nodup hstored.guids hsaved.agree)
  have hnamed := filter_named ((hrows.map _).trans hstored.guids) hstored.named
  refine ⟨_, loadTeam_eq_some.mpr ⟨?_, rfl⟩, rfl, rfl, rfl, ?_⟩
  · rw [hnamed, hperm.any_eq]
    exact hsaved.captain
  · change (List.filter _ _).Perm _
    rw [hnamed]
    exact hperm

theorem loads_of_sound (h : Sound setup s) (hresult : s.IsResult result) : Loads setup s result := by
  have hall : ∀ p ∈ s.ArenaTeamStore.toList,
      ∃ t', loadTeam setup (p.1, p.2.row) (rowsOf p.1 result) = some (p.1, t') ∧ t'.Same p.2 :=
    fun p hp ↦ loadTeam_of_sound h hresult (ExtTreeMap.mem_toList_iff_getElem?_eq_some.mp hp)
  rw [Loads, loadArenaTeams_of_isResult hresult, arena_team_eq h, ExtTreeMap.toList_map]
  generalize s.ArenaTeamStore.toList = ps at hall
  induction ps with
  | nil => exact .nil
  | cons p ps ih =>
    obtain ⟨⟨t', hload, hsame⟩, hall⟩ := List.forall_mem_cons.mp hall
    rw [List.map_cons, List.filterMap_cons, hload]
    exact .cons ⟨rfl, hsame⟩ (ih hall)

end Result

/-! ## The points of the week -/

section

variable (points : ArenaTeamMember → ℕ) (playerPoints : ExtTreeMap ObjectGuid ℕ)

theorem get_creditPoints (m : ArenaTeamMember) (k : ObjectGuid) : (creditPoints points playerPoints m)[k]? =
      if m.Guid = k then some (max (playerPoints[k]?.getD 0) (points m)) else playerPoints[k]? := by
  rw [creditPoints]
  by_cases hk : m.Guid = k
  · subst hk
    rw [if_pos rfl]
    cases hold : playerPoints[m.Guid]? with
    | none =>
      change (playerPoints.insert m.Guid (points m))[m.Guid]? = _
      simp
    | some old =>
      change (if old < points m then playerPoints.insert m.Guid (points m) else playerPoints)[m.Guid]? = _
      rw [Option.getD_some]
      split
      · rename_i hlt
        simp [max_eq_right hlt.le]
      · rename_i hge
        rw [hold, max_eq_left (not_lt.mp hge)]
  · rw [if_neg hk]
    split
    · split <;> simp [TreeMap.get_insert, hk]
    · rw [TreeMap.get_insert, if_neg hk]

/-- The order in which the members are credited does not matter. -/
theorem creditPoints_comm (m m' : ArenaTeamMember) : creditPoints points (creditPoints points playerPoints m) m' =
      creditPoints points (creditPoints points playerPoints m') m := by
  refine ExtTreeMap.ext_getElem? fun k ↦ ?_
  simp only [get_creditPoints]
  by_cases hk : m.Guid = k <;> by_cases hk' : m'.Guid = k <;> simp [hk, hk', Option.getD_some, max_right_comm]

end

section

variable (requiredGames : UInt16 → UInt16) (GetPoints : ArenaTeamTypes → UInt16 → UInt16 → ℕ)

theorem updateArenaPointsHelper_same (playerPoints : ExtTreeMap ObjectGuid ℕ)
    (h : t'.Same t) : UpdateArenaPointsHelper requiredGames GetPoints playerPoints t' =
      UpdateArenaPointsHelper requiredGames GetPoints playerPoints t := by
  rw [UpdateArenaPointsHelper, UpdateArenaPointsHelper, h.stats, h.type]
  split
  · rfl
  · exact h.members.foldl_eq' (fun m _ m' _ pts ↦ creditPoints_comm _ pts m m') _

/-- Teams that differ in nothing but the order of the members give the same points. -/
theorem playerPoints_same {ps qs : List (ℕ × ArenaTeam)} (h : List.Forall₂ (fun p q ↦ p.1 = q.1 ∧ p.2.Same q.2) ps qs) :
    PlayerPoints requiredGames GetPoints (ps.map Prod.snd) =
      PlayerPoints requiredGames GetPoints (qs.map Prod.snd) := by
  rw [PlayerPoints, PlayerPoints]
  generalize (∅ : ExtTreeMap ObjectGuid ℕ) = playerPoints
  induction h generalizing playerPoints with
  | nil => rfl
  | cons hpq _ ih =>
    rw [List.map_cons, List.map_cons, List.foldl_cons, List.foldl_cons,
      updateArenaPointsHelper_same requiredGames GetPoints playerPoints hpq.2]
    exact ih _

end

/-! ## Runs -/

/-- **The teams can be loaded as they are** exactly when the tables have all of every team. -/
theorem restores_iff (htables : ∀ id, TablesAt setup s id) : s.Restores setup ↔ ∀ id, SavedAt s id := by
  constructor
  · intro h
    obtain ⟨result, hresult⟩ := exists_isResult s
    exact savedAt_of_loads htables hresult (h result hresult).1
  · intro hsaved result hresult
    have hloads := loads_of_sound ⟨htables, hsaved⟩ hresult
    exact ⟨hloads, fun requiredGames GetPoints ↦ playerPoints_same requiredGames GetPoints hloads⟩

/-- **The statistics survive a restart** along the runs that keep to `Keeps`, and an operation after such a
run leaves it so exactly when it keeps to the condition. -/
theorem restores_of_reaches (h : (arenaTeams setup).Reaches (Keeps setup) s) :
    s.Restores setup ∧ ∀ call s', s.next setup call = some s' →
      (s'.Restores setup ↔ s.Keeps setup call) := by
  have hsound := sound_of_reaches h
  refine ⟨(restores_iff hsound.tables).mpr hsound.saved, fun call s' hn ↦ ?_⟩
  obtain ⟨htables, hiff⟩ := next_all hsound hn
  exact (restores_iff htables).trans hiff

/-- The settings of the configuration file, with columns that are 0 by default. -/
def standard : Setup where
  CONFIG_ARENA_START_RATING := 0
  CONFIG_ARENA_START_PERSONAL_RATING := 0
  memberColumns := ⟨0, 0, 0, 0, 0, 0⟩
  teamColumns := ⟨0, 0, 0, 0, 0, 0⟩
  characters := fun _ ↦ true

/-- A team of two wins a match. -/
def oneMatch : List Call := [.Create 7 .ARENA_TEAM_2v2 1 true, .AddMember 7 2, .WonAgainst 7 15, .MemberWon 7 1 15,
   .MemberWon 7 2 12]

/-- After the match the team and its members can be loaded as they are. -/
theorem restores_of_reaches_oneMatch : ∃ s : ArenaTeamMgr, s.Restores standard ∧
    s.ArenaTeamStore.toList.map (fun p ↦ p.2.Members.map ArenaTeamMember.PersonalRating) = [[15, 12]] := by
  obtain ⟨s, hs, hw⟩ := (arenaTeams standard).exists_reaches (Keeps standard) oneMatch
    (fun s ↦ s.ArenaTeamStore.toList.map (fun p ↦ p.2.Members.map ArenaTeamMember.PersonalRating) = [[15, 12]])
      (by decide +kernel)
  exact ⟨s, (restores_of_reaches hs).1, hw⟩

/-- No counter gets to 65536 by an operation. -/
def Counts (s : ArenaTeamMgr) : Call → Prop
  | .WonAgainst id _ | .LostAgainst id _ => ∀ t ∈ s.ArenaTeamStore[id]?, t.Stats.SeasonGames ≠ 65535
  | .MemberWon id guid _ | .MemberLost id guid _ => ∀ t ∈ s.ArenaTeamStore[id]?,
      ∀ m ∈ t.Members, m.Guid = guid → m.SeasonGames ≠ 65535
  | _ => True

instance (s : ArenaTeamMgr) : (call : Call) → Decidable (Counts s call)
  | .WonAgainst id _ | .LostAgainst id _ => inferInstanceAs (Decidable (∀ t ∈ s.ArenaTeamStore[id]?, _))
  | .MemberWon id guid _ | .MemberLost id guid _ => inferInstanceAs (Decidable (∀ t ∈ s.ArenaTeamStore[id]?, _))
  | .Create .. | .AddMember .. | .DelMember .. | .SetCaptain .. | .Disband .. | .DistributeArenaPoints =>
    inferInstanceAs (Decidable True)

/-- After the next distribution the members have the games of the week again once they are loaded. -/
theorem not_restores : ¬ ∀ setup s, (arenaTeams setup).Reaches Counts s → s.Restores setup := by
  intro hall
  obtain ⟨s, hs, hw⟩ := (arenaTeams standard).exists_reaches (fun s call ↦ Keeps standard s call ∧ Counts s call)
    oneMatch
    (fun s ↦ ¬ s.Keeps standard .DistributeArenaPoints) (by decide +kernel)
  have hn : s.next standard .DistributeArenaPoints = some s.DistributeArenaPoints := rfl
  obtain ⟨htables, hsaved⟩ := next_all (sound_of_reaches (hs.mono fun _ _ h ↦ h.1)) hn
  have hreach' : (arenaTeams standard).Reaches Counts s.DistributeArenaPoints :=
    .step (hs.mono fun _ _ h ↦ h.2) (show Counts s .DistributeArenaPoints from trivial) hn
  exact hw (hsaved.mp ((restores_iff htables).mp (hall standard _ hreach')))

end ArenaTeamMgr

end Gundrak.Arenas
