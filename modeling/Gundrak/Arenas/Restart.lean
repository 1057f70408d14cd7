import Gundrak.Arenas.StatsStorage

/-!
# One operation, and a run

Every operation but the weekly distribution acts on one team.  `Acts` says what that leaves: nothing under
the other ids, what the tables always have, and all of the team exactly under a condition.
-/

open Std (ExtTreeMap)

namespace Gundrak.Arenas

namespace ArenaTeamMgr

variable {setup : Setup} {s s' : ArenaTeamMgr} {id id' : ℕ} {t t' : ArenaTeam} {guid : ObjectGuid}

/-! ## Operations on one team -/

/-- An operation on the team with an id; after it the tables have all of the team exactly if `P`. -/
structure Acts (setup : Setup) (s s' : ArenaTeamMgr) (id : ℕ) (P : Prop) : Prop where
  others : ∀ id', id ≠ id' → SameAt s' s id'
  tables : TablesAt setup s' id
  saved : SavedAt s' id ↔ P

/-- The tables have all that they should. -/
structure Sound (setup : Setup) (s : ArenaTeamMgr) : Prop where
  tables : ∀ id, TablesAt setup s id
  saved : ∀ id, SavedAt s id

theorem Acts.all (h : Sound setup s) {P : Prop} (ha : Acts setup s s' id P) :
    (∀ id, TablesAt setup s' id) ∧ ((∀ id, SavedAt s' id) ↔ P) := by
  refine ⟨fun id' ↦ ?_, fun hall ↦ ha.saved.mp (hall id), fun hP id' ↦ ?_⟩
  · by_cases hid : id = id'
    · exact hid ▸ ha.tables
    · exact (h.tables id').congr (ha.others id' hid)
  · by_cases hid : id = id'
    · exact hid ▸ ha.saved.mpr hP
    · exact (h.saved id').congr (ha.others id' hid)

theorem Acts.nothing (h : TablesAt setup s id) (hs : SavedAt s id) {P : Prop} (hP : P) : Acts setup s s id P :=
  ⟨fun id' _ ↦ .refl s id', h, iff_of_true hs hP⟩

theorem Acts.saveToDB (h : Stored setup s id t) (hs : Saved s id t) (hc : Changes t' t) {P : Prop}
    (hP : (∀ m' ∈ t'.Members, m'.WeekGames = 0 → ∀ m ∈ t.Members, m.Guid = m'.Guid → m = m') ↔ P) :
    Acts setup s (s.SaveToDB id t') id P :=
  ⟨fun _ hid ↦ sameAt_saveToDB_of_ne hid, tablesAt_saveToDB h hc, (savedAt_saveToDB_iff h hs hc).trans hP⟩

theorem Acts.finishGame (h : Sound setup s) (ht : s.ArenaTeamStore[id]? = some t)
    (hc : Changes t' t) (hmembers : t'.Members = t.Members) :
    Acts setup s (s.SaveToDB id t') id True := by
  have hstored := (h.tables id).stored t ht
  refine .saveToDB hstored (h.saved id t ht) hc (iff_of_true (fun m' hm' _ m hm hguid ↦ ?_) trivial)
  rw [hmembers] at hm'
  exact eq_of_guid_eq hstored.nodup hm hm' hguid

theorem Acts.modifyMember (h : Sound setup s) (ht : s.ArenaTeamStore[id]? = some t)
    {f : ArenaTeamMember → ArenaTeamMember} (hf : ∀ m, (f m).Guid = m.Guid)
    (hgames : ∀ m, (f m).WeekGames = m.WeekGames + 1) :
    Acts setup s (s.SaveToDB id { t with Members := ArenaTeam.modifyMember guid f t.Members }) id
      (CanCount t guid) :=
  have hstored := (h.tables id).stored t ht
  have hc : Changes { t with Members := ArenaTeam.modifyMember guid f t.Members } t := ⟨rfl, rfl, guids_modifyMember hf⟩
  .saveToDB hstored (h.saved id t ht) hc (match_iff hstored.nodup hf hgames)

theorem forall_get_iff (ht : s.ArenaTeamStore[id]? = some t) (P : ArenaTeam → Prop) :
    (∀ t' ∈ s.ArenaTeamStore[id]?, P t') ↔ P t := by
  rw [ht]
  exact ⟨fun h ↦ h t rfl, fun h _ ht' ↦ Option.some.inj ht' ▸ h⟩

/-- A team that is created, before its captain is added. -/
def created (setup : Setup) (type : ArenaTeamTypes) (guid : ObjectGuid) : ArenaTeam :=
  ⟨type, guid, [], ⟨setup.CONFIG_ARENA_START_RATING, 0, 0, 0, 0, 0⟩⟩

section

variable {type : ArenaTeamTypes} {added : Bool}

theorem rowsOf_create_self (hrows : rowsOf id s.arena_team_member = []) :
    rowsOf id (s.Create setup id type guid added).arena_team_member =
      if added then [{ setup.memberColumns with Guid := guid }] else [] := by
  cases added
  · exact hrows
  · change rowsOf id (s.arena_team_member ++ [(id, { setup.memberColumns with Guid := guid })]) = _
    simp [rowsOf_append, hrows, rowsOf_singleton]

theorem sameAt_create_of_ne (hne : id ≠ id') : SameAt (s.Create setup id type guid added) s id' := by
  refine ⟨?_, ?_, ?_⟩
  · rw [Create, TreeMap.get_insert, if_neg hne]
  · rw [Create, TreeMap.get_insert, if_neg hne]
  · cases added
    · rfl
    · change rowsOf id' (s.arena_team_member ++ [(id, { setup.memberColumns with Guid := guid })]) = _
      simp [rowsOf_append, rowsOf_singleton, hne]

theorem Acts.create (h : Sound setup s) (hid : id ∉ s.ArenaTeamStore) (hname : setup.characters guid = true) :
    Acts setup s (s.Create setup id type guid added) id (s.Keeps setup (.Create id type guid added)) := by
  have hrows : rowsOf id (s.Create setup id type guid added).arena_team_member =
      if added then [{ setup.memberColumns with Guid := guid }] else [] :=
    rowsOf_create_self ((h.tables id).none (ExtTreeMap.getElem?_eq_none hid)).2
  have hstore : (s.Create setup id type guid added).ArenaTeamStore[id]? = some { created setup type guid with
        Members := if added then [(created setup type guid).newMember setup guid] else [] } := by
    rw [Create, TreeMap.get_insert, if_pos rfl]
    rfl
  have hteam : (s.Create setup id type guid added).arena_team[id]? =
      some ⟨type, guid, { setup.teamColumns with Rating := setup.CONFIG_ARENA_START_RATING }⟩ := by
    simp [Create]
  refine ⟨fun id' hne ↦ sameAt_create_of_ne hne, ⟨fun t ht ↦ ?_, fun hnone ↦ ?_⟩, fun hsaved ↦ ?_, fun hkeeps t ht ↦ ?_⟩
  · obtain rfl := Option.some.inj (hstore.symm.trans ht)
    refine ⟨⟨_, hteam, rfl, rfl⟩, ?_, ?_, ?_⟩
    · rw [hrows]
      cases added <;> exact .refl _
    · cases added
      · simp
      · exact List.nodup_singleton _
    · cases added
      · exact fun m hm ↦ absurd hm List.not_mem_nil
      · exact fun m hm ↦ List.mem_singleton.mp hm ▸ hname
  · simp [hstore] at hnone
  · obtain ⟨hrow, hagree, hcaptain⟩ := hsaved _ hstore
    rw [hteam] at hrow
    rw [hrows] at hagree
    cases added
    · cases hcaptain
    · exact ⟨rfl, congrArg TeamRow.Stats (Option.some.inj hrow), hagree _ List.mem_cons_self _ List.mem_cons_self rfl⟩
  · obtain ⟨rfl, hstats, hadds⟩ := hkeeps
    obtain rfl := Option.some.inj (hstore.symm.trans ht)
    refine ⟨?_, ?_, isMember_iff.mpr List.mem_cons_self⟩
    · rw [hteam, hstats]
      rfl
    · rw [hrows]
      intro r hr m hm _
      rw [List.mem_singleton.mp hr, List.mem_singleton.mp hm]
      exact hadds

end

section

variable (h : Sound setup s) (ht : s.ArenaTeamStore[id]? = some t)
include h ht

theorem Acts.addMember (hmember : t.IsMember guid = false) (hname : setup.characters guid = true) :
    Acts setup s (s.AddMember setup id t guid) id (t.Members.length < t.GetType.toNat * 2 → AddsAs setup t guid) := by
  rw [AddMember]
  split
  · rename_i hfull
    exact .nothing (h.tables id) (h.saved id) fun hlt ↦ absurd hlt (not_lt_of_ge hfull)
  · rename_i hroom
    have hstored := (h.tables id).stored t ht
    have hsaved := h.saved id t ht
    have hms : guid ∉ t.Members.map ArenaTeamMember.Guid := by
      rw [← isMember_iff, hmember]
      simp
    have hrows : guid ∉ (rowsOf id s.arena_team_member).map ArenaTeamMember.Guid :=
      fun hmem ↦ hms (hstored.guids.mem_iff.mp hmem)
    have hstore : (s.ArenaTeamStore.insert id { t with Members := t.Members ++ [t.newMember setup guid] })[id]? =
        some { t with Members := t.Members ++ [t.newMember setup guid] } := by
      simp
    have hrows' : rowsOf id (s.arena_team_member ++ [(id, { setup.memberColumns with Guid := guid })]) =
        rowsOf id s.arena_team_member ++ [{ setup.memberColumns with Guid := guid }] := by
      simp [rowsOf_append, rowsOf_singleton]
    have hagree : Agree (rowsOf id s.arena_team_member ++ [{ setup.memberColumns with Guid := guid }])
        (t.Members ++ [t.newMember setup guid]) ↔ AddsAs setup t guid :=
      agree_append_iff hsaved.agree rfl hrows hms
    refine ⟨fun id' hne ↦ ⟨?_, rfl, ?_⟩, ⟨fun t' ht' ↦ ?_, fun hnone ↦ ?_⟩, fun hs _ ↦ ?_, fun hadds t' ht' ↦ ?_⟩
    · rw [TreeMap.get_insert, if_neg hne]
    · simp [rowsOf_append, rowsOf_singleton, hne]
    · obtain rfl := Option.some.inj (hstore.symm.trans ht')
      refine ⟨hstored.row, ?_, ?_, ?_⟩
      · rw [hrows', List.map_append, List.map_append]
        exact hstored.guids.append_right _
      · rw [List.map_append]
        refine List.nodup_append.mpr ⟨hstored.nodup, List.nodup_singleton _, fun g hg g' hg' heq ↦ hms ?_⟩
        have hg₀ : g = guid := heq.trans (List.mem_singleton.mp hg')
        exact hg₀ ▸ hg
      · exact List.forall_mem_append.mpr ⟨hstored.named, fun m hm ↦ List.mem_singleton.mp hm ▸ hname⟩
    · simp at hnone
    · have := (hs _ hstore).agree
      rw [hrows'] at this
      exact hagree.mp this
    · obtain rfl := Option.some.inj (hstore.symm.trans ht')
      refine ⟨hsaved.row, ?_, ?_⟩
      · rw [hrows']
        exact hagree.mpr (hadds (not_le.mp hroom))
      · rw [isMember_iff, List.map_append]
        exact List.mem_append_left _ (isMember_iff.mp hsaved.captain)

theorem Acts.delMember : Acts setup s (s.DelMember id t guid) id (t.CaptainGuid ≠ guid) := by
  have hstored := (h.tables id).stored t ht
  have hsaved := h.saved id t ht
  have hmembers : t.Members.eraseP (·.Guid = guid) = t.Members.filter fun m ↦ m.Guid ≠ guid :=
    eraseP_eq_filter hstored.nodup
  have hstore : (s.DelMember id t guid).ArenaTeamStore[id]? =
      some { t with Members := t.Members.filter fun m ↦ m.Guid ≠ guid } := by
    simp [DelMember, hmembers]
  have hrows : rowsOf id (s.DelMember id t guid).arena_team_member =
      (rowsOf id s.arena_team_member).filter fun r ↦ r.Guid ≠ guid := by
    rw [DelMember, rowsOf_filter_guid, if_pos rfl]
  have hguids (ms : List ArenaTeamMember) : (ms.filter fun m ↦ m.Guid ≠ guid).map ArenaTeamMember.Guid =
      (ms.map ArenaTeamMember.Guid).filter fun g ↦ g ≠ guid := by
    rw [List.filter_map]
    rfl
  refine ⟨fun id' hne ↦ ⟨?_, rfl, ?_⟩, ⟨fun t' ht' ↦ ?_, fun hnone ↦ ?_⟩, fun hs ↦ ?_, fun hne t' ht' ↦ ?_⟩
  · rw [DelMember, TreeMap.get_insert, if_neg hne]
  · rw [DelMember, rowsOf_filter_guid, if_neg hne]
  · obtain rfl := Option.some.inj (hstore.symm.trans ht')
    refine ⟨hstored.row, ?_, ?_, fun m hm ↦ hstored.named m (List.mem_of_mem_filter hm)⟩
    · rw [hrows, hguids, hguids]
      exact hstored.guids.filter _
    · rw [hguids]
      exact hstored.nodup.filter _
  · simp [hstore] at hnone
  · have hcaptain := isMember_iff.mp (hs _ hstore).captain
    rw [hguids] at hcaptain
    exact of_decide_eq_true (List.mem_filter.mp hcaptain).2
  · obtain rfl := Option.some.inj (hstore.symm.trans ht')
    refine ⟨hsaved.row, ?_, ?_⟩
    · rw [hrows]
      exact fun r hr m hm ↦ hsaved.agree r (List.mem_of_mem_filter hr) m (List.mem_of_mem_filter hm)
    · rw [isMember_iff, hguids]
      exact List.mem_filter.mpr ⟨isMember_iff.mp hsaved.captain, decide_eq_true hne⟩

theorem Acts.setCaptain : Acts setup s (s.SetCaptain id t guid) id (t.IsMember guid = true) := by
  have hstored := (h.tables id).stored t ht
  have hsaved := h.saved id t ht
  have hstore : (s.SetCaptain id t guid).ArenaTeamStore[id]? = some { t with CaptainGuid := guid } := by
    simp [SetCaptain, TreeMap.get_insert]
  have hteam : (s.SetCaptain id t guid).arena_team[id]? =
      (s.arena_team[id]?).map fun row ↦ { row with captainGuid := guid } := by
    simp [SetCaptain, TreeMap.get_modify]
  refine ⟨fun id' hne ↦ ⟨?_, ?_, rfl⟩, ⟨fun t' ht' ↦ ?_, fun hnone ↦ ?_⟩, fun hs ↦ (hs _ hstore).captain,
    fun hmember t' ht' ↦ ?_⟩
  · rw [SetCaptain, TreeMap.get_insert, if_neg hne]
  · rw [SetCaptain, TreeMap.get_modify, if_neg hne]
  · obtain rfl := Option.some.inj (hstore.symm.trans ht')
    obtain ⟨row, hrow, htype, _⟩ := hstored.row
    refine ⟨⟨{ row with captainGuid := guid }, ?_, htype, rfl⟩, hstored.guids, hstored.nodup, hstored.named⟩
    rw [hteam, hrow]
    rfl
  · simp [hstore] at hnone
  · obtain rfl := Option.some.inj (hstore.symm.trans ht')
    refine ⟨?_, hsaved.agree, hmember⟩
    rw [hteam, hsaved.row]
    rfl

end

theorem Acts.disband : Acts setup s (s.Disband id) id True := by
  have hstore : (s.Disband id).ArenaTeamStore[id]? = none := by
    simp [Disband, TreeMap.get_erase]
  refine ⟨fun id' hne ↦ ⟨?_, ?_, ?_⟩, ⟨fun t ht ↦ ?_, fun _ ↦ ⟨?_, ?_⟩⟩, iff_of_true (fun t ht ↦ ?_) trivial⟩
  · rw [Disband, TreeMap.get_erase, if_neg hne]
  · rw [Disband, TreeMap.get_erase, if_neg hne]
  · rw [Disband, rowsOf_filter_ne, if_neg hne]
  · simp [hstore] at ht
  · simp [Disband, TreeMap.get_erase]
  · rw [Disband, rowsOf_filter_ne, if_pos rfl]
  · simp [hstore] at ht

/-! ## The weekly distribution -/

/-- The members of a team that has played have no games of the week. -/
def Rested (t : ArenaTeam) : Prop := t.Stats.WeekGames ≠ 0 → ∀ m ∈ t.Members, m.WeekGames = 0 ∧ m.WeekWins = 0

theorem Acts.finishWeek (h : TablesAt setup s id) (hs : SavedAt s id) (ht : s.ArenaTeamStore[id]? = some t) :
    Acts setup s (finishWeek s (id, t)) id (Rested t) := by
  rw [ArenaTeamMgr.finishWeek]
  split
  · rename_i hgames
    exact .nothing h hs fun hplayed ↦ absurd hgames hplayed
  · rename_i hplayed
    have hstored := h.stored t ht
    refine .saveToDB hstored (hs t ht) (changes_finishWeek t) ((finishWeek_iff hstored.nodup).trans ?_)
    exact ⟨fun hall _ ↦ hall, fun hrested ↦ hrested hplayed⟩

/-- The loop over the teams: every team is treated once, as it was before. -/
theorem foldl_finishWeek (ps : List (ℕ × ArenaTeam)) (hnodup : (ps.map Prod.fst).Nodup)
    (hps : ∀ p ∈ ps, s.ArenaTeamStore[p.1]? = some p.2 ∧ TablesAt setup s p.1 ∧ SavedAt s p.1) :
    (∀ id, (∀ p ∈ ps, p.1 ≠ id) → SameAt (ps.foldl finishWeek s) s id) ∧
      ∀ p ∈ ps, TablesAt setup (ps.foldl finishWeek s) p.1 ∧ (SavedAt (ps.foldl finishWeek s) p.1 ↔ Rested p.2) := by
  induction ps generalizing s with
  | nil => exact ⟨fun id _ ↦ .refl s id, fun p hp ↦ absurd hp List.not_mem_nil⟩
  | cons p ps ih =>
    obtain ⟨hne, hnodup⟩ := List.nodup_cons.mp hnodup
    obtain ⟨⟨ht, htables, hsaved⟩, hps⟩ := List.forall_mem_cons.mp hps
    have hacts : Acts setup s (finishWeek s p) p.1 (Rested p.2) := .finishWeek htables hsaved ht
    have hothers : ∀ q ∈ ps, p.1 ≠ q.1 := fun q hq heq ↦ hne (heq ▸ List.mem_map_of_mem hq)
    obtain ⟨hsame, hall⟩ := ih hnodup fun q hq ↦ by
      have hq' := hacts.others q.1 (hothers q hq)
      obtain ⟨htq, htables', hsaved'⟩ := hps q hq
      exact ⟨hq'.store.trans htq, htables'.congr hq', hsaved'.congr hq'⟩
    refine ⟨fun id hid ↦ ?_, List.forall_mem_cons.mpr ⟨⟨?_, ?_⟩, hall⟩⟩
    · obtain ⟨hp, hid⟩ := List.forall_mem_cons.mp hid
      exact (hsame id hid).trans (hacts.others id hp)
    · exact hacts.tables.congr (hsame p.1 fun q hq ↦ (hothers q hq).symm)
    · have hp := hsame p.1 fun q hq ↦ (hothers q hq).symm
      exact ⟨fun hs ↦ hacts.saved.mp (hs.congr hp.symm), fun hP ↦ (hacts.saved.mpr hP).congr hp⟩

theorem distributeArenaPoints_all (h : Sound setup s) : (∀ id, TablesAt setup s.DistributeArenaPoints id) ∧
      ((∀ id, SavedAt s.DistributeArenaPoints id) ↔ ∀ p ∈ s.ArenaTeamStore.toList, Rested p.2) := by
  have hteams : ∀ p ∈ s.ArenaTeamStore.toList,
      s.ArenaTeamStore[p.1]? = some p.2 ∧ TablesAt setup s p.1 ∧ SavedAt s p.1 :=
    fun p hp ↦ ⟨ExtTreeMap.mem_toList_iff_getElem?_eq_some.mp hp, h.tables p.1, h.saved p.1⟩
  obtain ⟨hsame, hall⟩ := foldl_finishWeek _ (TreeMap.fst_toList_nodup s.ArenaTeamStore) hteams
  have hid (id : ℕ) : (∃ p ∈ s.ArenaTeamStore.toList, p.1 = id) ∨ SameAt s.DistributeArenaPoints s id := by
    by_cases hex : ∃ p ∈ s.ArenaTeamStore.toList, p.1 = id
    · exact .inl hex
    · exact .inr (hsame id fun p hp heq ↦ hex ⟨p, hp, heq⟩)
  refine ⟨fun id ↦ ?_, fun hs p hp ↦ (hall p hp).2.mp (hs p.1), fun hrested id ↦ ?_⟩
  · rcases hid id with ⟨p, hp, rfl⟩ | hid
    · exact (hall p hp).1
    · exact (h.tables id).congr hid
  · rcases hid id with ⟨p, hp, rfl⟩ | hid
    · exact (hall p hp).2.mpr (hrested p hp)
    · exact (h.saved id).congr hid

/-! ## Every operation -/

/-- **An operation** leaves what the tables always have, and all of every team exactly if it keeps to the
condition. -/
theorem next_all (h : Sound setup s) {call : Call} (hn : s.next setup call = some s') :
    (∀ id, TablesAt setup s' id) ∧ ((∀ id, SavedAt s' id) ↔ s.Keeps setup call) := by
  cases call with
  | Create id type captainGuid added =>
    obtain ⟨⟨hid, hname⟩, hs'⟩ := Option.ite_none_right_eq_some.mp hn
    exact Option.some.inj hs' ▸ Acts.all h (.create h hid hname)
  | AddMember id guid =>
    obtain ⟨t, ht, hn⟩ := Option.bind_eq_some_iff.mp hn
    obtain ⟨⟨hmember, hname⟩, hs'⟩ := Option.ite_none_right_eq_some.mp hn
    rw [Keeps, forall_get_iff ht]
    exact Option.some.inj hs' ▸ Acts.all h (.addMember h ht hmember hname)
  | DelMember id guid =>
    obtain ⟨t, ht, rfl⟩ := Option.map_eq_some_iff.mp hn
    rw [Keeps, forall_get_iff ht]
    exact Acts.all h (.delMember h ht)
  | SetCaptain id guid =>
    obtain ⟨t, ht, rfl⟩ := Option.map_eq_some_iff.mp hn
    rw [Keeps, forall_get_iff ht]
    exact Acts.all h (.setCaptain h ht)
  | Disband id =>
    obtain ⟨t, ht, rfl⟩ := Option.map_eq_some_iff.mp hn
    exact Acts.all h .disband
  | WonAgainst id rating_change =>
    obtain ⟨t, ht, rfl⟩ := Option.map_eq_some_iff.mp hn
    exact Acts.all h (.finishGame h ht ⟨rfl, rfl, rfl⟩ rfl)
  | LostAgainst id rating_change =>
    obtain ⟨t, ht, rfl⟩ := Option.map_eq_some_iff.mp hn
    exact Acts.all h (.finishGame h ht ⟨rfl, rfl, rfl⟩ rfl)
  | MemberWon id guid mod =>
    obtain ⟨t, ht, rfl⟩ := Option.map_eq_some_iff.mp hn
    rw [Keeps, forall_get_iff ht]
    exact Acts.all h (.modifyMember h ht (fun _ ↦ rfl) fun _ ↦ rfl)
  | MemberLost id guid mod =>
    obtain ⟨t, ht, rfl⟩ := Option.map_eq_some_iff.mp hn
    rw [Keeps, forall_get_iff ht]
    exact Acts.all h (.modifyMember h ht (fun _ ↦ rfl) fun _ ↦ rfl)
  | DistributeArenaPoints =>
    obtain rfl := Option.some.inj hn
    exact distributeArenaPoints_all h

theorem sound_start : Sound setup (arenaTeams setup).start := by
  refine ⟨fun id ↦ ⟨fun t ht ↦ ?_, fun _ ↦ ⟨ExtTreeMap.getElem?_empty, rfl⟩⟩, fun id t ht ↦ ?_⟩
  · exact absurd (ht.symm.trans ExtTreeMap.getElem?_empty) (Option.some_ne_none t)
  · exact absurd (ht.symm.trans ExtTreeMap.getElem?_empty) (Option.some_ne_none t)

theorem sound_of_reaches (h : (arenaTeams setup).Reaches (Keeps setup) s) : Sound setup s := by
  refine h.invariant sound_start fun s call s' hs hkeeps hn ↦ ?_
  obtain ⟨htables, hsaved⟩ := next_all hs hn
  exact ⟨htables, hsaved.mpr hkeeps⟩

end ArenaTeamMgr

end Gundrak.Arenas
