import Gundrak.DungeonFinding.SearchRules

/-!
# The proposals a check creates are well formed

`CheckCompatibility` establishes piecemeal what makes five players a group: the sizes of the entries
add up to five, nobody is counted twice or ignores somebody of another entry, the roles can be given
out, and all entries have a dungeon in common.  Here the pieces are put together: `census_ok` is about
the counters, `joinRole_fold` about the players, and `judge_complete` about the verdict.

All sizes are bytes.  The pieces fit if the entries have fewer than 256 players, which the manager makes
sure of when a group joins; without that, an entry of 261 players passes for one of five
(`not_wellFormed_hugeEntry`).
-/

open Std (ExtTreeMap)

namespace Gundrak.Lfg

/-! ## Statements -/

/-- How many of the players of a proposal get exactly the role `flag`. -/
def LfgProposal.roleCount (proposal : LfgProposal) (flag : UInt8) : ℕ :=
  proposal.players.toList.countP fun entry ↦ chosen entry.2.role = flag

/-- A proposal makes a group out of entries of the queue. -/
structure LfgProposal.WellFormed (proposal : LfgProposal) (view : MgrView) (queue : LFGQueue) :
    Prop where
  size : proposal.players.size = MAXGROUPSIZE
  players : ∀ player, player ∈ proposal.players ↔ ∃ guid ∈ proposal.queues, player ∈ queue.rolesOf guid
  tank : proposal.roleCount PLAYER_ROLE_TANK = LFG_TANKS_NEEDED
  healer : proposal.roleCount PLAYER_ROLE_HEALER = LFG_HEALERS_NEEDED
  damage : proposal.roleCount PLAYER_ROLE_DAMAGE = LFG_DPS_NEEDED
  lfgGroups : proposal.queues.countP view.IsLfgGroup ≤ 1
  ignores : ∀ guid ∈ proposal.queues, ∀ other ∈ proposal.queues, guid ≠ other →
    ∀ player ∈ queue.rolesOf guid, ∀ player' ∈ queue.rolesOf other, view.HasIgnore player player' = false
  dungeon : ∀ guid ∈ proposal.queues, proposal.dungeonId ∈ (queue.dungeonsOf guid).ids
  leader : proposal.leader ∈ proposal.players

/-- What the manager has checked about every entry before it is queued: the roles of a group can be given
out, and there is a dungeon. -/
structure LFGQueue.Admitted (queue : LFGQueue) : Prop where
  roles : ∀ guid ∈ queue.QueueDataStore, 1 < (queue.rolesOf guid).size → (CheckGroupRoles (queue.rolesOf guid)).isSome
  dungeons : ∀ guid ∈ queue.QueueDataStore, (queue.dungeonsOf guid).ids ≠ []

/-! ## Roles that have been given out -/

section

variable {groles roles : LfgRolesMap} (h : CheckGroupRoles groles = some roles)
include h

theorem CheckGroupRoles_size : roles.size = groles.size := by
  rw [← ExtTreeMap.length_keys, (CheckGroupRoles_assigns h).1, ExtTreeMap.length_keys]

theorem CheckGroupRoles_mem (player : ObjectGuid) : player ∈ roles ↔ player ∈ groles := by
  rw [← ExtTreeMap.mem_keys, (CheckGroupRoles_assigns h).1, ExtTreeMap.mem_keys]

/-- Roles can only be given out to five players, or to so many that a byte does not hold the number. -/
theorem size_le_of_CheckGroupRoles (hsmall : groles.size < 256) : groles.size ≤ MAXGROUPSIZE := by
  have hassigned := (CheckGroupRoles_assigns h).2
  have htotal := hassigned.total
  have htank := hassigned.tank
  have hhealer := hassigned.healer
  have hdamage := hassigned.damage
  rw [ExtTreeMap.length_toList, CheckGroupRoles_size h] at htotal
  simp only [MAXGROUPSIZE, LFG_TANKS_NEEDED, LFG_HEALERS_NEEDED, LFG_DPS_NEEDED] at *
  omega

/-- If there are five players, there are exactly one tank, one healer and three of damage. -/
theorem roleCount_of_CheckGroupRoles (hsize : groles.size = MAXGROUPSIZE) :
    roleCount PLAYER_ROLE_TANK roles = LFG_TANKS_NEEDED ∧ roleCount PLAYER_ROLE_HEALER roles = LFG_HEALERS_NEEDED ∧
      roleCount PLAYER_ROLE_DAMAGE roles = LFG_DPS_NEEDED := by
  have hassigned := (CheckGroupRoles_assigns h).2
  have htotal := hassigned.total
  have htank := hassigned.tank
  have hhealer := hassigned.healer
  have hdamage := hassigned.damage
  rw [ExtTreeMap.length_toList, CheckGroupRoles_size h, hsize] at htotal
  simp only [MAXGROUPSIZE, LFG_TANKS_NEEDED, LFG_HEALERS_NEEDED, LFG_DPS_NEEDED, roleCount] at *
  omega

end

namespace LFGQueue

variable {queue : LFGQueue} {view : MgrView} {check : List ObjectGuid}

theorem Admitted.size_le (hadmitted : queue.Admitted)
    (hsmall : ∀ guid, (queue.rolesOf guid).size < 256) (guid : ObjectGuid) :
    (queue.rolesOf guid).size ≤ MAXGROUPSIZE := by
  by_cases hmem : guid ∈ queue.QueueDataStore
  · by_cases hone : 1 < (queue.rolesOf guid).size
    · obtain ⟨roles, hroles⟩ := Option.isSome_iff_exists.mp (hadmitted.roles guid hmem hone)
      exact size_le_of_CheckGroupRoles hroles (hsmall guid)
    · exact (Nat.not_lt.mp hone).trans (by decide)
  · rw [rolesOf, ExtTreeMap.getElem?_eq_none hmem]
    exact Nat.zero_le _

/-! ## Counting -/

/-- What the counters say when the loop has not stopped early. -/
theorem census_ok {counted counted' : Census} (hsmall : ∀ guid ∈ check, (queue.rolesOf guid).size ≤ MAXGROUPSIZE)
    (h : queue.census view counted check = .ok counted')
    (hgroups : counted'.numLfgGroups ≤ 1) (hplayers : counted'.numPlayers ≤ MAXGROUPSIZE) :
    counted'.numPlayers = counted.numPlayers + (check.map fun guid ↦ (queue.rolesOf guid).size).sum ∧
      counted'.numLfgGroups = counted.numLfgGroups + check.countP view.IsLfgGroup ∧
      ∀ guid ∈ check, guid ∈ queue.QueueDataStore := by
  induction check generalizing counted with
  | nil =>
    cases h
    simp
  | cons guid check ih =>
    rw [census_cons] at h
    split_ifs at h with hgo
    · cases hentry : queue.entry guid with
      | none =>
        simp [hentry] at h
      | some data =>
        rw [hentry] at h
        have hsize : data.1.size = (queue.rolesOf guid).size := by
          simp [rolesOf_eq_entry, hentry]
        obtain ⟨hsum, hcount, hmem⟩ := ih (fun g hg ↦ hsmall g (List.mem_cons_of_mem _ hg)) h
        have hle := hsmall guid List.mem_cons_self
        have hadd : (counted.add view guid data.1).numPlayers = counted.numPlayers + (queue.rolesOf guid).size := by
          rw [Census.add, hsize]
          simp only [MAXGROUPSIZE] at *
          omega
        rw [hadd] at hsum
        refine ⟨?_, ?_, ?_⟩
        · rw [hsum, List.map_cons, List.sum_cons, Nat.add_assoc]
        · rw [hcount, List.countP_cons, Census.add]
          cases view.IsLfgGroup guid <;> simp [Nat.add_comm, Nat.add_left_comm]
        · intro g hg
          rcases List.mem_cons.mp hg with rfl | hg
          · exact mem_iff_entry.mpr ⟨data, hentry⟩
          · exact hmem g hg
    · cases h
      omega

/-! ## The players of a combination -/

/-- The players of the entries, one entry after the other. -/
def players (queue : LFGQueue) (check : List ObjectGuid) : List (ObjectGuid × UInt8) :=
  check.flatMap fun guid ↦ (queue.rolesOf guid).toList

theorem mem_players {player : ObjectGuid} : player ∈ (queue.players check).map Prod.fst ↔
      ∃ guid ∈ check, player ∈ queue.rolesOf guid := by
  simp only [players, List.map_flatMap, List.mem_flatMap, ExtTreeMap.map_fst_toList_eq_keys, ExtTreeMap.mem_keys]

theorem length_players : (queue.players check).length = (check.map fun guid ↦ (queue.rolesOf guid).size).sum := by
  simp [players, ExtTreeMap.length_toList]

theorem size_joinRole_le (proposalRoles : LfgRolesMap) (entry : ObjectGuid × UInt8) :
    (joinRole view proposalRoles entry).size ≤ proposalRoles.size + 1 := by
  rw [joinRole]
  split_ifs
  · exact Nat.le_succ _
  · rw [ExtTreeMap.size_insert]
    split_ifs <;> omega

theorem size_foldl_joinRole_le (entries : List (ObjectGuid × UInt8)) (proposalRoles : LfgRolesMap) :
    (entries.foldl (joinRole view) proposalRoles).size ≤ proposalRoles.size + entries.length := by
  induction entries generalizing proposalRoles with
  | nil => exact le_rfl
  | cons entry entries ih =>
    have hone : (joinRole view proposalRoles entry).size ≤ _ := size_joinRole_le proposalRoles entry
    have hrest := ih (joinRole view proposalRoles entry)
    rw [List.foldl_cons, List.length_cons]
    omega

/-- A player who makes the combination larger is a new one and has no trouble with those before. -/
theorem joinRole_grows {proposalRoles : LfgRolesMap} {entry : ObjectGuid × UInt8}
    (h : (joinRole view proposalRoles entry).size = proposalRoles.size + 1) :
    joinRole view proposalRoles entry = proposalRoles.insert entry.1 entry.2 ∧
      ∀ other ∈ proposalRoles, view.HasIgnore entry.1 other = false := by
  unfold joinRole at h ⊢
  split_ifs at h ⊢ with hany
  · omega
  · rw [ExtTreeMap.size_insert] at h
    split_ifs at h with hcontains
    · omega
    · refine ⟨rfl, fun other hother ↦ ?_⟩
      have hne : entry.1 ≠ other := by
        rintro rfl
        exact hcontains (ExtTreeMap.contains_iff_mem.mpr hother)
      have hnone := List.any_eq_false.mp (Bool.not_eq_true _ ▸ hany) other
        (ExtTreeMap.mem_keys.mpr hother)
      simpa [hne] using hnone

/-- **No size is lost, so nobody is.**  If the combination has as many players as the entries have
together, they are the players of the entries, and those of different places do not ignore each
other. -/
theorem joinRole_fold {entries : List (ObjectGuid × UInt8)} {proposalRoles : LfgRolesMap}
    (h : (entries.foldl (joinRole view) proposalRoles).size = proposalRoles.size + entries.length) :
    (∀ player, player ∈ entries.foldl (joinRole view) proposalRoles ↔
      player ∈ proposalRoles ∨ player ∈ entries.map Prod.fst) ∧
    (∀ entry ∈ entries, ∀ other ∈ proposalRoles, view.HasIgnore entry.1 other = false) ∧
    entries.Pairwise fun entry entry' ↦ view.HasIgnore entry.1 entry'.1 = false := by
  induction entries generalizing proposalRoles with
  | nil => simp
  | cons entry entries ih =>
    rw [List.foldl_cons, List.length_cons] at h
    have hone : (joinRole view proposalRoles entry).size ≤ _ := size_joinRole_le proposalRoles entry
    have hrest : (entries.foldl (joinRole view) (joinRole view proposalRoles entry)).size ≤ _ :=
      size_foldl_joinRole_le entries (joinRole view proposalRoles entry)
    have hgrows : (joinRole view proposalRoles entry).size = proposalRoles.size + 1 := by omega
    obtain ⟨hinsert, hfree⟩ := joinRole_grows hgrows
    have hrestSize : (entries.foldl (joinRole view) (joinRole view proposalRoles entry)).size =
        (joinRole view proposalRoles entry).size + entries.length := by omega
    obtain ⟨hmem, hentries, hpairs⟩ := ih hrestSize
    have hjoined : ∀ player, player ∈ joinRole view proposalRoles entry ↔
        player = entry.1 ∨ player ∈ proposalRoles := by
      intro player
      rw [hinsert, ExtTreeMap.mem_insert, Std.LawfulEqCmp.compare_eq_iff_eq, eq_comm]
    refine ⟨fun player ↦ ?_, ?_, List.pairwise_cons.mpr ⟨fun entry' hentry' ↦ ?_, hpairs⟩⟩
    · rw [List.foldl_cons, hmem, hjoined, List.map_cons, List.mem_cons]
      tauto
    · intro entry' hentry' other hother
      rcases List.mem_cons.mp hentry' with rfl | hentry'
      · exact hfree other hother
      · exact hentries entry' hentry' other ((hjoined other).mpr (.inr hother))
    · rw [view.HasIgnore_comm]
      exact hentries entry' hentry' entry.1 ((hjoined entry.1).mpr (.inl rfl))

/-! ## The verdict -/

theorem mem_commonDungeons {id : ℕ} (h : id ∈ (queue.commonDungeons check).ids) :
    ∀ guid ∈ check, id ∈ (queue.dungeonsOf guid).ids := by
  cases check with
  | nil => exact fun _ hguid ↦ absurd hguid List.not_mem_nil
  | cons guid check =>
    rw [commonDungeons] at h
    suffices hall : ∀ dungeons : LfgDungeonSet, id ∈ (check.foldl (fun proposalDungeons other ↦
          proposalDungeons.intersection (queue.dungeonsOf other)) dungeons).ids →
        id ∈ dungeons.ids ∧ ∀ other ∈ check, id ∈ (queue.dungeonsOf other).ids by
      intro other hother
      rcases List.mem_cons.mp hother with rfl | hother
      · exact (hall _ h).1
      · exact (hall _ h).2 other hother
    clear h
    induction check with
    | nil => exact fun dungeons h ↦ ⟨h, fun _ hother ↦ absurd hother List.not_mem_nil⟩
    | cons other check ih =>
      intro dungeons h
      obtain ⟨hboth, hrest⟩ := ih _ h
      rw [LfgDungeonSet.mem_intersection] at hboth
      exact ⟨hboth.1, List.forall_mem_cons.mpr ⟨hboth.2, hrest⟩⟩

/-- What `judge` has made sure of about a combination it finds complete. -/
structure Complete (queue : LFGQueue) (view : MgrView) (check : List ObjectGuid)
    (formation : Formation) : Prop where
  size : formation.roles.size = MAXGROUPSIZE
  players : ∀ player, player ∈ formation.roles ↔ ∃ guid ∈ check, player ∈ queue.rolesOf guid
  tank : roleCount PLAYER_ROLE_TANK formation.roles = LFG_TANKS_NEEDED
  healer : roleCount PLAYER_ROLE_HEALER formation.roles = LFG_HEALERS_NEEDED
  damage : roleCount PLAYER_ROLE_DAMAGE formation.roles = LFG_DPS_NEEDED
  lfgGroups : check.countP view.IsLfgGroup ≤ 1
  ignores : check.Pairwise fun guid other ↦ ∀ player ∈ queue.rolesOf guid,
    ∀ player' ∈ queue.rolesOf other, view.HasIgnore player player' = false
  dungeons : formation.dungeons.ids ≠ []
  dungeon : ∀ id ∈ formation.dungeons.ids, ∀ guid ∈ check, id ∈ (queue.dungeonsOf guid).ids

theorem combine_ok (hadmitted : queue.Admitted) {combined : LfgRolesMap × LfgDungeonSet}
    (hqueued : ∀ guid ∈ check, guid ∈ queue.QueueDataStore) (hne : check ≠ [])
    (hlength : (queue.players check).length = MAXGROUPSIZE)
    (h : queue.combine view check MAXGROUPSIZE = .ok combined) :
    (∃ groles : LfgRolesMap, CheckGroupRoles groles = some combined.1 ∧ groles.size = MAXGROUPSIZE ∧
      ∀ player, player ∈ groles ↔ player ∈ (queue.players check).map Prod.fst) ∧
    (check.Pairwise fun guid other ↦ ∀ player ∈ queue.rolesOf guid,
      ∀ player' ∈ queue.rolesOf other, view.HasIgnore player player' = false) ∧
    combined.2.ids ≠ [] ∧
    ∀ id ∈ combined.2.ids, ∀ guid ∈ check, id ∈ (queue.dungeonsOf guid).ids := by
  unfold combine at h
  split_ifs at h with hmany
  · have hfold : check.foldl (fun proposalRoles guid ↦
        (queue.rolesOf guid).toList.foldl (joinRole view) proposalRoles) ∅ =
        (queue.players check).foldl (joinRole view) ∅ := by
      rw [players, List.foldl_flatMap]
    have hle : ((queue.players check).foldl (joinRole view) ∅).size ≤ 0 + _ :=
      size_foldl_joinRole_le (queue.players check) ∅
    cases hroles : CheckGroupRoles ((queue.players check).foldl (joinRole view) ∅) with
    | none =>
      simp only [hfold, hroles] at h
      split_ifs at h
    | some roles =>
      simp only [hfold, hroles] at h
      split_ifs at h with hsize hdungeons
      cases h
      have hfive : ((queue.players check).foldl (joinRole view) ∅).size = MAXGROUPSIZE := by
        omega
      have hall : ((queue.players check).foldl (joinRole view) ∅).size =
          (∅ : LfgRolesMap).size + (queue.players check).length := by
        simp [hfive, hlength, ExtTreeMap.size_empty]
      obtain ⟨hmem, -, hpairs⟩ := joinRole_fold hall
      refine ⟨⟨_, hroles, hfive, fun player ↦ ?_⟩, ?_, hdungeons, fun id hid ↦ mem_commonDungeons hid⟩
      · rw [hmem]
        exact or_iff_right ExtTreeMap.not_mem_empty
      · refine (List.pairwise_flatMap.mp hpairs).2.imp fun {guid other} hpair player hplayer player'
          hplayer' ↦ ?_
        rw [← ExtTreeMap.mem_keys, ← ExtTreeMap.map_fst_toList_eq_keys] at hplayer hplayer'
        obtain ⟨entry, hentry, rfl⟩ := List.mem_map.mp hplayer
        obtain ⟨entry', hentry', rfl⟩ := List.mem_map.mp hplayer'
        exact hpair entry hentry entry' hentry'
  · obtain ⟨guid, rfl⟩ : ∃ guid, check = [guid] := by
      rcases check with - | ⟨guid, - | ⟨other, check⟩⟩
      · exact absurd rfl hne
      · exact ⟨guid, rfl⟩
      · simp at hmany
    have hmem := hqueued guid (List.mem_singleton_self guid)
    have hfive : (queue.rolesOf guid).size = MAXGROUPSIZE := by
      rw [← hlength, length_players]
      simp
    obtain ⟨roles, hroles⟩ := Option.isSome_iff_exists.mp
      (hadmitted.roles guid hmem (by rw [hfive]; decide))
    simp only [List.headD_cons, hroles, Option.getD_some] at h
    cases h
    refine ⟨⟨_, hroles, hfive, fun player ↦ ?_⟩, List.pairwise_singleton _ _,
      hadmitted.dungeons guid hmem, fun id hid other hother ↦ ?_⟩
    · rw [mem_players]
      simp
    · rw [List.mem_singleton.mp hother]
      exact hid

/-- **What a complete verdict means.** -/
theorem judge_complete (hadmitted : queue.Admitted)
    (hsmall : ∀ guid, (queue.rolesOf guid).size < 256) {formation : Formation}
    (h : queue.judge view check = .complete formation) : queue.Complete view check formation := by
  unfold judge at h
  cases hcensus : queue.census view .init check with
  | error guid => simp [hcensus] at h
  | ok counted =>
    simp only [hcensus] at h
    cases hcombine : queue.combine view check counted.numPlayers with
    | error reason =>
      simp only [hcombine] at h
      split_ifs at h
    | ok combined =>
      simp only [hcombine] at h
      split_ifs at h with hsingle hgroups hplayers hfive hqueued
      cases h
      rw [not_not] at hfive
      have hne : check ≠ [] := by
        rintro rfl
        simp [MgrView.AllQueued] at hqueued
      obtain ⟨hsum, hcount, hmem⟩ := census_ok (fun guid _ ↦ hadmitted.size_le hsmall guid) hcensus
        (Nat.not_lt.mp hgroups) hfive.le
      have hlength : (queue.players check).length = MAXGROUPSIZE := by
        simp [length_players, ← hfive, hsum, Census.init]
      rw [hfive] at hcombine
      obtain ⟨⟨groles, hroles, hsize, hplayersOf⟩, hpairs, hdungeons, hcommon⟩ :=
        combine_ok hadmitted hmem hne hlength hcombine
      obtain ⟨htank, hhealer, hdamage⟩ := roleCount_of_CheckGroupRoles hroles hsize
      refine ⟨?_, fun player ↦ ?_, htank, hhealer, hdamage, ?_, hpairs, hdungeons, hcommon⟩
      · exact (CheckGroupRoles_size hroles).trans hsize
      · rw [CheckGroupRoles_mem hroles, hplayersOf, mem_players]
      · have hinit : Census.init.numLfgGroups = 0 := rfl
        omega

end LFGQueue

/-! ## The proposal -/

section

variable {view : MgrView} {queue : LFGQueue} {check : List ObjectGuid} {formation : Formation}

section

variable (coin : ObjectGuid → Bool) {entries : List (ObjectGuid × UInt8)}

theorem chooseLeader_mem {chosenLeader : Bool × ObjectGuid} {guids : List ObjectGuid}
    (hleader : chosenLeader.2 ∈ guids) (hentries : ∀ entry ∈ entries, entry.1 ∈ guids) :
    (entries.foldl (chooseLeader coin) chosenLeader).2 ∈ guids := by
  induction entries generalizing chosenLeader with
  | nil => exact hleader
  | cons entry entries ih =>
    rw [List.foldl_cons]
    have hentry := hentries entry List.mem_cons_self
    refine ih ?_ fun other hother ↦ hentries other (List.mem_cons_of_mem _ hother)
    unfold chooseLeader
    split_ifs
    all_goals assumption

/-- The first player is made leader; after that there always is one. -/
theorem foldl_chooseLeader_mem (hne : entries ≠ []) :
    (entries.foldl (chooseLeader coin) (false, .Empty)).2 ∈ entries.map Prod.fst := by
  cases entries with
  | nil => exact absurd rfl hne
  | cons entry entries =>
    rw [List.foldl_cons]
    refine chooseLeader_mem coin ?_ fun other hother ↦
      List.mem_map_of_mem (List.mem_cons_of_mem _ hother)
    have hfirst : (chooseLeader coin (false, .Empty) entry).2 = entry.1 := by
      unfold chooseLeader
      by_cases hwants : entry.2 &&& PLAYER_ROLE_LEADER ≠ 0
      · rw [if_pos hwants, if_pos (.inl rfl)]
      · simp [hwants]
    rw [hfirst]
    simp

end

theorem newProposal_roleCount (n : ℕ) (flag : UInt8) :
    (newProposal view n check formation).roleCount flag = roleCount flag formation.roles := by
  rw [LfgProposal.roleCount, newProposal, ExtTreeMap.toList_map, List.countP_map]
  rfl

theorem LFGQueue.Complete.wellFormed (h : queue.Complete view check formation) (n : ℕ) :
    (newProposal view n check formation).WellFormed view queue where
  size := by
    rw [newProposal, ExtTreeMap.size_map]
    exact h.size
  players player := by
    rw [newProposal, ExtTreeMap.mem_map]
    exact h.players player
  tank := (newProposal_roleCount n _).trans h.tank
  healer := (newProposal_roleCount n _).trans h.healer
  damage := (newProposal_roleCount n _).trans h.damage
  lfgGroups := h.lfgGroups
  ignores guid hguid other hother hne := by
    have hsymm : Std.Symm fun guid other ↦ ∀ player ∈ queue.rolesOf guid,
        ∀ player' ∈ queue.rolesOf other, view.HasIgnore player player' = false :=
      ⟨fun _ _ hpair player hplayer player' hplayer' ↦ by
        rw [view.HasIgnore_comm]
        exact hpair player' hplayer' player hplayer⟩
    exact h.ignores.forall hguid hother hne
  dungeon guid hguid := by
    refine h.dungeon _ ?_ guid hguid
    have hlt : view.select n % formation.dungeons.ids.length < formation.dungeons.ids.length :=
      Nat.mod_lt _ (List.length_pos_iff.mpr h.dungeons)
    rw [newProposal, List.getElem?_eq_getElem hlt, Option.getD_some]
    exact List.getElem_mem hlt
  leader := by
    rw [newProposal, ExtTreeMap.mem_map, ← ExtTreeMap.mem_keys, ← ExtTreeMap.map_fst_toList_eq_keys]
    refine foldl_chooseLeader_mem _ fun hnil ↦ ?_
    have hsize := h.size
    rw [← ExtTreeMap.length_toList, hnil] at hsize
    exact absurd hsize (by decide)

end

/-- **The proposals of a check are well formed**, if the entries have been admitted to the queue and none
has 256 players or more. -/
theorem wellFormed_of_added (view : MgrView) (search : QueueSearch) (check : List ObjectGuid)
    (hadmitted : search.queue.Admitted)
    (hsmall : ∀ guid, (search.queue.rolesOf guid).size < 256) :
    ∃ added, (search.CheckCompatibility view check).2.added = search.added ++ added ∧
      ∀ proposal ∈ added, proposal.WellFormed view search.queue := by
  obtain ⟨added, hadded, hproposes⟩ := QueueSearch.added_CheckCompatibility check search
  refine ⟨added, hadded, fun proposal hproposal ↦ ?_⟩
  obtain ⟨tail, n, formation, hjudge, rfl⟩ := hproposes proposal hproposal
  exact (LFGQueue.judge_complete hadmitted hsmall hjudge).wellFormed n

/-! ## Examples -/

theorem LFGQueue.entry_of_mem {queue : LFGQueue} {guid : ObjectGuid} (hmem : guid ∈ queue.QueueDataStore) :
    ∃ queueData, (guid, queueData) ∈ queue.QueueDataStore.toList ∧
      queue.rolesOf guid = queueData.roles ∧ queue.dungeonsOf guid = queueData.dungeons := by
  obtain ⟨queueData, hdata⟩ := (TreeMap.mem_iff _ _).mp hmem
  refine ⟨queueData, ExtTreeMap.mem_toList_iff_getElem?_eq_some.mpr hdata, ?_, ?_⟩
  · rw [rolesOf, hdata]
    rfl
  · rw [dungeonsOf, hdata]
    rfl

theorem LFGQueue.admitted_of_entries {queue : LFGQueue} (h : ∀ entry ∈ queue.QueueDataStore.toList,
      (1 < entry.2.roles.size → (CheckGroupRoles entry.2.roles).isSome) ∧
        entry.2.dungeons.ids ≠ []) : queue.Admitted where
  roles guid hmem := by
    obtain ⟨queueData, hentry, hroles, -⟩ := entry_of_mem hmem
    rw [hroles]
    exact (h _ hentry).1
  dungeons guid hmem := by
    obtain ⟨queueData, hentry, -, hdungeons⟩ := entry_of_mem hmem
    rw [hdungeons]
    exact (h _ hentry).2

theorem LFGQueue.rolesOf_small {queue : LFGQueue}
    (h : ∀ entry ∈ queue.QueueDataStore.toList, entry.2.roles.size < 256) (guid : ObjectGuid) :
    (queue.rolesOf guid).size < 256 := by
  by_cases hmem : guid ∈ queue.QueueDataStore
  · obtain ⟨queueData, hentry, hroles, -⟩ := entry_of_mem hmem
    rw [hroles]
    exact h _ hentry
  · rw [rolesOf, ExtTreeMap.getElem?_eq_none hmem]
    decide

/-- Everybody is queued, nobody is in a group of the dungeon finder and nobody ignores anybody. -/
def quietView : MgrView where
  IsLfgGroup _ := false
  GetState _ := .queued
  GetOldState _ := .none
  HasIgnore _ _ := false
  HasIgnore_comm _ _ := rfl
  time := 0
  select _ := 0
  coin _ _ := false

/-- A queue with new entries, all for dungeon 1. -/
def newEntries (entries : List (ObjectGuid × List (ObjectGuid × UInt8))) : LFGQueue := entries.foldl (fun queue entry ↦
    queue.AddQueueData entry.1 ⟨[1], List.pairwise_singleton _ _⟩ (.ofList entry.2)) .empty

/-- A group of three and two players. -/
def threeAndTwo : LFGQueue := newEntries [(100, [(1, 8), (2, 8 + 1), (3, 4 + 8)]), (4, [(4, 2 + 8)]), (5, [(5, 8 + 4)])]

/-- For these a proposal is made. -/
theorem wellFormed_threeAndTwo : ∃ proposal,
    ((QueueSearch.mk threeAndTwo []).CheckCompatibility quietView [5, 100, 4]).2.added = [proposal] ∧
      proposal.WellFormed quietView threeAndTwo := by
  obtain ⟨added, hadded, hwell⟩ := wellFormed_of_added quietView ⟨threeAndTwo, []⟩ [5, 100, 4]
    (LFGQueue.admitted_of_entries (by decide +kernel)) (LFGQueue.rolesOf_small (by decide +kernel))
  rw [List.nil_append] at hadded
  have hlength : ((QueueSearch.mk threeAndTwo []).CheckCompatibility quietView
      [5, 100, 4]).2.added.length = 1 := by decide +kernel
  rw [hadded] at hlength ⊢
  obtain ⟨proposal, rfl⟩ := List.length_eq_one_iff.mp hlength
  exact ⟨proposal, rfl, hwell proposal (List.mem_singleton_self proposal)⟩

/-- A group of 261: five who go together, and 256 whose role values have none of the known bits. -/
def hugeEntry : LFGQueue := newEntries [(1000, (List.range 261).map fun n ↦
    (n, if n < 3 then 8 else if n = 3 then 4 else if n = 4 then 2 else 16))]

/-- Entries of any size are too much: the sizes are bytes. -/
theorem not_wellFormed_hugeEntry : ¬∀ (view : MgrView) (search : QueueSearch)
    (check : List ObjectGuid), search.queue.Admitted →
      ∃ added, (search.CheckCompatibility view check).2.added = search.added ++ added ∧
        ∀ proposal ∈ added, proposal.WellFormed view search.queue := by
  intro h
  obtain ⟨added, hadded, hwell⟩ := h quietView ⟨hugeEntry, []⟩ [1000]
    (LFGQueue.admitted_of_entries (by decide +kernel))
  rw [List.nil_append] at hadded
  have hsizes : ((QueueSearch.mk hugeEntry []).CheckCompatibility quietView [1000]).2.added.map
      (·.players.size) = [261] := by decide +kernel
  rw [hadded] at hsizes
  obtain ⟨proposal, rfl⟩ := List.length_eq_one_iff.mp
    (show added.length = 1 by rw [← List.length_map, hsizes]; rfl)
  have hsize := (hwell proposal (List.mem_singleton_self proposal)).size
  rw [List.map_singleton, hsize] at hsizes
  exact absurd hsizes (by decide)

end Gundrak.Lfg
