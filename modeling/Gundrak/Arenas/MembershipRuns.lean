import Gundrak.Arenas.MembershipAgreement

/-!
# Requests, and runs of them

Each handler is put together from adding and removing members.  **`agrees_of_reaches`** says that the three
places agree along the runs that keep to `Keeps`.
-/

open Std (ExtTreeMap)

namespace Gundrak.Arenas

namespace Membership

variable {r : Realm} {s s' : Membership} {id id' : ℕ} {t : ArenaTeam} {guid guid' : ObjectGuid}
  {type type' : ArenaTeamTypes}

/-- What holds after every request. -/
structure Sound (r : Realm) (s : Membership) : Prop where
  core : Core r s
  complete : ∀ id, s.Complete id

/-! ## Disbanding a team -/

/-- What holds while the members of a team that is disbanded are removed. -/
structure Disbanding (r : Realm) (id : ℕ) (t : ArenaTeam) (s : Membership) : Prop where
  core : Core r s
  team : s.ArenaTeamStore[id]? = some t
  settled : ∀ m ∈ t.Members, s.Settled m.Guid
  others : ∀ id', id ≠ id' → s.Complete id'

theorem Disbanding.delMember {m : ArenaTeamMember} {ms : List ArenaTeamMember}
    (h : Disbanding r id { t with Members := m :: ms } s) :
    Disbanding r id { t with Members := ms } (s.DelMember r id m.Guid false) := by
  have hm : s.Settled m.Guid := h.settled m List.mem_cons_self
  have hmember : ({ t with Members := m :: ms } : ArenaTeam).IsMember m.Guid = true :=
    isMember_def.mpr List.mem_cons_self
  refine ⟨h.core.delMember h.team hm (.inl hmember), ?_, fun m' hm' ↦ ?_, fun id' hid ↦ ?_⟩
  · rw [get_delMember_self h.team]
    simp
  · exact settled_delMember h.team hm (h.settled m' (List.mem_cons_of_mem _ hm'))
  · exact (h.others id' hid).delMember_of_ne h.team hid

theorem Disbanding.all {ms : List ArenaTeamMember} (h : Disbanding r id { t with Members := ms } s) :
    Disbanding r id { t with Members := [] } (ms.foldl (fun s m ↦ s.DelMember r id m.Guid false) s) := by
  induction ms generalizing s with
  | nil => exact h
  | cons m ms ih => exact ih h.delMember

theorem Sound.disband (h : Sound r s) (ht : s.ArenaTeamStore[id]? = some t)
    (hs : ∀ m ∈ t.Members, s.Settled m.Guid) : Sound r (s.Disband r id t) := by
  have hstart : Disbanding r id { t with Members := t.Members } s := ⟨h.core, ht, hs, fun id' _ ↦ h.complete id'⟩
  have hend := hstart.all
  rw [Disband]
  generalize t.Members.foldl (fun s m ↦ s.DelMember r id m.Guid false) s = s₁ at hend
  have hget (k : ℕ) : (s₁.ArenaTeamStore.erase id)[k]? = if id = k then none else s₁.ArenaTeamStore[k]? :=
    TreeMap.get_erase ..
  have hof {k : ℕ} {t' : ArenaTeam} (ht' : (s₁.ArenaTeamStore.erase id)[k]? = some t') :
      id ≠ k ∧ s₁.ArenaTeamStore[k]? = some t' := by
    rw [hget] at ht'
    by_cases hid : id = k
    · simp [hid] at ht'
    · rw [if_neg hid] at ht'
      exact ⟨hid, ht'⟩
  have hholds (guid : ObjectGuid) (type : ArenaTeamTypes) (k : ℕ) :
      (∃ t', (s₁.ArenaTeamStore.erase id)[k]? = some t' ∧ t'.GetType = type ∧ t'.IsMember guid = true) ↔
        s₁.Holds guid type k := by
    constructor
    · rintro ⟨t', ht', hh⟩
      exact ⟨t', (hof ht').2, hh⟩
    · rintro ⟨t', ht', hh⟩
      refine ⟨t', ?_, hh⟩
      rw [hget, if_neg, ht']
      rintro rfl
      obtain rfl := Option.some.inj (hend.team.symm.trans ht')
      cases hh.2
  refine ⟨⟨fun guid type k ↦ (hholds guid type k).trans (hend.core.cache guid type k), hend.core.info,
    fun k t' ht' ↦ hend.core.room k t' (hof ht').2, fun k t' ht' ↦ hend.core.nodup k t' (hof ht').2,
    fun k t' ht' ↦ hend.core.ids k t' (hof ht').2, hend.core.next, hend.core.known,
    fun guid type k hh ↦ hend.core.named guid type k ((hholds guid type k).mp hh)⟩, fun k ↦ ?_⟩
  by_cases hid : id = k
  · subst hid
    refine ⟨fun t' ht' ↦ absurd rfl (hof ht').1, fun guid ↦ ⟨fun hmem ↦ ?_, fun ⟨t', ht', _⟩ ↦ ?_⟩⟩
    · exact absurd rfl (of_decide_eq_true (List.mem_filter.mp hmem).2)
    · exact absurd rfl (hof ht').1
  · have hk := hend.others k hid
    refine ⟨fun t' ht' ↦ hk.captain t' (hof ht').2, fun guid ↦ ?_⟩
    change (k, guid) ∈ s₁.arena_team_member.filter (·.1 ≠ id) ↔
      ∃ t', (s₁.ArenaTeamStore.erase id)[k]? = some t' ∧ t'.IsMember guid = true
    rw [hget, if_neg hid, ← hk.rows, List.mem_filter]
    exact and_iff_left (decide_eq_true (Ne.symm hid))

/-! ## Making a team -/

theorem Sound.addMember (h : Sound r s) (hs : ∀ t ∈ s.ArenaTeamStore[id]?, s.CanAdd r t guid → s.Settled guid) :
    Sound r (s.AddMember r id guid) := by
  cases ht : s.ArenaTeamStore[id]? with
  | none =>
    have hnone : s.AddMember r id guid = s := by simp only [AddMember, ht]
    rw [hnone]
    exact h
  | some t =>
    by_cases hcan : s.CanAdd r t guid
    · refine ⟨h.core.addMember hcan ht (hs t ht hcan), fun id' ↦ ?_⟩
      by_cases hid : id = id'
      · subst hid
        refine .addMember hcan ht (fun guid' ↦ ?_) (.inl ((h.complete id).captain t ht))
        simp [(h.complete id).rows, ht]
      · exact (h.complete id').addMember_of_ne hcan ht hid
    · rw [addMember_of_not ht hcan]
      exact h

theorem Sound.signers (signatures : List ObjectGuid) (h : Sound r s) (hs : SignersSettled r id s signatures) :
    Sound r (signatures.foldl (fun s' signature ↦ s'.AddMember r id signature) s) := by
  induction signatures generalizing s with
  | nil => exact h
  | cons guid signatures ih => exact ih (h.addMember hs.1) hs.2

theorem FindPlayer_eq_some {p : Player} (hp : s.FindPlayer guid = some p) :
    s.players guid = some p ∧ p.IsInWorld = true :=
  Option.filter_eq_some_iff.mp hp

theorem settled_of_found {p : Player} (hp : s.FindPlayer guid = some p) : s.Settled guid := by
  obtain ⟨hp, hworld⟩ := FindPlayer_eq_some hp
  rintro p' hp'
  exact Option.some.inj (hp.symm.trans hp') ▸ hworld

theorem Sound.create (h : Sound r s) {p : Player} (hp : s.FindPlayer guid = some p)
    (hfree : p.ARENA_TEAM_ID type = 0) : Sound r (s.Create r type guid) := by
  obtain ⟨hplayer, hworld⟩ := FindPlayer_eq_some hp
  have hnone : s.ArenaTeamStore[s.NextArenaTeamId]? = none := by
    cases ht : s.ArenaTeamStore[s.NextArenaTeamId]? with
    | none => rfl
    | some t => exact absurd (h.core.ids _ t ht).2 (lt_irrefl _)
  have hget (k : ℕ) : (s.AddArenaTeam r type guid).ArenaTeamStore[k]? = if s.NextArenaTeamId = k then
      some ⟨type, guid, [], ⟨r.CONFIG_ARENA_START_RATING, 0, 0, 0, 0, 0⟩⟩ else s.ArenaTeamStore[k]? :=
    TreeMap.get_insert ..
  have hnew := hget s.NextArenaTeamId
  rw [if_pos rfl] at hnew
  have hholds (guid' : ObjectGuid) (type' : ArenaTeamTypes) (k : ℕ) :
      (s.AddArenaTeam r type guid).Holds guid' type' k ↔ s.Holds guid' type' k := by
    by_cases hk : s.NextArenaTeamId = k
    · subst hk
      rw [holds_iff hnew]
      constructor
      · rintro ⟨_, hmember⟩
        cases hmember
      · rintro ⟨t, ht, _⟩
        exact absurd (hnone.symm.trans ht) (Option.some_ne_none t).symm
    · simp [Holds, hget, hk]
  have hcore : Core r (s.AddArenaTeam r type guid) := by
    refine ⟨fun guid' type' k ↦ (hholds guid' type' k).trans (h.core.cache guid' type' k), h.core.info,
      fun k t ht ↦ ?_, fun k t ht ↦ ?_, fun k t ht ↦ ?_, Nat.succ_ne_zero _, h.core.known,
      fun guid' type' k hh ↦ h.core.named guid' type' k ((hholds guid' type' k).mp hh)⟩
    · rw [hget] at ht
      split at ht
      · obtain rfl := Option.some.inj ht
        exact Nat.zero_le _
      · exact h.core.room k t ht
    · rw [hget] at ht
      split at ht
      · obtain rfl := Option.some.inj ht
        simp
      · exact h.core.nodup k t ht
    · rw [hget] at ht
      split at ht
      · rename_i hk
        exact hk ▸ ⟨h.core.next, Nat.lt_succ_self _⟩
      · exact ⟨(h.core.ids k t ht).1, Nat.lt_succ_of_lt (h.core.ids k t ht).2⟩
  have hcan : (s.AddArenaTeam r type guid).CanAdd r
      ⟨type, guid, [], ⟨r.CONFIG_ARENA_START_RATING, 0, 0, 0, 0, 0⟩⟩ guid := by
    refine ⟨?_, .inl ?_, fun p' hp' ↦ ?_, ?_⟩
    · change 0 < type.toNat * 2
      cases type <;> decide
    · exact Option.isSome_iff_exists.mpr ⟨p, hp⟩
    · exact Option.some.inj (hp.symm.trans hp') ▸ hfree
    · exact (h.core.info guid p hplayer type).symm.trans hfree
  have hsettled : (s.AddArenaTeam r type guid).Settled guid := settled_of_found hp
  refine ⟨hcore.addMember hcan hnew hsettled, fun k ↦ ?_⟩
  by_cases hk : s.NextArenaTeamId = k
  · subst hk
    refine .addMember hcan hnew (fun guid' ↦ iff_of_false (fun hmem ↦ ?_) Bool.false_ne_true) (.inr rfl)
    obtain ⟨t, ht, _⟩ := ((h.complete _).rows guid').mp hmem
    exact absurd (hnone.symm.trans ht) (Option.some_ne_none t).symm
  · refine Complete.addMember_of_ne hcan ⟨fun t ht ↦ ?_, fun guid' ↦ ?_⟩ hnew hk
    · rw [hget, if_neg hk] at ht
      exact (h.complete k).captain t ht
    · rw [hget, if_neg hk]
      exact (h.complete k).rows guid'

/-! ## Logging in -/

/-- Of the rows of a player, the last one of a type is that of his team of the type. -/
theorem foldl_loadInfo (h : Core r s) (ids : List ℕ) (info : ArenaTeamTypes → ℕ)
    (hids : ∀ id ∈ ids, ∃ t, s.ArenaTeamStore[id]? = some t ∧ t.IsMember guid = true) :
    ids.foldl s.loadInfo info type = if s.ArenaTeamId guid type ∈ ids then s.ArenaTeamId guid type
      else info type := by
  induction ids generalizing info with
  | nil => rfl
  | cons id ids ih =>
    obtain ⟨⟨t, ht, hm⟩, hids⟩ := List.forall_mem_cons.mp hids
    obtain ⟨hcache, hne⟩ := (h.cache guid t.GetType id).mp ⟨t, ht, rfl, hm⟩
    have hload : s.loadInfo info id = Function.update info t.GetType id := by simp only [loadInfo, ht]
    rw [List.foldl_cons, ih _ hids, hload]
    by_cases htype : type = t.GetType
    · subst htype
      simp [hcache]
    · rw [Function.update_of_ne htype]
      -- the team of another type has another id
      have hother : s.ArenaTeamId guid type ≠ id := fun heq ↦ by
        obtain ⟨t', ht', htype', _⟩ := (h.cache guid type id).mpr ⟨heq, hne⟩
        obtain rfl := Option.some.inj (ht.symm.trans ht')
        exact htype htype'.symm
      simp [hother]

/-- **A player who logs in** gets the teams that the cache has of him. -/
theorem loadArenaTeamInfo_eq (h : Sound r s) : s._LoadArenaTeamInfo guid type = s.ArenaTeamId guid type := by
  have hids : ∀ id ∈ (s.arena_team_member.filter (·.2 = guid)).map Prod.fst,
      ∃ t, s.ArenaTeamStore[id]? = some t ∧ t.IsMember guid = true := fun id hid ↦ by
    obtain ⟨row, hrow, rfl⟩ := List.mem_map.mp hid
    obtain ⟨hmem, hguid⟩ := List.mem_filter.mp hrow
    exact ((h.complete row.1).rows guid).mp (of_decide_eq_true hguid ▸ hmem)
  have hload : ((s.arena_team_member.filter (·.2 = guid)).map Prod.fst).foldl s.loadInfo (fun _ ↦ 0) type =
      if s.ArenaTeamId guid type ∈ (s.arena_team_member.filter (·.2 = guid)).map Prod.fst then
        s.ArenaTeamId guid type else 0 :=
    foldl_loadInfo h.core _ (fun _ ↦ 0) hids
  by_cases hzero : s.ArenaTeamId guid type = 0
  · have hnot : s.ArenaTeamStore[0]? = none := by
      cases ht : s.ArenaTeamStore[0]? with
      | none => rfl
      | some t => exact absurd rfl (h.core.ids 0 t ht).1
    simp [hzero, _LoadArenaTeamInfo, checkInfo, hload, hnot]
  · obtain ⟨t, ht, htype, hm⟩ := (h.core.cache guid type _).mpr ⟨rfl, hzero⟩
    have hrow := ((h.complete _).rows guid).mpr ⟨t, ht, hm⟩
    rw [if_pos (List.mem_map.mpr ⟨_, List.mem_filter.mpr ⟨hrow, decide_eq_true rfl⟩, rfl⟩)] at hload
    simp [_LoadArenaTeamInfo, checkInfo, hload, ht, hm]

/-! ## Every event -/

theorem Sound.setPlayers (h : Sound r s) {players : ObjectGuid → Option Player}
    (hp : ∀ guid p, players guid = some p → r.characters guid = true ∧
      ∀ type, p.ARENA_TEAM_ID type = s.ArenaTeamId guid type) : Sound r { s with players := players } :=
  ⟨⟨h.core.cache, fun guid p hguid ↦ (hp guid p hguid).2, h.core.room, h.core.nodup, h.core.ids, h.core.next,
    fun guid p hguid ↦ (hp guid p hguid).1, h.core.named⟩, fun id ↦ ⟨(h.complete id).captain, (h.complete id).rows⟩⟩

theorem Sound.modifyPlayer (h : Sound r s) {f : Player → Player}
    (hf : ∀ p, (f p).ARENA_TEAM_ID = p.ARENA_TEAM_ID) : Sound r (s.modifyPlayer guid f) := by
  refine h.setPlayers fun guid' p hp ↦ ?_
  by_cases hguid : guid' = guid
  · subst hguid
    rw [Function.update_self] at hp
    obtain ⟨p₀, hp₀, rfl⟩ := Option.map_eq_some_iff.mp hp
    exact ⟨h.core.known _ _ hp₀, fun type ↦ hf p₀ ▸ h.core.info _ _ hp₀ type⟩
  · rw [Function.update_of_ne hguid] at hp
    exact ⟨h.core.known _ _ hp, h.core.info _ _ hp⟩

theorem Sound.setInvited (h : Sound r s) : Sound r (s.SetArenaTeamIdInvited guid id) := by
  refine h.modifyPlayer fun p ↦ ?_
  split <;> rfl

theorem Sound.delMember (h : Sound r s) (ht : s.ArenaTeamStore[id]? = some t) (hs : s.Settled guid)
    (hguid : t.IsMember guid = true ∨ ∀ p ∈ s.players guid, p.ARENA_TEAM_ID t.GetType = 0)
    (hcaptain : t.CaptainGuid ≠ guid) : Sound r (s.DelMember r id guid true) := by
  refine ⟨h.core.delMember ht hs hguid, fun id' ↦ ?_⟩
  by_cases hid : id = id'
  · subst hid
    exact (h.complete id).delMember h.core ht hcaptain
  · exact (h.complete id').delMember_of_ne ht hid

theorem Sound.setCaptain (h : Sound r s) (ht : s.ArenaTeamStore[id]? = some t) (hm : t.IsMember guid = true) :
    Sound r (s.modifyTeam id fun t ↦ { t with CaptainGuid := guid }) := by
  have hget (k : ℕ) : (s.modifyTeam id fun t ↦ { t with CaptainGuid := guid }).ArenaTeamStore[k]? =
      if id = k then some { t with CaptainGuid := guid } else s.ArenaTeamStore[k]? := by
    rw [modifyTeam, TreeMap.get_modify, ht]
    rfl
  have hof {k : ℕ} {t' : ArenaTeam}
      (ht' : (s.modifyTeam id fun t ↦ { t with CaptainGuid := guid }).ArenaTeamStore[k]? = some t') :
      ∃ t₀, s.ArenaTeamStore[k]? = some t₀ ∧ t'.GetType = t₀.GetType ∧ t'.Members = t₀.Members := by
    rw [hget] at ht'
    split at ht'
    · rename_i hid
      obtain rfl := Option.some.inj ht'
      exact ⟨t, hid ▸ ht, rfl, rfl⟩
    · exact ⟨t', ht', rfl, rfl⟩
  have hex {P : ArenaTeamTypes → List ArenaTeamMember → Prop} (k : ℕ) :
      (∃ t', (s.modifyTeam id fun t ↦ { t with CaptainGuid := guid }).ArenaTeamStore[k]? = some t' ∧
        P t'.GetType t'.Members) ↔ ∃ t', s.ArenaTeamStore[k]? = some t' ∧ P t'.GetType t'.Members := by
    constructor
    · rintro ⟨t', ht', hP⟩
      obtain ⟨t₀, ht₀, htype, hmembers⟩ := hof ht'
      exact ⟨t₀, ht₀, htype ▸ hmembers ▸ hP⟩
    · rintro ⟨t', ht', hP⟩
      by_cases hid : id = k
      · subst hid
        obtain rfl := Option.some.inj (ht.symm.trans ht')
        exact ⟨{ t with CaptainGuid := guid }, (hget id).trans (if_pos rfl), hP⟩
      · exact ⟨t', (hget k).trans ((if_neg hid).trans ht'), hP⟩
  have hholds (guid' : ObjectGuid) (type : ArenaTeamTypes) (k : ℕ) :
      (s.modifyTeam id fun t ↦ { t with CaptainGuid := guid }).Holds guid' type k ↔ s.Holds guid' type k :=
    hex (P := fun type' ms ↦ type' = type ∧ ms.any (·.Guid = guid') = true) k
  refine ⟨⟨fun guid' type k ↦ (hholds guid' type k).trans (h.core.cache guid' type k), h.core.info,
    fun k t' ht' ↦ ?_, fun k t' ht' ↦ ?_, fun k t' ht' ↦ ?_, h.core.next, h.core.known,
    fun guid' type k hh ↦ h.core.named guid' type k ((hholds guid' type k).mp hh)⟩,
    fun k ↦ ⟨fun t' ht' ↦ ?_, fun guid' ↦ ?_⟩⟩
  · obtain ⟨t₀, ht₀, htype, hmembers⟩ := hof ht'
    rw [htype, hmembers]
    exact h.core.room k t₀ ht₀
  · obtain ⟨t₀, ht₀, _, hmembers⟩ := hof ht'
    rw [hmembers]
    exact h.core.nodup k t₀ ht₀
  · obtain ⟨t₀, ht₀, _, _⟩ := hof ht'
    exact h.core.ids k t₀ ht₀
  · rw [hget] at ht'
    split at ht'
    · obtain rfl := Option.some.inj ht'
      exact hm
    · exact (h.complete k).captain t' ht'
  · exact ((h.complete k).rows guid').trans
      (hex (P := fun _ ms ↦ ms.any (·.Guid = guid') = true) k).symm

theorem mem_of_getMember {name : String} {m : ArenaTeamMember} (hm : GetMember r t name = some m) :
    t.IsMember m.Guid = true :=
  isMember_def.mpr (List.mem_map_of_mem (List.mem_of_find?_eq_some hm))

section

variable (h : Sound r s)
include h

theorem Sound.leave {p : Player} (hp : s.FindPlayer guid = some p) {InArena : Bool}
    (hk : s.Keeps r (.HandleArenaTeamLeaveOpcode guid id InArena)) :
    Sound r (s.HandleArenaTeamLeaveOpcode r guid id InArena) := by
  rw [HandleArenaTeamLeaveOpcode]
  split
  · exact h
  · rename_i t ht
    split
    · exact h
    · rename_i harena
      split
      · exact h
      · rename_i hlast
        split
        · rename_i hguid
          -- the captain is the only member
          have hcaptain := isMember_def.mp ((h.complete id).captain t ht)
          have hone : t.Members.length ≤ 1 := not_lt.mp fun hmore ↦ hlast ⟨hguid, hmore⟩
          refine h.disband ht fun m hm ↦ ?_
          obtain ⟨m₀, hmembers⟩ := List.length_eq_one_iff.mp
            (le_antisymm hone (List.length_pos_of_mem hm))
          rw [hmembers] at hm hcaptain
          obtain rfl := List.mem_singleton.mp hm
          rw [← List.mem_singleton.mp hcaptain, ← hguid]
          exact settled_of_found hp
        · rename_i hguid
          exact h.delMember ht (settled_of_found hp) (hk t ht (Bool.eq_false_of_not_eq_true harena))
            (Ne.symm hguid)

theorem Sound.remove {name : String} {IsFighting : Bool}
    (hk : s.Keeps r (.HandleArenaTeamRemoveOpcode guid id name IsFighting)) :
    Sound r (s.HandleArenaTeamRemoveOpcode r guid id name IsFighting) := by
  rw [HandleArenaTeamRemoveOpcode]
  split
  · exact h
  · rename_i t ht
    split
    · exact h
    · rename_i hcaptain
      split
      · exact h
      · rename_i member hmember
        split
        · exact h
        · rename_i hne
          split
          · exact h
          · rename_i hfight
            exact h.delMember ht
              (hk t ht (not_ne_iff.mp hcaptain) (Bool.eq_false_of_not_eq_true hfight) member hmember hne)
              (.inl (mem_of_getMember hmember)) hne

theorem Sound.disbandRequest {IsFighting : Bool} (hk : s.Keeps r (.HandleArenaTeamDisbandOpcode guid id IsFighting)) :
    Sound r (s.HandleArenaTeamDisbandOpcode r guid id IsFighting) := by
  rw [HandleArenaTeamDisbandOpcode]
  split
  · exact h
  · rename_i t ht
    split
    · exact h
    · rename_i hcaptain
      split
      · exact h
      · rename_i hfight
        exact h.disband ht (hk t ht (not_ne_iff.mp hcaptain) (Bool.eq_false_of_not_eq_true hfight))

theorem Sound.leader {name : String} : Sound r (s.HandleArenaTeamLeaderOpcode r guid id name) := by
  rw [HandleArenaTeamLeaderOpcode]
  split
  · exact h
  · rename_i t ht
    split
    · exact h
    · split
      · exact h
      · rename_i member hmember
        split
        · exact h
        · exact h.setCaptain ht (mem_of_getMember hmember)

theorem Sound.invite {p : Player} : Sound r (s.HandleArenaTeamInviteOpcode p id guid) := by
  rw [HandleArenaTeamInviteOpcode]
  split
  · repeat' split
    all_goals first | exact h | exact h.setInvited
  · exact h

theorem Sound.accept {p : Player} (hp : s.FindPlayer guid = some p) {allied : Bool} :
    Sound r (s.HandleArenaTeamAcceptOpcode r p guid allied) := by
  rw [HandleArenaTeamAcceptOpcode]
  split
  · exact h
  · split
    · exact h
    · split
      · exact h.addMember fun _ _ _ ↦ settled_of_found hp
      · exact h

theorem Sound.turnIn {p : Player} (hp : s.FindPlayer guid = some p)
    {signatures : List ObjectGuid} (hk : s.Keeps r (.HandleTurnInPetitionOpcode guid type signatures)) :
    Sound r (s.HandleTurnInPetitionOpcode r p guid type signatures) := by
  rw [HandleTurnInPetitionOpcode]
  split
  · exact h
  · rename_i hfree
    have hfree := not_ne_iff.mp hfree
    split
    · exact h
    · rename_i hmany
      exact (h.create hp hfree).signers signatures (hk p hp hfree (not_lt.mp hmany))

theorem Sound.next {event : Event} (hk : s.Keeps r event) (hn : s.next r event = some s') : Sound r s' := by
  cases event with
  | HandleTurnInPetitionOpcode guid type signatures =>
    obtain ⟨_, hn⟩ := Option.ite_none_right_eq_some.mp hn
    obtain ⟨p, hp, rfl⟩ := Option.map_eq_some_iff.mp hn
    exact h.turnIn hp hk
  | HandleArenaTeamInviteOpcode guid arenaTeamId invited =>
    obtain ⟨p, hp, rfl⟩ := Option.map_eq_some_iff.mp hn
    exact h.invite
  | HandleArenaTeamAcceptOpcode guid allied =>
    obtain ⟨p, hp, rfl⟩ := Option.map_eq_some_iff.mp hn
    exact h.accept hp
  | HandleArenaTeamDeclineOpcode guid =>
    obtain ⟨p, hp, rfl⟩ := Option.map_eq_some_iff.mp hn
    exact h.setInvited
  | HandleArenaTeamLeaveOpcode guid arenaTeamId InArena =>
    obtain ⟨p, hp, rfl⟩ := Option.map_eq_some_iff.mp hn
    exact h.leave hp hk
  | HandleArenaTeamDisbandOpcode guid arenaTeamId IsFighting =>
    obtain ⟨p, hp, rfl⟩ := Option.map_eq_some_iff.mp hn
    exact h.disbandRequest hk
  | HandleArenaTeamRemoveOpcode guid arenaTeamId name IsFighting =>
    obtain ⟨p, hp, rfl⟩ := Option.map_eq_some_iff.mp hn
    exact h.remove hk
  | HandleArenaTeamLeaderOpcode guid arenaTeamId name =>
    obtain ⟨p, hp, rfl⟩ := Option.map_eq_some_iff.mp hn
    exact h.leader
  | login guid =>
    obtain ⟨⟨_, hcharacter⟩, hn⟩ := Option.ite_none_right_eq_some.mp hn
    obtain rfl := Option.some.inj hn
    refine h.setPlayers fun guid' p hp ↦ ?_
    by_cases hguid : guid' = guid
    · subst hguid
      rw [Function.update_self] at hp
      obtain rfl := Option.some.inj hp
      exact ⟨hcharacter, fun type ↦ loadArenaTeamInfo_eq h⟩
    · rw [Function.update_of_ne hguid] at hp
      exact ⟨h.core.known _ _ hp, h.core.info _ _ hp⟩
  | logout guid =>
    obtain rfl := Option.some.inj hn
    refine h.setPlayers fun guid' p hp ↦ ?_
    by_cases hguid : guid' = guid
    · subst hguid
      simp at hp
    · rw [Function.update_of_ne hguid] at hp
      exact ⟨h.core.known _ _ hp, h.core.info _ _ hp⟩
  | setInWorld guid IsInWorld =>
    obtain rfl := Option.some.inj hn
    exact h.modifyPlayer fun _ ↦ rfl

end

/-! ## Runs -/

theorem sound_start : Sound r (memberships r).start := by
  have hget (id : ℕ) : (memberships r).start.ArenaTeamStore[id]? = none := ExtTreeMap.getElem?_empty
  have hnone {id : ℕ} {t : ArenaTeam} (ht : (memberships r).start.ArenaTeamStore[id]? = some t) : False :=
    Option.some_ne_none t (ht.symm.trans (hget id))
  refine ⟨⟨fun guid type id ↦ iff_of_false ?_ ?_, fun _ _ hp ↦ absurd hp.symm (Option.some_ne_none _),
    fun _ _ ht ↦ (hnone ht).elim, fun _ _ ht ↦ (hnone ht).elim, fun _ _ ht ↦ (hnone ht).elim,
    one_ne_zero, fun _ _ hp ↦ absurd hp.symm (Option.some_ne_none _), fun _ _ _ ⟨_, ht, _⟩ ↦ (hnone ht).elim⟩,
    fun id ↦ ⟨fun _ ht ↦ (hnone ht).elim, fun guid ↦ iff_of_false List.not_mem_nil ?_⟩⟩
  · exact fun ⟨_, ht, _⟩ ↦ hnone ht
  · exact fun ⟨hid, hne⟩ ↦ hne hid.symm
  · exact fun ⟨_, ht, _⟩ ↦ hnone ht

/-- **The membership agrees** in its three places along the runs that keep to the condition. -/
theorem agrees_of_reaches (h : (memberships r).Reaches (Keeps r) s) : s.Agrees := by
  have hsound : Sound r s :=
    h.invariant sound_start fun s event s' hs hk hn ↦ hs.next hk hn
  exact hsound.core.agrees hsound.complete

/-- A realm in which everyone has a name of his own. -/
def named : Realm where
  CONFIG_ARENA_START_RATING := 0
  CONFIG_ARENA_START_PERSONAL_RATING := 0
  memberColumns := ⟨0, 0, 0, 0, 0, 0⟩
  teamColumns := ⟨0, 0, 0, 0, 0, 0⟩
  characters := fun _ ↦ true
  GetName := fun guid ↦ if guid = 1 then "Anna" else if guid = 2 then "Bela" else "Cora"

/-- Two players in a team, and a third one in a team of another. -/
def twoTeams : List Event := [.login 1, .login 2, .login 3, .login 4, .HandleTurnInPetitionOpcode 1 .ARENA_TEAM_2v2 [4],
   .HandleTurnInPetitionOpcode 3 .ARENA_TEAM_2v2 [4], .HandleArenaTeamInviteOpcode 1 1 2,
   .HandleArenaTeamAcceptOpcode 2 true]

/-- Everything agrees after the second one is removed from the team of the first. -/
theorem agrees_of_reaches_twoTeams : ∃ s : Membership, s.Agrees ∧
    s.ArenaTeamStore.toList.map (fun p ↦ p.2.Members.map ArenaTeamMember.Guid) = [[1, 4], [3]] := by
  obtain ⟨s, hs, hw⟩ := (memberships named).exists_reaches (Keeps named) (twoTeams ++
    [.HandleArenaTeamRemoveOpcode 1 1 "Bela" false])
    (fun s ↦ s.ArenaTeamStore.toList.map (fun p ↦ p.2.Members.map ArenaTeamMember.Guid) = [[1, 4], [3]]) (by
      decide +kernel)
  exact ⟨s, agrees_of_reaches hs, hw⟩

/-- A player who leaves a team that he is not in stays in his own, but has no team in his field. -/
theorem not_agrees : ¬ ∀ r s, (memberships r).Reachable s → s.Agrees := by
  intro hall
  obtain ⟨s, hs, hcache, hinfo⟩ := (memberships named).exists_reachable (twoTeams ++ [.HandleArenaTeamLeaveOpcode
    2 2 false])
    (fun s ↦ s.ArenaTeamId 2 .ARENA_TEAM_2v2 = 1 ∧
      (s.players 2).map (fun p ↦ p.ARENA_TEAM_ID .ARENA_TEAM_2v2) = some 0) (by decide +kernel)
  obtain ⟨p, hp, hzero⟩ := Option.map_eq_some_iff.mp hinfo
  have hagree := (hall named s hs).info 2 p hp .ARENA_TEAM_2v2
  simp [hzero, hcache] at hagree

end Membership

end Gundrak.Arenas
