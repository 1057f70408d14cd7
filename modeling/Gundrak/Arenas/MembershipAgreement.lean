import Gundrak.Arenas.Membership

/-!
# One membership, in three places

The members of the teams, the character cache and the info fields of the connected players should agree; this
is `Agrees`.  `Core` is the invariant behind it: it also holds between the steps of a handler, when a team may
be without its captain, or the rows of a team are not yet those of its members.

`Keeps` is when a request leaves it so.  A player who leaves a team that he is not in gets the field of that
slot set to 0 nevertheless; and a player who is loading a map is not found, so that his fields stay as they
are when he is added or removed.  **`Core.addMember`** and **`Core.delMember`** are the two steps.
-/

open Std (ExtTreeMap)

namespace Gundrak.Arenas

namespace Membership

variable (r : Realm) (s : Membership)

/-! ## What should hold -/

/-- The team with an id has a slot and a member. -/
def Holds (guid : ObjectGuid) (type : ArenaTeamTypes) (id : ℕ) : Prop :=
  ∃ t : ArenaTeam, s.ArenaTeamStore[id]? = some t ∧ t.GetType = type ∧ t.IsMember guid = true

/-- The three places agree, a player is in one team of a type, and every team has room and its captain. -/
structure Agrees : Prop where
  cache : ∀ guid type id, s.Holds guid type id ↔ s.ArenaTeamId guid type = id ∧ id ≠ 0
  info : ∀ guid p, s.players guid = some p → ∀ type, p.ARENA_TEAM_ID type = s.ArenaTeamId guid type
  unique : ∀ guid type id id', s.Holds guid type id → s.Holds guid type id' → id = id'
  room : ∀ (id : ℕ) (t : ArenaTeam), s.ArenaTeamStore[id]? = some t → t.Members.length ≤ 2 * t.GetType.toNat
  captain : ∀ (id : ℕ) (t : ArenaTeam), s.ArenaTeamStore[id]? = some t → t.IsMember t.CaptainGuid = true

/-- A player is not connected, or he is in the world. -/
def Settled (guid : ObjectGuid) : Prop := ∀ p ∈ s.players guid, p.IsInWorld = true

/-- Those who are added from a petition are settled. -/
def SignersSettled (id : ℕ) : Membership → List ObjectGuid → Prop
  | _, [] => True
  | s, guid :: signatures =>
    (∀ t ∈ s.ArenaTeamStore[id]?, s.CanAdd r t guid → s.Settled guid) ∧
      SignersSettled id (s.AddMember r id guid) signatures

/-- When an event leaves everything in agreement. -/
def Keeps : Event → Prop
  | .HandleTurnInPetitionOpcode guid type signatures =>
    ∀ p ∈ s.FindPlayer guid, p.ARENA_TEAM_ID type = 0 → type.toNat - 1 ≤ signatures.length →
      SignersSettled r s.NextArenaTeamId (s.Create r type guid) signatures
  | .HandleArenaTeamLeaveOpcode guid arenaTeamId InArena => ∀ t ∈ s.ArenaTeamStore[arenaTeamId]?,
      InArena = false → t.IsMember guid = true ∨ ∀ p ∈ s.players guid, p.ARENA_TEAM_ID t.GetType = 0
  | .HandleArenaTeamDisbandOpcode guid arenaTeamId IsFighting => ∀ t ∈ s.ArenaTeamStore[arenaTeamId]?,
      t.CaptainGuid = guid → IsFighting = false → ∀ m ∈ t.Members, s.Settled m.Guid
  | .HandleArenaTeamRemoveOpcode guid arenaTeamId name IsFighting => ∀ t ∈ s.ArenaTeamStore[arenaTeamId]?,
      t.CaptainGuid = guid → IsFighting = false → ∀ m ∈ GetMember r t name, t.CaptainGuid ≠ m.Guid → s.Settled m.Guid
  | .HandleArenaTeamInviteOpcode .. | .HandleArenaTeamAcceptOpcode .. | .HandleArenaTeamDeclineOpcode _ |
    .HandleArenaTeamLeaderOpcode .. | .login _ | .logout _ | .setInWorld .. => True

instance (guid : ObjectGuid) : Decidable (s.Settled guid) := inferInstanceAs (Decidable (∀ p ∈ s.players guid, _))

instance decidableSignersSettled (id : ℕ) :
    (s : Membership) → (signatures : List ObjectGuid) → Decidable (SignersSettled r id s signatures)
  | _, [] => inferInstanceAs (Decidable True)
  | s, guid :: signatures =>
    have := decidableSignersSettled id (s.AddMember r id guid) signatures
    inferInstanceAs (Decidable (_ ∧ _))

instance : (event : Event) → Decidable (s.Keeps r event)
  | .HandleTurnInPetitionOpcode guid type signatures => inferInstanceAs (Decidable (∀ p ∈ s.FindPlayer guid, _))
  | .HandleArenaTeamLeaveOpcode guid arenaTeamId InArena =>
    inferInstanceAs (Decidable (∀ t ∈ s.ArenaTeamStore[arenaTeamId]?, _))
  | .HandleArenaTeamDisbandOpcode guid arenaTeamId IsFighting =>
    inferInstanceAs (Decidable (∀ t ∈ s.ArenaTeamStore[arenaTeamId]?, _))
  | .HandleArenaTeamRemoveOpcode guid arenaTeamId name IsFighting =>
    inferInstanceAs (Decidable (∀ t ∈ s.ArenaTeamStore[arenaTeamId]?, _))
  | .HandleArenaTeamInviteOpcode .. | .HandleArenaTeamAcceptOpcode .. | .HandleArenaTeamDeclineOpcode _
  | .HandleArenaTeamLeaderOpcode .. | .login _ | .logout _ | .setInWorld .. =>
    inferInstanceAs (Decidable True)

/-- What holds between the steps of a handler as well. -/
structure Core : Prop where
  cache : ∀ guid type id, s.Holds guid type id ↔ s.ArenaTeamId guid type = id ∧ id ≠ 0
  info : ∀ guid p, s.players guid = some p → ∀ type, p.ARENA_TEAM_ID type = s.ArenaTeamId guid type
  room : ∀ (id : ℕ) (t : ArenaTeam), s.ArenaTeamStore[id]? = some t → t.Members.length ≤ t.GetType.toNat * 2
  nodup : ∀ (id : ℕ) (t : ArenaTeam), s.ArenaTeamStore[id]? = some t → (t.Members.map ArenaTeamMember.Guid).Nodup
  ids : ∀ (id : ℕ) (t : ArenaTeam), s.ArenaTeamStore[id]? = some t → id ≠ 0 ∧ id < s.NextArenaTeamId
  next : s.NextArenaTeamId ≠ 0
  known : ∀ guid p, s.players guid = some p → r.characters guid = true
  named : ∀ guid type id, s.Holds guid type id → r.characters guid = true

/-- The captain of a team is in it, and its rows are those of its members. -/
structure Complete (id : ℕ) : Prop where
  captain : ∀ t : ArenaTeam, s.ArenaTeamStore[id]? = some t → t.IsMember t.CaptainGuid = true
  rows : ∀ guid, (id, guid) ∈ s.arena_team_member ↔
    ∃ t : ArenaTeam, s.ArenaTeamStore[id]? = some t ∧ t.IsMember guid = true

variable {r s} {id id' : ℕ} {t : ArenaTeam} {guid guid' : ObjectGuid} {type type' : ArenaTeamTypes}

theorem Core.agrees (h : Core r s) (hc : ∀ id, s.Complete id) : s.Agrees where
  cache := h.cache
  info := h.info
  unique guid type id id' hid hid' := ((h.cache guid type id).mp hid).1.symm.trans ((h.cache guid type id').mp hid').1
  room id t ht := Nat.mul_comm 2 _ ▸ h.room id t ht
  captain id := (hc id).captain

/-! ## Reading a state after a step -/

section Fields

theorem holds_iff (ht : s.ArenaTeamStore[id]? = some t) :
    s.Holds guid type id ↔ t.GetType = type ∧ t.IsMember guid = true := by
  constructor
  · rintro ⟨t', ht', h⟩
    obtain rfl := Option.some.inj (ht.symm.trans ht')
    exact h
  · exact fun h ↦ ⟨t, ht, h⟩

theorem isMember_def : t.IsMember guid = true ↔ guid ∈ t.Members.map ArenaTeamMember.Guid := by
  simp [ArenaTeam.IsMember]

@[simp] theorem store_setArenaTeamId : (s.SetArenaTeamId guid type id).ArenaTeamStore = s.ArenaTeamStore := rfl

@[simp] theorem next_setArenaTeamId : (s.SetArenaTeamId guid type id).NextArenaTeamId = s.NextArenaTeamId := rfl

@[simp] theorem cache_setArenaTeamId : (s.SetArenaTeamId guid type id).ArenaTeamId = s.ArenaTeamId := rfl

@[simp] theorem rows_setArenaTeamId : (s.SetArenaTeamId guid type id).arena_team_member = s.arena_team_member := rfl

@[simp] theorem store_update : (s.UpdateCharacterArenaTeamId r guid type id).ArenaTeamStore = s.ArenaTeamStore := by
  rw [UpdateCharacterArenaTeamId]
  split <;> rfl

@[simp] theorem next_update : (s.UpdateCharacterArenaTeamId r guid type id).NextArenaTeamId = s.NextArenaTeamId := by
  rw [UpdateCharacterArenaTeamId]
  split <;> rfl

@[simp] theorem players_update : (s.UpdateCharacterArenaTeamId r guid type id).players = s.players := by
  rw [UpdateCharacterArenaTeamId]
  split <;> rfl

@[simp] theorem rows_update :
    (s.UpdateCharacterArenaTeamId r guid type id).arena_team_member = s.arena_team_member := by
  rw [UpdateCharacterArenaTeamId]
  split <;> rfl

theorem cache_update (h : r.characters guid = true) (guid' : ObjectGuid) (type' : ArenaTeamTypes) :
    (s.UpdateCharacterArenaTeamId r guid type id).ArenaTeamId guid' type' =
      if guid' = guid ∧ type' = type then id else s.ArenaTeamId guid' type' := by
  rw [UpdateCharacterArenaTeamId, if_pos h]
  change Function.update s.ArenaTeamId guid _ guid' type' = _
  by_cases hguid : guid' = guid
  · subst hguid
    rw [Function.update_self, Function.update_apply]
    simp
  · rw [Function.update_of_ne hguid, if_neg fun h ↦ hguid h.1]

theorem info_setArenaTeamId (hs : s.Settled guid) {p : Player}
    (hp : (s.SetArenaTeamId guid type id).players guid' = some p) :
    ∃ p₀, s.players guid' = some p₀ ∧ p.IsInWorld = p₀.IsInWorld ∧ ∀ type', p.ARENA_TEAM_ID type' =
      if guid' = guid ∧ type' = type then id else p₀.ARENA_TEAM_ID type' := by
  change Function.update s.players guid _ guid' = some p at hp
  by_cases hguid : guid' = guid
  · subst hguid
    rw [Function.update_self] at hp
    obtain ⟨p₀, hp₀, rfl⟩ := Option.map_eq_some_iff.mp hp
    refine ⟨p₀, hp₀, ?_, fun type' ↦ ?_⟩
    · rw [if_pos (hs p₀ hp₀)]
    · rw [if_pos (hs p₀ hp₀)]
      change Function.update p₀.ARENA_TEAM_ID type id type' = _
      rw [Function.update_apply]
      simp
  · rw [Function.update_of_ne hguid] at hp
    exact ⟨p, hp, rfl, fun type' ↦ (if_neg fun h ↦ hguid h.1).symm⟩

end Fields

/-! ## Removing a member -/

section DelMember

variable {cleanDb : Bool}

section

variable (ht : s.ArenaTeamStore[id]? = some t)
include ht

theorem get_delMember : (s.DelMember r id guid cleanDb).ArenaTeamStore[id']? =
      if id = id' then some { t with Members := t.Members.eraseP (·.Guid = guid) }
      else s.ArenaTeamStore[id']? := by
  have hstore : (s.DelMember r id guid cleanDb).ArenaTeamStore =
      if t.IsMember guid = true then
        s.ArenaTeamStore.modify id fun t ↦ { t with Members := t.Members.eraseP (·.Guid = guid) }
      else s.ArenaTeamStore := by
    cases cleanDb <;> by_cases hm : t.IsMember guid = true <;> simp [DelMember, ht, hm, modifyTeam]
  rw [hstore]
  split
  · rw [TreeMap.get_modify, ht]
    rfl
  · rename_i hmember
    have heq : t.Members.eraseP (·.Guid = guid) = t.Members :=
      List.eraseP_of_forall_not fun m hm hguid ↦ hmember (List.any_eq_true.mpr ⟨m, hm, hguid⟩)
    rw [heq]
    split
    · rename_i hid
      exact hid ▸ ht
    · rfl

theorem get_delMember_self : (s.DelMember r id guid cleanDb).ArenaTeamStore[id]? =
      some { t with Members := t.Members.eraseP (·.Guid = guid) } :=
  (get_delMember ht).trans (if_pos rfl)

theorem cache_delMember
    (hnamed : t.IsMember guid = true → r.characters guid = true) (guid' : ObjectGuid) (type : ArenaTeamTypes) :
    (s.DelMember r id guid cleanDb).ArenaTeamId guid' type =
      if t.IsMember guid = true ∧ guid' = guid ∧ type = t.GetType then 0 else s.ArenaTeamId guid' type := by
  have hcache : (s.DelMember r id guid cleanDb).ArenaTeamId guid' type =
      if t.IsMember guid = true then
        (s.UpdateCharacterArenaTeamId r guid t.GetType 0).ArenaTeamId guid' type
      else s.ArenaTeamId guid' type := by
    cases cleanDb <;> by_cases hm : t.IsMember guid = true <;> by_cases hr : r.characters guid = true <;>
      simp [DelMember, ht, hm, hr, modifyTeam, UpdateCharacterArenaTeamId]
  rw [hcache]
  by_cases hmember : t.IsMember guid = true
  · simp [hmember, cache_update (hnamed hmember)]
  · simp [hmember]

theorem players_delMember : (s.DelMember r id guid cleanDb).players = (s.SetArenaTeamId guid t.GetType 0).players := by
  cases cleanDb <;> by_cases hm : t.IsMember guid = true <;>
    simp [DelMember, ht, hm, modifyTeam, SetArenaTeamId, modifyPlayer]

end

theorem next_delMember : (s.DelMember r id guid cleanDb).NextArenaTeamId = s.NextArenaTeamId := by
  rw [DelMember]
  split
  · rfl
  · rename_i t _
    cases cleanDb <;> by_cases hm : t.IsMember guid = true <;> simp [hm, modifyTeam]

theorem rows_delMember (ht : s.ArenaTeamStore[id]? = some t) : (s.DelMember r id guid cleanDb).arena_team_member =
      if cleanDb then s.arena_team_member.filter (· ≠ (id, guid)) else s.arena_team_member := by
  cases cleanDb <;> by_cases hm : t.IsMember guid = true <;> simp [DelMember, ht, hm, modifyTeam]

theorem mem_eraseP (hnodup : (t.Members.map ArenaTeamMember.Guid).Nodup) :
    ({ t with Members := t.Members.eraseP (·.Guid = guid) } : ArenaTeam).IsMember guid' = true ↔
      t.IsMember guid' = true ∧ guid' ≠ guid := by
  have herase : (t.Members.eraseP (·.Guid = guid)).map ArenaTeamMember.Guid =
      (t.Members.map ArenaTeamMember.Guid).erase guid := by
    rw [List.erase_eq_eraseP, List.eraseP_map]
    congr 2
    funext m
    exact decide_eq_decide.mpr eq_comm
  rw [isMember_def, isMember_def]
  change guid' ∈ (t.Members.eraseP (·.Guid = guid)).map ArenaTeamMember.Guid ↔ _
  rw [herase, hnodup.mem_erase_iff, and_comm]

theorem holds_delMember (h : Core r s) (ht : s.ArenaTeamStore[id]? = some t) :
    (s.DelMember r id guid cleanDb).Holds guid' type id' ↔ s.Holds guid' type id' ∧ ¬ (id' = id ∧ guid' = guid) := by
  by_cases hid : id = id'
  · subst hid
    rw [holds_iff (get_delMember_self ht), holds_iff ht, mem_eraseP (h.nodup id t ht)]
    simp [and_assoc]
  · simp only [Holds, get_delMember ht, if_neg hid]
    have hne : ¬ (id' = id ∧ guid' = guid) := fun heq ↦ hid heq.1.symm
    simp [hne]

theorem settled_delMember (ht : s.ArenaTeamStore[id]? = some t) (hs : s.Settled guid) (hs' : s.Settled guid') :
    (s.DelMember r id guid cleanDb).Settled guid' := by
  intro p hp
  rw [players_delMember ht] at hp
  obtain ⟨p₀, hp₀, hworld, _⟩ := info_setArenaTeamId hs hp
  exact hworld.trans (hs' p₀ hp₀)

theorem Core.delMember (h : Core r s) (ht : s.ArenaTeamStore[id]? = some t) (hs : s.Settled guid)
    (hguid : t.IsMember guid = true ∨ ∀ p ∈ s.players guid, p.ARENA_TEAM_ID t.GetType = 0) :
    Core r (s.DelMember r id guid cleanDb) := by
  have hnamed : t.IsMember guid = true → r.characters guid = true := fun hm ↦ h.named guid t.GetType id ⟨t, ht, rfl, hm⟩
  have hmember : t.IsMember guid = true → s.ArenaTeamId guid t.GetType = id :=
    fun hm ↦ ((h.cache guid t.GetType id).mp ⟨t, ht, rfl, hm⟩).1
  have hget (k : ℕ) (t' : ArenaTeam) (ht' : (s.DelMember r id guid cleanDb).ArenaTeamStore[k]? = some t') :
      ∃ t₀, s.ArenaTeamStore[k]? = some t₀ ∧ t'.GetType = t₀.GetType ∧ t'.Members.Sublist t₀.Members := by
    rw [get_delMember ht] at ht'
    split at ht'
    · rename_i hid
      obtain rfl := Option.some.inj ht'
      exact ⟨t, hid ▸ ht, rfl, List.eraseP_sublist⟩
    · exact ⟨t', ht', rfl, .refl _⟩
  refine ⟨fun guid' type id' ↦ ?_, fun guid' p hp type ↦ ?_, fun k t' ht' ↦ ?_, fun k t' ht' ↦ ?_,
    fun k t' ht' ↦ ?_, ?_, fun guid' p hp ↦ ?_, fun guid' type id' hh ↦ ?_⟩
  · rw [holds_delMember h ht, cache_delMember ht hnamed, h.cache]
    by_cases hc : t.IsMember guid = true ∧ guid' = guid ∧ type = t.GetType
    · obtain ⟨hm, rfl, rfl⟩ := hc
      simp only [hm, and_self, if_true, hmember hm]
      constructor
      · rintro ⟨⟨rfl, _⟩, hne⟩
        exact absurd ⟨rfl, trivial⟩ hne
      · rintro ⟨rfl, hne⟩
        exact absurd rfl hne
    · rw [if_neg hc]
      refine and_iff_left_of_imp fun ⟨hid, hne⟩ ⟨hid', hg⟩ ↦ hc ?_
      obtain ⟨t', ht', htype, hm⟩ := (h.cache guid' type id').mpr ⟨hid, hne⟩
      rw [hid', ht] at ht'
      obtain rfl := Option.some.inj ht'
      exact ⟨hg ▸ hm, hg, htype.symm⟩
  · rw [players_delMember ht] at hp
    obtain ⟨p₀, hp₀, _, hinfo⟩ := info_setArenaTeamId hs hp
    rw [hinfo, cache_delMember ht hnamed, h.info guid' p₀ hp₀]
    by_cases hc : guid' = guid ∧ type = t.GetType
    · obtain ⟨rfl, rfl⟩ := hc
      simp only [and_self, and_true, if_true]
      split
      · rfl
      · rename_i hm
        rw [← h.info guid' p₀ hp₀]
        exact (hguid.resolve_left hm p₀ hp₀).symm
    · simp [hc]
  · obtain ⟨t₀, ht₀, htype, hsub⟩ := hget k t' ht'
    rw [htype]
    exact hsub.length_le.trans (h.room k t₀ ht₀)
  · obtain ⟨t₀, ht₀, _, hsub⟩ := hget k t' ht'
    exact (h.nodup k t₀ ht₀).sublist (hsub.map _)
  · obtain ⟨t₀, ht₀, _, _⟩ := hget k t' ht'
    rw [next_delMember]
    exact h.ids k t₀ ht₀
  · rw [next_delMember]
    exact h.next
  · rw [players_delMember ht] at hp
    obtain ⟨p₀, hp₀, _⟩ := info_setArenaTeamId hs hp
    exact h.known guid' p₀ hp₀
  · exact h.named guid' type id' ((holds_delMember h ht).mp hh).1

theorem Complete.delMember_of_ne (hc : s.Complete id') (ht : s.ArenaTeamStore[id]? = some t) (hid : id ≠ id') :
    (s.DelMember r id guid cleanDb).Complete id' := by
  refine ⟨fun t' ht' ↦ ?_, fun guid' ↦ ?_⟩
  · rw [get_delMember ht, if_neg hid] at ht'
    exact hc.captain t' ht'
  · rw [rows_delMember ht, get_delMember ht, if_neg hid, ← hc.rows]
    cases cleanDb
    · rfl
    · simp only [if_true, List.mem_filter, decide_eq_true_eq, ne_eq, Prod.mk.injEq, not_and]
      exact and_iff_left fun heq ↦ absurd heq.symm hid

theorem Complete.delMember (h : Core r s) (hc : s.Complete id) (ht : s.ArenaTeamStore[id]? = some t)
    (hcaptain : t.CaptainGuid ≠ guid) : (s.DelMember r id guid true).Complete id := by
  have hget : (s.DelMember r id guid true).ArenaTeamStore[id]? = _ := get_delMember_self ht
  refine ⟨fun t' ht' ↦ ?_, fun guid' ↦ ?_⟩
  · obtain rfl := Option.some.inj (hget.symm.trans ht')
    exact (mem_eraseP (h.nodup id t ht)).mpr ⟨hc.captain t ht, hcaptain⟩
  · simp [rows_delMember ht, hget, hc.rows, ht, exists_eq_left', mem_eraseP (h.nodup id t ht)]

end DelMember

/-! ## Adding a member -/

section AddMember

theorem addMember_of_not (ht : s.ArenaTeamStore[id]? = some t) (hcan : ¬ s.CanAdd r t guid) :
    s.AddMember r id guid = s := by
  simp [AddMember, ht, hcan]

variable (hcan : s.CanAdd r t guid)
include hcan

section

variable (ht : s.ArenaTeamStore[id]? = some t)
include ht

theorem get_addMember : (s.AddMember r id guid).ArenaTeamStore[id']? =
      if id = id' then some { t with Members := t.Members ++ [t.newMember r.toSetup guid] }
      else s.ArenaTeamStore[id']? := by
  have hstore : (s.AddMember r id guid).ArenaTeamStore =
      s.ArenaTeamStore.modify id fun t ↦ { t with Members := t.Members ++ [t.newMember r.toSetup guid] } := by
    simp [AddMember, ht, hcan, modifyTeam, SetArenaTeamIdInvited, modifyPlayer]
  rw [hstore, TreeMap.get_modify, ht]
  rfl

theorem get_addMember_self : (s.AddMember r id guid).ArenaTeamStore[id]? =
      some { t with Members := t.Members ++ [t.newMember r.toSetup guid] } :=
  (get_addMember hcan ht).trans (if_pos rfl)

theorem cache_addMember (hnamed : r.characters guid = true)
    (guid' : ObjectGuid) (type : ArenaTeamTypes) : (s.AddMember r id guid).ArenaTeamId guid' type =
      if guid' = guid ∧ type = t.GetType then id else s.ArenaTeamId guid' type := by
  have hcache : (s.AddMember r id guid).ArenaTeamId =
      (s.UpdateCharacterArenaTeamId r guid t.GetType id).ArenaTeamId := by
    simp [AddMember, ht, hcan, hnamed, modifyTeam, SetArenaTeamIdInvited, modifyPlayer, UpdateCharacterArenaTeamId]
  rw [hcache, cache_update hnamed]

theorem next_addMember : (s.AddMember r id guid).NextArenaTeamId = s.NextArenaTeamId := by
  simp [AddMember, ht, hcan, modifyTeam, SetArenaTeamIdInvited, modifyPlayer]

theorem rows_addMember : (s.AddMember r id guid).arena_team_member = s.arena_team_member ++ [(id, guid)] := by
  simp [AddMember, ht, hcan, modifyTeam, SetArenaTeamIdInvited, modifyPlayer]

theorem players_addMember : (s.AddMember r id guid).players =
      ((s.SetArenaTeamId guid t.GetType id).SetArenaTeamIdInvited guid 0).players := by
  simp [AddMember, ht, hcan, modifyTeam, SetArenaTeamId, SetArenaTeamIdInvited, modifyPlayer]

end

omit hcan in
theorem info_setArenaTeamIdInvited {p : Player} (hp : (s.SetArenaTeamIdInvited guid id).players guid' = some p) :
    ∃ p₀, s.players guid' = some p₀ ∧ p.IsInWorld = p₀.IsInWorld ∧ p.ARENA_TEAM_ID = p₀.ARENA_TEAM_ID := by
  change Function.update s.players guid _ guid' = some p at hp
  by_cases hguid : guid' = guid
  · subst hguid
    rw [Function.update_self] at hp
    obtain ⟨p₀, hp₀, rfl⟩ := Option.map_eq_some_iff.mp hp
    refine ⟨p₀, hp₀, ?_, ?_⟩ <;> split <;> rfl
  · rw [Function.update_of_ne hguid] at hp
    exact ⟨p, hp, rfl, rfl⟩

theorem info_addMember (ht : s.ArenaTeamStore[id]? = some t) (hs : s.Settled guid) {p : Player}
    (hp : (s.AddMember r id guid).players guid' = some p) :
    ∃ p₀, s.players guid' = some p₀ ∧ p.IsInWorld = p₀.IsInWorld ∧ ∀ type, p.ARENA_TEAM_ID type =
      if guid' = guid ∧ type = t.GetType then id else p₀.ARENA_TEAM_ID type := by
  rw [players_addMember hcan ht] at hp
  obtain ⟨p₁, hp₁, hworld₁, hinfo₁⟩ := info_setArenaTeamIdInvited hp
  obtain ⟨p₀, hp₀, hworld, hinfo⟩ := info_setArenaTeamId hs hp₁
  exact ⟨p₀, hp₀, hworld₁.trans hworld, fun type ↦ hinfo₁ ▸ hinfo type⟩

omit hcan in
theorem isMember_append {m : ArenaTeamMember} (hm : m.Guid = guid) :
    ({ t with Members := t.Members ++ [m] } : ArenaTeam).IsMember guid' = true ↔
      t.IsMember guid' = true ∨ guid' = guid := by
  simp [isMember_def, hm]

theorem holds_addMember (ht : s.ArenaTeamStore[id]? = some t) : (s.AddMember r id guid).Holds guid' type id' ↔
      s.Holds guid' type id' ∨ id' = id ∧ guid' = guid ∧ type = t.GetType := by
  by_cases hid : id = id'
  · subst hid
    rw [holds_iff (get_addMember_self hcan ht), holds_iff ht, isMember_append rfl]
    simp only [true_and]
    tauto
  · simp only [Holds, get_addMember hcan ht, if_neg hid]
    exact (or_iff_left fun h ↦ hid h.1.symm).symm

theorem Core.addMember (h : Core r s) (ht : s.ArenaTeamStore[id]? = some t) (hs : s.Settled guid) :
    Core r (s.AddMember r id guid) := by
  have hroom : t.Members.length < t.GetType.toNat * 2 := hcan.1
  have hfree : s.ArenaTeamId guid t.GetType = 0 := hcan.2.2.2
  have hnamed : r.characters guid = true := by
    rcases hcan.2.1 with hfound | hnamed
    · obtain ⟨p, hp⟩ := Option.isSome_iff_exists.mp hfound
      exact h.known guid p (Option.filter_eq_some_iff.mp hp).1
    · exact hnamed
  have hnot (id' : ℕ) : ¬ s.Holds guid t.GetType id' := fun hh ↦ by
    obtain ⟨heq, hne⟩ := (h.cache guid t.GetType id').mp hh
    exact hne (heq.symm.trans hfree)
  refine ⟨fun guid' type id' ↦ ?_, fun guid' p hp type ↦ ?_, fun k t' ht' ↦ ?_, fun k t' ht' ↦ ?_,
    fun k t' ht' ↦ ?_, ?_, fun guid' p hp ↦ ?_, fun guid' type id' hh ↦ ?_⟩
  · rw [holds_addMember hcan ht, cache_addMember hcan ht hnamed]
    by_cases hc : guid' = guid ∧ type = t.GetType
    · obtain ⟨rfl, rfl⟩ := hc
      simp only [and_self, and_true, if_true, hnot, false_or]
      exact ⟨fun hid ↦ ⟨hid.symm, hid ▸ (h.ids id t ht).1⟩, fun hid ↦ hid.1.symm⟩
    · rw [if_neg hc, ← h.cache]
      exact or_iff_left fun hc' ↦ hc hc'.2
  · obtain ⟨p₀, hp₀, _, hinfo⟩ := info_addMember hcan ht hs hp
    rw [hinfo, cache_addMember hcan ht hnamed, h.info guid' p₀ hp₀]
  · rw [get_addMember hcan ht] at ht'
    split at ht'
    · obtain rfl := Option.some.inj ht'
      simpa using hroom
    · exact h.room k t' ht'
  · rw [get_addMember hcan ht] at ht'
    split at ht'
    · obtain rfl := Option.some.inj ht'
      rw [List.map_append]
      refine List.nodup_append.mpr ⟨h.nodup id t ht, List.nodup_singleton _, fun g hg g' hg' heq ↦ ?_⟩
      have hg₀ : g = guid := heq.trans (List.mem_singleton.mp hg')
      exact hnot id ⟨t, ht, rfl, isMember_def.mpr (hg₀ ▸ hg)⟩
    · exact h.nodup k t' ht'
  · rw [next_addMember hcan ht]
    rw [get_addMember hcan ht] at ht'
    split at ht'
    · rename_i hid
      exact hid ▸ h.ids id t ht
    · exact h.ids k t' ht'
  · rw [next_addMember hcan ht]
    exact h.next
  · obtain ⟨p₀, hp₀, _⟩ := info_addMember hcan ht hs hp
    exact h.known guid' p₀ hp₀
  · rcases (holds_addMember hcan ht).mp hh with hold | ⟨_, rfl, _⟩
    · exact h.named guid' type id' hold
    · exact hnamed

theorem Complete.addMember_of_ne (hc : s.Complete id') (ht : s.ArenaTeamStore[id]? = some t) (hid : id ≠ id') :
    (s.AddMember r id guid).Complete id' := by
  refine ⟨fun t' ht' ↦ ?_, fun guid' ↦ ?_⟩
  · rw [get_addMember hcan ht, if_neg hid] at ht'
    exact hc.captain t' ht'
  · rw [rows_addMember hcan ht, get_addMember hcan ht, if_neg hid, ← hc.rows, List.mem_append]
    refine or_iff_left fun hmem ↦ hid ?_
    exact (Prod.mk.inj (List.mem_singleton.mp hmem)).1.symm

/-- A team that had its rows and its captain has them after a member is added; the captain may be he. -/
theorem Complete.addMember (ht : s.ArenaTeamStore[id]? = some t)
    (hrows : ∀ guid', (id, guid') ∈ s.arena_team_member ↔ t.IsMember guid' = true)
    (hcaptain : t.IsMember t.CaptainGuid = true ∨ t.CaptainGuid = guid) :
    (s.AddMember r id guid).Complete id := by
  have hget := get_addMember_self hcan ht
  refine ⟨fun t' ht' ↦ ?_, fun guid' ↦ ?_⟩
  · obtain rfl := Option.some.inj (hget.symm.trans ht')
    exact (isMember_append rfl).mpr hcaptain
  · rw [rows_addMember hcan ht, hget, List.mem_append, hrows]
    simp only [List.mem_singleton, Prod.mk.injEq, true_and, Option.some.injEq, exists_eq_left']
    exact (isMember_append (m := t.newMember r.toSetup guid) rfl).symm

end AddMember

end Membership

end Gundrak.Arenas
